import WikiPeople.Operations
import WikiPeople.Jobs

/-! A key whose work failed for good: what keeps it unavailable, and what does not. -/

namespace WikiPeople

open Relational Transition

structure DeadForGood (store : Store) (key : Identity) (item : WorkItem) : Prop where
  unknown : getResult store key = none
  present : item ∈ store.work.rows
  own : item.toIdentity = key
  dead : item.state = .dead
  permanent : item.isPermanent = true

def leasedItem (store : Store) (workId : Nat) : Bool :=
  store.work.rows.any (fun row => row.id = workId && row.state = .leased)

def leasedKey (store : Store) (key : Identity) : Bool :=
  store.work.rows.any (fun row => row.toIdentity = key && row.state = .leased)

/-- Workers report under leases that are held, and only requests revive work. -/
def underLease (database : Database) : Transaction → Bool
  | .complete workId | .supersede workId _ => leasedItem database.store workId
  | .fail lease _ _ _ _ => leasedItem database.store lease.id
  | .saveResult values => leasedKey database.store values.toIdentity
  | .revive _ _ => false
  | _ => true

def sparesWork (key : Identity) (database : Database) : Transaction → Bool
  | .cleanup queueDays _ _ =>
      !(getWork database.store key).any (expiredWork (database.now - days queueDays))
  | _ => true

section Kept

variable {store : Store} {key : Identity} {item row : WorkItem} {now : Time}

theorem reviveDead_keeps (settings : Settings) (other : Identity)
    (present : row ∈ store.work.rows) (permanent : row.isPermanent = true) :
    row ∈ (reviveDead settings store other now).work.rows := by
  unfold reviveDead
  split
  · exact present
  · rename_i work found
    split
    · rename_i due
      apply updateWork_keeps present
      by_cases number : row.id = work.id
      · have same := SerialTable.row_of_number present (getWork_eq_some.mp found).1 number
        subst same
        simp [revivable, permanent] at due
      · simp [number]
    · exact present

theorem respond_keeps {runtime : Runtime} (version : Version) (request : Request)
    (present : row ∈ store.work.rows) (dead : row.state = .dead)
    (permanent : row.isPermanent = true) :
    row ∈ (respond runtime version store request now).2.work.rows := by
  have ended : row.live = false := by simp [WorkItem.live, dead]
  have kept : ∀ other, row ∈ (reviveDead runtime.settings store other now).work.rows :=
    fun other => reviveDead_keeps runtime.settings other present permanent
  cases version with
  | v1 =>
      simp only [respond, pageAttribution]
      split
      · exact present
      · split
        · exact present
        · split
          · exact present
          · exact enqueue_keeps (kept _) ended _ _ _
  | v2 =>
      simp only [respond, pageAttributionByFreshness]
      split
      · exact present
      · split
        · dsimp only
          split
          · exact present
          · exact enqueueIfStale_keeps (kept _) ended _ _ _
        · split
          · exact present
          · exact enqueueIfStale_keeps (kept _) ended _ _ _

theorem other_of_leased {workId : Nat} (present : row ∈ store.work.rows)
    (dead : row.state = .dead)
    (leased : leasedItem store workId = true) : row.id ≠ workId := by
  intro number
  obtain ⟨holder, member, held⟩ := List.any_eq_true.mp leased
  rw [Bool.and_eq_true, decide_eq_true_eq, decide_eq_true_eq] at held
  have same := SerialTable.row_of_number present member (number.trans held.1.symm)
  rw [same, held.2] at dead
  cases dead

end Kept

section Executed

variable {store after : Store} {key : Identity} {item : WorkItem} {now : Time}

theorem DeadForGood.kept (stopped : DeadForGood store key item)
    (results : after.results = store.results) (present : item ∈ after.work.rows) :
    DeadForGood after key item where
  unknown := by
    rw [getResult, results]
    exact stopped.unknown
  present := present
  own := stopped.own
  dead := stopped.dead
  permanent := stopped.permanent

theorem DeadForGood.claimed {workerId : String} {leaseSeconds : Int} {pick : Nat}
    {lease : WorkLease} (stopped : DeadForGood store key item)
    (taken : claim store workerId leaseSeconds pick now = some (lease, after)) :
    DeadForGood after key item := by
  obtain ⟨work, member, due, _, rfl⟩ := claim_taken taken
  have other : item.id ≠ work.id := by
    intro number
    have dead := stopped.dead
    rw [SerialTable.row_of_number stopped.present member number] at dead
    simp [claimable, dead] at due
  exact stopped.kept rfl (updateWork_keeps stopped.present (decide_eq_false other))

theorem DeadForGood.saved {values : ResultValues} (stopped : DeadForGood store key item)
    (leased : leasedKey store values.toIdentity = true) :
    DeadForGood (saveResult store values) key item := by
  have apart : values.toIdentity ≠ key := by
    intro same
    obtain ⟨holder, member, held⟩ := List.any_eq_true.mp leased
    rw [Bool.and_eq_true, decide_eq_true_eq, decide_eq_true_eq] at held
    have equal := SerialTable.row_of_key stopped.present member
      (stopped.own.trans (same.symm.trans held.1.symm))
    have dead := stopped.dead
    rw [equal, held.2] at dead
    cases dead
  refine ⟨?_, ?_, stopped.own, stopped.dead, stopped.permanent⟩
  · apply Table.find_eq_none.mpr
    intro result member
    rcases mem_saveResult.mp member with ⟨old, _⟩ | rfl
    · exact Table.find_eq_none.mp stopped.unknown result old
    · exact apart
  · rw [saveResult_work]
    exact stopped.present

theorem DeadForGood.cleaned {queueDays supersededResultDays : Int} {chosen : List Nat}
    (stopped : DeadForGood store key item)
    (unexpired : expiredWork (now - days queueDays) item = false)
    (removed : cleanup store queueDays supersededResultDays chosen now = some after) :
    DeadForGood after key item := by
  have cleaned := cleanup_cleaned removed
  refine ⟨?_, ?_, stopped.own, stopped.dead, stopped.permanent⟩
  · apply Table.find_eq_none.mpr
    intro result member
    exact Table.find_eq_none.mp stopped.unknown result (cleaned.results result member)
  · simp only [cleanup] at removed
    split at removed
    · cases removed
      exact SerialTable.mem_delete.mpr ⟨stopped.present, unexpired⟩
    · cases removed

end Executed

theorem deadForGood_executed {runtime : Runtime} {database : Database}
    {transaction : Transaction} {key : Identity} {item : WorkItem} {after : Store}
    (stopped : DeadForGood database.store key item)
    (leased : underLease database transaction = true)
    (spared : sparesWork key database transaction = true)
    (answered : execute runtime database.store database.now transaction = some after) :
    DeadForGood after key item := by
  have present := stopped.present
  have ended : item.live = false := by simp [WorkItem.live, stopped.dead]
  cases transaction with
  | tick elapsed =>
      cases answered
      exact stopped
  | request version request =>
      cases answered
      apply stopped.kept (respond_demanded runtime version request).results
      exact respond_keeps version request present stopped.dead stopped.permanent
  | enqueue other priority allowCachedResult =>
      cases answered
      apply stopped.kept
      · rw [enqueue_frame]
      · exact enqueue_keeps present ended other priority allowCachedResult
  | enqueueIfStale other priority freshnessSeconds =>
      cases answered
      apply stopped.kept
      · exact (Demanded.enqueueIfStale .unchanged other priority freshnessSeconds).results
      · exact enqueueIfStale_keeps present ended other priority freshnessSeconds
  | claim workerId leaseSeconds pick =>
      obtain ⟨⟨lease, store⟩, taken, rfl⟩ := Option.map_eq_some_iff.mp answered
      exact stopped.claimed taken
  | saveResult values =>
      cases answered
      exact stopped.saved leased
  | complete workId =>
      cases answered
      have other := other_of_leased present stopped.dead leased
      exact stopped.kept rfl (SerialTable.mem_delete.mpr ⟨present, decide_eq_false other⟩)
  | supersede workId reason =>
      cases answered
      have other := other_of_leased present stopped.dead leased
      exact stopped.kept rfl (updateWork_keeps present (decide_eq_false other))
  | fail lease code message maxAttempts final =>
      cases answered
      have other := other_of_leased present stopped.dead leased
      exact stopped.kept rfl (updateWork_keeps present (decide_eq_false other))
  | revive workId priority => cases leased
  | registerActiveWiki wiki =>
      cases answered
      rw [register_frame]
      exact stopped.kept rfl present
  | cleanup queueDays supersededResultDays chosen =>
      have found : getWork database.store key = some item :=
        getWork_eq_some.mpr ⟨present, stopped.own⟩
      have unexpired : expiredWork (database.now - days queueDays) item = false := by
        simpa [sparesWork, found] using spared
      exact stopped.cleaned unexpired answered
  | replaceOptout wiki entries =>
      cases answered
      exact stopped.kept rfl present
  | replaceStanding wiki records =>
      cases answered
      exact stopped.kept rfl present

theorem DeadForGood.unclaimed {store after : Store} {key : Identity} {item : WorkItem}
    {workerId : String} {leaseSeconds : Int} {pick : Nat} {now : Time} {lease : WorkLease}
    (stopped : DeadForGood store key item)
    (taken : claim store workerId leaseSeconds pick now = some (lease, after)) :
    lease.toIdentity ≠ key := by
  intro same
  obtain ⟨work, member, due, rfl, _⟩ := claim_taken taken
  have equal := SerialTable.row_of_key stopped.present member (stopped.own.trans same.symm)
  have dead := stopped.dead
  rw [equal] at dead
  simp [claimable, dead] at due

theorem DeadForGood.unavailable {runtime : Runtime} {store : Store} {now : Time}
    {request : Request} {key : Identity} {item : WorkItem} (stopped : DeadForGood store key item)
    (asked : request.key runtime.settings.algorithmVersion = key)
    (accepted : refusal runtime request = none) :
    (pageAttribution runtime store request now).1 = unavailable request "revision_id" item := by
  have found : getWork store key = some item :=
    getWork_eq_some.mpr ⟨stopped.present, stopped.own⟩
  have work : deadWork runtime.settings store key now = some item := by
    simp [deadWork, found, stopped.dead, revivable, stopped.permanent]
  simp only [pageAttribution, accepted, asked, stopped.unknown, work]

/-- No worker takes the key, and every accepted v1 request for it is answered 503
unavailable. -/
def Unavailable (runtime : Runtime) (database : Database) (key : Identity) : Prop :=
  (∀ workerId leaseSeconds pick lease after,
    claim database.store workerId leaseSeconds pick database.now = some (lease, after) →
      lease.toIdentity ≠ key) ∧
  ∀ request : Request, request.key runtime.settings.algorithmVersion = key →
    refusal runtime request = none →
      ∃ work, (pageAttribution runtime database.store request database.now).1 =
        unavailable request "revision_id" work

/-- In every run in which the retention job spares the failed work of the key, the key stays
unavailable. -/
theorem permanent_unavailable (runtime : Runtime) (start : Database) (key : Identity)
    (item : WorkItem) (stopped : DeadForGood start.store key item) (database : Database)
    (reached : (repository runtime start).ReachableChecked
      (fun database transaction =>
        underLease database transaction && sparesWork key database transaction) database) :
    Unavailable runtime database key := by
  have still : DeadForGood database.store key item := by
    refine Machine.invariant (fun database => DeadForGood database.store key item) ?_ ?_ reached
    · exact stopped
    · intro before transaction after stays allowed taken
      rw [Bool.and_eq_true] at allowed
      exact deadForGood_executed stays allowed.1 allowed.2 (transact_eq_some taken).1
  refine ⟨?_, ?_⟩
  · intro workerId leaseSeconds pick lease after taken
    exact still.unclaimed taken
  · intro request asked accepted
    exact ⟨item, still.unavailable asked accepted⟩

/-- The work of revision 10 fails for good at its first attempt. -/
def refusedStore : Store :=
  let queued := enqueue .empty (articleKey 10) 100 false 0
  ((claim queued "a" 300 0 0).map (fun (lease, leased) =>
    fail leased lease "invalid_page" "Page inexistante" 8 true 0)).getD .empty

def refusedItem : WorkItem where
  toIdentity := articleKey 10
  id := 0
  priority := 100
  state := .dead
  attempts := 1
  availableAt := seconds 30
  leaseUntil := none
  workerId := none
  errorCode := some "invalid_page"
  lastError := some "Page inexistante"
  isPermanent := true
  createdAt := 0
  updatedAt := 0

theorem refusedStore_dead : DeadForGood refusedStore (articleKey 10) refusedItem where
  unknown := by decide
  present := by decide
  own := rfl
  dead := rfl
  permanent := rfl

/-- A day later, after a run of the retention job. -/
theorem permanent_unavailable_next_day :
    ∃ database, (repository plainRuntime ⟨refusedStore, 0⟩).ReachableChecked
        (fun database transaction =>
          underLease database transaction && sparesWork (articleKey 10) database transaction)
        database ∧
      database.now = days 1 ∧ Unavailable plainRuntime database (articleKey 10) := by
  have ran : ∃ database, (repository plainRuntime ⟨refusedStore, 0⟩).ReachableChecked
      (fun database transaction =>
        underLease database transaction && sparesWork (articleKey 10) database transaction)
      database ∧ database.now = days 1 :=
    Machine.exists_of_runWhere
      [.tick 86400000000, .request .v1 (articleRequest 10), .cleanup 30 30 []] (by decide)
  obtain ⟨database, reached, later⟩ := ran
  exact ⟨database, reached, later, permanent_unavailable plainRuntime ⟨refusedStore, 0⟩
    (articleKey 10) refusedItem refusedStore_dead database reached⟩

/-- After 31 days the retention job deletes the failed work, a reader asks for the page
again, and a worker takes it. -/
theorem permanent_claimed_again :
    ¬ ∀ (runtime : Runtime) (start : Database) (key : Identity) (item : WorkItem),
        DeadForGood start.store key item → ∀ database,
          (repository runtime start).ReachableChecked underLease database →
            Unavailable runtime database key := by
  intro claimed
  have forgotten : ∃ database,
      (repository plainRuntime ⟨refusedStore, 0⟩).ReachableChecked underLease database ∧
        (claim database.store "b" 300 0 database.now).any
          (fun (lease, _) => lease.toIdentity = articleKey 10) = true :=
    Machine.exists_of_runWhere
      [.tick 2678400000000, .cleanup 30 30 [], .request .v1 (articleRequest 10)] (by decide)
  obtain ⟨database, reached, again⟩ := forgotten
  obtain ⟨⟨lease, after⟩, taken, same⟩ := (Option.any_eq_true _ _).mp again
  have unclaimed := claimed plainRuntime ⟨refusedStore, 0⟩ (articleKey 10) refusedItem
    refusedStore_dead database reached
  exact unclaimed.1 "b" 300 0 lease after taken (of_decide_eq_true same)

end WikiPeople
