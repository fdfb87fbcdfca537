import WikiPeople.Operations
import WikiPeople.Rows

/-! How many items of a page wait for a worker: at most one, as long as no item comes back
to the queue beside another. -/

namespace WikiPeople

open Relational Transition

/-- Each page has at most one pending item. -/
def OnePending (store : Store) : Prop :=
  ∀ first ∈ store.work.rows, ∀ second ∈ store.work.rows, first.state = .pending →
    second.state = .pending → first.toPageKey = second.toPageKey → first = second

/-- Another item of the page of `item` is pending. -/
def otherPending (store : Store) (item : WorkItem) : Bool :=
  store.work.rows.any (fun other =>
    other.id ≠ item.id && other.toPageKey = item.toPageKey && other.state = .pending)

/-- The transaction returns this item to the queue: a failure that may be tried again, or a
revival. -/
def putsBack (settings : Settings) (now : Time) : Transaction → WorkItem → Bool
  | .fail lease _ _ maxAttempts permanent, item =>
      item.id = lease.id && !(permanent || maxAttempts ≤ (lease.attempts : Int))
  | .revive workId _, item => item.id = workId && item.state = .dead
  | .request _ request, item =>
      item.toIdentity = request.key settings.algorithmVersion && item.state = .dead &&
        revivable settings item now
  | _, _ => false

/-- No item comes back to the queue while another one of its page is pending. -/
def putsBackAlone (settings : Settings) (database : Database) (transaction : Transaction) : Bool :=
  database.store.work.rows.all (fun item =>
    !putsBack settings database.now transaction item || !otherPending database.store item)

theorem putsBackAlone_iff {settings : Settings} {database : Database} {transaction : Transaction} :
    putsBackAlone settings database transaction = true ↔
      ∀ item ∈ database.store.work.rows,
        putsBack settings database.now transaction item = true →
          otherPending database.store item = false := by
  simp only [putsBackAlone, List.all_eq_true, Bool.or_eq_true, Bool.not_eq_true',
    Decidable.or_iff_not_imp_left, Bool.not_eq_false]

theorem otherPending_eq_false {store : Store} {item : WorkItem} :
    otherPending store item = false ↔ ∀ other ∈ store.work.rows, other.state = .pending →
      other.toPageKey = item.toPageKey → other.id = item.id := by
  simp only [otherPending, List.any_eq_false, Bool.and_eq_true, decide_eq_true_eq, not_and,
    and_imp]
  constructor
  · intro alone other present pending page
    by_contra different
    exact alone other present different page pending
  · intro alone other present different page pending
    exact different (alone other present pending page)

section Rows

variable {before after store : Store} {now : Time}

/-- Every pending row was pending before, except at most the row of one number, and that
one came back to a page with nothing else pending. -/
theorem OnePending.restored (one : OnePending before) (workId : Nat)
    (origin : ∀ row ∈ after.work.rows, row.state = .pending →
      ∃ old ∈ before.work.rows, old.toPageKey = row.toPageKey ∧ old.id = row.id ∧
        (old.state = .pending ∨ (old.id = workId ∧ otherPending before old = false))) :
    OnePending after := by
  intro first left second right firstPending secondPending page
  obtain ⟨old, present, oldPage, oldNumber, oldCase⟩ := origin first left firstPending
  obtain ⟨other, member, otherPage, otherNumber, otherCase⟩ := origin second right secondPending
  have together : old.toPageKey = other.toPageKey := by rw [oldPage, page, otherPage]
  have same : old.id = other.id := by
    rcases oldCase with pending | ⟨mine, alone⟩
    · rcases otherCase with waiting | ⟨_, alone⟩
      · rw [one old present other member pending waiting together]
      · exact otherPending_eq_false.mp alone old present pending together
    · rcases otherCase with waiting | ⟨hers, _⟩
      · exact (otherPending_eq_false.mp alone other member waiting together.symm).symm
      · rw [mine, hers]
  apply SerialTable.row_of_number left right
  rw [work_number, work_number, ← oldNumber, ← otherNumber, same]

theorem OnePending.fewer (one : OnePending before)
    (origin : ∀ row ∈ after.work.rows, row.state = .pending →
      ∃ old ∈ before.work.rows, old.toPageKey = row.toPageKey ∧ old.id = row.id ∧
        old.state = .pending) : OnePending after := by
  apply one.restored 0
  intro row member pending
  obtain ⟨old, present, page, number, waiting⟩ := origin row member pending
  exact ⟨old, present, page, number, Or.inl waiting⟩

theorem OnePending.subset (one : OnePending before)
    (kept : ∀ row ∈ after.work.rows, row ∈ before.work.rows) : OnePending after :=
  one.fewer (fun row member pending => ⟨row, kept row member, rfl, rfl, pending⟩)

theorem pending_updated {condition : WorkItem → Bool} {change : Change WorkItem}
    {row : WorkItem} (member : row ∈ (store.updateWork condition change).work.rows)
    (pending : row.state = .pending) :
    ∃ old ∈ store.work.rows, old.toPageKey = row.toPageKey ∧ old.id = row.id ∧
      (old.state = .pending ∨
        (condition old = true ∧ (change.apply old).state = .pending)) := by
  obtain ⟨old, present, rfl⟩ := mem_updateWork.mp member
  refine ⟨old, present, ?_, (SerialTable.number_changed condition change old).symm, ?_⟩
  · have key := SerialTable.key_changed condition change old
    exact (congrArg Identity.toPageKey key).symm
  · cases applies : condition old with
    | true =>
        rw [changed_of applies] at pending
        exact Or.inr ⟨rfl, pending⟩
    | false =>
        rw [changed_not applies] at pending
        exact Or.inl pending

theorem OnePending.update (one : OnePending store) {condition : WorkItem → Bool}
    {change : Change WorkItem}
    (quiet : ∀ row, condition row = true → (change.apply row).state = .pending →
      row.state = .pending) : OnePending (store.updateWork condition change) := by
  apply one.fewer
  intro row member pending
  obtain ⟨old, present, page, number, origin⟩ := pending_updated member pending
  refine ⟨old, present, page, number, ?_⟩
  rcases origin with waiting | ⟨applies, made⟩
  · exact waiting
  · exact quiet old applies made

theorem OnePending.returned (one : OnePending store) {condition : WorkItem → Bool}
    {change : Change WorkItem} (workId : Nat)
    (alone : ∀ row ∈ store.work.rows, condition row = true →
      (change.apply row).state = .pending →
        row.id = workId ∧ otherPending store row = false) :
    OnePending (store.updateWork condition change) := by
  apply one.restored workId
  intro row member pending
  obtain ⟨old, present, page, number, origin⟩ := pending_updated member pending
  refine ⟨old, present, page, number, ?_⟩
  rcases origin with waiting | ⟨applies, made⟩
  · exact Or.inl waiting
  · exact Or.inr (alone old present applies made)

theorem pending_superseded {key : Identity} {row : WorkItem}
    (member : row ∈ (supersedeOlder store key now).work.rows) (pending : row.state = .pending) :
    row ∈ store.work.rows ∧ olderPending key row = false := by
  obtain ⟨old, present, rfl⟩ := mem_updateWork.mp member
  cases older : olderPending key old with
  | true =>
      rw [changed_of older] at pending
      cases pending
  | false =>
      rw [changed_not older]
      exact ⟨present, older⟩

theorem onePending_supersedeOlder (one : OnePending store) (key : Identity) :
    OnePending (supersedeOlder store key now) := by
  apply one.update
  intro row _ pending
  cases pending

theorem onePending_inserted {key : Identity} {priority : Int} {grown : SerialTable WorkItem}
    (one : OnePending store) (newest : ¬ store.LiveAbove key)
    (added : store.work.insert? (newWork key priority now) = some grown) :
    OnePending (supersedeOlder { store with work := grown } key now) := by
  have fresh : ∀ row ∈ (supersedeOlder { store with work := grown } key now).work.rows,
      row.state = .pending → row.toPageKey = key.toPageKey →
        row.toIdentity = key := by
    intro row member pending page
    obtain ⟨present, older⟩ := pending_superseded member pending
    rcases (SerialTable.mem_insert? added).mp present with there | rfl
    · -- A pending item of the page is neither older, nor newer, nor of this revision.
      have revision : ¬ row.revisionId < key.revisionId := by
        intro earlier
        simp [olderPending, page, pending, earlier] at older
      have bound : ¬ key.revisionId < row.revisionId := by
        intro later
        exact newest ⟨row, there, page, later, (live_iff row).mpr (Or.inl pending)⟩
      exact identity_eq page (le_antisymm (not_lt.mp bound) (not_lt.mp revision))
    · rfl
  intro first left second right firstPending secondPending page
  by_cases mine : first.toPageKey = key.toPageKey
  · have firstKey := fresh first left firstPending mine
    have secondKey := fresh second right secondPending (page.symm.trans mine)
    exact SerialTable.row_of_key left right (firstKey.trans secondKey.symm)
  · -- Rows of other pages are rows of the store as it was.
    have origin : ∀ row ∈ (supersedeOlder { store with work := grown } key now).work.rows,
        row.state = .pending → row.toPageKey ≠ key.toPageKey → row ∈ store.work.rows := by
      intro row member pending other
      obtain ⟨present, _⟩ := pending_superseded member pending
      rcases (SerialTable.mem_insert? added).mp present with there | rfl
      · exact there
      · exact absurd rfl other
    exact one first (origin first left firstPending mine) second
      (origin second right secondPending (fun same => mine (page.trans same)))
      firstPending secondPending page

theorem onePending_enqueue (one : OnePending store) (key : Identity) (priority : Int)
    (allowCachedResult : Bool) :
    OnePending (enqueue store key priority allowCachedResult now) := by
  have outcome := enqueue_outcome store key priority allowCachedResult now
  generalize enqueue store key priority allowCachedResult now = after at outcome ⊢
  cases outcome with
  | cached refuses stored => exact one
  | overtaken missing newer => exact one
  | inserted uncached missing newest grown added =>
      exact onePending_inserted one newest added
  | boosted uncached item found live =>
      have raised : OnePending
          (store.updateWork (fun row => row.id = item.id) (boosted item priority now)) :=
        one.update (fun row _ pending => pending)
      exact onePending_supersedeOlder raised key
  | left uncached item found ended => exact onePending_supersedeOlder one key

theorem onePending_enqueueIfStale (one : OnePending store) (key : Identity)
    (priority freshness : Int) :
    OnePending (enqueueIfStale store key priority freshness now).2 := by
  rcases enqueueIfStale_store store key priority freshness now with same | queued
  · rw [same]
    exact one
  · rw [queued]
    exact onePending_enqueue one key priority true

theorem onePending_revive (one : OnePending store) {workId : Nat} {priority : Int}
    (alone : ∀ row ∈ store.work.rows, row.id = workId → row.state = .dead →
      otherPending store row = false) : OnePending (revive store workId priority now) := by
  apply one.returned workId
  intro row present applies _
  simp only [Bool.and_eq_true, decide_eq_true_eq] at applies
  exact ⟨applies.1, alone row present applies.1 applies.2⟩

theorem onePending_reviveDead (one : OnePending store) (settings : Settings) {key : Identity}
    (alone : ∀ row ∈ store.work.rows, row.toIdentity = key → row.state = .dead →
      revivable settings row now = true → otherPending store row = false) :
    OnePending (reviveDead settings store key now) := by
  unfold reviveDead
  split
  · exact one
  · rename_i work found
    obtain ⟨present, same⟩ := getWork_eq_some.mp found
    split
    · rename_i dead
      rw [Bool.and_eq_true, decide_eq_true_eq] at dead
      apply onePending_revive one
      intro row member number _
      have equal : row = work := SerialTable.row_of_number member present number
      exact alone row member (equal ▸ same) (equal ▸ dead.1) (equal ▸ dead.2)
    · exact one

theorem onePending_respond {runtime : Runtime} (one : OnePending store) (version : Version)
    {request : Request}
    (alone : ∀ row ∈ store.work.rows,
      row.toIdentity = request.key runtime.settings.algorithmVersion → row.state = .dead →
        revivable runtime.settings row now = true → otherPending store row = false) :
    OnePending (respond runtime version store request now).2 := by
  have revival := onePending_reviveDead one runtime.settings alone
  cases version with
  | v1 =>
      simp only [respond, pageAttribution]
      split
      · exact one
      · split
        · exact one
        · split
          · exact one
          · exact onePending_enqueue revival _ _ _
  | v2 =>
      simp only [respond, pageAttributionByFreshness]
      split
      · exact one
      · split
        · dsimp only
          split
          · exact one
          · exact onePending_enqueueIfStale revival _ _ _
        · split
          · exact one
          · exact onePending_enqueueIfStale revival _ _ _

end Rows

theorem onePending_executed {runtime : Runtime} {database : Database} {transaction : Transaction}
    {after : Store} (one : OnePending database.store)
    (alone : putsBackAlone runtime.settings database transaction = true)
    (answered : execute runtime database.store database.now transaction = some after) :
    OnePending after := by
  rw [putsBackAlone_iff] at alone
  cases transaction with
  | tick elapsed =>
      cases answered
      exact one
  | request version request =>
      cases answered
      apply onePending_respond one version
      intro row present same dead due
      exact alone row present (by simp [putsBack, same, dead, due])
  | enqueue key priority allowCachedResult =>
      cases answered
      exact onePending_enqueue one key priority allowCachedResult
  | enqueueIfStale key priority freshnessSeconds =>
      cases answered
      exact onePending_enqueueIfStale one key priority freshnessSeconds
  | claim workerId leaseSeconds pick =>
      obtain ⟨⟨lease, store⟩, taken, rfl⟩ := Option.map_eq_some_iff.mp answered
      obtain ⟨item, _, _, _, rfl⟩ := claim_taken taken
      apply one.update
      intro row _ pending
      cases pending
  | saveResult values =>
      cases answered
      rw [OnePending, saveResult_work]
      exact one
  | complete workId =>
      cases answered
      exact one.subset (fun row member => (SerialTable.mem_delete.mp member).1)
  | supersede workId reason =>
      cases answered
      apply one.update
      intro row _ pending
      cases pending
  | fail lease code message maxAttempts permanent =>
      cases answered
      apply one.returned lease.id
      intro row present mine pending
      refine ⟨of_decide_eq_true mine, alone row present ?_⟩
      simp only [failed] at pending
      split at pending
      · cases pending
      · rename_i again
        simpa [putsBack, of_decide_eq_true mine] using again
  | revive workId priority =>
      cases answered
      apply onePending_revive one
      intro row present mine dead
      exact alone row present (by simp [putsBack, mine, dead])
  | registerActiveWiki wiki =>
      cases answered
      rw [register_frame]
      exact one
  | cleanup queueDays supersededResultDays chosen =>
      exact one.subset (cleanup_cleaned answered).work
  | replaceOptout wiki entries =>
      cases answered
      exact one
  | replaceStanding wiki records =>
      cases answered
      exact one

/-- In every run of the repository's operations in which no item comes back beside another
pending one, each page has at most one pending item. -/
theorem one_pending (runtime : Runtime) (start : Time) (database : Database)
    (reached : (repository runtime ⟨.empty, start⟩).ReachableChecked
      (putsBackAlone runtime.settings) database) : OnePending database.store := by
  refine Machine.invariant (fun database => OnePending database.store) ?_ ?_ reached
  · intro first present
    cases present
  · intro before transaction after one alone taken
    exact onePending_executed one alone (transact_eq_some taken).1

theorem one_pending_after_retry :
    ∃ database, (repository plainRuntime ⟨.empty, 0⟩).ReachableChecked
        (putsBackAlone fromEnv) database ∧
      database.store.work.rows.length = 2 ∧ OnePending database.store := by
  have ran : ∃ database, (repository plainRuntime ⟨.empty, 0⟩).ReachableChecked
      (putsBackAlone fromEnv) database ∧ database.store.work.rows.length = 2 :=
    Machine.exists_of_runWhere
      [.enqueue ⟨⟨"frwiki", 1, "v"⟩, 10⟩ 100 false, .claim "a" 300 0,
        .fail ⟨⟨⟨"frwiki", 1, "v"⟩, 10⟩, 0, 100, 1⟩ "upstream_unavailable" "" 8 false,
        .enqueue ⟨⟨"frwiki", 1, "v"⟩, 11⟩ 100 false]
      (by decide)
  obtain ⟨database, reached, two⟩ := ran
  exact ⟨database, reached, two, one_pending plainRuntime 0 database reached⟩

/-- While revision 10 is leased, revision 11 is queued; then the attempt at 10 fails and
returns to the queue. -/
theorem two_pending :
    ¬ ∀ (runtime : Runtime) (start : Time) (database : Database),
        (repository runtime ⟨.empty, start⟩).Reachable database → OnePending database.store := by
  intro claimed
  have beside : ∃ database, (repository plainRuntime ⟨.empty, 0⟩).Reachable database ∧
      ∃ first ∈ database.store.work.rows, ∃ second ∈ database.store.work.rows,
        first.state = .pending ∧ second.state = .pending ∧
          first.toPageKey = second.toPageKey ∧ first.revisionId ≠ second.revisionId :=
    Machine.exists_of_run
      [.enqueue ⟨⟨"frwiki", 1, "v"⟩, 10⟩ 100 false, .claim "a" 300 0,
        .enqueue ⟨⟨"frwiki", 1, "v"⟩, 11⟩ 100 false,
        .fail ⟨⟨⟨"frwiki", 1, "v"⟩, 10⟩, 0, 100, 1⟩ "upstream_unavailable" "" 8 false]
      (by decide)
  obtain ⟨database, reached, first, left, second, right, waiting, queued, page, apart⟩ := beside
  have same := claimed plainRuntime 0 database reached first left second right waiting queued page
  exact apart (congrArg (fun item : WorkItem => item.revisionId) same)

end WikiPeople
