import WikiPeople.Jobs
import WikiPeople.Ladder

/-! What one call of `run_once` leaves of the item it claimed. -/

namespace WikiPeople

open Relational

/-- Whether `run_once` reports the error as one that will not go away. -/
def Exn.permanent : Exn → Bool
  | .known kind _ => kind.permanent
  | .unexpected _ => false

section Outcome

variable (interpreter : Interpreter) (settings : Settings) (upstream : Upstream)
  (lease : WorkLease) (before after : Store) (instant : Time)

/-- What `process` comes to, whose instants follow that of the claim. -/
def processed (claimed : Store) (clock : Nat → Time) : Except Exn Store :=
  process claimed lease (upstream.getPage lease.wiki lease.pageId)
    (attributePage interpreter settings upstream lease) (fun call => clock (call + 1))

/-- The result of this run is stored under the lease's key, and the item is gone. -/
structure StoredResult (page : PageMetadata) (attributed : Attributed) : Prop where
  reported : upstream.getPage lease.wiki lease.pageId = .ok page
  article : page.pageNamespace = 0
  direct : page.isRedirect = false
  current : page.revisionId = lease.revisionId
  answered : attributePage interpreter settings upstream lease page = .ok attributed
  stored : ∃ result, getResult after lease.toIdentity = some result ∧
    result.toResultValues = resultValues lease page attributed instant
  others : ∀ row : AttributionResult, row.toIdentity ≠ lease.toIdentity →
    (row ∈ after.results.rows ↔ row ∈ before.results.rows)
  gone : ∀ item ∈ after.work.rows, item.id ≠ lease.id

structure SupersededItem : Prop where
  unchanged : after.results = before.results
  item : ∃ item ∈ after.work.rows, item.id = lease.id ∧ item.toIdentity = lease.toIdentity ∧
    item.state = .superseded ∧ item.leaseUntil = none ∧ item.workerId = none

/-- The attempt failed: the item is dead or waits for its next attempt, and no result
changed. -/
structure FailedItem (raised : Exn) : Prop where
  unchanged : after.results = before.results
  item : ∃ item ∈ after.work.rows, item.id = lease.id ∧ item.toIdentity = lease.toIdentity ∧
    item.state = (if raised.permanent = true ∨ settings.workerMaxAttempts ≤ lease.attempts
      then .dead else .pending) ∧
    item.availableAt =
      instant + seconds (min 21600 (30 * Int.pow 2 (lease.attempts - 1))) ∧
    item.leaseUntil = none ∧ item.workerId = none

end Outcome

def ExactlyOne (first second third : Prop) : Prop :=
  (first ∧ ¬ second ∧ ¬ third) ∨ (¬ first ∧ second ∧ ¬ third) ∨ (¬ first ∧ ¬ second ∧ third)

section Proofs

variable {interpreter : Interpreter} {settings : Settings} {upstream : Upstream}
  {lease : WorkLease} {before claimed after : Store} {instant : Time}

theorem claim_leased {workerId : String} {leaseSeconds : Int} {pick : Nat}
    (taken : claim before workerId leaseSeconds pick instant = some (lease, claimed)) :
    claimed.results = before.results ∧
      ∃ row ∈ claimed.work.rows, row.id = lease.id ∧ row.toIdentity = lease.toIdentity := by
  obtain ⟨item, present, _, rfl, rfl⟩ := claim_taken taken
  refine ⟨rfl, (leasing workerId leaseSeconds instant).apply item, ?_, rfl, rfl⟩
  exact mem_updateWork_id.mpr (Or.inr ⟨item, present, rfl, rfl⟩)

theorem supersede_item {row : WorkItem} {reason : String}
    (results : claimed.results = before.results) (present : row ∈ claimed.work.rows)
    (number : row.id = lease.id) (identity : row.toIdentity = lease.toIdentity) :
    SupersededItem lease before (supersede claimed lease.id reason instant) where
  unchanged := results
  item := ⟨(refused reason instant).apply row,
    mem_updateWork_id.mpr (Or.inr ⟨row, present, number, rfl⟩), number, identity, rfl, rfl, rfl⟩

theorem SupersededItem.enqueue (refusal : SupersededItem lease before after) (key : Identity)
    (priority : Int) (allowCachedResult : Bool) :
    SupersededItem lease before (enqueue after key priority allowCachedResult instant) where
  unchanged := by
    rw [enqueue_frame]
    exact refusal.unchanged
  item := by
    obtain ⟨item, present, number, identity, superseded, unleased, free⟩ := refusal.item
    have ended : item.live = false := by simp [WorkItem.live, superseded]
    exact ⟨item, enqueue_keeps present ended key priority allowCachedResult, number, identity,
      superseded, unleased, free⟩

theorem fail_item {row : WorkItem} (results : claimed.results = before.results)
    (present : row ∈ claimed.work.rows) (number : row.id = lease.id)
    (identity : row.toIdentity = lease.toIdentity) (raised : Exn) :
    FailedItem settings lease before
      (perform settings lease instant claimed (failure raised)) instant raised := by
  have failed_item : ∀ code message permanent, permanent = raised.permanent →
      FailedItem settings lease before (fail claimed lease code message
        settings.workerMaxAttempts permanent instant) instant raised := by
    intro code message permanent same
    refine ⟨results, ?_⟩
    refine ⟨_, mem_updateWork_id.mpr (Or.inr ⟨row, present, number, rfl⟩), number, identity, ?_,
      rfl, rfl, rfl⟩
    simp only [failed, same, Bool.or_eq_true, decide_eq_true_eq]
  cases raised with
  | known kind message => exact failed_item _ _ _ rfl
  | unexpected message => exact failed_item _ _ _ rfl

theorem store_result (results : claimed.results = before.results) {page : PageMetadata}
    {attributed : Attributed} {registeredAt : Time}
    (reported : upstream.getPage lease.wiki lease.pageId = .ok page)
    (article : page.pageNamespace = 0) (direct : page.isRedirect = false)
    (current : page.revisionId = lease.revisionId)
    (answered : attributePage interpreter settings upstream lease page = .ok attributed) :
    StoredResult interpreter settings upstream lease before
      (registerActiveWiki (complete (saveResult claimed
        (resultValues lease page attributed instant)) lease.id) lease.wiki registeredAt).2
      instant page attributed := by
  rw [register_frame]
  refine ⟨reported, article, direct, current, answered, ?_, ?_, ?_⟩
  · refine ⟨_, Table.find_eq_some.mpr ⟨mem_saveResult.mpr (Or.inr rfl), rfl⟩, rfl⟩
  · intro row other
    rw [← results]
    constructor
    · intro member
      rcases mem_saveResult.mp member with ⟨old, _⟩ | rfl
      · exact old
      · exact absurd rfl other
    · intro member
      exact mem_saveResult.mpr (Or.inl ⟨member, other⟩)
  · intro item member
    exact of_decide_eq_false (SerialTable.mem_delete.mp member).2

theorem processed_ok {clock : Nat → Time} {row : WorkItem}
    (results : claimed.results = before.results) (present : row ∈ claimed.work.rows)
    (number : row.id = lease.id) (identity : row.toIdentity = lease.toIdentity)
    (done : processed interpreter settings upstream lease claimed clock = .ok after) :
    (∃ page attributed, StoredResult interpreter settings upstream lease before after (clock 1)
        page attributed) ∨ SupersededItem lease before after := by
  have superseded : ∀ reason, SupersededItem lease before
      (supersede claimed lease.id reason (clock 1)) :=
    fun reason => supersede_item results present number identity
  unfold processed process at done
  split at done
  · cases done
  · rename_i page reported
    split at done
    · cases done
      exact Or.inr (superseded _)
    · rename_i article
      split at done
      · cases done
        exact Or.inr (superseded _)
      · rename_i direct
        split at done
        · cases done
          exact Or.inr ((superseded _).enqueue _ _ _)
        · rename_i current
          split at done
          · cases done
          · rename_i attributed answered
            cases done
            exact Or.inl ⟨page, attributed, store_result results reported (not_not.mp article)
              (Bool.not_eq_true _ ▸ direct) (not_not.mp current) answered⟩

theorem StoredResult.not_superseded {page : PageMetadata} {attributed : Attributed}
    (stored : StoredResult interpreter settings upstream lease before after instant page
      attributed) : ¬ SupersededItem lease before after := by
  intro refusal
  obtain ⟨item, present, number, _⟩ := refusal.item
  exact stored.gone item present number

theorem StoredResult.not_failed {page : PageMetadata} {attributed : Attributed} {raised : Exn}
    (stored : StoredResult interpreter settings upstream lease before after instant page
      attributed) : ¬ FailedItem settings lease before after instant raised := by
  intro failure
  obtain ⟨item, present, number, _⟩ := failure.item
  exact stored.gone item present number

theorem SupersededItem.not_failed {raised : Exn} (refusal : SupersededItem lease before after) :
    ¬ FailedItem settings lease before after instant raised := by
  intro failure
  obtain ⟨item, present, number, _, superseded, _⟩ := refusal.item
  obtain ⟨other, member, same, _, state, _⟩ := failure.item
  have equal := SerialTable.row_of_number present member (number.trans same.symm)
  rw [← equal, superseded] at state
  split at state
  · cases state
  · cases state

end Proofs

/-- Whatever upstream answers or raises, a call of `run_once` that claimed a lease ends in
exactly one way: the result of this run is stored and the item is gone, the item is
superseded, or the item failed with the error that reached `run_once`. -/
theorem run_once_outcome (interpreter : Interpreter) (settings : Settings)
    (upstream : Upstream) (store : Store) (workerId : String) (pick : Nat) (clock : Nat → Time)
    (lease : WorkLease) (claimed : Store)
    (taken : claim store workerId settings.workerLeaseSeconds pick (clock 0) =
      some (lease, claimed)) :
    let after := (runOnce interpreter settings upstream store workerId pick clock).2
    ExactlyOne
      (∃ page attributed, StoredResult interpreter settings upstream lease store after (clock 1)
        page attributed)
      (SupersededItem lease store after)
      (∃ raised, processed interpreter settings upstream lease claimed clock = .error raised ∧
        FailedItem settings lease store after (clock 1) raised) := by
  obtain ⟨results, row, present, number, identity⟩ := claim_leased taken
  simp only [runOnce, taken]
  rw [← processed]
  cases done : processed interpreter settings upstream lease claimed clock with
  | error raised =>
      have failure : FailedItem settings lease store
          (perform settings lease (clock 1) claimed (failure raised)) (clock 1) raised :=
        fail_item results present number identity raised
      refine Or.inr (Or.inr ⟨?_, fun refusal => refusal.not_failed failure, raised, rfl, failure⟩)
      rintro ⟨page, attributed, stored⟩
      exact stored.not_failed failure
  | ok after =>
      rcases processed_ok results present number identity done with
        ⟨page, attributed, stored⟩ | refusal
      · refine Or.inl ⟨⟨page, attributed, stored⟩, stored.not_superseded, ?_⟩
        rintro ⟨raised, wrong, _⟩
        cases wrong
      · refine Or.inr (Or.inl ⟨?_, refusal, ?_⟩)
        · rintro ⟨page, attributed, stored⟩
          exact stored.not_superseded refusal
        · rintro ⟨raised, wrong, _⟩
          cases wrong

theorem run_once_outcome_stored :
    let store := enqueue .empty (articleKey 10) 100 false 0
    let after := (runOnce plainInterpreter fromEnv ownUpstream store "a" 0 (fun _ => 0)).2
    after.results.rows.map (fun result => (result.metric,
        result.contributors.map (fun contributor => (contributor.username, contributor.evidence)),
        result.distinctContributors, result.countLimited, result.countableTokens)) =
      [("wikiwho-surviving-alphanumeric-tokens", [("Ada", .tokenCount 20)], 2, false, 20)] ∧
    after.work.rows = [] ∧ ∃ lease claimed,
      claim store "a" 300 0 0 = some (lease, claimed) ∧
      ExactlyOne
        (∃ page attributed, StoredResult plainInterpreter fromEnv ownUpstream lease store after 0
          page attributed)
        (SupersededItem lease store after)
        (∃ raised, processed plainInterpreter fromEnv ownUpstream lease claimed (fun _ => 0) =
            .error raised ∧ FailedItem fromEnv lease store after 0 raised) := by
  refine ⟨by decide +kernel, by decide +kernel, _, _, rfl, ?_⟩
  exact run_once_outcome plainInterpreter fromEnv ownUpstream _ "a" 0 (fun _ => 0) _ _ rfl

end WikiPeople
