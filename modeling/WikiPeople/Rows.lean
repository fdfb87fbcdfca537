import WikiPeople.System

/-! What demand, claims and outcomes do to the rows of the queue. -/

namespace WikiPeople

open Relational Transition

/-- What demand may make of a row: nothing but its priority, obsolete it, or revive it. -/
structure DemandedRow (old row : WorkItem) : Prop where
  number : row.id = old.id
  expiry : row.leaseUntil = old.leaseUntil
  change : (row.state = old.state ∧ row.attempts = old.attempts) ∨
    (old.state = .pending ∧ row.state = .superseded ∧ row.attempts = old.attempts) ∨
    (old.state = .dead ∧ (row.state = .pending ∨ row.state = .superseded) ∧ row.attempts = 0)

theorem DemandedRow.refl (row : WorkItem) : DemandedRow row row :=
  ⟨rfl, rfl, Or.inl ⟨rfl, rfl⟩⟩

theorem DemandedRow.trans {first second third : WorkItem} (left : DemandedRow first second)
    (right : DemandedRow second third) : DemandedRow first third := by
  refine ⟨right.number.trans left.number, right.expiry.trans left.expiry, ?_⟩
  rcases left.change with ⟨state, attempts⟩ | ⟨state, ended, attempts⟩ |
    ⟨state, revived, attempts⟩
  · rw [← state, ← attempts]
    exact right.change
  · rcases right.change with ⟨same, kept⟩ | ⟨impossible, _⟩ | ⟨impossible, _⟩
    · exact Or.inr (Or.inl ⟨state, same.trans ended, kept.trans attempts⟩)
    · rw [ended] at impossible
      cases impossible
    · rw [ended] at impossible
      cases impossible
  · refine Or.inr (Or.inr ⟨state, ?_⟩)
    rcases right.change with ⟨same, kept⟩ | ⟨_, obsolete, kept⟩ | ⟨_, again, none⟩
    · exact ⟨same ▸ revived, kept.trans attempts⟩
    · exact ⟨Or.inr obsolete, kept.trans attempts⟩
    · exact ⟨again, none⟩

theorem DemandedRow.leased {old row : WorkItem} (demanded : DemandedRow old row)
    (leased : old.state = .leased) : row.state = .leased := by
  rcases demanded.change with ⟨state, _⟩ | ⟨impossible, _⟩ | ⟨impossible, _⟩
  · exact state.trans leased
  · rw [leased] at impossible
    cases impossible
  · rw [leased] at impossible
    cases impossible

/-- A row that demand inserted, under a number never given out before. -/
structure FreshRow (next : Nat) (row : WorkItem) : Prop where
  number : next ≤ row.id
  attempts : row.attempts = 0
  state : row.state = .pending ∨ row.state = .superseded

theorem FreshRow.demanded {next : Nat} {old row : WorkItem} (fresh : FreshRow next old)
    (demanded : DemandedRow old row) : FreshRow next row := by
  refine ⟨demanded.number ▸ fresh.number, ?_, ?_⟩
  · rcases demanded.change with ⟨_, attempts⟩ | ⟨_, _, attempts⟩ | ⟨_, _, attempts⟩
    · exact attempts.trans fresh.attempts
    · exact attempts.trans fresh.attempts
    · exact attempts
  · rcases demanded.change with ⟨state, _⟩ | ⟨_, state, _⟩ | ⟨_, state, _⟩
    · rw [state]
      exact fresh.state
    · exact Or.inr state
    · exact state

/-- Demand loses no row, and every row it leaves is an old one or a fresh one. -/
structure RowsDemanded (store after : Store) : Prop where
  kept : ∀ old ∈ store.work.rows, ∃ row ∈ after.work.rows, DemandedRow old row
  origin : ∀ row ∈ after.work.rows,
    (∃ old ∈ store.work.rows, DemandedRow old row) ∨ FreshRow store.work.next row
  next : store.work.next ≤ after.work.next

theorem RowsDemanded.refl (store : Store) : RowsDemanded store store where
  kept := fun row present => ⟨row, present, .refl row⟩
  origin := fun row present => Or.inl ⟨row, present, .refl row⟩
  next := le_refl _

theorem RowsDemanded.trans {first second third : Store} (left : RowsDemanded first second)
    (right : RowsDemanded second third) : RowsDemanded first third where
  kept := by
    intro old present
    obtain ⟨row, middle, before⟩ := left.kept old present
    obtain ⟨last, member, after⟩ := right.kept row middle
    exact ⟨last, member, before.trans after⟩
  origin := by
    intro row member
    rcases right.origin row member with ⟨middle, present, after⟩ | fresh
    · rcases left.origin middle present with ⟨old, first, before⟩ | fresh
      · exact Or.inl ⟨old, first, before.trans after⟩
      · exact Or.inr (fresh.demanded after)
    · exact Or.inr ⟨left.next.trans fresh.number, fresh.attempts, fresh.state⟩
  next := left.next.trans right.next

theorem RowsDemanded.update {store : Store} {condition : WorkItem → Bool}
    {change : Change WorkItem}
    (allowed : ∀ row, condition row = true → DemandedRow row (change.apply row)) :
    RowsDemanded store (store.updateWork condition change) := by
  have each : ∀ row, DemandedRow row (SerialTable.changed condition change row) := by
    intro row
    cases applies : condition row with
    | true =>
        rw [changed_of applies]
        exact allowed row applies
    | false =>
        rw [changed_not applies]
        exact .refl row
  refine ⟨?_, ?_, le_refl _⟩
  · intro old present
    exact ⟨_, mem_updateWork.mpr ⟨old, present, rfl⟩, each old⟩
  · intro row member
    rcases mem_updateWork.mp member with ⟨old, present, rfl⟩
    exact Or.inl ⟨old, present, each old⟩

theorem RowsDemanded.insert {store : Store} {key : Identity} {priority : Int} {now : Time}
    {grown : SerialTable WorkItem}
    (added : store.work.insert? (newWork key priority now) = some grown) :
    RowsDemanded store { store with work := grown } where
  kept := fun row present =>
    ⟨row, (SerialTable.mem_insert? added).mpr (Or.inl present), .refl row⟩
  origin := by
    intro row member
    rcases (SerialTable.mem_insert? added).mp member with old | new
    · exact Or.inl ⟨row, old, .refl row⟩
    · subst new
      exact Or.inr ⟨le_refl _, rfl, Or.inl rfl⟩
  next := by
    rw [SerialTable.insert?_next added]
    exact Nat.le_succ _

theorem rows_supersedeOlder (store : Store) (key : Identity) (now : Time) :
    RowsDemanded store (supersedeOlder store key now) := by
  apply RowsDemanded.update
  intro row older
  have pending : row.state = .pending := by
    simp only [olderPending, Bool.and_eq_true, decide_eq_true_eq] at older
    exact older.2
  exact ⟨rfl, rfl, Or.inr (Or.inl ⟨pending, rfl, rfl⟩)⟩

theorem rows_enqueue (store : Store) (key : Identity) (priority : Int)
    (allowCachedResult : Bool) (now : Time) :
    RowsDemanded store (enqueue store key priority allowCachedResult now) := by
  have outcome := enqueue_outcome store key priority allowCachedResult now
  generalize enqueue store key priority allowCachedResult now = after at outcome ⊢
  cases outcome with
  | cached refuses stored => exact .refl store
  | overtaken missing newer => exact .refl store
  | inserted uncached missing newest grown added =>
      exact (RowsDemanded.insert added).trans (rows_supersedeOlder _ key now)
  | boosted uncached item found live =>
      have raised : RowsDemanded store
          (store.updateWork (fun row => row.id = item.id) (boosted item priority now)) :=
        .update (fun row _ => ⟨rfl, rfl, Or.inl ⟨rfl, rfl⟩⟩)
      exact raised.trans (rows_supersedeOlder _ key now)
  | left uncached item found ended => exact rows_supersedeOlder store key now

theorem rows_revive (store : Store) (workId : Nat) (priority : Int) (now : Time) :
    RowsDemanded store (revive store workId priority now) := by
  apply RowsDemanded.update
  intro row applies
  simp only [Bool.and_eq_true, decide_eq_true_eq] at applies
  exact ⟨rfl, rfl, Or.inr (Or.inr ⟨applies.2, Or.inl rfl, rfl⟩)⟩

theorem Demanded.rows {store after : Store} {now : Time} (demanded : Demanded now store after) :
    RowsDemanded store after := by
  induction demanded with
  | unchanged => exact .refl store
  | enqueued _ key priority allowCachedResult ih =>
      exact ih.trans (rows_enqueue _ key priority allowCachedResult now)
  | revived _ workId priority ih => exact ih.trans (rows_revive _ workId priority now)

theorem mem_updateWork_id {store : Store} {workId : Nat} {change : Change WorkItem}
    {row : WorkItem} :
    row ∈ (store.updateWork (fun item => item.id = workId) change).work.rows ↔
      (row ∈ store.work.rows ∧ row.id ≠ workId) ∨
        ∃ old ∈ store.work.rows, old.id = workId ∧ change.apply old = row := by
  rw [mem_updateWork]
  constructor
  · intro updated
    rcases updated with ⟨old, present, rfl⟩
    by_cases mine : old.id = workId
    · rw [changed_of (by simp [mine])]
      exact Or.inr ⟨old, present, mine, rfl⟩
    · rw [changed_not (by simp [mine])]
      exact Or.inl ⟨present, mine⟩
  · intro row_or
    rcases row_or with ⟨present, other⟩ | ⟨old, present, mine, rfl⟩
    · exact ⟨row, present, changed_not (by simp [other])⟩
    · exact ⟨old, present, changed_of (by simp [mine])⟩

section Kept

variable {store : Store} {row : WorkItem} {now : Time}

theorem updateWork_keeps {condition : WorkItem → Bool} {change : Change WorkItem}
    (present : row ∈ store.work.rows) (skipped : condition row = false) :
    row ∈ (store.updateWork condition change).work.rows :=
  mem_updateWork.mpr ⟨row, present, changed_not skipped⟩

theorem supersedeOlder_keeps (present : row ∈ store.work.rows) (ended : row.live = false)
    (other : Identity) : row ∈ (supersedeOlder store other now).work.rows := by
  apply updateWork_keeps present
  have waiting : row.state ≠ .pending := by
    intro pending
    rw [(live_iff row).mpr (Or.inl pending)] at ended
    cases ended
  simp [olderPending, waiting]

theorem enqueue_keeps (present : row ∈ store.work.rows) (ended : row.live = false)
    (other : Identity) (priority : Int) (allowCachedResult : Bool) :
    row ∈ (enqueue store other priority allowCachedResult now).work.rows := by
  have outcome := enqueue_outcome store other priority allowCachedResult now
  generalize enqueue store other priority allowCachedResult now = after at outcome ⊢
  cases outcome with
  | cached refuses stored => exact present
  | overtaken missing newer => exact present
  | inserted uncached missing newest grown added =>
      exact supersedeOlder_keeps ((SerialTable.mem_insert? added).mpr (Or.inl present)) ended other
  | boosted uncached waiting found live =>
      refine supersedeOlder_keeps (updateWork_keeps present ?_) ended other
      apply decide_eq_false
      intro number
      have same := SerialTable.row_of_number present (getWork_eq_some.mp found).1 number
      rw [same, live] at ended
      cases ended
  | left uncached stopped found idle => exact supersedeOlder_keeps present ended other

theorem enqueueIfStale_keeps (present : row ∈ store.work.rows) (ended : row.live = false)
    (other : Identity) (priority freshness : Int) :
    row ∈ (enqueueIfStale store other priority freshness now).2.work.rows := by
  rcases enqueueIfStale_store store other priority freshness now with same | queued
  · rw [same]
    exact present
  · rw [queued]
    exact enqueue_keeps present ended other priority true

end Kept

theorem claim_taken {store after : Store} {workerId : String} {leaseSeconds : Int} {pick : Nat}
    {now : Time} {lease : WorkLease}
    (taken : claim store workerId leaseSeconds pick now = some (lease, after)) :
    ∃ item ∈ store.work.rows, claimable now item = true ∧ lease = leaseOf item ∧
      after = store.updateWork (fun row => row.id = item.id)
        (leasing workerId leaseSeconds now) := by
  simp only [claim] at taken
  obtain ⟨item, chosen, same⟩ := Option.map_eq_some_iff.mp taken
  have candidate := List.mem_of_getElem? chosen
  simp only [claimCandidates, List.mem_filter] at candidate
  cases same
  exact ⟨item, candidate.1.1, candidate.1.2, rfl, rfl⟩

theorem rows_of_work {store after : Store} (same : after.work = store.work) :
    RowsDemanded store after where
  kept := fun row present => ⟨row, same ▸ present, .refl row⟩
  origin := fun row present => Or.inl ⟨row, same ▸ present, .refl row⟩
  next := by rw [same]

section Outcome

variable {settings : Settings} {lease : WorkLease} {now : Time} {store : Store}
  {operation : Operation}

theorem rows_perform (silent : operation.isOutcome = false) :
    RowsDemanded store (perform settings lease now store operation) := by
  cases operation with
  | supersede reason => cases silent
  | enqueueCurrent page => exact rows_enqueue store _ _ _ now
  | saveResult values => exact rows_of_work (saveResult_work store values)
  | complete => cases silent
  | registerActiveWiki =>
      apply rows_of_work
      simp only [perform]
      rw [register_frame]
  | fail code message permanent => cases silent

/-- What an outcome makes of the row it is reported for, whoever holds the row. -/
structure OutcomeRow (settings : Settings) (lease : WorkLease) (operation : Operation)
    (old row : WorkItem) : Prop where
  number : row.id = old.id
  attempts : row.attempts = old.attempts
  ended : row.state ≠ .leased
  retried : row.state = .pending →
    operation.isFail = true ∧ (lease.attempts : Int) < settings.workerMaxAttempts

theorem mem_outcome (outcome : operation.isOutcome = true) {row : WorkItem}
    (member : row ∈ (perform settings lease now store operation).work.rows) :
    (row ∈ store.work.rows ∧ row.id ≠ lease.id) ∨
      ∃ old ∈ store.work.rows, old.id = lease.id ∧
        OutcomeRow settings lease operation old row := by
  cases operation with
  | supersede reason =>
      apply (mem_updateWork_id.mp member).imp id
      intro refusal
      rcases refusal with ⟨old, present, mine, rfl⟩
      refine ⟨old, present, mine, rfl, rfl, ?_, ?_⟩
      · intro leased
        cases leased
      · intro pending
        cases pending
  | enqueueCurrent page => cases outcome
  | saveResult values => cases outcome
  | complete =>
      obtain ⟨present, other⟩ := SerialTable.mem_delete.mp member
      exact Or.inl ⟨present, of_decide_eq_false other⟩
  | registerActiveWiki => cases outcome
  | fail code message permanent =>
      apply (mem_updateWork_id.mp member).imp id
      intro failure
      rcases failure with ⟨old, present, mine, rfl⟩
      refine ⟨old, present, mine, rfl, rfl, ?_, ?_⟩
      · simp only [failed]
        split
        · intro leased
          cases leased
        · intro leased
          cases leased
      · simp only [failed]
        split
        · intro pending
          cases pending
        · rename_i alive
          intro pending
          simp only [Bool.or_eq_true, decide_eq_true_eq, not_or, not_le] at alive
          exact ⟨rfl, alive.2⟩

theorem outcome_keeps_others (outcome : operation.isOutcome = true) {row : WorkItem}
    (present : row ∈ store.work.rows) (other : row.id ≠ lease.id) :
    row ∈ (perform settings lease now store operation).work.rows := by
  cases operation with
  | supersede reason => exact mem_updateWork_id.mpr (Or.inl ⟨present, other⟩)
  | enqueueCurrent page => cases outcome
  | saveResult values => cases outcome
  | complete => exact SerialTable.mem_delete.mpr ⟨present, decide_eq_false other⟩
  | registerActiveWiki => cases outcome
  | fail code message permanent => exact mem_updateWork_id.mpr (Or.inl ⟨present, other⟩)

end Outcome

end WikiPeople
