import WikiPeople.Leases

/-! Claims over whole runs: how often an item can be leased. -/

namespace WikiPeople

open Relational Transition

def revivedRow (before after : Store) (id : Nat) : Bool :=
  before.work.rows.any (fun old =>
    old.id = id && old.state = .dead &&
      after.work.rows.any (fun row => row.id = id && row.state ≠ .dead))

/-- For every item, its claims since it was created or last revived. -/
def observeClaims (claims : Nat → Nat) (before : System) (event : Event) (after : System) :
    Nat → Nat :=
  fun id =>
    if after.jobs[before.jobs.length]?.any (fun job => job.lease.id = id) then claims id + 1
    else if (reporting before event).isNone && revivedRow before.store after.store id then 0
    else claims id

def claimWatch (runtime : Runtime) (start : Time) : Machine (System × (Nat → Nat)) Event :=
  (service runtime start).withHistory (fun _ => 0) observeClaims

/-- A lease that ran out is only taken over below the limit, and a failure under a lease below
the limit is only reported while the attempts of the row are below it too. -/
def withinAttempts (settings : Settings) (system : System) : Event → Bool
  | .claim workerId pick =>
      (claim system.store workerId settings.workerLeaseSeconds pick system.now).all
        fun (lease, _) => system.store.work.rows.all (fun item =>
          item.id ≠ lease.id || item.state ≠ .leased ||
            (item.attempts : Int) < settings.workerMaxAttempts)
  | .perform index =>
      system.jobs[index]?.all (fun job =>
        !job.phase.next.any Operation.isFail || system.store.work.rows.all (fun item =>
          item.id ≠ job.lease.id || (item.attempts : Int) < settings.workerMaxAttempts ||
            settings.workerMaxAttempts ≤ job.lease.attempts))
  | _ => true

theorem revivedRow_iff {before after : Store} {old row : WorkItem}
    (present : old ∈ before.work.rows) (member : row ∈ after.work.rows)
    (same : row.id = old.id) :
    revivedRow before after row.id = true ↔ old.state = .dead ∧ row.state ≠ .dead := by
  simp only [revivedRow, List.any_eq_true, Bool.and_eq_true, decide_eq_true_eq]
  constructor
  · intro revived
    rcases revived with ⟨first, firstPresent, ⟨number, dead⟩, last, lastPresent, again, alive⟩
    have firstOld := SerialTable.row_of_number firstPresent present (number.trans same)
    have lastRow := SerialTable.row_of_number lastPresent member again
    subst firstOld lastRow
    exact ⟨dead, alive⟩
  · intro change
    exact ⟨old, present, ⟨same.symm, change.1⟩, row, member, rfl, change.2⟩

theorem revivedRow_fresh {before after : Store} {id : Nat} (fresh : before.work.next ≤ id) :
    revivedRow before after id = false := by
  simp only [revivedRow, List.any_eq_false, Bool.and_eq_true, decide_eq_true_eq, not_and]
  intro old present number
  have below := before.work.below old present
  rw [work_number] at below
  omega

/-- The counter of a row is its number of claims, pending rows are below the limit, and no
item was ever claimed more often than the limit. -/
structure ClaimsCounted (limit : Int) (watched : System × (Nat → Nat)) : Prop where
  counted : ∀ row ∈ watched.1.store.work.rows, watched.2 row.id = row.attempts
  waiting : ∀ row ∈ watched.1.store.work.rows, row.state = .pending → (row.attempts : Int) < limit
  unused : ∀ id, watched.1.store.work.next ≤ id → watched.2 id = 0
  bounded : ∀ id, (watched.2 id : Int) ≤ limit

theorem claims_without_claim {claims : Nat → Nat} {before after : System} {event : Event}
    (same : after.jobs.length = before.jobs.length) (id : Nat) :
    observeClaims claims before event after id =
      if (reporting before event).isNone && revivedRow before.store after.store id then 0
      else claims id := by
  have none : after.jobs[before.jobs.length]? = none :=
    List.getElem?_eq_none (Nat.le_of_eq same)
  simp only [observeClaims, none, Option.any_none, Bool.false_eq_true, if_false]

theorem ClaimsCounted.demand {limit : Int} {before after : System} {claims : Nat → Nat}
    {event : Event} (valid : ClaimsCounted limit (before, claims)) (positive : 1 ≤ limit)
    (silent : reporting before event = none) (same : after.jobs.length = before.jobs.length)
    (origin : ∀ row ∈ after.store.work.rows,
      (∃ old ∈ before.store.work.rows, DemandedRow old row) ∨
        FreshRow before.store.work.next row)
    (next : before.store.work.next ≤ after.store.work.next) :
    ClaimsCounted limit (after, observeClaims claims before event after) := by
  have observed : ∀ id, observeClaims claims before event after id =
      if revivedRow before.store after.store id then 0 else claims id := by
    intro id
    rw [claims_without_claim same id, silent, Option.isNone_none, Bool.true_and]
  refine ⟨?_, ?_, ?_, ?_⟩
  · intro row member
    change observeClaims claims before event after row.id = row.attempts
    rw [observed]
    rcases origin row member with ⟨old, present, demanded⟩ | fresh
    · have revival := revivedRow_iff present member demanded.number
      have count := valid.counted old present
      rw [← demanded.number] at count
      rcases demanded.change with ⟨state, attempts⟩ | ⟨pending, _, attempts⟩ |
        ⟨dead, alive, attempts⟩
      · rw [if_neg (fun revived => (revival.mp revived).2 (state.trans (revival.mp revived).1))]
        exact count.trans attempts.symm
      · rw [if_neg]
        · exact count.trans attempts.symm
        · intro revived
          rw [(revival.mp revived).1] at pending
          cases pending
      · rw [if_pos, attempts]
        refine revival.mpr ⟨dead, ?_⟩
        rcases alive with pending | superseded
        · rw [pending]
          decide
        · rw [superseded]
          decide
    · rw [revivedRow_fresh fresh.number, if_neg Bool.false_ne_true, fresh.attempts]
      exact valid.unused row.id fresh.number
  · intro row member pending
    rcases origin row member with ⟨old, present, demanded⟩ | fresh
    · rcases demanded.change with ⟨state, attempts⟩ | ⟨_, superseded, _⟩ | ⟨_, _, attempts⟩
      · rw [attempts]
        exact valid.waiting old present (state.symm.trans pending)
      · rw [superseded] at pending
        cases pending
      · rw [attempts]
        exact positive
    · rw [fresh.attempts]
      exact positive
  · intro id unused
    change observeClaims claims before event after id = 0
    rw [observed, revivedRow_fresh (next.trans unused), if_neg Bool.false_ne_true]
    exact valid.unused id (next.trans unused)
  · intro id
    change (observeClaims claims before event after id : Int) ≤ limit
    rw [observed]
    split
    · exact Int.le_trans (by decide) positive
    · exact valid.bounded id

theorem revivedRow_leasing {store : Store} {item : WorkItem} (present : item ∈ store.work.rows)
    (alive : item.state ≠ .dead) (workerId : String) (leaseSeconds : Int) (now : Time)
    (id : Nat) :
    revivedRow store (store.updateWork (fun row => row.id = item.id)
      (leasing workerId leaseSeconds now)) id = false := by
  simp only [revivedRow, List.any_eq_false, Bool.and_eq_true, decide_eq_true_eq, not_and,
    List.any_eq_true, not_exists]
  intro old oldPresent dropped row member again awake
  obtain ⟨number, dead⟩ := dropped
  rcases mem_updateWork_id.mp member with ⟨kept, _⟩ | ⟨source, sourcePresent, mine, rfl⟩
  · exact awake (SerialTable.row_of_number kept oldPresent (again.trans number.symm) ▸ dead)
  · have sameItem := SerialTable.row_of_number sourcePresent present mine
    have sameOld := SerialTable.row_of_number oldPresent present
      ((number.trans again.symm).trans mine)
    subst sameItem sameOld
    exact alive dead

theorem claimable_alive {now : Time} {item : WorkItem} (due : claimable now item = true) :
    item.state ≠ .dead := by
  intro dead
  simp [claimable, dead] at due

theorem observeClaims_claim {claims : Nat → Nat} {system : System} {settings : Settings}
    {workerId : String} {pick : Nat} {item : WorkItem} (present : item ∈ system.store.work.rows)
    (alive : item.state ≠ .dead) (id : Nat) :
    observeClaims claims system (.claim workerId pick)
      { system with
        store := system.store.updateWork (fun row => row.id = item.id)
          (leasing workerId settings.workerLeaseSeconds system.now)
        jobs := system.jobs ++ [newJob settings workerId system.now (leaseOf item)] } id =
      if id = item.id then claims id + 1 else claims id := by
  have revival := revivedRow_leasing present alive workerId settings.workerLeaseSeconds
    system.now id
  simp only [observeClaims, List.getElem?_concat_length, Option.any_some, newJob, leaseOf,
    decide_eq_true_eq, revival, Bool.and_false, Bool.false_eq_true, if_false]
  simp only [eq_comm]

theorem claimed_below {limit : Int} {system : System} {claims : Nat → Nat}
    {settings : Settings} {workerId : String} {pick : Nat} {item : WorkItem} {store : Store}
    (valid : ClaimsCounted limit (system, claims)) (limits : limit = settings.workerMaxAttempts)
    (checked : withinAttempts settings system (.claim workerId pick) = true)
    (taken : claim system.store workerId settings.workerLeaseSeconds pick system.now =
      some (leaseOf item, store))
    (present : item ∈ system.store.work.rows) (due : claimable system.now item = true) :
    (item.attempts : Int) < limit := by
  simp only [withinAttempts, taken, Option.all_some, List.all_eq_true] at checked
  have limited := checked item present
  simp only [claimable, Bool.or_eq_true, Bool.and_eq_true, decide_eq_true_eq] at due
  rcases due with ⟨pending, _⟩ | ⟨leased, _⟩
  · exact valid.waiting item present pending
  · simp only [leaseOf, leased, ne_eq, not_true_eq_false, decide_false, Bool.or_self,
      Bool.false_or, decide_eq_true_eq] at limited
    rw [limits]
    exact limited

theorem claimsCounted_claim {limit : Int} {system : System} {claims : Nat → Nat}
    {store : Store} {settings : Settings} {workerId : String} {pick : Nat} {lease : WorkLease}
    (valid : ClaimsCounted limit (system, claims)) (limits : limit = settings.workerMaxAttempts)
    (checked : withinAttempts settings system (.claim workerId pick) = true)
    (taken : claim system.store workerId settings.workerLeaseSeconds pick system.now =
      some (lease, store)) :
    ClaimsCounted limit
      ({ system with
          store := store
          jobs := system.jobs ++ [newJob settings workerId system.now lease] },
        observeClaims claims system (.claim workerId pick)
          { system with
            store := store
            jobs := system.jobs ++ [newJob settings workerId system.now lease] }) := by
  obtain ⟨item, present, due, rfl, rfl⟩ := claim_taken taken
  have below := claimed_below valid limits checked taken present due
  have observed := @observeClaims_claim claims system settings workerId pick item present
    (claimable_alive due)
  refine ⟨?_, ?_, ?_, ?_⟩
  · intro row member
    change observeClaims claims system _ _ row.id = row.attempts
    rw [observed]
    rcases mem_updateWork_id.mp member with ⟨kept, other⟩ | ⟨source, sourcePresent, mine, rfl⟩
    · rw [if_neg other]
      exact valid.counted row kept
    · change (if source.id = item.id then claims source.id + 1 else claims source.id) =
        source.attempts + 1
      rw [if_pos mine]
      exact congrArg (· + 1) (valid.counted source sourcePresent)
  · intro row member pending
    rcases mem_updateWork_id.mp member with ⟨kept, _⟩ | ⟨source, _, _, rfl⟩
    · exact valid.waiting row kept pending
    · cases pending
  · intro id unused
    change observeClaims claims system _ _ id = 0
    have bound := system.store.work.below item present
    rw [work_number] at bound
    rw [observed, if_neg (Nat.ne_of_gt (Nat.lt_of_lt_of_le bound unused))]
    exact valid.unused id unused
  · intro id
    change (observeClaims claims system _ _ id : Int) ≤ limit
    rw [observed]
    split
    · rename_i mine
      subst mine
      have count := valid.counted item present
      change claims item.id = item.attempts at count
      rw [count]
      exact below
    · exact valid.bounded id

theorem next_outcome {settings : Settings} {lease : WorkLease} {now : Time} {store : Store}
    {operation : Operation} (outcome : operation.isOutcome = true) :
    (perform settings lease now store operation).work.next = store.work.next := by
  cases operation with
  | enqueueCurrent page => cases outcome
  | saveResult values => cases outcome
  | registerActiveWiki => cases outcome
  | supersede reason => rfl
  | complete => rfl
  | fail code message permanent => rfl

theorem claimsCounted_outcome {limit : Int} {settings : Settings} {system : System}
    {claims : Nat → Nat} {index : Nat} {job : Job} {operation : Operation}
    {todo : List Operation} (valid : ClaimsCounted limit (system, claims))
    (limits : limit = settings.workerMaxAttempts)
    (checked : withinAttempts settings system (.perform index) = true)
    (outcome : operation.isOutcome = true) (present : system.jobs[index]? = some job)
    (next : job.phase = .performing (operation :: todo)) :
    ClaimsCounted limit
      ({ system with
          store := perform settings job.lease system.now system.store operation
          jobs := system.jobs.set index { job with phase := .performing todo } },
        observeClaims claims system (.perform index)
          { system with
            store := perform settings job.lease system.now system.store operation
            jobs := system.jobs.set index { job with phase := .performing todo } }) := by
  have observed : observeClaims claims system (.perform index)
      { system with
        store := perform settings job.lease system.now system.store operation
        jobs := system.jobs.set index { job with phase := .performing todo } } = claims := by
    funext id
    rw [claims_without_claim (List.length_set), reporting_perform present next, outcome, if_pos rfl,
      Option.isNone_some, Bool.false_and, if_neg Bool.false_ne_true]
  rw [observed]
  refine ⟨?_, ?_, ?_, valid.bounded⟩
  · intro row member
    rcases mem_outcome outcome member with ⟨kept, _⟩ | ⟨old, oldPresent, _, reported⟩
    · exact valid.counted row kept
    · have count := valid.counted old oldPresent
      change claims row.id = row.attempts
      rw [reported.number, reported.attempts]
      exact count
  · intro row member pending
    rcases mem_outcome outcome member with ⟨kept, _⟩ | ⟨old, oldPresent, mine, reported⟩
    · exact valid.waiting row kept pending
    · obtain ⟨failing, below⟩ := reported.retried pending
      have attempts : (old.attempts : Int) < settings.workerMaxAttempts := by
        simp only [withinAttempts, present, Option.all_some, Phase.next, next, Option.any_some,
          failing, Bool.not_true, Bool.false_or, List.all_eq_true] at checked
        simpa [mine, not_le.mpr below] using checked old oldPresent
      rw [reported.attempts, limits]
      exact attempts
  · intro id unused
    rw [next_outcome outcome] at unused
    exact valid.unused id unused

theorem claimsCounted_step {runtime : Runtime} {before after : System} {claims : Nat → Nat}
    {event : Event} (positive : 1 ≤ runtime.settings.workerMaxAttempts)
    (valid : ClaimsCounted runtime.settings.workerMaxAttempts (before, claims))
    (checked : withinAttempts runtime.settings before event = true)
    (stepped : Stepped runtime before event after) :
    ClaimsCounted runtime.settings.workerMaxAttempts
      (after, observeClaims claims before event after) := by
  have unchanged : ∀ row ∈ before.store.work.rows,
      (∃ old ∈ before.store.work.rows, DemandedRow old row) ∨
        FreshRow before.store.work.next row :=
    fun row present => Or.inl ⟨row, present, .refl row⟩
  cases stepped with
  | ticked elapsed =>
      exact valid.demand positive rfl rfl unchanged (le_refl _)
  | demanded event store idle changes =>
      exact valid.demand positive (reporting_quiet (performs_of_job idle)) rfl
        changes.rows.origin changes.rows.next
  | claimed workerId pick lease store free taken =>
      exact claimsCounted_claim valid rfl checked taken
  | advanced event index job phase quiet present moved =>
      exact valid.demand positive (reporting_quiet quiet) List.length_set unchanged (le_refl _)
  | performed index job operation todo present next =>
      cases outcome : operation.isOutcome with
      | true => exact claimsCounted_outcome valid rfl checked outcome present next
      | false =>
          have silent : reporting before (.perform index) = none := by
            rw [reporting_perform present next, outcome]
            rfl
          have rows : RowsDemanded before.store
              (perform runtime.settings job.lease before.now before.store operation) :=
            rows_perform outcome
          exact valid.demand positive silent List.length_set rows.origin rows.next
  | cleaned queueDays supersededResultDays chosen store removed =>
      have cleaned := cleanup_cleaned removed
      refine valid.demand positive rfl rfl ?_ (Nat.le_of_eq cleaned.next.symm)
      intro row member
      exact unchanged row (cleaned.work row member)
  | listed event store idle work results activeWikis =>
      have rows := rows_of_work work
      exact valid.demand positive (reporting_quiet (performs_of_job idle)) rfl rows.origin rows.next

/-- In a run whose steps stay within the attempts, no item is claimed more often than the
limit between its creation or last revival and its end. -/
theorem claims_bounded (runtime : Runtime) (start : Time)
    (positive : 1 ≤ runtime.settings.workerMaxAttempts) (watched : System × (Nat → Nat))
    (reached : (claimWatch runtime start).ReachableChecked
      (fun watched event => withinAttempts runtime.settings watched.1 event) watched) (id : Nat) :
    (watched.2 id : Int) ≤ runtime.settings.workerMaxAttempts := by
  have valid : ClaimsCounted runtime.settings.workerMaxAttempts watched := by
    refine Machine.invariant (ClaimsCounted runtime.settings.workerMaxAttempts) ?_ ?_ reached
    · refine ⟨?_, ?_, fun _ _ => rfl, ?_⟩
      · intro row member
        cases member
      · intro row member
        cases member
      · intro unclaimed
        change ((0 : Nat) : Int) ≤ runtime.settings.workerMaxAttempts
        omega
    · intro before event after valid checked taken
      obtain ⟨moved, recorded⟩ := Machine.withHistory_step taken
      have stepped := claimsCounted_step positive valid checked (step_stepped moved)
      rw [← recorded] at stepped
      exact stepped
  exact valid.bounded id

theorem claims_bounded_after_takeover :
    ∃ watched, (claimWatch plainRuntime 0).ReachableChecked
        (fun watched event => withinAttempts fromEnv watched.1 event) watched ∧
      watched.2 0 = 2 ∧ (watched.2 0 : Int) ≤ 8 := by
  have ran : ∃ watched, (claimWatch plainRuntime 0).ReachableChecked
        (fun watched event => withinAttempts fromEnv watched.1 event) watched ∧
      watched.2 0 = 2 :=
    Machine.exists_of_runWhere
      [.enqueue (articleKey 10) 100 false, .claim "a" 0, .crash 0,
        .tick 301000000, .claim "a" 0]
      (by decide)
  obtain ⟨watched, reached, count⟩ := ran
  exact ⟨watched, reached, count, claims_bounded plainRuntime 0 (by decide) watched reached 0⟩

/-- A worker takes the only item, crashes, and comes back when the lease has run out. -/
def crashLoop : Nat → List Event
  | 0 => []
  | rounds + 1 => crashLoop rounds ++ [.claim "a" 0, .crash rounds, .tick 301000000]

/-- Nothing looks at the limit when every worker crashes: the ninth claim still happens. -/
theorem claims_exceed_limit :
    ¬ ∀ (runtime : Runtime) (start : Time) (watched : System × (Nat → Nat)),
        1 ≤ runtime.settings.workerMaxAttempts →
          (claimWatch runtime start).Reachable watched →
            ∀ id, (watched.2 id : Int) ≤ runtime.settings.workerMaxAttempts := by
  intro claimed
  have looped : ∃ watched, (claimWatch plainRuntime 0).Reachable watched ∧ watched.2 0 = 9 :=
    Machine.exists_of_run
      (.enqueue (articleKey 10) 100 false :: crashLoop 9)
      (by decide)
  obtain ⟨watched, reached, count⟩ := looped
  have bound := claimed plainRuntime 0 watched (by decide) reached 0
  rw [count] at bound
  exact absurd bound (by decide)

end WikiPeople
