import WikiPeople.Jobs

/-! Unexpired leases over whole runs: when two workers can hold one item. -/

namespace WikiPeople

open Relational Transition

def Phase.next : Phase → Option Operation
  | .performing (operation :: _) => some operation
  | _ => none

/-- The item and the expiry of every lease ever taken, in the order of the claims. -/
def System.leases (system : System) : List (Nat × Time) :=
  system.jobs.map (fun job => (job.lease.id, job.leaseUntil))

def reporting (system : System) (event : Event) : Option Nat :=
  event.performs.filter (fun index =>
    (system.jobs[index]?.bind (fun job => job.phase.next)).any Operation.isOutcome)

def observeReports (reported : List Nat) (before : System) (event : Event) (_ : System) :
    List Nat :=
  (reporting before event).toList ++ reported

/-- No later lease was taken on the item of the lease at `index`. -/
def latestLease (leases : List (Nat × Time)) (index : Nat) : Bool :=
  leases[index]?.all (fun lease =>
    (leases.drop (index + 1)).all (fun later => later.1 ≠ lease.1))

/-- No outcome is reported under a lease whose item was claimed again since. -/
def reportsLatest (system : System) (event : Event) : Bool :=
  (reporting system event).all (fun index => latestLease system.leases index)

/-- The service with the list of the jobs that reported an outcome. -/
def reportWatch (runtime : Runtime) (start : Time) : Machine (System × List Nat) Event :=
  (service runtime start).withHistory [] observeReports

def Latest (leases : List (Nat × Time)) (index id : Nat) : Prop :=
  ∀ later expiry, index < later → leases[later]? ≠ some (id, expiry)

theorem latest_of_check {leases : List (Nat × Time)} {index id : Nat} {expiry : Time}
    (found : leases[index]? = some (id, expiry)) (checked : latestLease leases index = true) :
    Latest leases index id := by
  intro later laterExpiry after same
  simp only [latestLease, found, Option.all_some, List.all_eq_true, decide_eq_true_eq] at checked
  have inside : (leases.drop (index + 1))[later - (index + 1)]? = some (id, laterExpiry) := by
    rw [List.getElem?_drop, Nat.add_sub_cancel' after]
    exact same
  exact checked (id, laterExpiry) (List.mem_of_getElem? inside) rfl

/-- The newest unreported lease of an item is the one its row carries, and every earlier
lease of an item was reported or ran out. -/
structure LeasesHeld (watched : System × List Nat) : Prop where
  held : ∀ index id expiry, watched.1.leases[index]? = some (id, expiry) →
    index ∉ watched.2 → Latest watched.1.leases index id →
      ∃ row ∈ watched.1.store.work.rows, row.id = id ∧ row.state = .leased ∧
        row.leaseUntil = some expiry
  expired : ∀ earlier later id expiry laterExpiry, earlier < later →
    watched.1.leases[earlier]? = some (id, expiry) →
      watched.1.leases[later]? = some (id, laterExpiry) →
        earlier ∈ watched.2 ∨ expiry < watched.1.now

theorem leases_replaced {system : System} {index : Nat} {job : Job} (phase : Phase)
    (present : system.jobs[index]? = some job) :
    (system.jobs.set index { job with phase := phase }).map
        (fun job => (job.lease.id, job.leaseUntil)) = system.leases :=
  map_replaced present rfl

theorem reporting_quiet {system : System} {event : Event} (quiet : event.performs = none) :
    reporting system event = none := by
  simp [reporting, quiet]

theorem reporting_perform {system : System} {index : Nat} {job : Job} {operation : Operation}
    {todo : List Operation} (present : system.jobs[index]? = some job)
    (next : job.phase = .performing (operation :: todo)) :
    reporting system (.perform index) = if operation.isOutcome then some index else none := by
  cases outcome : operation.isOutcome <;>
    simp [reporting, Event.performs, present, Phase.next, next, outcome]

theorem LeasesHeld.frame {before after : System} {reported : List Nat}
    (held : LeasesHeld (before, reported)) (leases : after.leases = before.leases)
    (now : before.now ≤ after.now)
    (rows : ∀ row ∈ before.store.work.rows, row.state = .leased →
      ∃ same ∈ after.store.work.rows, same.id = row.id ∧ same.state = .leased ∧
        same.leaseUntil = row.leaseUntil) : LeasesHeld (after, reported) where
  held := by
    intro index id expiry found unreported latest
    rw [leases] at found latest
    obtain ⟨row, present, number, leased, until_⟩ := held.held index id expiry found unreported
      latest
    obtain ⟨same, member, kept, still, expiryKept⟩ := rows row present leased
    exact ⟨same, member, kept.trans number, still, expiryKept.trans until_⟩
  expired := by
    intro earlier later id expiry laterExpiry order first second
    rw [leases] at first second
    rcases held.expired earlier later id expiry laterExpiry order first second with told | past
    · exact Or.inl told
    · exact Or.inr (past.trans_le now)

theorem RowsDemanded.leased {store after : Store} (demanded : RowsDemanded store after) :
    ∀ row ∈ store.work.rows, row.state = .leased →
      ∃ same ∈ after.work.rows, same.id = row.id ∧ same.state = .leased ∧
        same.leaseUntil = row.leaseUntil := by
  intro row present leased
  obtain ⟨same, member, kept⟩ := demanded.kept row present
  exact ⟨same, member, kept.number, kept.leased leased, kept.expiry⟩

theorem leasesHeld_claim {system : System} {reported : List Nat} {store : Store}
    {settings : Settings} {workerId : String} {pick : Nat} {lease : WorkLease}
    (held : LeasesHeld (system, reported))
    (taken : claim system.store workerId settings.workerLeaseSeconds pick system.now =
      some (lease, store)) :
    LeasesHeld
      ({ system with
          store := store
          jobs := system.jobs ++ [newJob settings workerId system.now lease] }, reported) := by
  obtain ⟨item, present, due, rfl, rfl⟩ := claim_taken taken
  have grown : System.leases
      { system with
        store := system.store.updateWork (fun row => row.id = item.id)
          (leasing workerId settings.workerLeaseSeconds system.now)
        jobs := system.jobs ++ [newJob settings workerId system.now (leaseOf item)] } =
      system.leases ++ [(item.id, system.now + seconds settings.workerLeaseSeconds)] := by
    simp [System.leases, newJob, leaseOf]
  constructor
  · intro index id expiry found unreported latest
    rw [grown] at found latest
    rcases getElem?_appended.mp found with old | ⟨_, new⟩
    · have inside : index < system.leases.length := (List.getElem?_eq_some_iff.mp old).1
      have other : id ≠ item.id := by
        intro same
        subst same
        exact latest system.leases.length _ inside (getElem?_appended.mpr (Or.inr ⟨rfl, rfl⟩))
      have before : Latest system.leases index id := fun later laterExpiry order same =>
        latest later laterExpiry order (getElem?_appended.mpr (Or.inl same))
      obtain ⟨row, member, number, leased, until_⟩ := held.held index id expiry old unreported
        before
      exact ⟨row, mem_updateWork_id.mpr (Or.inl ⟨member, number ▸ other⟩), number, leased, until_⟩
    · cases new
      exact ⟨_, mem_updateWork_id.mpr (Or.inr ⟨item, present, rfl, rfl⟩), rfl, rfl, rfl⟩
  · intro earlier later id expiry laterExpiry order first second
    rw [grown] at first second
    rcases getElem?_appended.mp first with old | ⟨last, _⟩
    · rcases getElem?_appended.mp second with both | ⟨_, new⟩
      · exact held.expired earlier later id expiry laterExpiry order old both
      · cases new
        by_cases told : earlier ∈ reported
        · exact Or.inl told
        by_cases newest : Latest system.leases earlier item.id
        · -- The row still carries the earlier lease, so it was claimed because that ran out.
          obtain ⟨row, member, number, leased, until_⟩ := held.held earlier item.id expiry old told
            newest
          have same : row = item := SerialTable.row_of_number member present number
          subst same
          simp only [claimable, leased, until_, reduceCtorEq, decide_false, Bool.false_and,
            Bool.false_or, decide_true, Bool.true_and, Option.any_some, decide_eq_true_eq] at due
          exact Or.inr due
        · simp only [Latest, not_forall, not_not] at newest
          obtain ⟨between, betweenExpiry, after, same⟩ := newest
          exact held.expired earlier between item.id expiry betweenExpiry after old same
    · have bound : later ≤ system.leases.length := by
        rcases getElem?_appended.mp second with both | ⟨place, _⟩
        · exact Nat.le_of_lt (List.getElem?_eq_some_iff.mp both).1
        · exact Nat.le_of_eq place
      omega

theorem leasesHeld_outcome {settings : Settings} {system : System} {reported : List Nat}
    {index : Nat} {job : Job} {operation : Operation} {todo : List Operation}
    (held : LeasesHeld (system, reported)) (outcome : operation.isOutcome = true)
    (present : system.jobs[index]? = some job)
    (newest : Latest system.leases index job.lease.id) :
    LeasesHeld
      ({ system with
          store := perform settings job.lease system.now system.store operation
          jobs := system.jobs.set index { job with phase := .performing todo } },
        index :: reported) := by
  have leases := leases_replaced (.performing todo) present
  have mine : system.leases[index]? = some (job.lease.id, job.leaseUntil) := by
    simp [System.leases, present]
  constructor
  · intro place id expiry found unreported latest
    simp only [System.leases] at found latest
    rw [leases] at found latest
    rw [List.mem_cons, not_or] at unreported
    obtain ⟨row, member, number, leased, until_⟩ := held.held place id expiry found unreported.2
      latest
    -- The outcome is for another item: this lease and the reported one are both the newest.
    have other : id ≠ job.lease.id := by
      intro same
      subst same
      rcases Nat.lt_or_gt_of_ne unreported.1 with before | after
      · exact latest index job.leaseUntil before mine
      · exact newest place expiry after found
    exact ⟨row, outcome_keeps_others outcome member (number ▸ other), number, leased, until_⟩
  · intro earlier later id expiry laterExpiry order first second
    simp only [System.leases] at first second
    rw [leases] at first second
    rcases held.expired earlier later id expiry laterExpiry order first second with told | past
    · exact Or.inl (List.mem_cons_of_mem index told)
    · exact Or.inr past

theorem leasesHeld_step {runtime : Runtime} {before after : System} {reported : List Nat}
    {event : Event} (held : LeasesHeld (before, reported))
    (current : reportsLatest before event = true)
    (stepped : Stepped runtime before event after) :
    LeasesHeld (after, observeReports reported before event after) := by
  cases stepped with
  | ticked elapsed =>
      exact held.frame rfl (Int.le_add_of_nonneg_right (Int.natCast_nonneg elapsed))
        (fun row present leased => ⟨row, present, rfl, leased, rfl⟩)
  | demanded event store idle changes =>
      simp only [observeReports, reporting_quiet (performs_of_job idle), Option.toList_none,
        List.nil_append]
      exact held.frame rfl (le_refl _) changes.rows.leased
  | claimed workerId pick lease store free taken => exact leasesHeld_claim held taken
  | advanced event index job phase quiet present moved =>
      simp only [observeReports, reporting_quiet quiet, Option.toList_none, List.nil_append]
      exact held.frame (leases_replaced phase present) (le_refl _)
        (fun row present leased => ⟨row, present, rfl, leased, rfl⟩)
  | performed index job operation todo present next =>
      have reports := reporting_perform present next
      cases outcome : operation.isOutcome with
      | true =>
          rw [outcome, if_pos rfl] at reports
          have mine : before.leases[index]? = some (job.lease.id, job.leaseUntil) := by
            simp [System.leases, present]
          have newest : Latest before.leases index job.lease.id := by
            apply latest_of_check mine
            simpa [reportsLatest, reports] using current
          simp only [observeReports, reports, Option.toList_some, List.singleton_append]
          exact leasesHeld_outcome held outcome present newest
      | false =>
          rw [outcome] at reports
          simp only [Bool.false_eq_true, if_false] at reports
          simp only [observeReports, reports, Option.toList_none, List.nil_append]
          exact held.frame (leases_replaced _ present) (le_refl _) (rows_perform outcome).leased
  | cleaned queueDays supersededResultDays chosen store removed =>
      refine held.frame rfl (le_refl _) ?_
      intro row present leased
      have live : row.live = true := (live_iff row).mpr (Or.inr leased)
      exact ⟨row, (cleanup_cleaned removed).live row present live, rfl, leased, rfl⟩
  | listed event store idle work results activeWikis =>
      simp only [observeReports, reporting_quiet (performs_of_job idle), Option.toList_none,
        List.nil_append]
      exact held.frame rfl (le_refl _) (rows_of_work work).leased

theorem leasesHeld {runtime : Runtime} {start : Time} {watched : System × List Nat}
    (reached : (reportWatch runtime start).ReachableChecked
      (fun watched event => reportsLatest watched.1 event) watched) : LeasesHeld watched := by
  refine Machine.invariant LeasesHeld ?_ ?_ reached
  · constructor
    · intro index id expiry found
      cases found
    · intro earlier later id expiry laterExpiry order first
      cases first
  · intro before event after held current taken
    obtain ⟨moved, recorded⟩ := Machine.withHistory_step taken
    have stepped := leasesHeld_step held current (step_stepped moved)
    rw [← recorded] at stepped
    exact stepped

/-- The job has not reported an outcome and its lease has not run out. -/
def Holding (watched : System × List Nat) (index : Nat) (job : Job) : Prop :=
  watched.1.jobs[index]? = some job ∧ index ∉ watched.2 ∧ watched.1.now ≤ job.leaseUntil

instance (watched : System × List Nat) (index : Nat) (job : Job) :
    Decidable (Holding watched index job) :=
  inferInstanceAs (Decidable (_ ∧ _ ∧ _))

/-- No two leases on one item are held at once. -/
def Exclusive (watched : System × List Nat) : Prop :=
  ∀ first second firstJob secondJob, Holding watched first firstJob →
    Holding watched second secondJob → firstJob.lease.id = secondJob.lease.id → first = second

theorem exclusive_of_held {watched : System × List Nat} (held : LeasesHeld watched) :
    Exclusive watched := by
  have ordered : ∀ first second firstJob secondJob, Holding watched first firstJob →
      Holding watched second secondJob → firstJob.lease.id = secondJob.lease.id →
        ¬ first < second := by
    intro first second firstJob secondJob left right same order
    have earlier : watched.1.leases[first]? = some (firstJob.lease.id, firstJob.leaseUntil) := by
      simp [System.leases, left.1]
    have later : watched.1.leases[second]? = some (firstJob.lease.id, secondJob.leaseUntil) := by
      simp [System.leases, right.1, same]
    rcases held.expired first second _ _ _ order earlier later with told | past
    · exact left.2.1 told
    · exact absurd left.2.2 (not_le.mpr past)
  intro first second firstJob secondJob left right same
  have notBefore := ordered first second firstJob secondJob left right same
  have notAfter := ordered second first secondJob firstJob right left same.symm
  omega

/-- An outcome ends whatever lease its item is under, since it names the row only by its
number. Where no outcome is reported under an overtaken lease, unexpired leases exclude
each other. -/
theorem outcomes_and_leases (runtime : Runtime) (start : Time) :
    (∀ (lease : WorkLease) (now : Time) (store : Store) (operation : Operation),
        operation.isOutcome = true →
          ∀ row ∈ (perform runtime.settings lease now store operation).work.rows,
            row.id = lease.id → row.state ≠ .leased) ∧
      ∀ watched, (reportWatch runtime start).ReachableChecked
        (fun watched event => reportsLatest watched.1 event) watched → Exclusive watched := by
  constructor
  · intro lease now store operation outcome row member mine
    rcases mem_outcome outcome member with ⟨_, other⟩ | ⟨old, _, _, reported⟩
    · exact absurd mine other
    · exact reported.ended
  · intro watched reached
    exact exclusive_of_held (leasesHeld reached)

theorem exclusive_after_expiry :
    ∃ watched, (reportWatch plainRuntime 0).ReachableChecked
        (fun watched event => reportsLatest watched.1 event) watched ∧
      watched.1.leases = [(0, seconds 300), (0, seconds 601)] ∧ Exclusive watched := by
  have ran : ∃ watched, (reportWatch plainRuntime 0).ReachableChecked
        (fun watched event => reportsLatest watched.1 event) watched ∧
      watched.1.leases = [(0, seconds 300), (0, seconds 601)] :=
    Machine.exists_of_runWhere
      [.enqueue (articleKey 10) 100 false, .claim "a" 0,
        .tick 301000000, .claim "b" 0]
      (by decide)
  obtain ⟨watched, reached, leases⟩ := ran
  exact ⟨watched, reached, leases, (outcomes_and_leases plainRuntime 0).2 watched reached⟩

/-- Worker a fails after its lease ran out and b took the item over. The item is pending
again under b's lease, and c claims it too. -/
theorem unexpired_leases_overlap :
    ¬ ∀ (runtime : Runtime) (start : Time) (watched : System × List Nat),
        (reportWatch runtime start).Reachable watched → Exclusive watched := by
  intro claimed
  have overlap : ∃ watched, (reportWatch plainRuntime 0).Reachable watched ∧
      ∃ second ∈ watched.1.jobs, ∃ third ∈ watched.1.jobs, Holding watched 1 second ∧
        Holding watched 2 third ∧ second.lease.id = third.lease.id :=
    Machine.exists_of_run
      [.enqueue (articleKey 10) 100 false, .claim "a" 0,
        .tick 301000000, .claim "b" 0,
        .getPage 0 (.error (.known .retryableUpstream "Action API indisponible")), .perform 0,
        .tick 30000000, .claim "c" 0]
      (by decide)
  obtain ⟨watched, reached, second, _, third, _, left, right, same⟩ := overlap
  have equal := claimed plainRuntime 0 watched reached 1 2 second third left right same
  exact absurd equal (by decide)

end WikiPeople
