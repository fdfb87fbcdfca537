import WikiPeople.Jobs

/-! Which wikis the scheduled jobs know: every wiki with a stored result, as long as nothing
stops a worker between saving a result and registering its wiki. -/

namespace WikiPeople

open Relational Transition

def Store.knows (store : Store) (wiki : String) : Bool := (store.activeWikis.find wiki).isSome

theorem knows_iff {store : Store} {wiki : String} :
    store.knows wiki = true ↔ wiki ∈ activeWikis store := by
  rw [mem_activeWikis, Store.knows, Option.isSome_iff_exists]
  constructor
  · intro known
    rcases known with ⟨row, found⟩
    exact ⟨row, Table.find_eq_some.mp found⟩
  · intro active
    rcases active with ⟨row, present, same⟩
    exact ⟨row, Table.find_eq_some.mpr ⟨present, same⟩⟩

/-- The result of the job is stored and its wiki has yet to be registered. -/
def Phase.unregistered : Phase → Bool
  | .performing todo => todo = [.complete, .registerActiveWiki] || todo = [.registerActiveWiki]
  | _ => false

theorem unregistered_running {phase : Phase} (unregistered : phase.unregistered = true) :
    phase.ended = false := by
  cases phase with
  | performing todo =>
      cases todo with
      | nil => cases unregistered
      | cons operation rest => rfl
  | fetching => rfl
  | attributing page => rfl
  | crashed => cases unregistered

/-- No crash and no failed transaction stops a job between its result and the registration
of its wiki, unless the wiki is registered already. -/
def sparesRegistration (system : System) : Event → Bool
  | .crash index | .failOperation index _ =>
      system.jobs[index]?.all
        (fun job => !job.phase.unregistered || system.store.knows job.lease.wiki)
  | _ => true

/-- Every result's wiki is registered or about to be. -/
def Registered (system : System) : Prop :=
  ∀ result ∈ system.store.results.rows, system.store.knows result.wiki = true ∨
    ∃ (index : Nat) (job : Job), system.jobs[index]? = some job ∧
      job.lease.wiki = result.wiki ∧ job.phase.unregistered = true

theorem Registered.frame {before after : System} (registered : Registered before)
    (results : ∀ result ∈ after.store.results.rows, result ∈ before.store.results.rows)
    (known : ∀ wiki, before.store.knows wiki = true → after.store.knows wiki = true)
    (jobs : ∀ (index : Nat) (job : Job), before.jobs[index]? = some job →
      job.phase.unregistered = true → after.store.knows job.lease.wiki = true ∨
        ∃ (place : Nat) (other : Job), after.jobs[place]? = some other ∧
          other.lease.wiki = job.lease.wiki ∧ other.phase.unregistered = true) :
    Registered after := by
  intro result member
  rcases registered result (results result member) with active | ⟨index, job, present, wiki, open_⟩
  · exact Or.inl (known _ active)
  · rcases jobs index job present open_ with active | ⟨place, other, found, same, still⟩
    · exact Or.inl (wiki ▸ active)
    · exact Or.inr ⟨place, other, found, same.trans wiki, still⟩

theorem Registered.idle {before after : System} (registered : Registered before)
    (results : ∀ result ∈ after.store.results.rows, result ∈ before.store.results.rows)
    (activeWikis : after.store.activeWikis = before.store.activeWikis)
    (jobs : after.jobs = before.jobs) : Registered after := by
  refine registered.frame results ?_ ?_
  · intro wiki known
    rw [Store.knows, activeWikis]
    exact known
  · intro index job present unregistered
    rw [jobs]
    exact Or.inr ⟨index, job, present, rfl, unregistered⟩

theorem Registered.replaced {system : System} {store : Store} {index : Nat} {job : Job}
    {phase : Phase} (registered : Registered system) (present : system.jobs[index]? = some job)
    (results : ∀ result ∈ store.results.rows, result ∈ system.store.results.rows)
    (known : ∀ wiki, system.store.knows wiki = true → store.knows wiki = true)
    (own : job.phase.unregistered = true →
      store.knows job.lease.wiki = true ∨ phase.unregistered = true) :
    Registered { system with
      store := store, jobs := system.jobs.set index { job with phase := phase } } := by
  apply registered.frame results known
  intro place other found unregistered
  by_cases same : place = index
  · subst same
    have equal : other = job := Option.some.inj (found.symm.trans present)
    subst equal
    rcases own unregistered with active | still
    · exact Or.inl active
    · exact Or.inr ⟨place, _, (getElem?_replaced present).mpr (Or.inl ⟨rfl, rfl⟩), rfl, still⟩
  · exact Or.inr ⟨place, other, (getElem?_replaced present).mpr (Or.inr ⟨same, found⟩), rfl,
      unregistered⟩

theorem knows_register {store : Store} {wiki other : String} {now : Time}
    (known : store.knows other = true) :
    (registerActiveWiki store wiki now).2.knows other = true :=
  knows_iff.mpr (register_keeps (knows_iff.mp known))

theorem knows_of_activeWikis {before after : Store} (same : after.activeWikis = before.activeWikis)
    {wiki : String} (known : before.knows wiki = true) : after.knows wiki = true := by
  rw [Store.knows, same]
  exact known

theorem perform_knows {settings : Settings} {lease : WorkLease} {now : Time} {store : Store}
    {operation : Operation} {wiki : String} (known : store.knows wiki = true) :
    (perform settings lease now store operation).knows wiki = true := by
  cases operation with
  | registerActiveWiki => exact knows_register known
  | supersede reason => exact known
  | enqueueCurrent page =>
      refine knows_of_activeWikis ?_ known
      simp only [perform]
      rw [enqueue_frame]
  | saveResult values => exact knows_of_activeWikis (saveResult_activeWikis store values) known
  | complete => exact known
  | fail code message permanent => exact known

theorem registered_perform {settings : Settings} {system : System} {index : Nat} {job : Job}
    {operation : Operation} {todo : List Operation} (registered : Registered system)
    (planned : JobsPlanned system) (present : system.jobs[index]? = some job)
    (next : job.phase = .performing (operation :: todo)) :
    Registered { system with
      store := perform settings job.lease system.now system.store operation
      jobs := system.jobs.set index { job with phase := .performing todo } } := by
  have own := planned index job present
  rw [next] at own
  by_cases saves : ∃ values, operation = .saveResult values
  · obtain ⟨values, rfl⟩ := saves
    cases own with
    | saving _ same =>
        intro result member
        rcases mem_saveResult.mp member with ⟨old, _⟩ | new
        · have before : Registered { system with
              jobs := system.jobs.set index
                { job with phase := .performing [.complete, .registerActiveWiki] } } :=
            registered.replaced present (fun _ => id) (fun _ => id) (fun _ => Or.inr rfl)
          rcases before result old with active | waiting
          · exact Or.inl (perform_knows active)
          · exact Or.inr waiting
        · refine Or.inr ⟨index, _, (getElem?_replaced present).mpr (Or.inl ⟨rfl, rfl⟩), ?_, rfl⟩
          rw [new]
          exact congrArg (fun key : Identity => key.wiki) same.symm
  · have kept : (perform settings job.lease system.now system.store operation).results =
        system.store.results := perform_results (not_exists.mp saves)
    refine registered.replaced present ?_ (fun _ => perform_knows) ?_
    · rw [kept]
      exact fun _ => id
    · rw [next]
      intro unregistered
      cases own with
      | saving values same => exact Or.inr rfl
      | completing => exact Or.inr rfl
      | registering => exact Or.inl (knows_iff.mpr register_activeWikis)
      | refusing reason => cases unregistered
      | overtaken reason page => cases unregistered
      | requeueing page => cases unregistered
      | failing code message permanent => cases unregistered

theorem registered_step {runtime : Runtime} {before after : System} {event : Event}
    (registered : Registered before) (planned : JobsPlanned before)
    (spared : sparesRegistration before event = true)
    (stepped : Stepped runtime before event after) : Registered after := by
  cases stepped with
  | ticked elapsed => exact registered
  | demanded event store idle changes =>
      refine registered.idle ?_ changes.activeWikis rfl
      rw [changes.results]
      exact fun _ => id
  | claimed workerId pick lease store free taken =>
      obtain ⟨item, _, _, _, rfl⟩ := claim_taken taken
      refine registered.frame (fun _ => id) (fun _ => id) ?_
      intro index job present unregistered
      exact Or.inr ⟨index, job, getElem?_appended.mpr (Or.inl present), rfl, unregistered⟩
  | advanced event index job phase quiet present moved =>
      apply registered.replaced present (fun _ => id) (fun _ => id)
      intro unregistered
      have known : event = .crash index ∨ (∃ message, event = .failOperation index message) →
          before.store.knows job.lease.wiki = true := by
        intro stops
        rcases stops with rfl | ⟨message, rfl⟩
        · simpa [sparesRegistration, present, unregistered] using spared
        · simpa [sparesRegistration, present, unregistered] using spared
      rcases moved with ⟨answer, _, fetching, _⟩ | ⟨page, answer, _, attributing, _⟩ |
        ⟨operation, todo, message, fails, _, _⟩ | ⟨crashes, _, _⟩
      · rw [fetching] at unregistered
        cases unregistered
      · rw [attributing] at unregistered
        cases unregistered
      · exact Or.inl (known (Or.inr ⟨message, fails⟩))
      · exact Or.inl (known (Or.inl crashes))
  | performed index job operation todo present next =>
      exact registered_perform registered planned present next
  | cleaned queueDays supersededResultDays chosen store removed =>
      have cleaned := cleanup_cleaned removed
      exact registered.idle cleaned.results cleaned.activeWikis rfl
  | listed event store idle work results activeWikis =>
      refine registered.idle ?_ activeWikis rfl
      rw [results]
      exact fun _ => id

/-- In a run that spares registrations, whenever every job has ended the scheduled jobs know
the wiki of every stored result. -/
theorem results_registered (runtime : Runtime) (start : Time) (system : System)
    (reached : (service runtime start).ReachableChecked sparesRegistration system)
    (idle : ∀ job ∈ system.jobs, job.phase.ended = true) :
    ∀ result ∈ system.store.results.rows, result.wiki ∈ activeWikis system.store := by
  have valid : Registered system := by
    refine Machine.invariant_of_reached Registered ?_ ?_ reached
    · intro result member
      cases member
    · intro before event after earlier registered spared taken
      have planned := jobsPlanned earlier.reachable
      exact registered_step registered planned spared (step_stepped taken)
  intro result member
  rcases valid result member with known | ⟨index, job, present, _, unregistered⟩
  · exact knows_iff.mp known
  · have running := unregistered_running unregistered
    rw [idle job (List.mem_of_getElem? present)] at running
    cases running

theorem results_registered_first :
    ∃ system, (service plainRuntime 0).ReachableChecked sparesRegistration system ∧
      system.store.results.rows.length = 1 ∧
        ∀ result ∈ system.store.results.rows, result.wiki ∈ activeWikis system.store := by
  have ran : ∃ system, (service plainRuntime 0).ReachableChecked sparesRegistration system ∧
      (system.store.results.rows.length = 1 ∧ ∀ job ∈ system.jobs, job.phase.ended = true) :=
    Machine.exists_of_runWhere
      [.enqueue (articleKey 10) 100 false, .claim "a" 0, .getPage 0 (.ok (articlePage 10)),
        .attributePage 0 (.ok ownTokens), .perform 0, .perform 0, .perform 0]
      (by decide)
  obtain ⟨system, reached, stored, idle⟩ := ran
  exact ⟨system, reached, stored, results_registered plainRuntime 0 system reached idle⟩

/-- The worker stops after it deleted its job: the result is served, nothing retries the
registration, and no scheduled job ever reads the wiki. -/
theorem result_never_registered :
    ¬ ∀ (runtime : Runtime) (start : Time) (system : System),
        (service runtime start).Reachable system →
          (∀ job ∈ system.jobs, job.phase.ended = true) →
            ∀ result ∈ system.store.results.rows, result.wiki ∈ activeWikis system.store := by
  intro claimed
  have stopped : ∃ system, (service plainRuntime 0).Reachable system ∧
      ((∀ job ∈ system.jobs, job.phase.ended = true) ∧
        ∃ result ∈ system.store.results.rows, system.store.knows result.wiki = false) :=
    Machine.exists_of_run
      [.enqueue (articleKey 10) 100 false, .claim "a" 0, .getPage 0 (.ok (articlePage 10)),
        .attributePage 0 (.ok ownTokens), .perform 0, .perform 0, .crash 0]
      (by decide)
  obtain ⟨system, reached, idle, result, present, unknown⟩ := stopped
  have active := claimed plainRuntime 0 system reached idle result present
  rw [knows_iff.mpr active] at unknown
  cases unknown

end WikiPeople
