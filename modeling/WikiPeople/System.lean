import WikiPeople.App
import WikiPeople.Library.Machine
import WikiPeople.Repository.Cleanup
import WikiPeople.Worker

/-! The whole service as a machine: readers, scheduled jobs and any number of workers over
one database. Every transaction is one event, and a worker can stop between any two. -/

namespace WikiPeople

open Transition

inductive Phase where
  | fetching
  | attributing (page : PageMetadata)
  | performing (todo : List Operation)
  | crashed
  deriving DecidableEq

/-- One call of `run_once` that claimed a lease. -/
structure Job where
  lease : WorkLease
  workerId : String
  leaseUntil : Time
  phase : Phase
  deriving DecidableEq

def Phase.ended : Phase → Bool
  | .performing [] => true
  | .crashed => true
  | _ => false

def afterPage (lease : WorkLease) : Except Exn PageMetadata → Phase
  | .error raised => .performing [failure raised]
  | .ok page =>
      match refusing lease page with
      | some refusals => .performing refusals
      | none => .attributing page

def afterAttribution (lease : WorkLease) (page : PageMetadata) (computedAt : Time) :
    Except Exn Attributed → Phase
  | .error raised => .performing [failure raised]
  | .ok attributed => .performing (storing lease page attributed computedAt)

/-- A failed transaction raises in `process` and is reported, unless it is the report. -/
def afterFailure (operation : Operation) (message : String) : Phase :=
  if operation.isFail then .crashed else .performing [failure (.unexpected message)]

/-- Jobs stay in the list after they ended, in the order of their claims. -/
structure System where
  store : Store
  now : Time
  jobs : List Job

inductive Event where
  | tick (elapsed : Nat)
  | request (version : Version) (request : Request)
  | enqueue (key : Identity) (priority : Int) (allowCachedResult : Bool)
  | enqueueIfStale (key : Identity) (priority freshnessSeconds : Int)
  | revive (workId : Nat) (priority : Int)
  | claim (workerId : String) (pick : Nat)
  | getPage (job : Nat) (answer : Except Exn PageMetadata)
  | attributePage (job : Nat) (answer : Except Exn Attributed)
  | perform (job : Nat)
  | failOperation (job : Nat) (message : String)
  | crash (job : Nat)
  | cleanup (queueDays supersededResultDays : Int) (chosen : List Nat)
  | replaceOptout (wiki : String) (entries : List OptOutEntry)
  | replaceStanding (wiki : String) (records : List StandingRecord)

def Event.job : Event → Option Nat
  | .getPage job _ | .attributePage job _ | .perform job | .failOperation job _ | .crash job =>
      some job
  | _ => none

def Event.performs : Event → Option Nat
  | .perform job => some job
  | _ => none

theorem performs_of_job {event : Event} (idle : event.job = none) : event.performs = none := by
  cases event with
  | perform job => cases idle
  | _ => rfl

/-- A worker takes its next lease only when its last job has ended. -/
def workerFree (system : System) (workerId : String) : Bool :=
  system.jobs.all (fun job => job.workerId ≠ workerId || job.phase.ended)

def newJob (settings : Settings) (workerId : String) (now : Time) (lease : WorkLease) : Job where
  lease := lease
  workerId := workerId
  leaseUntil := now + seconds settings.workerLeaseSeconds
  phase := .fetching

/-- The job at this place with its phase replaced, where `advance` accepts the one it has. -/
def advanceJob (system : System) (index : Nat) (advance : Job → Option (Phase × Store)) :
    Option System :=
  system.jobs[index]?.bind fun job =>
    (advance job).map fun (phase, store) =>
      { system with store := store, jobs := system.jobs.set index { job with phase := phase } }

def onGetPage (answer : Except Exn PageMetadata) (store : Store) (job : Job) :
    Option (Phase × Store) :=
  match job.phase with
  | .fetching => some (afterPage job.lease answer, store)
  | _ => none

def onAttribute (answer : Except Exn Attributed) (now : Time) (store : Store) (job : Job) :
    Option (Phase × Store) :=
  match job.phase with
  | .attributing page => some (afterAttribution job.lease page now answer, store)
  | _ => none

def onPerform (settings : Settings) (now : Time) (store : Store) (job : Job) :
    Option (Phase × Store) :=
  match job.phase with
  | .performing (operation :: todo) =>
      some (.performing todo, perform settings job.lease now store operation)
  | _ => none

def onFailure (message : String) (store : Store) (job : Job) : Option (Phase × Store) :=
  match job.phase with
  | .performing (operation :: _) => some (afterFailure operation message, store)
  | _ => none

def onCrash (store : Store) (job : Job) : Option (Phase × Store) :=
  if job.phase.ended then none else some (.crashed, store)

def step (runtime : Runtime) (system : System) : Event → Option System
  | .tick elapsed => some { system with now := system.now + elapsed }
  | .request version request =>
      some { system with store := (respond runtime version system.store request system.now).2 }
  | .enqueue key priority allowCachedResult =>
      some { system with
        store := enqueue system.store key priority allowCachedResult system.now }
  | .enqueueIfStale key priority freshnessSeconds =>
      some { system with
        store := (enqueueIfStale system.store key priority freshnessSeconds system.now).2 }
  | .revive workId priority =>
      some { system with store := revive system.store workId priority system.now }
  | .claim workerId pick =>
      if workerFree system workerId then
        (claim system.store workerId runtime.settings.workerLeaseSeconds pick system.now).map
          fun (lease, store) =>
            { system with
              store := store
              jobs := system.jobs ++ [newJob runtime.settings workerId system.now lease] }
      else none
  | .getPage job answer => advanceJob system job (onGetPage answer system.store)
  | .attributePage job answer => advanceJob system job (onAttribute answer system.now system.store)
  | .perform job => advanceJob system job (onPerform runtime.settings system.now system.store)
  | .failOperation job message => advanceJob system job (onFailure message system.store)
  | .crash job => advanceJob system job (onCrash system.store)
  | .cleanup queueDays supersededResultDays chosen =>
      (cleanup system.store queueDays supersededResultDays chosen system.now).map
        (fun store => { system with store := store })
  | .replaceOptout wiki entries =>
      some { system with store := (replaceOptout system.store wiki entries system.now).2 }
  | .replaceStanding wiki records =>
      some { system with store := (replaceStanding system.store wiki records system.now).2 }

def service (runtime : Runtime) (start : Time) : Machine System Event where
  initial := ⟨.empty, start, []⟩
  step := step runtime

/-- A deployment with no setting changed, over stand-ins for what the libraries compute. -/
def plainRuntime : Runtime where
  settings := fromEnv
  alphabet := Text.asciiAlphabet
  hexdigest := id
  formatFloat := fun share => toString share.num
  validationError := fun _ => .null

/-- What readers and schedules do to the queue: nothing but enqueue keys and revive the dead. -/
inductive Demanded (now : Time) (store : Store) : Store → Prop
  | unchanged : Demanded now store store
  | enqueued {reached : Store} (before : Demanded now store reached) (key : Identity)
      (priority : Int) (allowCachedResult : Bool) :
      Demanded now store (enqueue reached key priority allowCachedResult now)
  | revived {reached : Store} (before : Demanded now store reached) (workId : Nat)
      (priority : Int) : Demanded now store (revive reached workId priority now)

section Demand

variable {store : Store} {now : Time}

theorem Demanded.enqueueIfStale {reached : Store} (before : Demanded now store reached)
    (key : Identity) (priority freshness : Int) :
    Demanded now store (enqueueIfStale reached key priority freshness now).2 := by
  rcases enqueueIfStale_store reached key priority freshness now with same | queued
  · rw [same]
    exact before
  · rw [queued]
    exact .enqueued before key priority true

theorem Demanded.reviveDead {reached : Store} (before : Demanded now store reached)
    (settings : Settings) (key : Identity) :
    Demanded now store (reviveDead settings reached key now) := by
  rcases reviveDead_store settings reached key now with same | ⟨work, _, _, revival⟩
  · rw [same]
    exact before
  · rw [revival]
    exact .revived before work.id demand

theorem respond_demanded (runtime : Runtime) (version : Version) (request : Request) :
    Demanded now store (respond runtime version store request now).2 := by
  cases version with
  | v1 =>
      simp only [respond, pageAttribution]
      split
      · exact .unchanged
      · split
        · exact .unchanged
        · split
          · exact .unchanged
          · exact .enqueued (.reviveDead .unchanged _ _) _ _ _
  | v2 =>
      simp only [respond, pageAttributionByFreshness]
      split
      · exact .unchanged
      · split
        · dsimp only
          split
          · exact .unchanged
          · exact .enqueueIfStale (.reviveDead .unchanged _ _) _ _ _
        · split
          · exact .unchanged
          · exact .enqueueIfStale (.reviveDead .unchanged _ _) _ _ _

theorem Demanded.frame {after : Store} (demanded : Demanded now store after) :
    after = { store with work := after.work } := by
  induction demanded with
  | unchanged => rfl
  | enqueued _ key priority allowCachedResult ih =>
      rw [enqueue_frame, ih]
  | revived _ workId priority ih =>
      simp only [revive, Store.updateWork]
      rw [ih]

theorem Demanded.results {after : Store} (demanded : Demanded now store after) :
    after.results = store.results := by
  rw [demanded.frame]

theorem Demanded.activeWikis {after : Store} (demanded : Demanded now store after) :
    after.activeWikis = store.activeWikis := by
  rw [demanded.frame]

end Demand

inductive Stepped (runtime : Runtime) (system : System) : Event → System → Prop
  | ticked (elapsed : Nat) :
      Stepped runtime system (.tick elapsed) { system with now := system.now + elapsed }
  | demanded (event : Event) (store : Store) (idle : event.job = none)
      (changes : Demanded system.now system.store store) :
      Stepped runtime system event { system with store := store }
  | claimed (workerId : String) (pick : Nat) (lease : WorkLease) (store : Store)
      (free : workerFree system workerId = true)
      (taken : claim system.store workerId runtime.settings.workerLeaseSeconds pick system.now =
        some (lease, store)) :
      Stepped runtime system (.claim workerId pick)
        { system with
          store := store
          jobs := system.jobs ++ [newJob runtime.settings workerId system.now lease] }
  | advanced (event : Event) (index : Nat) (job : Job) (phase : Phase)
      (quiet : event.performs = none) (present : system.jobs[index]? = some job)
      (moved : (∃ answer, event = .getPage index answer ∧ job.phase = .fetching ∧
            phase = afterPage job.lease answer) ∨
          (∃ page answer, event = .attributePage index answer ∧ job.phase = .attributing page ∧
            phase = afterAttribution job.lease page system.now answer) ∨
          (∃ operation todo message, event = .failOperation index message ∧
            job.phase = .performing (operation :: todo) ∧
            phase = afterFailure operation message) ∨
          (event = .crash index ∧ job.phase.ended = false ∧ phase = .crashed)) :
      Stepped runtime system event
        { system with jobs := system.jobs.set index { job with phase := phase } }
  | performed (index : Nat) (job : Job) (operation : Operation) (todo : List Operation)
      (present : system.jobs[index]? = some job)
      (next : job.phase = .performing (operation :: todo)) :
      Stepped runtime system (.perform index)
        { system with
          store := perform runtime.settings job.lease system.now system.store operation
          jobs := system.jobs.set index { job with phase := .performing todo } }
  | cleaned (queueDays supersededResultDays : Int) (chosen : List Nat) (store : Store)
      (removed : cleanup system.store queueDays supersededResultDays chosen system.now =
        some store) :
      Stepped runtime system (.cleanup queueDays supersededResultDays chosen)
        { system with store := store }
  | listed (event : Event) (store : Store) (idle : event.job = none)
      (work : store.work = system.store.work)
      (results : store.results = system.store.results)
      (activeWikis : store.activeWikis = system.store.activeWikis) :
      Stepped runtime system event { system with store := store }

theorem advanceJob_eq_some {system after : System} {index : Nat}
    {advance : Job → Option (Phase × Store)}
    (advanced : advanceJob system index advance = some after) :
    ∃ job phase store, system.jobs[index]? = some job ∧ advance job = some (phase, store) ∧
      after = { system with
        store := store, jobs := system.jobs.set index { job with phase := phase } } := by
  obtain ⟨job, present, moved⟩ := Option.bind_eq_some_iff.mp advanced
  obtain ⟨⟨phase, store⟩, accepted, same⟩ := Option.map_eq_some_iff.mp moved
  exact ⟨job, phase, store, present, accepted, same.symm⟩

theorem step_stepped {runtime : Runtime} {system after : System} {event : Event}
    (taken : step runtime system event = some after) : Stepped runtime system event after := by
  cases event with
  | tick elapsed =>
      cases taken
      exact .ticked elapsed
  | request version request =>
      cases taken
      exact .demanded _ _ rfl (respond_demanded runtime version request)
  | enqueue key priority allowCachedResult =>
      cases taken
      exact .demanded _ _ rfl (.enqueued .unchanged key priority allowCachedResult)
  | enqueueIfStale key priority freshnessSeconds =>
      cases taken
      exact .demanded _ _ rfl (.enqueueIfStale .unchanged key priority freshnessSeconds)
  | revive workId priority =>
      cases taken
      exact .demanded _ _ rfl (.revived .unchanged workId priority)
  | claim workerId pick =>
      simp only [step] at taken
      split at taken
      · rename_i free
        obtain ⟨⟨lease, store⟩, found, same⟩ := Option.map_eq_some_iff.mp taken
        subst same
        exact .claimed workerId pick lease store free found
      · cases taken
  | getPage index answer =>
      obtain ⟨job, phase, store, present, accepted, rfl⟩ := advanceJob_eq_some taken
      unfold onGetPage at accepted
      split at accepted
      · rename_i fetching
        cases accepted
        exact .advanced _ index job _ rfl present (Or.inl ⟨answer, rfl, fetching, rfl⟩)
      · cases accepted
  | attributePage index answer =>
      obtain ⟨job, phase, store, present, accepted, rfl⟩ := advanceJob_eq_some taken
      unfold onAttribute at accepted
      split at accepted
      · rename_i page attributing
        cases accepted
        exact .advanced _ index job _ rfl present
          (Or.inr (Or.inl ⟨page, answer, rfl, attributing, rfl⟩))
      · cases accepted
  | perform index =>
      obtain ⟨job, phase, store, present, accepted, rfl⟩ := advanceJob_eq_some taken
      unfold onPerform at accepted
      split at accepted
      · rename_i operation todo next
        cases accepted
        exact .performed index job operation todo present next
      · cases accepted
  | failOperation index message =>
      obtain ⟨job, phase, store, present, accepted, rfl⟩ := advanceJob_eq_some taken
      unfold onFailure at accepted
      split at accepted
      · rename_i operation todo next
        cases accepted
        exact .advanced _ index job _ rfl present
          (Or.inr (Or.inr (Or.inl ⟨operation, todo, message, rfl, next, rfl⟩)))
      · cases accepted
  | crash index =>
      obtain ⟨job, phase, store, present, accepted, rfl⟩ := advanceJob_eq_some taken
      unfold onCrash at accepted
      split at accepted
      · cases accepted
      · rename_i running
        cases accepted
        exact .advanced _ index job _ rfl present
          (Or.inr (Or.inr (Or.inr ⟨rfl, by simpa using running, rfl⟩)))
  | cleanup queueDays supersededResultDays chosen =>
      obtain ⟨store, removed, same⟩ := Option.map_eq_some_iff.mp taken
      subst same
      exact .cleaned queueDays supersededResultDays chosen store removed
  | replaceOptout wiki entries =>
      cases taken
      exact .listed _ _ rfl rfl rfl rfl
  | replaceStanding wiki records =>
      cases taken
      exact .listed _ _ rfl rfl rfl rfl

end WikiPeople
