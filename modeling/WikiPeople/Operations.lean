import WikiPeople.System

/-! The database under the methods of the repository and the endpoints alone: each call is
one atomic transaction with any arguments, whoever makes it. -/

namespace WikiPeople

open Relational Transition

structure Database where
  store : Store
  now : Time

inductive Transaction where
  | tick (elapsed : Nat)
  | request (version : Version) (request : Request)
  | enqueue (key : Identity) (priority : Int) (allowCachedResult : Bool)
  | enqueueIfStale (key : Identity) (priority freshnessSeconds : Int)
  | claim (workerId : String) (leaseSeconds : Int) (pick : Nat)
  | saveResult (values : ResultValues)
  | complete (workId : Nat)
  | supersede (workId : Nat) (reason : String)
  | fail (lease : WorkLease) (code message : String) (maxAttempts : Int) (permanent : Bool)
  | revive (workId : Nat) (priority : Int)
  | registerActiveWiki (wiki : String)
  | cleanup (queueDays supersededResultDays : Int) (chosen : List Nat)
  | replaceOptout (wiki : String) (entries : List OptOutEntry)
  | replaceStanding (wiki : String) (records : List StandingRecord)

/-- The store a transaction leaves, or `none` where the database cannot answer so. -/
def execute (runtime : Runtime) (store : Store) (now : Time) : Transaction → Option Store
  | .tick _ => some store
  | .request version request => some (respond runtime version store request now).2
  | .enqueue key priority allowCachedResult =>
      some (enqueue store key priority allowCachedResult now)
  | .enqueueIfStale key priority freshnessSeconds =>
      some (enqueueIfStale store key priority freshnessSeconds now).2
  | .claim workerId leaseSeconds pick => (claim store workerId leaseSeconds pick now).map Prod.snd
  | .saveResult values => some (saveResult store values)
  | .complete workId => some (complete store workId)
  | .supersede workId reason => some (supersede store workId reason now)
  | .fail lease code message maxAttempts permanent =>
      some (fail store lease code message maxAttempts permanent now)
  | .revive workId priority => some (revive store workId priority now)
  | .registerActiveWiki wiki => some (registerActiveWiki store wiki now).2
  | .cleanup queueDays supersededResultDays chosen =>
      cleanup store queueDays supersededResultDays chosen now
  | .replaceOptout wiki entries => some (replaceOptout store wiki entries now).2
  | .replaceStanding wiki records => some (replaceStanding store wiki records now).2

def Transaction.elapsed : Transaction → Nat
  | .tick elapsed => elapsed
  | _ => 0

def transact (runtime : Runtime) (database : Database) (transaction : Transaction) :
    Option Database :=
  (execute runtime database.store database.now transaction).map
    (fun store => ⟨store, database.now + transaction.elapsed⟩)

def repository (runtime : Runtime) (start : Database) : Machine Database Transaction where
  initial := start
  step := transact runtime

theorem transact_eq_some {runtime : Runtime} {before after : Database} {transaction : Transaction}
    (taken : transact runtime before transaction = some after) :
    execute runtime before.store before.now transaction = some after.store ∧
      after.now = before.now + transaction.elapsed := by
  obtain ⟨store, answered, same⟩ := Option.map_eq_some_iff.mp taken
  subst same
  exact ⟨answered, rfl⟩

section Service

variable {runtime : Runtime}

def Operation.transaction (settings : Settings) (lease : WorkLease) : Operation → Transaction
  | .supersede reason => .supersede lease.id reason
  | .enqueueCurrent page => .enqueue (currentKey lease page) lease.priority false
  | .saveResult values => .saveResult values
  | .complete => .complete lease.id
  | .registerActiveWiki => .registerActiveWiki lease.wiki
  | .fail code message permanent =>
      .fail lease code message settings.workerMaxAttempts permanent

theorem perform_executed (settings : Settings) (lease : WorkLease) (now : Time) (store : Store)
    (operation : Operation) :
    execute runtime store now (operation.transaction settings lease) =
      some (perform settings lease now store operation) := by
  cases operation <;> rfl

def System.database (system : System) : Database := ⟨system.store, system.now⟩

theorem step_executed {before after : System} {event : Event}
    (taken : step runtime before event = some after) :
    after.database = before.database ∨
      ∃ transaction, transact runtime before.database transaction = some after.database := by
  have instant : ∀ transaction store, transaction.elapsed = 0 →
      execute runtime before.store before.now transaction = some store →
        transact runtime before.database transaction = some ⟨store, before.now⟩ := by
    intro transaction store timeless answered
    simp [transact, System.database, answered, timeless]
  cases event with
  | tick elapsed =>
      cases taken
      exact Or.inr ⟨.tick elapsed, rfl⟩
  | request version request =>
      cases taken
      exact Or.inr ⟨.request version request, instant _ _ rfl rfl⟩
  | enqueue key priority allowCachedResult =>
      cases taken
      exact Or.inr ⟨.enqueue key priority allowCachedResult, instant _ _ rfl rfl⟩
  | enqueueIfStale key priority freshnessSeconds =>
      cases taken
      exact Or.inr ⟨.enqueueIfStale key priority freshnessSeconds, instant _ _ rfl rfl⟩
  | revive workId priority =>
      cases taken
      exact Or.inr ⟨.revive workId priority, instant _ _ rfl rfl⟩
  | claim workerId pick =>
      simp only [step] at taken
      split at taken
      · obtain ⟨⟨lease, store⟩, found, same⟩ := Option.map_eq_some_iff.mp taken
        subst same
        refine Or.inr ⟨.claim workerId runtime.settings.workerLeaseSeconds pick,
          instant _ _ rfl ?_⟩
        simp [execute, found]
      · cases taken
  | cleanup queueDays supersededResultDays chosen =>
      obtain ⟨store, removed, same⟩ := Option.map_eq_some_iff.mp taken
      subst same
      exact Or.inr ⟨.cleanup queueDays supersededResultDays chosen, instant _ _ rfl removed⟩
  | replaceOptout wiki entries =>
      cases taken
      exact Or.inr ⟨.replaceOptout wiki entries, instant _ _ rfl rfl⟩
  | replaceStanding wiki records =>
      cases taken
      exact Or.inr ⟨.replaceStanding wiki records, instant _ _ rfl rfl⟩
  | perform index =>
      cases step_stepped taken with
      | performed _ job operation todo present next =>
          exact Or.inr ⟨operation.transaction runtime.settings job.lease,
            instant _ _ (by cases operation <;> rfl) (perform_executed _ _ _ _ _)⟩
      | demanded _ _ idle _ => cases idle
      | advanced _ _ _ _ quiet _ _ => cases quiet
      | listed _ _ idle _ _ _ => cases idle
  | _ =>
      cases step_stepped taken with
      | advanced _ _ _ _ _ _ _ => exact Or.inl rfl
      | demanded _ _ idle _ => cases idle
      | listed _ _ idle _ _ _ => cases idle

/-- What the service does to its database, some sequence of calls does. -/
theorem reachable_executed {start : Time} {system : System}
    (reached : (service runtime start).Reachable system) :
    (repository runtime ⟨.empty, start⟩).Reachable system.database := by
  refine Machine.invariant
    (fun system => (repository runtime ⟨.empty, start⟩).Reachable system.database) ?_ ?_ reached
  · exact .initial
  · intro before event after earlier _ taken
    rcases step_executed taken with same | ⟨transaction, moved⟩
    · rw [same]
      exact earlier
    · exact earlier.next moved

end Service

end WikiPeople
