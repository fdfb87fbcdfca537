import WikiPeople.Rows

/-! The phases a job goes through, in every run. -/

namespace WikiPeople

open Transition

inductive Planned (lease : WorkLease) : Phase → Prop
  | fetching : Planned lease .fetching
  | attributing (page : PageMetadata) (current : page.revisionId = lease.revisionId) :
      Planned lease (.attributing page)
  | saving (values : ResultValues) (own : values.toIdentity = lease.toIdentity) :
      Planned lease (.performing [.saveResult values, .complete, .registerActiveWiki])
  | completing : Planned lease (.performing [.complete, .registerActiveWiki])
  | registering : Planned lease (.performing [.registerActiveWiki])
  | refusing (reason : String) : Planned lease (.performing [.supersede reason])
  | overtaken (reason : String) (page : PageMetadata) :
      Planned lease (.performing [.supersede reason, .enqueueCurrent page])
  | requeueing (page : PageMetadata) : Planned lease (.performing [.enqueueCurrent page])
  | failing (code message : String) (permanent : Bool) :
      Planned lease (.performing [.fail code message permanent])
  | done : Planned lease (.performing [])
  | crashed : Planned lease .crashed

theorem planned_failure (lease : WorkLease) (raised : Exn) :
    Planned lease (.performing [failure raised]) := by
  cases raised with
  | known kind message => exact .failing _ _ _
  | unexpected message => exact .failing _ _ _

theorem planned_afterPage (lease : WorkLease) (answer : Except Exn PageMetadata) :
    Planned lease (afterPage lease answer) := by
  cases answer with
  | error raised => exact planned_failure lease raised
  | ok page =>
      simp only [afterPage, refusing]
      by_cases article : page.pageNamespace ≠ 0
      · rw [if_pos article]
        exact .refusing offMainNamespace
      · rw [if_neg article]
        by_cases redirect : page.isRedirect = true
        · rw [if_pos redirect]
          exact .refusing redirectPage
        · rw [if_neg redirect]
          by_cases moved : page.revisionId ≠ lease.revisionId
          · rw [if_pos moved]
            exact .overtaken _ page
          · rw [if_neg moved]
            exact .attributing page (not_not.mp moved)

theorem planned_afterAttribution (lease : WorkLease) (page : PageMetadata) (computedAt : Time)
    (answer : Except Exn Attributed) :
    Planned lease (afterAttribution lease page computedAt answer) := by
  cases answer with
  | error raised => exact planned_failure lease raised
  | ok attributed => exact .saving _ rfl

theorem planned_afterFailure (lease : WorkLease) (operation : Operation) (message : String) :
    Planned lease (afterFailure operation message) := by
  unfold afterFailure
  split
  · exact .crashed
  · exact planned_failure lease (.unexpected message)

theorem Planned.tail {lease : WorkLease} {operation : Operation} {todo : List Operation}
    (planned : Planned lease (.performing (operation :: todo))) :
    Planned lease (.performing todo) := by
  cases planned with
  | saving values own => exact .completing
  | completing => exact .registering
  | registering => exact .done
  | refusing reason => exact .done
  | overtaken reason page => exact .requeueing page
  | requeueing page => exact .done
  | failing code message permanent => exact .done

def JobsPlanned (system : System) : Prop :=
  ∀ (index : Nat) (job : Job), system.jobs[index]? = some job → Planned job.lease job.phase

theorem jobsPlanned_replaced {system : System} {store : Store} {index : Nat} {job : Job}
    {phase : Phase} (planned : JobsPlanned system) (present : system.jobs[index]? = some job)
    (next : Planned job.lease phase) :
    JobsPlanned { system with
      store := store, jobs := system.jobs.set index { job with phase := phase } } := by
  intro place other found
  rcases (getElem?_replaced present).mp found with ⟨_, rfl⟩ | ⟨_, old⟩
  · exact next
  · exact planned place other old

theorem jobsPlanned_step {runtime : Runtime} {before after : System} {event : Event}
    (planned : JobsPlanned before) (stepped : Stepped runtime before event after) :
    JobsPlanned after := by
  cases stepped with
  | ticked elapsed => exact planned
  | demanded event store idle changes => exact planned
  | claimed workerId pick lease store free taken =>
      intro index job found
      rcases getElem?_appended.mp found with old | ⟨_, rfl⟩
      · exact planned index job old
      · exact .fetching
  | advanced event index job phase quiet present moved =>
      apply jobsPlanned_replaced planned present
      rcases moved with ⟨answer, _, _, rfl⟩ | ⟨page, answer, _, _, rfl⟩ |
        ⟨operation, todo, message, _, _, rfl⟩ | ⟨_, _, rfl⟩
      · exact planned_afterPage job.lease answer
      · exact planned_afterAttribution job.lease page before.now answer
      · exact planned_afterFailure job.lease operation message
      · exact .crashed
  | performed index job operation todo present next =>
      have current := planned index job present
      rw [next] at current
      exact jobsPlanned_replaced planned present current.tail
  | cleaned queueDays supersededResultDays chosen store removed => exact planned
  | listed event store idle work results activeWikis => exact planned

theorem jobsPlanned {runtime : Runtime} {start : Time} {system : System}
    (reached : (service runtime start).Reachable system) : JobsPlanned system := by
  refine Machine.invariant JobsPlanned ?_ ?_ reached
  · intro index job found
    cases found
  · intro before event after planned _ taken
    exact jobsPlanned_step planned (step_stepped taken)

theorem perform_results {settings : Settings} {lease : WorkLease} {now : Time} {store : Store}
    {operation : Operation} (other : ∀ values, operation ≠ .saveResult values) :
    (perform settings lease now store operation).results = store.results := by
  cases operation with
  | saveResult values => exact absurd rfl (other values)
  | supersede reason => rfl
  | enqueueCurrent page =>
      simp only [perform]
      rw [enqueue_frame]
  | complete => rfl
  | registerActiveWiki =>
      simp only [perform]
      rw [register_frame]
  | fail code message permanent => rfl

def ownTokens : Attributed where
  contributors :=
    [{ userId := some 7, username := "Ada", evidence := .tokenCount 90, share := 1 }]
  countableTokens := 90
  metric := "wikiwho-surviving-alphanumeric-tokens"
  editorCount := ⟨1, false⟩
  botCount := 0

def articlePage (revisionId : Int) : PageMetadata :=
  { pageId := 1, revisionId := revisionId, title := "A", pageNamespace := 0, isRedirect := false }

def articleKey (revisionId : Int) : Identity :=
  { wiki := "frwiki", pageId := 1, algorithmVersion := "attribution-ladder-v3"
    revisionId := revisionId }

def articleRequest (revisionId : Int) : Request :=
  { wiki := "frwiki", pageId := 1, revisionId := revisionId, ifNoneMatch := none }

end WikiPeople
