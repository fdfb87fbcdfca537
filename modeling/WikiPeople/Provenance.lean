import WikiPeople.Jobs
import WikiPeople.Ladder

/-! Where stored names come from: the service whose workers compute every attribution with
the ladder, beside what upstream answered to each of them. -/

namespace WikiPeople

open Transition

structure Attribution where
  lease : WorkLease
  upstream : Upstream

/-- The service with the attributions computed so far, in order. -/
structure LadderSystem where
  system : System
  attributions : List Attribution

/-- An event of the service, where the answer to an attribution is what the ladder makes of
the calls upstream. -/
inductive LadderEvent where
  | other (event : Event)
  | compute (job : Nat) (upstream : Upstream)

def Event.isAttribution : Event → Bool
  | .attributePage _ _ => true
  | _ => false

section Steps

variable (runtime : Runtime) (interpreter : Interpreter)

def ladderAnswer (system : System) (index : Nat) (upstream : Upstream) :
    Option (WorkLease × Except Exn Attributed) :=
  system.jobs[index]?.bind fun job =>
    match job.phase with
    | .attributing page =>
        some (job.lease, attributePage interpreter runtime.settings upstream job.lease page)
    | _ => none

def ladderStep (before : LadderSystem) : LadderEvent → Option LadderSystem
  | .other event =>
      if event.isAttribution then none
      else (step runtime before.system event).map (fun system => { before with system := system })
  | .compute index upstream =>
      (ladderAnswer runtime interpreter before.system index upstream).bind fun (lease, answer) =>
        (step runtime before.system (.attributePage index answer)).map fun system =>
          ⟨system, before.attributions ++ [⟨lease, upstream⟩]⟩

def ladderService (start : Time) : Machine LadderSystem LadderEvent where
  initial := ⟨(service runtime start).initial, []⟩
  step := ladderStep runtime interpreter

end Steps

section Ranked

variable (interpreter : Interpreter) (settings : Settings) (attribution : Attribution)

/-- The ranking of surviving tokens selected these accounts, of the tokens of the revision
that was leased. -/
def SelectedByTokens (selected : List Contributor) : Prop :=
  let lease := attribution.lease
  let upstream := attribution.upstream
  ∃ tokens candidates users, upstream.fetchRevision lease.wiki lease.revisionId = .ok tokens ∧
    upstream.resolveUsers .tokens lease.wiki candidates = .ok users ∧
    selectContributors interpreter settings (countTokens interpreter.unicode tokens).1
      (countTokens interpreter.unicode tokens).2 users
      (some (upstream.globalGroups .tokens lease.wiki)) nameLimit = .ok selected

/-- The ranking of edits selected these accounts, of the whole history of the page. -/
def SelectedByEdits (selected : List Contributor) : Prop :=
  let lease := attribution.lease
  let upstream := attribution.upstream
  ∃ history candidates users,
    upstream.getEditorHistory lease.wiki lease.pageId settings.topEditorMaxRevisions =
      .ok history ∧
    history.complete = true ∧ upstream.resolveUsers .edits lease.wiki candidates = .ok users ∧
    selectTopEditors interpreter history.counts history.revisions users
      (some (upstream.globalGroups .edits lease.wiki)) nameLimit = .ok selected

/-- The metric says which ranking selected the accounts; where neither names anyone it is
that of edits. -/
def NamedBy (selected : List Contributor) (metric : String) : Prop :=
  (metric = metricTokens ∧ SelectedByTokens interpreter settings attribution selected) ∨
    (metric = metricEdits ∧
      (selected = [] ∨ SelectedByEdits interpreter settings attribution selected))

/-- The values of a result are honest: an attribution of their key named these accounts by
this metric, at most three and no more than the total counts. -/
structure Ranked (attributions : List Attribution) (values : ResultValues) : Prop where
  named : ∃ attribution ∈ attributions, attribution.lease.toIdentity = values.toIdentity ∧
    NamedBy interpreter settings attribution values.contributors values.metric
  limited : values.contributors.length ≤ nameLimit
  counted : (values.contributors.length : Int) ≤ values.distinctContributors

end Ranked

theorem metrics_differ : metricTokens ≠ metricEdits := by decide

section Selection

variable {interpreter : Interpreter} {settings : Settings} {attribution : Attribution}
  {selected : List Contributor} {metric : String}

theorem SelectedByTokens.length
    (chosen : SelectedByTokens interpreter settings attribution selected) :
    selected.length ≤ nameLimit := by
  obtain ⟨tokens, candidates, users, _, _, ranked⟩ := chosen
  exact selectContributors_length (by decide) ranked

theorem SelectedByEdits.length
    (chosen : SelectedByEdits interpreter settings attribution selected) :
    selected.length ≤ nameLimit := by
  obtain ⟨history, candidates, users, _, _, _, ranked⟩ := chosen
  exact selectTopEditors_length (by decide) ranked

theorem NamedBy.length (named : NamedBy interpreter settings attribution selected metric) :
    selected.length ≤ nameLimit := by
  rcases named with ⟨_, chosen⟩ | ⟨_, rfl | chosen⟩
  · exact chosen.length
  · exact Nat.zero_le nameLimit
  · exact chosen.length

theorem rankTokens_selected {total : Int}
    (ranked : rankTokens interpreter settings attribution.upstream attribution.lease =
      (.ok selected, total)) : SelectedByTokens interpreter settings attribution selected := by
  unfold rankTokens at ranked
  split at ranked
  · cases ranked
  · rename_i tokens fetched
    have listed := congrArg Prod.fst ranked
    obtain ⟨candidates, _, listed⟩ := Relational.bind_eq_ok.mp listed
    obtain ⟨users, resolved, listed⟩ := Relational.bind_eq_ok.mp listed
    exact ⟨tokens, candidates, users, fetched, resolved, listed⟩

theorem rankEdits_selected
    (ranked : rankEdits interpreter settings attribution.upstream attribution.lease =
      .ok selected) :
    selected = [] ∨ SelectedByEdits interpreter settings attribution selected := by
  obtain ⟨history, walked, ranked⟩ := Relational.bind_eq_ok.mp ranked
  split at ranked
  · rename_i complete
    obtain ⟨users, resolved, listed⟩ := Relational.bind_eq_ok.mp ranked
    exact Or.inr ⟨history, _, users, walked, complete, resolved, listed⟩
  · cases ranked
    exact Or.inl rfl

theorem workerAttribute_named {total : Int}
    (answered : workerAttribute interpreter settings attribution.upstream attribution.lease =
      .ok (selected, total, metric)) :
    NamedBy interpreter settings attribution selected metric := by
  unfold workerAttribute at answered
  cases ranked : rankTokens interpreter settings attribution.upstream attribution.lease with
  | mk outcome totalTokens =>
      rw [ranked] at answered
      dsimp only at answered
      split at answered
      · cases answered
      · rename_i contributors passed
        split at answered
        · cases edited : rankEdits interpreter settings attribution.upstream
              attribution.lease with
          | error raised =>
              rw [edited] at answered
              cases answered
          | ok editors =>
              rw [edited] at answered
              cases answered
              exact Or.inr ⟨rfl, rankEdits_selected edited⟩
        · rename_i filled
          cases answered
          -- A caught error leaves no names, so these are what the rung answered.
          cases outcome with
          | ok names =>
              cases passed
              exact Or.inl ⟨rfl, rankTokens_selected ranked⟩
          | error raised =>
              simp only [caught] at passed
              split at passed
              · cases passed
                exact absurd rfl filled
              · cases passed

theorem attributePage_named {page : PageMetadata} {attributed : Attributed}
    (answered : attributePage interpreter settings attribution.upstream attribution.lease page =
      .ok attributed) :
    NamedBy interpreter settings attribution attributed.contributors attributed.metric := by
  obtain ⟨⟨contributors, total, metric⟩, named, answered⟩ := Relational.bind_eq_ok.mp answered
  obtain ⟨editorCount, _, answered⟩ := Relational.bind_eq_ok.mp answered
  obtain ⟨botCount, _, answered⟩ := Relational.bind_eq_ok.mp answered
  cases answered
  exact workerAttribute_named named

theorem resultValues_ranked {attributions : List Attribution} {page : PageMetadata}
    {attributed : Attributed} (computedAt : Time) (member : attribution ∈ attributions)
    (answered : attributePage interpreter settings attribution.upstream attribution.lease page =
      .ok attributed) :
    Ranked interpreter settings attributions
      (resultValues attribution.lease page attributed computedAt) where
  named := ⟨attribution, member, rfl, attributePage_named answered⟩
  limited := (attributePage_named answered).length
  counted := le_max_left _ _

theorem Ranked.more {attributions : List Attribution} {values : ResultValues}
    (ranked : Ranked interpreter settings attributions values) (last : Attribution) :
    Ranked interpreter settings (attributions ++ [last]) values where
  named := by
    obtain ⟨first, member, named⟩ := ranked.named
    exact ⟨first, List.mem_append_left _ member, named⟩
  limited := ranked.limited
  counted := ranked.counted

end Selection

def Phase.Saves (phase : Phase) (values : ResultValues) : Prop :=
  ∃ todo, phase = .performing todo ∧ .saveResult values ∈ todo

/-- Every result that is stored, and every one that waits to be stored. -/
structure EveryResult (good : ResultValues → Prop) (system : System) : Prop where
  stored : ∀ row ∈ system.store.results.rows, good row.toResultValues
  waiting : ∀ (index : Nat) (job : Job), system.jobs[index]? = some job →
    ∀ values, job.phase.Saves values → good values

section Waiting

variable {lease : WorkLease} {values : ResultValues}

theorem failure_saves_nothing (raised : Exn) :
    ¬ (Phase.performing [failure raised]).Saves values := by
  rintro ⟨todo, same, member⟩
  cases same
  cases raised <;> cases List.mem_singleton.mp member

theorem afterPage_saves_nothing (answer : Except Exn PageMetadata) :
    ¬ (afterPage lease answer).Saves values := by
  cases answer with
  | error raised => exact failure_saves_nothing raised
  | ok page =>
      rintro ⟨todo, same, member⟩
      simp only [afterPage, refusing] at same
      split at same
      · rename_i refusals refused
        cases same
        split at refused
        · cases refused
          cases List.mem_singleton.mp member
        · split at refused
          · cases refused
            cases List.mem_singleton.mp member
          · split at refused
            · cases refused
              rcases List.mem_cons.mp member with saved | member
              · cases saved
              · cases List.mem_singleton.mp member
            · cases refused
      · cases same

theorem afterAttribution_saves {page : PageMetadata} {computedAt : Time}
    {answer : Except Exn Attributed}
    (saves : (afterAttribution lease page computedAt answer).Saves values) :
    ∃ attributed, answer = .ok attributed ∧
      values = resultValues lease page attributed computedAt := by
  cases answer with
  | error raised => exact absurd saves (failure_saves_nothing raised)
  | ok attributed =>
      obtain ⟨todo, same, member⟩ := saves
      cases same
      refine ⟨attributed, rfl, ?_⟩
      rcases List.mem_cons.mp member with saved | member
      · cases saved
        rfl
      · rcases List.mem_cons.mp member with saved | member
        · cases saved
        · cases List.mem_singleton.mp member

theorem afterFailure_saves_nothing (operation : Operation) (message : String) :
    ¬ (afterFailure operation message).Saves values := by
  unfold afterFailure
  split
  · rintro ⟨todo, same, _⟩
    cases same
  · exact failure_saves_nothing _

end Waiting

section EveryResult

variable {good : ResultValues → Prop} {runtime : Runtime}

theorem EveryResult.imp {weaker : ResultValues → Prop} {system : System}
    (every : EveryResult good system) (implied : ∀ values, good values → weaker values) :
    EveryResult weaker system where
  stored := fun row member => implied _ (every.stored row member)
  waiting := fun index job present values saves =>
    implied _ (every.waiting index job present values saves)

theorem EveryResult.jobs {system : System} {index : Nat} {job : Job} {phase : Phase}
    (every : EveryResult good system) (present : system.jobs[index]? = some job)
    (next : ∀ values, phase.Saves values → good values) {store : Store}
    (stored : ∀ row ∈ store.results.rows, good row.toResultValues) :
    EveryResult good { system with
      store := store, jobs := system.jobs.set index { job with phase := phase } } where
  stored := stored
  waiting := by
    intro place other found values saves
    rcases (getElem?_replaced present).mp found with ⟨_, rfl⟩ | ⟨_, old⟩
    · exact next values saves
    · exact every.waiting place other old values saves

theorem EveryResult.idle {system : System} (every : EveryResult good system) {store : Store}
    {now : Time} (results : ∀ row ∈ store.results.rows, row ∈ system.store.results.rows) :
    EveryResult good { system with store := store, now := now } where
  stored := fun row member => every.stored row (results row member)
  waiting := every.waiting

theorem everyResult_step {before after : System} {event : Event}
    (every : EveryResult good before) (stepped : Stepped runtime before event after)
    (computed : ∀ index job page attributed, event = .attributePage index (.ok attributed) →
      before.jobs[index]? = some job → job.phase = .attributing page →
        good (resultValues job.lease page attributed before.now)) :
    EveryResult good after := by
  cases stepped with
  | ticked elapsed => exact every.idle (fun _ member => member)
  | demanded event store idle changes =>
      apply every.idle
      intro row member
      rwa [changes.results] at member
  | claimed workerId pick lease store free taken =>
      obtain ⟨item, _, _, _, same⟩ := claim_taken taken
      refine ⟨?_, ?_⟩
      · intro row member
        rw [same] at member
        exact every.stored row member
      · intro index job found values saves
        rcases getElem?_appended.mp found with old | ⟨_, rfl⟩
        · exact every.waiting index job old values saves
        · obtain ⟨todo, performing, _⟩ := saves
          cases performing
  | advanced event index job phase quiet present moved =>
      refine every.jobs present ?_ every.stored
      intro values saves
      rcases moved with ⟨answer, _, _, rfl⟩ | ⟨page, answer, rfl, attributing, rfl⟩ |
        ⟨operation, todo, message, _, _, rfl⟩ | ⟨_, _, rfl⟩
      · exact absurd saves (afterPage_saves_nothing answer)
      · obtain ⟨attributed, rfl, rfl⟩ := afterAttribution_saves saves
        exact computed index job page attributed rfl present attributing
      · exact absurd saves (afterFailure_saves_nothing operation message)
      · obtain ⟨todo, performing, _⟩ := saves
        cases performing
  | performed index job operation todo present next =>
      have waiting := every.waiting index job present
      refine every.jobs present ?_ ?_
      · rintro values ⟨rest, same, member⟩
        cases same
        exact waiting values ⟨_, next, List.mem_cons_of_mem operation member⟩
      · intro row member
        by_cases saves : ∃ values, operation = .saveResult values
        · obtain ⟨values, rfl⟩ := saves
          rcases mem_saveResult.mp member with ⟨old, _⟩ | rfl
          · exact every.stored row old
          · exact waiting values ⟨_, next, List.mem_cons_self⟩
        · rw [perform_results (not_exists.mp saves)] at member
          exact every.stored row member
  | cleaned queueDays supersededResultDays chosen store removed =>
      exact every.idle (cleanup_cleaned removed).results
  | listed event store idle work results activeWikis =>
      apply every.idle
      intro row member
      rwa [results] at member

end EveryResult

section Runs

variable {runtime : Runtime} {interpreter : Interpreter} {start : Time}

theorem ladderAnswer_eq_some {system : System} {index : Nat} {upstream : Upstream}
    {lease : WorkLease} {answer : Except Exn Attributed}
    (asked : ladderAnswer runtime interpreter system index upstream = some (lease, answer)) :
    ∃ job page, system.jobs[index]? = some job ∧ job.phase = .attributing page ∧
      lease = job.lease ∧
      answer = attributePage interpreter runtime.settings upstream job.lease page := by
  obtain ⟨job, present, asked⟩ := Option.bind_eq_some_iff.mp asked
  split at asked
  · rename_i page attributing
    cases asked
    exact ⟨job, page, present, attributing, rfl, rfl⟩
  · cases asked

/-- Forgetting the upstream answers leaves a run of the service. -/
theorem ladder_refines {reached : LadderSystem}
    (run : (ladderService runtime interpreter start).Reachable reached) :
    (service runtime start).Reachable reached.system := by
  refine Machine.invariant
    (fun state : LadderSystem => (service runtime start).Reachable state.system) ?_ ?_ run
  · exact .initial
  · intro before event after earlier _ taken
    cases event with
    | other event =>
        simp only [ladderService, ladderStep] at taken
        split at taken
        · cases taken
        · obtain ⟨system, moved, rfl⟩ := Option.map_eq_some_iff.mp taken
          exact earlier.next moved
    | compute index upstream =>
        obtain ⟨⟨lease, answer⟩, _, taken⟩ := Option.bind_eq_some_iff.mp taken
        obtain ⟨system, moved, rfl⟩ := Option.map_eq_some_iff.mp taken
        have stepped : (service runtime start).step before.system (.attributePage index answer) =
          some system := moved
        exact earlier.next stepped

/-- In every run, what is stored or waits to be stored was ranked by an attribution of the
run. -/
theorem everyResult_ranked {reached : LadderSystem}
    (run : (ladderService runtime interpreter start).Reachable reached) :
    EveryResult (Ranked interpreter runtime.settings reached.attributions) reached.system := by
  refine Machine.invariant (fun state => EveryResult
    (Ranked interpreter runtime.settings state.attributions) state.system) ?_ ?_ run
  · refine ⟨?_, ?_⟩
    · intro row member
      cases member
    · intro index job present
      cases present
  · intro before event after every _ taken
    cases event with
    | other event =>
        simp only [ladderService, ladderStep] at taken
        split at taken
        · cases taken
        · rename_i silent
          obtain ⟨system, moved, rfl⟩ := Option.map_eq_some_iff.mp taken
          apply everyResult_step every (step_stepped moved)
          rintro index job page attributed rfl
          exact absurd rfl silent
    | compute index upstream =>
        obtain ⟨⟨lease, answer⟩, asked, taken⟩ := Option.bind_eq_some_iff.mp taken
        obtain ⟨system, moved, rfl⟩ := Option.map_eq_some_iff.mp taken
        have grown := every.imp (fun values ranked => ranked.more ⟨lease, upstream⟩)
        apply everyResult_step grown (step_stepped moved)
        intro place job page attributed same present attributing
        obtain ⟨other, current, found, phase, rfl, rfl⟩ := ladderAnswer_eq_some asked
        injection same with samePlace answered
        subst samePlace
        rw [present] at found
        cases found
        rw [attributing] at phase
        cases phase
        have member : (⟨job.lease, upstream⟩ : Attribution) ∈
            before.attributions ++ [⟨job.lease, upstream⟩] :=
          List.mem_append_right _ List.mem_cons_self
        exact resultValues_ranked before.system.now member answered

end Runs

end WikiPeople
