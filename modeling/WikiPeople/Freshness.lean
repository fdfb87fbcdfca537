import WikiPeople.Jobs

/-! Which revision of a page successive readers are served: never an older one, as long as
the reported revisions never go back and no worker saves behind another's back. -/

namespace WikiPeople

open Relational Transition

/-- The `source_revision_id` of a ready answer. -/
def sourceRevision (response : Response) : Option Int :=
  if response.status = 200 then
    match response.body.bind (Json.field "source_revision_id") with
    | some (.int revision) => some revision
    | _ => none
  else none

theorem sourceRevision_of_status {response : Response} (other : response.status ≠ 200) :
    sourceRevision response = none := by
  simp [sourceRevision, other]

theorem sourceRevision_conditional {runtime : Runtime} {request : Request}
    {cacheControl : String} {extra : List (String × String)} {payload : Json} {revision : Int}
    (served : sourceRevision (conditional runtime request cacheControl extra payload) =
      some revision) : payload.field "source_revision_id" = some (.int revision) := by
  simp only [conditional] at served
  split at served
  · cases served
  · simp only [sourceRevision, if_pos, Option.bind_some] at served
    split at served
    · rename_i found
      cases served
      exact found
    · cases served

theorem readyPage_source {runtime : Runtime} {store : Store} {request : Request} {now : Time}
    {result : AttributionResult} {refreshing : Bool} :
    (readyPagePayload runtime store request now result refreshing).field "source_revision_id" =
      some (.int result.revisionId) := by
  simp [Json.field, readyPagePayload, List.lookup_cons]

theorem sourceRevision_latest {runtime : Runtime} {store : Store} {request : Request} {now : Time}
    {revision : Int}
    (served : sourceRevision (respond runtime .v2 store request now).1 = some revision) :
    ∃ latest, getLatestResult store
        (request.key runtime.settings.algorithmVersion).toPageKey = some latest ∧
      latest.revisionId = revision := by
  simp only [respond, pageAttributionByFreshness] at served
  split at served
  · rename_i response refused
    have failed := refusal_status refused
    have other : response.status ≠ 200 := by omega
    rw [sourceRevision_of_status other] at served
    cases served
  · split at served
    · rename_i latest found
      have named := sourceRevision_conditional served
      rw [readyPage_source] at named
      cases named
      exact ⟨latest, found, rfl⟩
    · split at served
      · cases served
      · cases served

/-! What a run shows of the pages. -/

/-- The revisions reported so far, the jobs behind whose back another job of their page saved
a result since they asked for the current revision, and the revisions served, newest first. -/
structure Observed where
  reported : List (String × Int × Int)
  overtaken : List Nat
  served : List (PageKey × Int)

def Phase.values : Phase → Option ResultValues
  | .performing (.saveResult values :: _) => some values
  | _ => none

/-- The job found its revision current and has not saved its result. -/
def Phase.critical : Phase → Bool
  | .attributing _ => true
  | phase => phase.values.isSome

def rivals (system : System) (index : Nat) (page : PageKey) : List Nat :=
  (List.range system.jobs.length).filter (fun place =>
    place ≠ index && system.jobs[place]?.any (fun job => job.lease.toPageKey = page))

def observeReads (runtime : Runtime) (observed : Observed) (before : System) (event : Event)
    (_ : System) : Observed :=
  match event with
  | .getPage index (.ok page) =>
      match before.jobs[index]? with
      | some job =>
          { observed with
            reported := (job.lease.wiki, job.lease.pageId, page.revisionId) :: observed.reported
            overtaken := observed.overtaken.filter (fun place => place ≠ index) }
      | none => observed
  | .perform index =>
      match before.jobs[index]? with
      | some job =>
          if job.phase.values.isSome then
            { observed with
              overtaken := rivals before index job.lease.toPageKey ++ observed.overtaken }
          else observed
      | none => observed
  | .request .v2 request =>
      match sourceRevision (respond runtime .v2 before.store request before.now).1 with
      | some revision =>
          { observed with
            served := ((request.key runtime.settings.algorithmVersion).toPageKey, revision) ::
              observed.served }
      | none => observed
  | _ => observed

def readWatch (runtime : Runtime) (start : Time) : Machine (System × Observed) Event :=
  (service runtime start).withHistory ⟨[], [], []⟩ (observeReads runtime)

def reportsForward (watched : System × Observed) : Event → Bool
  | .getPage index (.ok page) =>
      watched.1.jobs[index]?.all (fun job => watched.2.reported.all (fun (wiki, pageId, revision) =>
        wiki ≠ job.lease.wiki || pageId ≠ job.lease.pageId || revision ≤ page.revisionId))
  | _ => true

/-- No job saves a result when another job saved one of the same page since its check. -/
def savesUnovertaken (watched : System × Observed) : Event → Bool
  | .perform index =>
      watched.1.jobs[index]?.all (fun job =>
        !job.phase.values.isSome || index ∉ watched.2.overtaken)
  | _ => true

/-- Successive answers about one page name revisions in order. -/
def ServedInOrder (observed : Observed) : Prop :=
  observed.served.Pairwise (fun later earlier => later.1 = earlier.1 → earlier.2 ≤ later.2)

/-- The stored results of a page are in the order of their revisions, and so are what jobs
in their critical section will store and what was served. -/
structure InOrder (watched : System × Observed) : Prop where
  stored : ∀ result ∈ watched.1.store.results.rows,
    (result.wiki, result.pageId, result.revisionId) ∈ watched.2.reported
  past : ∀ result ∈ watched.1.store.results.rows, result.computedAt ≤ watched.1.now
  ordered : ∀ first ∈ watched.1.store.results.rows, ∀ second ∈ watched.1.store.results.rows,
    first.toPageKey = second.toPageKey → first.revisionId < second.revisionId →
      first.computedAt ≤ second.computedAt ∧ first.id < second.id
  checked : ∀ (index : Nat) (job : Job), watched.1.jobs[index]? = some job →
    job.phase.critical = true →
      (job.lease.wiki, job.lease.pageId, job.lease.revisionId) ∈ watched.2.reported
  stamped : ∀ (index : Nat) (job : Job), watched.1.jobs[index]? = some job →
    ∀ values, job.phase.values = some values → values.computedAt ≤ watched.1.now
  newest : ∀ (index : Nat) (job : Job), watched.1.jobs[index]? = some job →
    job.phase.critical = true → index ∉ watched.2.overtaken →
      ∀ result ∈ watched.1.store.results.rows, result.toPageKey = job.lease.toPageKey →
        result.revisionId ≤ job.lease.revisionId ∧
          ∀ values, job.phase.values = some values → result.computedAt ≤ values.computedAt
  covered : ∀ answer ∈ watched.2.served, ∃ result ∈ watched.1.store.results.rows,
    result.toPageKey = answer.1 ∧ answer.2 ≤ result.revisionId
  successive : ServedInOrder watched.2

/-- The result a page serves is the one of its greatest stored revision. -/
theorem InOrder.latest {watched : System × Observed} (valid : InOrder watched) {page : PageKey}
    {latest result : AttributionResult}
    (found : getLatestResult watched.1.store page = some latest)
    (present : result ∈ watched.1.store.results.rows) (same : result.toPageKey = page) :
    result.revisionId ≤ latest.revisionId := by
  obtain ⟨member, latestPage⟩ := latest_mem found
  by_contra newer
  have order := valid.ordered latest member result present (latestPage.trans same.symm)
    (not_le.mp newer)
  have bound := latest_newest found present same
  rcases Prod.Lex.toLex_le_toLex.mp bound with later | ⟨equal, number⟩
  · exact absurd order.1 (not_le.mpr later)
  · exact absurd order.2 (not_lt.mpr number)

theorem critical_of_values {phase : Phase} {values : ResultValues}
    (saving : phase.values = some values) : phase.critical = true := by
  cases phase with
  | attributing page => rfl
  | fetching => cases saving
  | performing todo => simp [Phase.critical, saving]
  | crashed => cases saving

theorem InOrder.frame {before after : System} {observed : Observed}
    (valid : InOrder (before, observed))
    (results : after.store.results = before.store.results) (now : before.now ≤ after.now)
    (jobs : ∀ (index : Nat) (job : Job), after.jobs[index]? = some job →
      job.phase.critical = true → before.jobs[index]? = some job) :
    InOrder (after, observed) where
  stored := by
    rw [results]
    exact valid.stored
  past := by
    rw [results]
    exact fun result present => (valid.past result present).trans now
  ordered := by
    rw [results]
    exact valid.ordered
  checked := fun index job found critical =>
    valid.checked index job (jobs index job found critical) critical
  stamped := fun index job found values saving =>
    (valid.stamped index job (jobs index job found (critical_of_values saving)) values
      saving).trans now
  newest := by
    rw [results]
    exact fun index job found critical =>
      valid.newest index job (jobs index job found critical) critical
  covered := by
    rw [results]
    exact valid.covered
  successive := valid.successive

theorem InOrder.serve {system : System} {observed : Observed}
    (valid : InOrder (system, observed)) {page : PageKey} {latest : AttributionResult}
    (found : getLatestResult system.store page = some latest) :
    InOrder (system,
      { observed with served := (page, latest.revisionId) :: observed.served }) where
  stored := valid.stored
  past := valid.past
  ordered := valid.ordered
  checked := valid.checked
  stamped := valid.stamped
  newest := valid.newest
  covered := by
    intro answer member
    rcases List.mem_cons.mp member with rfl | old
    · obtain ⟨present, same⟩ := latest_mem found
      exact ⟨latest, present, same, le_refl _⟩
    · exact valid.covered answer old
  successive := by
    refine List.pairwise_cons.mpr ⟨?_, valid.successive⟩
    intro answer old same
    obtain ⟨result, present, resultPage, bound⟩ := valid.covered answer old
    calc
      answer.2 ≤ result.revisionId := bound
      _ ≤ latest.revisionId := valid.latest found present (resultPage.trans same.symm)

/-- A job that finds its revision current enters its critical section: everything stored was
reported before, so nothing stored is newer. -/
theorem InOrder.check {system : System} {observed : Observed} {index : Nat} {job : Job}
    {page : PageMetadata} {phase : Phase} (valid : InOrder (system, observed))
    (forward : reportsForward (system, observed) (.getPage index (.ok page)) = true)
    (present : system.jobs[index]? = some job) (unsaved : phase.values = none)
    (current : phase.critical = true → page.revisionId = job.lease.revisionId) :
    InOrder ({ system with jobs := system.jobs.set index { job with phase := phase } },
      { observed with
        reported := (job.lease.wiki, job.lease.pageId, page.revisionId) :: observed.reported
        overtaken := observed.overtaken.filter (fun place => place ≠ index) }) where
  stored := fun result member => List.mem_cons_of_mem _ (valid.stored result member)
  past := valid.past
  ordered := valid.ordered
  checked := by
    intro place other found critical
    rcases (getElem?_replaced present).mp found with ⟨_, rfl⟩ | ⟨_, old⟩
    · change (job.lease.wiki, job.lease.pageId, job.lease.revisionId) ∈ _
      rw [← current critical]
      exact List.mem_cons_self
    · exact List.mem_cons_of_mem _ (valid.checked place other old critical)
  stamped := by
    intro place other found values saving
    rcases (getElem?_replaced present).mp found with ⟨_, rfl⟩ | ⟨_, old⟩
    · change phase.values = some values at saving
      rw [unsaved] at saving
      cases saving
    · exact valid.stamped place other old values saving
  newest := by
    intro place other found critical unovertaken result member same
    rcases (getElem?_replaced present).mp found with ⟨_, rfl⟩ | ⟨different, old⟩
    · refine ⟨?_, ?_⟩
      · have reported := valid.stored result member
        simp only [reportsForward, present, Option.all_some, List.all_eq_true] at forward
        have bound := forward _ reported
        have wiki : result.wiki = job.lease.wiki := congrArg PageKey.wiki same
        have pageId : result.pageId = job.lease.pageId := congrArg PageKey.pageId same
        simp only [wiki, pageId, ne_eq, not_true_eq_false, decide_false, Bool.false_or,
          decide_eq_true_eq] at bound
        calc
          result.revisionId ≤ page.revisionId := bound
          _ = job.lease.revisionId := current critical
      · intro values saving
        change phase.values = some values at saving
        rw [unsaved] at saving
        cases saving
    · refine valid.newest place other old critical ?_ result member same
      intro listed
      exact unovertaken (List.mem_filter.mpr ⟨listed, decide_eq_true different⟩)
  covered := valid.covered
  successive := valid.successive

/-- The result a job is about to save is stamped with the present instant, which nothing
stored is past. -/
theorem InOrder.stamp {system : System} {observed : Observed} {index : Nat} {job : Job}
    {phase : Phase} (valid : InOrder (system, observed))
    (present : system.jobs[index]? = some job) (attributing : job.phase.critical = true)
    (stampedNow : ∀ values, phase.values = some values → values.computedAt = system.now) :
    InOrder ({ system with jobs := system.jobs.set index { job with phase := phase } },
      observed) where
  stored := valid.stored
  past := valid.past
  ordered := valid.ordered
  checked := by
    intro place other found critical
    rcases (getElem?_replaced present).mp found with ⟨_, rfl⟩ | ⟨_, old⟩
    · exact valid.checked index job present attributing
    · exact valid.checked place other old critical
  stamped := by
    intro place other found values saving
    rcases (getElem?_replaced present).mp found with ⟨_, rfl⟩ | ⟨_, old⟩
    · exact le_of_eq (stampedNow values saving)
    · exact valid.stamped place other old values saving
  newest := by
    intro place other found critical unovertaken result member same
    rcases (getElem?_replaced present).mp found with ⟨rfl, rfl⟩ | ⟨_, old⟩
    · refine ⟨(valid.newest place job present attributing unovertaken result member same).1, ?_⟩
      intro values saving
      calc
        result.computedAt ≤ system.now := valid.past result member
        _ = values.computedAt := (stampedNow values saving).symm
    · exact valid.newest place other old critical unovertaken result member same
  covered := valid.covered
  successive := valid.successive

theorem savedId_above {store : Store} {values : ResultValues} {row : AttributionResult}
    (present : row ∈ store.results.rows)
    (ordered : ∀ other ∈ store.results.rows, other.toIdentity = values.toIdentity →
      row.id < other.id) : row.id < savedId store values := by
  cases found : getResult store values.toIdentity with
  | none =>
      simp only [savedId, found]
      exact store.results.below row present
  | some existing =>
      obtain ⟨member, same⟩ := Table.find_eq_some.mp found
      simp only [savedId, found]
      exact ordered existing member same

theorem mem_rivals {system : System} {index place : Nat} {job : Job} {page : PageKey}
    (present : system.jobs[place]? = some job) (different : place ≠ index)
    (same : job.lease.toPageKey = page) : place ∈ rivals system index page := by
  have inside : place < system.jobs.length := (List.getElem?_eq_some_iff.mp present).1
  refine List.mem_filter.mpr ⟨List.mem_range.mpr inside, ?_⟩
  rw [Bool.and_eq_true, present, Option.any_some]
  exact ⟨decide_eq_true different, decide_eq_true same⟩

theorem InOrder.ordered_save {system : System} {observed : Observed} {values : ResultValues}
    (valid : InOrder (system, observed))
    (newest : ∀ result ∈ system.store.results.rows, result.toPageKey = values.toPageKey →
      result.revisionId ≤ values.revisionId ∧ result.computedAt ≤ values.computedAt) :
    ∀ first ∈ (saveResult system.store values).results.rows,
      ∀ second ∈ (saveResult system.store values).results.rows,
        first.toPageKey = second.toPageKey → first.revisionId < second.revisionId →
          first.computedAt ≤ second.computedAt ∧ first.id < second.id := by
  intro first firstMember second secondMember same older
  rcases mem_saveResult.mp firstMember with ⟨firstOld, _⟩ | firstNew
  · rcases mem_saveResult.mp secondMember with ⟨secondOld, _⟩ | secondNew
    · exact valid.ordered first firstOld second secondOld same older
    · rw [secondNew] at same older ⊢
      refine ⟨(newest first firstOld same).2, savedId_above firstOld ?_⟩
      intro other member identity
      have otherPage : other.toPageKey = values.toPageKey := congrArg Identity.toPageKey identity
      have otherRevision : other.revisionId = values.revisionId :=
        congrArg Identity.revisionId identity
      refine (valid.ordered first firstOld other member (same.trans otherPage.symm) ?_).2
      rw [otherRevision]
      exact older
  · rcases mem_saveResult.mp secondMember with ⟨secondOld, _⟩ | secondNew
    · -- Nothing stored is newer than the saved revision.
      rw [firstNew] at same older
      have bound := (newest second secondOld same.symm).1
      change values.revisionId < second.revisionId at older
      omega
    · rw [firstNew, secondNew] at older
      exact absurd older (lt_irrefl _)

theorem InOrder.save {system : System} {observed : Observed} {index : Nat} {job : Job}
    {phase : Phase} {values : ResultValues} (valid : InOrder (system, observed))
    (present : system.jobs[index]? = some job) (saving : job.phase.values = some values)
    (own : values.toIdentity = job.lease.toIdentity) (unovertaken : index ∉ observed.overtaken)
    (settled : phase.critical = false) :
    InOrder ({ system with
        store := saveResult system.store values
        jobs := system.jobs.set index { job with phase := phase } },
      { observed with
        overtaken := rivals system index job.lease.toPageKey ++ observed.overtaken }) := by
  have page : values.toPageKey = job.lease.toPageKey := congrArg Identity.toPageKey own
  have revision : values.revisionId = job.lease.revisionId := congrArg Identity.revisionId own
  have newest := valid.newest index job present (critical_of_values saving) unovertaken
  have notSaving : phase.values = none := by
    cases found : phase.values with
    | none => rfl
    | some others =>
        rw [critical_of_values found] at settled
        cases settled
  refine ⟨?_, ?_, ?_, ?_, ?_, ?_, ?_, valid.successive⟩
  · intro result member
    rcases mem_saveResult.mp member with ⟨old, _⟩ | new
    · exact valid.stored result old
    · have reported := valid.checked index job present (critical_of_values saving)
      rw [new]
      change (values.wiki, values.pageId, values.revisionId) ∈ observed.reported
      rw [revision, show values.wiki = job.lease.wiki from congrArg PageKey.wiki page,
        show values.pageId = job.lease.pageId from congrArg PageKey.pageId page]
      exact reported
  · intro result member
    rcases mem_saveResult.mp member with ⟨old, _⟩ | new
    · exact valid.past result old
    · rw [new]
      exact valid.stamped index job present values saving
  · apply valid.ordered_save
    intro result member same
    have bound := newest result member (same.trans page)
    refine ⟨?_, bound.2 values saving⟩
    calc
      result.revisionId ≤ job.lease.revisionId := bound.1
      _ = values.revisionId := revision.symm
  · intro place other found critical
    rcases (getElem?_replaced present).mp found with ⟨_, rfl⟩ | ⟨_, old⟩
    · rw [settled] at critical
      cases critical
    · exact valid.checked place other old critical
  · intro place other found others otherSaving
    rcases (getElem?_replaced present).mp found with ⟨_, rfl⟩ | ⟨_, old⟩
    · rw [notSaving] at otherSaving
      cases otherSaving
    · exact valid.stamped place other old others otherSaving
  · intro place other found critical unlisted result member same
    rw [List.mem_append, not_or] at unlisted
    rcases (getElem?_replaced present).mp found with ⟨_, rfl⟩ | ⟨different, old⟩
    · rw [settled] at critical
      cases critical
    · rcases mem_saveResult.mp member with ⟨kept, _⟩ | new
      · exact valid.newest place other old critical unlisted.2 result kept same
      · rw [new] at same
        exact absurd (mem_rivals old different (same.symm.trans page)) unlisted.1
  · intro answer listed
    obtain ⟨result, member, same, bound⟩ := valid.covered answer listed
    by_cases identity : result.toIdentity = values.toIdentity
    · refine ⟨{ values with id := savedId system.store values },
        mem_saveResult.mpr (Or.inr rfl), ?_, ?_⟩
      · exact (congrArg Identity.toPageKey identity).symm.trans same
      · calc
          answer.2 ≤ result.revisionId := bound
          _ = values.revisionId := congrArg Identity.revisionId identity
    · exact ⟨result, mem_saveResult.mpr (Or.inl ⟨member, identity⟩), same, bound⟩

theorem InOrder.clean {system : System} {observed : Observed} {store : Store}
    {queueDays supersededResultDays : Int} {chosen : List Nat}
    (valid : InOrder (system, observed))
    (removed : cleanup system.store queueDays supersededResultDays chosen system.now =
      some store) : InOrder ({ system with store := store }, observed) := by
  have kept := (cleanup_cleaned removed).results
  refine ⟨?_, ?_, ?_, valid.checked, valid.stamped, ?_, ?_, valid.successive⟩
  · exact fun result member => valid.stored result (kept result member)
  · exact fun result member => valid.past result (kept result member)
  · exact fun first left second right =>
      valid.ordered first (kept first left) second (kept second right)
  · exact fun index job found critical unovertaken result member =>
      valid.newest index job found critical unovertaken result (kept result member)
  · intro answer listed
    obtain ⟨result, member, same, bound⟩ := valid.covered answer listed
    cases found : getLatestResult system.store answer.1 with
    | none => exact absurd same (latest_eq_none.mp found result member)
    | some latest =>
        have still := cleanup_latest removed answer.1
        rw [found] at still
        obtain ⟨present, latestPage⟩ := latest_mem still
        refine ⟨latest, present, latestPage, ?_⟩
        calc
          answer.2 ≤ result.revisionId := bound
          _ ≤ latest.revisionId := valid.latest found member same

theorem observe_idle {runtime : Runtime} {observed : Observed} {before after : System}
    {event : Event} (idle : event.job = none) :
    observeReads runtime observed before event after = observed ∨
      ∃ page latest, getLatestResult before.store page = some latest ∧
        observeReads runtime observed before event after =
          { observed with served := (page, latest.revisionId) :: observed.served } := by
  cases event with
  | request version request =>
      cases version with
      | v1 => exact Or.inl rfl
      | v2 =>
          cases served : sourceRevision
              (respond runtime .v2 before.store request before.now).1 with
          | none => exact Or.inl (by simp only [observeReads, served])
          | some revision =>
              obtain ⟨latest, found, same⟩ := sourceRevision_latest served
              refine Or.inr ⟨_, latest, found, ?_⟩
              simp only [observeReads, served, same]
  | getPage index answer => cases idle
  | perform index => cases idle
  | _ => exact Or.inl rfl

theorem inOrder_idle {runtime : Runtime} {observed : Observed} {before after : System}
    {event : Event} (valid : InOrder (before, observed)) (idle : event.job = none)
    (results : after.store.results = before.store.results) (now : before.now ≤ after.now)
    (jobs : ∀ (index : Nat) (job : Job), after.jobs[index]? = some job →
      job.phase.critical = true → before.jobs[index]? = some job) :
    InOrder (after, observeReads runtime observed before event after) := by
  have shown := @observe_idle runtime observed before after event idle
  rcases shown with same | ⟨page, latest, found, served⟩
  · rw [same]
    exact valid.frame results now jobs
  · rw [served]
    exact (valid.serve found).frame results now jobs

theorem failure_uncritical (raised : Exn) :
    (Phase.performing [failure raised]).critical = false := by
  cases raised <;> rfl

theorem afterPage_current (lease : WorkLease) (answer : Except Exn PageMetadata) :
    (afterPage lease answer).values = none ∧
      ((afterPage lease answer).critical = true →
        ∃ page, answer = .ok page ∧ page.revisionId = lease.revisionId) := by
  cases answer with
  | error raised =>
      refine ⟨?_, ?_⟩
      · cases raised <;> rfl
      · intro critical
        rw [afterPage, failure_uncritical] at critical
        cases critical
  | ok page =>
      simp only [afterPage, refusing]
      by_cases article : page.pageNamespace ≠ 0
      · rw [if_pos article]
        exact ⟨rfl, fun critical => by cases critical⟩
      · rw [if_neg article]
        by_cases redirect : page.isRedirect = true
        · rw [if_pos redirect]
          exact ⟨rfl, fun critical => by cases critical⟩
        · rw [if_neg redirect]
          by_cases moved : page.revisionId ≠ lease.revisionId
          · rw [if_pos moved]
            exact ⟨rfl, fun critical => by cases critical⟩
          · rw [if_neg moved]
            exact ⟨rfl, fun _ => ⟨page, rfl, not_not.mp moved⟩⟩

theorem InOrder.leave {system : System} {observed : Observed} {store : Store} {index : Nat}
    {job : Job} {phase : Phase} (valid : InOrder (system, observed))
    (present : system.jobs[index]? = some job) (settled : phase.critical = false)
    (results : store.results = system.store.results) :
    InOrder ({ system with
      store := store, jobs := system.jobs.set index { job with phase := phase } }, observed) := by
  refine valid.frame results (le_refl _) ?_
  intro place other found critical
  rcases (getElem?_replaced present).mp found with ⟨_, rfl⟩ | ⟨_, old⟩
  · rw [settled] at critical
    cases critical
  · exact old

theorem inOrder_initial (start : Time) :
    InOrder ((⟨.empty, start, []⟩ : System), (⟨[], [], []⟩ : Observed)) where
  stored := by
    intro result member
    cases member
  past := by
    intro result member
    cases member
  ordered := by
    intro first member
    cases member
  checked := by
    intro index job found
    cases found
  stamped := by
    intro index job found
    cases found
  newest := by
    intro index job found
    cases found
  covered := by
    intro answer listed
    cases listed
  successive := List.Pairwise.nil

theorem inOrder_step {runtime : Runtime} {before after : System} {observed : Observed}
    {event : Event} (valid : InOrder (before, observed)) (planned : JobsPlanned before)
    (forward : reportsForward (before, observed) event = true)
    (unovertaken : savesUnovertaken (before, observed) event = true)
    (stepped : Stepped runtime before event after) :
    InOrder (after, observeReads runtime observed before event after) := by
  cases stepped with
  | ticked elapsed =>
      exact valid.frame rfl (Int.le_add_of_nonneg_right (Int.natCast_nonneg elapsed))
        (fun _ _ found _ => found)
  | demanded event store idle changes =>
      exact inOrder_idle valid idle changes.results (le_refl _) (fun _ _ found _ => found)
  | claimed workerId pick lease store free taken =>
      obtain ⟨item, _, _, _, rfl⟩ := claim_taken taken
      refine valid.frame rfl (le_refl _) ?_
      intro index job found critical
      rcases getElem?_appended.mp found with old | ⟨_, rfl⟩
      · exact old
      · cases critical
  | advanced event index job phase quiet present moved =>
      rcases moved with ⟨answer, rfl, fetching, rfl⟩ | ⟨page, answer, rfl, attributing, rfl⟩ |
        ⟨operation, todo, message, rfl, _, rfl⟩ | ⟨rfl, _, rfl⟩
      · obtain ⟨unsaved, current⟩ := afterPage_current job.lease answer
        cases answer with
        | error raised => exact valid.leave present (failure_uncritical raised) rfl
        | ok page =>
            simp only [observeReads, present]
            apply valid.check forward present unsaved
            intro critical
            obtain ⟨answered, same, revision⟩ := current critical
            cases same
            exact revision
      · cases answer with
        | error raised => exact valid.leave present (failure_uncritical raised) rfl
        | ok attributed =>
            refine valid.stamp present ?_ ?_
            · rw [attributing]
              rfl
            · intro values saving
              cases saving
              rfl
      · refine valid.leave present ?_ rfl
        unfold afterFailure
        split
        · rfl
        · exact failure_uncritical (.unexpected message)
      · exact valid.leave present rfl rfl
  | performed index job operation todo present next =>
      have own := planned index job present
      rw [next] at own
      have settled : (Phase.performing todo).critical = false := by
        cases own <;> rfl
      by_cases saves : ∃ values, operation = .saveResult values
      · obtain ⟨values, rfl⟩ := saves
        have saving : job.phase.values = some values := by
          rw [next]
          rfl
        have free : index ∉ observed.overtaken := by
          simpa [savesUnovertaken, present, saving] using unovertaken
        simp only [observeReads, present, saving, Option.isSome_some, if_true]
        cases own with
        | saving _ same => exact valid.save present saving same free settled
      · have unsaved : job.phase.values = none := by
          rw [next]
          cases own with
          | saving values same => exact absurd ⟨values, rfl⟩ saves
          | _ => rfl
        simp only [observeReads, present, unsaved, Option.isSome_none, Bool.false_eq_true, if_false]
        exact valid.leave present settled (perform_results (not_exists.mp saves))
  | cleaned queueDays supersededResultDays chosen store removed => exact valid.clean removed
  | listed event store idle work results activeWikis =>
      exact inOrder_idle valid idle results (le_refl _) (fun _ _ found _ => found)

/-- In every run in which the reported revisions never go back and no job saves behind
another's back, successive ready answers about a page name revisions in order. -/
theorem served_in_order (runtime : Runtime) (start : Time) (watched : System × Observed)
    (reached : (readWatch runtime start).ReachableChecked
      (fun watched event => reportsForward watched event && savesUnovertaken watched event)
      watched) : ServedInOrder watched.2 := by
  have valid : InOrder watched := by
    refine Machine.invariant_of_reached InOrder (inOrder_initial start) ?_ reached
    intro before event after earlier valid allowed taken
    obtain ⟨moved, recorded⟩ := Machine.withHistory_step taken
    have planned := jobsPlanned (Machine.reachable_of_withHistory earlier)
    rw [Bool.and_eq_true] at allowed
    have next := inOrder_step valid planned allowed.1 allowed.2 (step_stepped moved)
    rw [← recorded] at next
    exact next
  exact valid.successive

/-- Two jobs of one page, the first slow and the second current, up to the answers. -/
def slowFirst (rest : List Event) : List Event :=
  [.enqueue (articleKey 5) 100 false, .claim "a" 0, .getPage 0 (.ok (articlePage 5)),
    .enqueue (articleKey 6) 100 false] ++ rest

theorem served_in_order_refresh :
    ∃ watched, (readWatch plainRuntime 0).ReachableChecked
        (fun watched event => reportsForward watched event && savesUnovertaken watched event)
        watched ∧
      watched.2.served.map Prod.snd = [6, 5] ∧ ServedInOrder watched.2 := by
  have ran : ∃ watched, (readWatch plainRuntime 0).ReachableChecked
        (fun watched event => reportsForward watched event && savesUnovertaken watched event)
        watched ∧ watched.2.served.map Prod.snd = [6, 5] :=
    Machine.exists_of_runWhere
      (slowFirst [.attributePage 0 (.ok ownTokens), .perform 0, .perform 0, .perform 0,
        .request .v2 (articleRequest 5), .claim "a" 0, .tick 1000000,
        .getPage 1 (.ok (articlePage 6)), .attributePage 1 (.ok ownTokens), .perform 1,
        .request .v2 (articleRequest 6)])
      (by decide)
  obtain ⟨watched, reached, answers⟩ := ran
  exact ⟨watched, reached, answers, served_in_order plainRuntime 0 watched reached⟩

/-- The job of revision 5 checked while 5 was current. It finishes after revision 6 was
computed and served, and its later computation time takes the page back. -/
theorem served_goes_back :
    ¬ ∀ (runtime : Runtime) (start : Time) (watched : System × Observed),
        (readWatch runtime start).ReachableChecked reportsForward watched →
          ServedInOrder watched.2 := by
  intro claimed
  have overtaken : ∃ watched, (readWatch plainRuntime 0).ReachableChecked reportsForward watched ∧
      watched.2.served = [((articleKey 5).toPageKey, 5), ((articleKey 5).toPageKey, 6)] :=
    Machine.exists_of_runWhere
      (slowFirst [.claim "b" 0, .getPage 1 (.ok (articlePage 6)),
        .attributePage 1 (.ok ownTokens), .perform 1, .request .v2 (articleRequest 6),
        .tick 1000000, .attributePage 0 (.ok ownTokens), .perform 0,
        .request .v2 (articleRequest 6)])
      (by decide)
  obtain ⟨watched, reached, answers⟩ := overtaken
  have ordered := claimed plainRuntime 0 watched reached
  rw [ServedInOrder, answers] at ordered
  exact absurd (List.pairwise_cons.mp ordered).1 (by decide)

end WikiPeople
