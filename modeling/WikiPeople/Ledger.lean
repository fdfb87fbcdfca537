import Mathlib.Algebra.Ring.Int.Defs
import Mathlib.Logic.Function.Basic
import Mathlib.Data.Set.Basic
import WikiPeople.Operations
import WikiPeople.Serving

/-! What the database is for, as three functions: the values last saved for a revision and what
each wiki last reported about its pages and its accounts. The answers follow these alone. -/

namespace WikiPeople

open Relational Transition

/-- What the service was told last. Nothing is ever taken out of `saved`. -/
structure Ledger where
  saved : Identity → Option ResultValues
  optedOut : String → Set Int
  standing : String → Int → Option AccountStanding

def Ledger.blank : Ledger := ⟨fun _ => none, fun _ => ∅, fun _ _ => none⟩

def reported (records : List StandingRecord) (userId : Int) : Option AccountStanding :=
  ((records.filter (fun record => record.standing.userId = userId)).getLast?).map
    StandingRecord.standing

def Ledger.hear (ledger : Ledger) : Transaction → Ledger
  | .saveResult values =>
      { ledger with saved := Function.update ledger.saved values.toIdentity (some values) }
  | .replaceOptout wiki entries =>
      { ledger with
        optedOut := Function.update ledger.optedOut wiki
          {pageId | ∃ entry ∈ entries, entry.pageId = pageId} }
  | .replaceStanding wiki records =>
      { ledger with standing := Function.update ledger.standing wiki (reported records) }
  | _ => ledger

@[simp] theorem hear_saved (ledger : Ledger) (values : ResultValues) :
    (ledger.hear (.saveResult values)).saved =
      Function.update ledger.saved values.toIdentity (some values) := rfl

@[simp] theorem hear_optedOut (ledger : Ledger) (wiki : String) (entries : List OptOutEntry) :
    (ledger.hear (.replaceOptout wiki entries)).optedOut =
      Function.update ledger.optedOut wiki
        {pageId | ∃ entry ∈ entries, entry.pageId = pageId} := rfl

@[simp] theorem hear_standing (ledger : Ledger) (wiki : String)
    (records : List StandingRecord) :
    (ledger.hear (.replaceStanding wiki records)).standing =
      Function.update ledger.standing wiki (reported records) := rfl

def accounted (runtime : Runtime) (start : Time) : Machine (Database × Ledger) Transaction :=
  (repository runtime ⟨.empty, start⟩).withHistory .blank
    (fun ledger _ transaction _ => ledger.hear transaction)

def Ledger.nameable (ledger : Ledger) (runtime : Runtime) (wiki : String) (now : Time)
    (userId : Int) : Bool :=
  isNameableAccount runtime.alphabet (ledger.standing wiki userId)
    (maxVisibleBlockSecondsFor runtime.settings wiki) now

open Classical in
/-- The names a page may show: none where it is opted out, else those saved for it that the
wiki's last report does not rule out. -/
noncomputable def Ledger.names (ledger : Ledger) (runtime : Runtime) (request : Request)
    (now : Time) (values : ResultValues) : List Contributor :=
  if request.pageId ∈ ledger.optedOut request.wiki then []
  else if runtime.settings.hideSanctionedContributors then
    values.contributors.filter
      (fun contributor => contributor.userId.all (ledger.nameable runtime request.wiki now))
  else values.contributors

def revisionField : Version → String
  | .v1 => "revision_id"
  | .v2 => "source_revision_id"

open Classical in
/-- What a ready answer of either version says of a saved result. -/
noncomputable def Ledger.tells (ledger : Ledger) (runtime : Runtime) (version : Version)
    (request : Request) (now : Time) (values : ResultValues) : List (String × Json) :=
  let names := ledger.names runtime request now values
  [("status", .str "ready"), ("wiki", .str values.wiki), ("page_id", .int values.pageId),
    (revisionField version, .int values.revisionId), ("title", .str values.title),
    ("algorithm_version", .str values.algorithmVersion), ("metric", .str values.metric),
    ("contributors", .arr (names.map contributorJson)),
    ("distinct_contributors", .int values.distinctContributors),
    ("other_contributors", .int (max 0 (values.distinctContributors - names.length))),
    ("opted_out", .bool (request.pageId ∈ ledger.optedOut request.wiki)),
    ("count_limited", .bool values.countLimited),
    ("countable_tokens", .int values.countableTokens),
    ("computed_at", .str (isoformat values.computedAt)),
    ("methodology_url", .str runtime.settings.methodologyUrl)]

/-- The stored tables hold what the ledger says. Rows of older results may be gone, but a page
that has had one keeps one. -/
structure Represents (ledger : Ledger) (store : Store) : Prop where
  saved : ∀ result ∈ store.results.rows,
    ledger.saved result.toIdentity = some result.toResultValues
  served : ∀ key, (ledger.saved key).isSome = true →
    (getLatestResult store key.toPageKey).isSome = true
  optedOut : ∀ wiki pageId,
    isOptedOut store wiki pageId = true ↔ pageId ∈ ledger.optedOut wiki
  standing : ∀ wiki userId,
    (store.contributorStanding.find (wiki, userId)).map ContributorStanding.standing =
      ledger.standing wiki userId

section Lists

variable {store : Store} {wiki other : String} {now : Time}

theorem isOptedOut_replaced (entries : List OptOutEntry) (pageId : Int) :
    isOptedOut (replaceOptout store wiki entries now).2 other pageId = true ↔
      if other = wiki then ∃ entry ∈ entries, entry.pageId = pageId
      else isOptedOut store other pageId = true := by
  have named : ∀ entry ∈ (entriesByPage entries).rows, entry.2.pageId = entry.1 := by
    intro entry member
    have found := Table.find_eq_some.mpr ⟨member, rfl⟩
    rw [entriesByPage, find_byName OptOutEntry.pageId] at found
    obtain ⟨last, present, same⟩ := Option.map_eq_some_iff.mp found
    have wanted := (List.mem_filter.mp (List.mem_of_getLast? present)).2
    rw [← same]
    exact of_decide_eq_true wanted
  rw [isOptedOut, replaceOptout_table]
  have found := find_replaced store.pageOptout (entriesByPage entries) wiki
    (fun entry => optoutRow wiki now entry.2)
    (fun entry member => Prod.ext rfl (named entry member)) (other, pageId)
  dsimp only [optout_key] at found
  rw [wantedOptouts, found]
  by_cases same : other = wiki
  · rw [if_pos same, if_pos same, Option.isSome_map, entriesByPage,
      find_byName OptOutEntry.pageId, Option.isSome_map, List.getLast?_isSome,
      ne_eq, List.filter_eq_nil_iff]
    simp
  · rw [if_neg same, if_neg same]
    rfl

theorem standing_replaced (records : List StandingRecord) (userId : Int) :
    (((replaceStanding store wiki records now).2.contributorStanding.find (other, userId)).map
        ContributorStanding.standing) =
      if other = wiki then reported records userId
      else (store.contributorStanding.find (other, userId)).map ContributorStanding.standing := by
  have found := find_replaced store.contributorStanding (recordsByUser records) wiki
    (fun entry => standingRow wiki now entry.1 entry.2) (fun _ _ => rfl) (other, userId)
  rw [replaceStanding_table, wantedStandings]
  refine (congrArg _ found).trans ?_
  by_cases same : other = wiki
  · rw [if_pos same, if_pos same, recordsByUser,
      find_byName (fun record : StandingRecord => record.standing.userId), reported]
    cases last : (records.filter (fun record => record.standing.userId = userId)).getLast? with
    | none => rfl
    | some record =>
        have own : record.standing.userId = userId :=
          of_decide_eq_true (List.mem_filter.mp (List.mem_of_getLast? last)).2
        subst own
        rfl
  · rw [if_neg same, if_neg same]

end Lists

def Transaction.informs : Transaction → Bool
  | .saveResult _ | .cleanup _ _ _ | .replaceOptout _ _ | .replaceStanding _ _ => true
  | _ => false

section Executed

variable {runtime : Runtime} {store after : Store} {now : Time} {transaction : Transaction}
  {ledger : Ledger}

theorem execute_frame (silent : transaction.informs = false)
    (answered : execute runtime store now transaction = some after) :
    after = { store with work := after.work, activeWikis := after.activeWikis } := by
  cases transaction with
  | tick elapsed =>
      cases answered
      rfl
  | request version request =>
      cases answered
      rw [(respond_demanded runtime version request).frame]
  | enqueue key priority allowCachedResult =>
      cases answered
      rw [enqueue_frame]
  | enqueueIfStale key priority freshnessSeconds =>
      cases answered
      rw [(Demanded.enqueueIfStale .unchanged key priority freshnessSeconds).frame]
  | claim workerId leaseSeconds pick =>
      obtain ⟨⟨lease, claimed⟩, taken, rfl⟩ := Option.map_eq_some_iff.mp answered
      obtain ⟨item, _, _, _, rfl⟩ := claim_taken taken
      rfl
  | registerActiveWiki wiki =>
      cases answered
      rw [register_frame]
  | saveResult values => cases silent
  | cleanup queueDays supersededResultDays chosen => cases silent
  | replaceOptout wiki entries => cases silent
  | replaceStanding wiki records => cases silent
  | complete workId =>
      cases answered
      rfl
  | supersede workId reason =>
      cases answered
      rfl
  | fail lease code message maxAttempts permanent =>
      cases answered
      rfl
  | revive workId priority =>
      cases answered
      rfl

theorem saveResult_frame (values : ResultValues) :
    saveResult store values = { store with results := (saveResult store values).results } := by
  unfold saveResult
  split <;> rfl

theorem execute_standings (other : ∀ wiki records, transaction ≠ .replaceStanding wiki records)
    (answered : execute runtime store now transaction = some after) :
    after.contributorStanding = store.contributorStanding := by
  cases silent : transaction.informs with
  | false => rw [execute_frame silent answered]
  | true =>
      cases transaction with
      | saveResult values =>
          cases answered
          rw [saveResult_frame]
      | cleanup queueDays supersededResultDays chosen =>
          simp only [execute, cleanup] at answered
          split at answered
          · cases answered
            rfl
          · cases answered
      | replaceOptout wiki entries =>
          cases answered
          rfl
      | replaceStanding wiki records => exact absurd rfl (other wiki records)
      | _ => cases silent

theorem hear_silent (silent : transaction.informs = false) : ledger.hear transaction = ledger := by
  cases transaction <;> first | rfl | cases silent

theorem latest_isSome {page : PageKey} : (getLatestResult store page).isSome = true ↔
    ∃ result ∈ store.results.rows, result.toPageKey = page := by
  rw [← not_iff_not, Bool.not_eq_true, Option.isSome_eq_false_iff, Option.isNone_iff_eq_none,
    latest_eq_none]
  simp only [not_exists, not_and, ne_eq]

theorem Represents.hear (represents : Represents ledger store)
    (answered : execute runtime store now transaction = some after) :
    Represents (ledger.hear transaction) after := by
  cases silent : transaction.informs with
  | false =>
      have frame := execute_frame silent answered
      rw [hear_silent silent, frame]
      exact ⟨represents.saved, represents.served, represents.optedOut, represents.standing⟩
  | true =>
      cases transaction with
      | saveResult values =>
          cases answered
          refine ⟨?_, ?_, ?_, ?_⟩
          · intro result member
            rcases mem_saveResult.mp member with ⟨old, other⟩ | rfl
            · rw [hear_saved, Function.update_of_ne other]
              exact represents.saved result old
            · exact Function.update_self _ _ _
          · intro key known
            rw [latest_isSome]
            by_cases same : key = values.toIdentity
            · subst same
              exact ⟨_, mem_saveResult.mpr (Or.inr rfl), rfl⟩
            · rw [hear_saved, Function.update_of_ne same] at known
              obtain ⟨result, old, page⟩ := latest_isSome.mp (represents.served key known)
              by_cases replaced : result.toIdentity = values.toIdentity
              · refine ⟨_, mem_saveResult.mpr (Or.inr rfl), ?_⟩
                rw [← page, show result.toPageKey = values.toPageKey from
                  congrArg Identity.toPageKey replaced]
              · exact ⟨result, mem_saveResult.mpr (Or.inl ⟨old, replaced⟩), page⟩
          · rw [saveResult_frame]
            exact represents.optedOut
          · rw [saveResult_frame]
            exact represents.standing
      | cleanup queueDays supersededResultDays chosen =>
          have cleaned := cleanup_cleaned answered
          refine ⟨?_, ?_, ?_, ?_⟩
          · intro result member
            exact represents.saved result (cleaned.results result member)
          · intro key known
            rw [cleanup_latest answered]
            exact represents.served key known
          · simp only [execute, cleanup] at answered
            split at answered
            · cases answered
              exact represents.optedOut
            · cases answered
          · rw [execute_standings (fun _ _ same => by cases same) answered]
            exact represents.standing
      | replaceOptout wiki entries =>
          cases answered
          refine ⟨represents.saved, represents.served, ?_, represents.standing⟩
          intro other pageId
          rw [isOptedOut_replaced, hear_optedOut]
          by_cases same : other = wiki
          · subst same
            rw [if_pos rfl, Function.update_self]
            rfl
          · rw [if_neg same, Function.update_of_ne same]
            exact represents.optedOut other pageId
      | replaceStanding wiki records =>
          cases answered
          refine ⟨represents.saved, represents.served, represents.optedOut, ?_⟩
          intro other userId
          rw [standing_replaced, hear_standing]
          by_cases same : other = wiki
          · subst same
            rw [if_pos rfl, Function.update_self]
          · rw [if_neg same, Function.update_of_ne same]
            exact represents.standing other userId
      | _ => cases silent

end Executed

theorem represents_blank : Represents .blank Store.empty where
  saved := by
    intro result member
    cases member
  served := by
    intro key known
    cases known
  optedOut := by
    intro wiki pageId
    exact ⟨fun listed => (Bool.false_ne_true listed).elim, fun listed => listed.elim⟩
  standing := fun _ _ => rfl

theorem represents_reached {runtime : Runtime} {start : Time} {state : Database × Ledger}
    (reached : (accounted runtime start).Reachable state) : Represents state.2 state.1.store := by
  refine Machine.invariant
    (fun state : Database × Ledger => Represents state.2 state.1.store) ?_ ?_ reached
  · exact represents_blank
  · intro before transaction after represents _ taken
    obtain ⟨moved, heard⟩ := Machine.withHistory_step taken
    rw [heard]
    exact represents.hear (transact_eq_some moved).1

section Answer

variable {runtime : Runtime} {ledger : Ledger} {store : Store} {request : Request} {now : Time}
  {result : AttributionResult}

theorem Represents.nameable (represents : Represents ledger store) :
    ledger.nameable runtime = fun wiki now userId =>
      accountNameable runtime store wiki now userId := by
  funext wiki now userId
  rw [Ledger.nameable, accountNameable, represents.standing]

theorem Represents.names (represents : Represents ledger store) :
    presentedContributors runtime store request.wiki request.pageId now result =
      ledger.names runtime request now result.toResultValues := by
  have listed := represents.optedOut request.wiki request.pageId
  rw [presentedContributors, Ledger.names]
  cases hidden : isOptedOut store request.wiki request.pageId with
  | true => rw [if_pos rfl, if_pos (listed.mp hidden)]
  | false =>
      have visible : request.pageId ∉ ledger.optedOut request.wiki := by
        intro member
        rw [listed.mpr member] at hidden
        cases hidden
      rw [if_neg Bool.false_ne_true, if_neg visible]
      cases hides : runtime.settings.hideSanctionedContributors with
      | true =>
          rw [if_pos rfl, nameableContributors_eq hides, represents.nameable]
          rfl
      | false =>
          rw [if_neg Bool.false_ne_true, nameableContributors, hides]
          rfl

theorem Represents.listed (represents : Represents ledger store) (wiki : String) (pageId : Int)
    [Decidable (pageId ∈ ledger.optedOut wiki)] :
    isOptedOut store wiki pageId = decide (pageId ∈ ledger.optedOut wiki) := by
  rw [Bool.eq_iff_iff, decide_eq_true_eq]
  exact represents.optedOut wiki pageId

theorem readyPayload_says (represents : Represents ledger store) :
    ∀ field ∈ ledger.tells runtime .v1 request now result.toResultValues,
      (readyPayload runtime store request now result).field field.1 = some field.2 := by
  intro field member
  simp only [Ledger.tells, List.mem_cons, List.not_mem_nil, or_false] at member
  rw [← represents.names, ← represents.listed] at member
  rcases member with rfl | rfl | rfl | rfl | rfl | rfl | rfl | rfl | rfl | rfl | rfl | rfl | rfl |
    rfl | rfl <;> rfl

theorem readyPagePayload_says (represents : Represents ledger store)
    (work : SerialTable WorkItem) (refreshing : Bool) :
    ∀ field ∈ ledger.tells runtime .v2 request now result.toResultValues,
      (readyPagePayload runtime { store with work := work } request now result refreshing).field
        field.1 = some field.2 := by
  intro field member
  simp only [Ledger.tells, List.mem_cons, List.not_mem_nil, or_false] at member
  rw [← represents.names, ← represents.listed] at member
  rcases member with rfl | rfl | rfl | rfl | rfl | rfl | rfl | rfl | rfl | rfl | rfl | rfl | rfl |
    rfl | rfl <;> rfl

/-- The ids fit their columns. Asked about larger ones the database raises, which `respond` does
not model: the service answers 500. -/
def Request.Storable (request : Request) : Prop :=
  request.pageId < 2 ^ 63 ∧ request.revisionId < 2 ^ 63

structure Follows (ledger : Ledger) (runtime : Runtime) (version : Version) (request : Request)
    (now : Time) (response : Response) : Prop where
  ready : response.status = 200 → ∃ values payload, response.body = some payload ∧
    ledger.saved values.toIdentity = some values ∧
    values.toPageKey = (request.key runtime.settings.algorithmVersion).toPageKey ∧
    (version = .v1 → values.revisionId = request.revisionId) ∧
    ∀ field ∈ ledger.tells runtime version request now values,
      payload.field field.1 = some field.2
  kept : version = .v2 → refusal runtime request = none → request.Storable → ∀ key,
    (ledger.saved key).isSome = true →
    key.toPageKey = (request.key runtime.settings.algorithmVersion).toPageKey →
    response.status = 200 ∨ response.status = 304

theorem pageAttribution_follows (represents : Represents ledger store) :
    Follows ledger runtime .v1 request now (pageAttribution runtime store request now).1 := by
  refine ⟨?_, nofun⟩
  intro ready
  simp only [pageAttribution] at ready ⊢
  cases refused : refusal runtime request with
  | some response =>
      have late := refusal_status refused
      simp only [refused] at ready
      omega
  | none =>
      cases found : getResult store (request.key runtime.settings.algorithmVersion) with
      | some result =>
          obtain ⟨stored, key⟩ := Table.find_eq_some.mp found
          have identity : result.toIdentity = request.key runtime.settings.algorithmVersion := key
          simp only [refused, found] at ready ⊢
          rcases conditional_answer rfl with unchanged | ⟨_, body⟩
          · rw [unchanged] at ready
            simp at ready
          · exact ⟨result.toResultValues, _, body, represents.saved result stored,
              congrArg Identity.toPageKey identity,
              fun _ => congrArg Identity.revisionId identity,
              readyPayload_says represents⟩
      | none =>
          simp only [refused, found] at ready
          split at ready
          · simp [WikiPeople.unavailable] at ready
          · simp [WikiPeople.pending] at ready

theorem pageAttributionByFreshness_follows (represents : Represents ledger store) :
    Follows ledger runtime .v2 request now
      (pageAttributionByFreshness runtime store request now).1 := by
  have asked : ∀ fresh : Bool, ∃ work,
      (if fresh = true then store else refresh runtime.settings store
        (request.key runtime.settings.algorithmVersion) now) = { store with work := work } := by
    intro fresh
    cases fresh with
    | true => exact ⟨store.work, rfl⟩
    | false => exact ⟨_, refresh_frame runtime.settings store _ now⟩
  constructor
  · intro ready
    simp only [pageAttributionByFreshness] at ready ⊢
    cases refused : refusal runtime request with
    | some response =>
        have late := refusal_status refused
        simp only [refused] at ready
        omega
    | none =>
        cases found : getLatestResult store
            (request.key runtime.settings.algorithmVersion).toPageKey with
        | some result =>
            obtain ⟨stored, page⟩ := latest_mem found
            simp only [refused, found] at ready ⊢
            obtain ⟨work, same⟩ := asked (isFresh runtime.settings result now)
            rw [same] at ready ⊢
            rcases conditional_answer rfl with unchanged | ⟨_, body⟩
            · rw [unchanged] at ready
              simp at ready
            · exact ⟨result.toResultValues, _, body, represents.saved result stored, page,
                fun older => Version.noConfusion older, readyPagePayload_says represents work _⟩
        | none =>
            simp only [refused, found] at ready
            split at ready
            · simp [WikiPeople.unavailable] at ready
            · simp [WikiPeople.pending] at ready
  · intro _ accepted _ key known page
    have served := represents.served key known
    rw [page] at served
    obtain ⟨result, found⟩ := Option.isSome_iff_exists.mp served
    simp only [pageAttributionByFreshness, accepted, found]
    rcases conditional_answer rfl with unchanged | ⟨fine, _⟩
    · exact Or.inr unchanged
    · exact Or.inl fine

end Answer

/-- Whatever transactions came before, in any order: a ready answer says of some saved values of
the page what the ledger says, and a page that has had a result has an answer for ever. -/
theorem answers_follow_ledger {runtime : Runtime} {start : Time} {state : Database × Ledger}
    (reached : (accounted runtime start).Reachable state) (version : Version)
    (request : Request) :
    Follows state.2 runtime version request state.1.now
      (respond runtime version state.1.store request state.1.now).1 := by
  have represents := represents_reached reached
  cases version with
  | v1 => exact pageAttribution_follows represents
  | v2 => exact pageAttributionByFreshness_follows represents

/-- A result of the page "A" is saved and the page is put on the list of the wiki. -/
def savedThenListed : List Transaction :=
  [.saveResult
      { toIdentity := articleKey 10, title := "A", metric := ownTokens.metric
        contributors := ownTokens.contributors, distinctContributors := 1
        countLimited := false, countableTokens := 90, wikiwhoRevisionId := 10, computedAt := 0 },
    .replaceOptout "frwiki" [⟨1, "A", "page"⟩]]

theorem answers_follow_ledger_listed :
    ∃ state, (accounted plainRuntime 0).Reachable state ∧
      (respond plainRuntime .v2 state.1.store (articleRequest 10) state.1.now).1.status = 200 ∧
      Follows state.2 plainRuntime .v2 (articleRequest 10) state.1.now
        (respond plainRuntime .v2 state.1.store (articleRequest 10) state.1.now).1 := by
  obtain ⟨state, reached, ready⟩ := @Machine.exists_of_run _ _ (accounted plainRuntime 0)
    (fun state =>
      (respond plainRuntime .v2 state.1.store (articleRequest 10) state.1.now).1.status = 200)
    _ savedThenListed (by decide +kernel)
  exact ⟨state, reached, ready, answers_follow_ledger reached .v2 (articleRequest 10)⟩

end WikiPeople
