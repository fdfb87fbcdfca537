import WikiPeople.Jobs

/-! Answers do not depend on the names they withhold. -/

namespace WikiPeople

open Relational

inductive Padded {Item : Type} (extra : Item → Prop) : List Item → List Item → Prop
  | nil : Padded extra [] []
  | keep (item : Item) {short long : List Item} (rest : Padded extra short long) :
      Padded extra (item :: short) (item :: long)
  | insert (item : Item) {short long : List Item} (isExtra : extra item)
      (rest : Padded extra short long) : Padded extra short (item :: long)

theorem Padded.filter_eq {Item : Type} {extra : Item → Prop} {visible : Item → Bool}
    {short long : List Item} (hidden : ∀ item, extra item → visible item = false)
    (padded : Padded extra short long) : short.filter visible = long.filter visible := by
  induction padded with
  | nil => rfl
  | keep item rest ih => rw [List.filter_cons, List.filter_cons, ih]
  | insert item isExtra rest ih => rw [List.filter_cons, hidden item isExtra, ih]; rfl

/-- `is_nameable_account` at the threshold of the wiki. -/
def accountNameable (runtime : Runtime) (store : Store) (wiki : String) (now : Time)
    (userId : Int) : Bool :=
  isNameableAccount runtime.alphabet
    ((store.contributorStanding.find (wiki, userId)).map ContributorStanding.standing)
    (maxVisibleBlockSecondsFor runtime.settings wiki) now

/-- An entry without an integer account has no standing, and is named. -/
def contributorNameable (runtime : Runtime) (store : Store) (wiki : String) (now : Time)
    (contributor : Contributor) : Bool :=
  contributor.userId.all (accountNameable runtime store wiki now)

def Refused (runtime : Runtime) (store : Store) (wiki : String) (now : Time)
    (contributor : Contributor) : Prop :=
  ∃ userId, contributor.userId = some userId ∧
    accountNameable runtime store wiki now userId = false

theorem Refused.not_nameable {runtime : Runtime} {store : Store} {wiki : String} {now : Time}
    {contributor : Contributor} (refused : Refused runtime store wiki now contributor) :
    contributorNameable runtime store wiki now contributor = false := by
  obtain ⟨userId, named, hidden⟩ := refused
  rw [contributorNameable, named]
  exact hidden

/-- The accounts asked about are those of the list, so each entry is judged by its own
standing whatever the others are. -/
theorem nameableContributors_eq {runtime : Runtime}
    (hides : runtime.settings.hideSanctionedContributors = true) (store : Store)
    (wiki : String) (now : Time) (contributors : List Contributor) :
    nameableContributors runtime store wiki now contributors =
      contributors.filter (contributorNameable runtime store wiki now) := by
  rw [nameableContributors, hides, Bool.not_true, Bool.false_or]
  cases contributors with
  | nil => rfl
  | cons first rest =>
      rw [List.isEmpty_cons, if_neg Bool.false_ne_true]
      apply List.filter_congr
      intro contributor member
      rw [contributorNameable]
      cases named : contributor.userId with
      | none => rfl
      | some userId =>
          have asked : userId ∈ (first :: rest).filterMap Contributor.userId :=
            List.mem_filterMap.mpr ⟨contributor, member, named⟩
          rw [Option.bind_some, standingFor_lookup asked]
          rfl

inductive Withheld (runtime : Runtime) (store : Store) (now : Time) :
    AttributionResult → AttributionResult → Prop
  | same (row : AttributionResult) : Withheld runtime store now row row
  | optedOut (row : AttributionResult) (contributors : List Contributor)
      (hidden : isOptedOut store row.wiki row.pageId = true) :
      Withheld runtime store now row
        { row with toResultValues := { row.toResultValues with contributors := contributors } }
  | refused (row : AttributionResult) (contributors : List Contributor)
      (padded : Padded (Refused runtime store row.wiki now) row.contributors contributors) :
      Withheld runtime store now row
        { row with toResultValues := { row.toResultValues with contributors := contributors } }

section Rows

variable {runtime : Runtime} {store : Store} {now : Time} {row other : AttributionResult}

structure SameColumns (row other : AttributionResult) : Prop where
  identity : row.toIdentity = other.toIdentity
  id : row.id = other.id
  title : row.title = other.title
  metric : row.metric = other.metric
  distinctContributors : row.distinctContributors = other.distinctContributors
  countLimited : row.countLimited = other.countLimited
  countableTokens : row.countableTokens = other.countableTokens
  computedAt : row.computedAt = other.computedAt

theorem Withheld.columns (withheld : Withheld runtime store now row other) :
    SameColumns row other := by
  cases withheld <;> exact ⟨rfl, rfl, rfl, rfl, rfl, rfl, rfl, rfl⟩

theorem SameColumns.symm (same : SameColumns row other) : SameColumns other row :=
  ⟨same.identity.symm, same.id.symm, same.title.symm, same.metric.symm,
    same.distinctContributors.symm, same.countLimited.symm, same.countableTokens.symm,
    same.computedAt.symm⟩

/-- The names an answer carries do not tell the two rows apart. -/
theorem Withheld.presented (hides : runtime.settings.hideSanctionedContributors = true)
    (withheld : Withheld runtime store now row other) :
    presentedContributors runtime store row.wiki row.pageId now row =
      presentedContributors runtime store row.wiki row.pageId now other := by
  cases withheld with
  | same => rfl
  | optedOut contributors hidden => rw [presentedContributors, presentedContributors, hidden]; rfl
  | refused contributors padded =>
      simp only [presentedContributors, nameableContributors_eq hides]
      rw [padded.filter_eq (fun _ refused => refused.not_nameable)]

/-- The rows differ in withheld names, which either of them may have more of. -/
def Alike (runtime : Runtime) (store : Store) (now : Time) (row other : AttributionResult) :
    Prop :=
  Withheld runtime store now row other ∨ Withheld runtime store now other row

theorem Alike.columns (alike : Alike runtime store now row other) : SameColumns row other := by
  rcases alike with withheld | withheld
  · exact withheld.columns
  · exact withheld.columns.symm

theorem Alike.presented (hides : runtime.settings.hideSanctionedContributors = true)
    (alike : Alike runtime store now row other) :
    presentedContributors runtime store row.wiki row.pageId now row =
      presentedContributors runtime store row.wiki row.pageId now other := by
  rcases alike with withheld | withheld
  · exact withheld.presented hides
  · have identity := withheld.columns.identity
    have wiki : other.wiki = row.wiki := congrArg (fun key => key.wiki) identity
    have pageId : other.pageId = row.pageId := congrArg (fun key => key.pageId) identity
    rw [← wiki, ← pageId]
    exact (withheld.presented hides).symm

theorem Alike.attributionFields (hides : runtime.settings.hideSanctionedContributors = true)
    (alike : Alike runtime store now row other) :
    attributionFields runtime store row.wiki row.pageId now row =
      attributionFields runtime store row.wiki row.pageId now other := by
  simp only [WikiPeople.attributionFields, alike.presented hides,
    alike.columns.distinctContributors]

end Rows

/-- Every row of the first list has a counterpart in the second. -/
def Matched (related : AttributionResult → AttributionResult → Prop)
    (first second : List AttributionResult) : Prop :=
  ∀ row ∈ first, ∃ other ∈ second, related row other

/-- The stores are the same but for the results, and these differ only in withheld names. -/
structure Indistinguishable (runtime : Runtime) (now : Time) (first second : Store) : Prop where
  others : second = { first with results := second.results }
  forth : Matched (Alike runtime first now) first.results.rows second.results.rows
  back : Matched (fun other row => Alike runtime first now row other) second.results.rows
    first.results.rows

section Lookups

variable {related : AttributionResult → AttributionResult → Prop} {first second : Store}

def Together {Item : Type} (related : Item → Item → Prop) (left right : Option Item) : Prop :=
  (left = none ∧ right = none) ∨
    ∃ item other, left = some item ∧ right = some other ∧ related item other

theorem together_of_forth {Item : Type} {related : Item → Item → Prop} {left right : Option Item}
    (forth : ∀ item, left = some item → ∃ other, right = some other ∧ related item other)
    (back : ∀ other, right = some other → ∃ item, left = some item) :
    Together related left right := by
  cases left with
  | some item =>
      obtain ⟨other, same, alike⟩ := forth item rfl
      exact Or.inr ⟨item, other, rfl, same, alike⟩
  | none =>
      refine Or.inl ⟨rfl, Option.eq_none_iff_forall_ne_some.mpr ?_⟩
      intro other found
      obtain ⟨item, same⟩ := back other found
      cases same

theorem getResult_matched (columns : ∀ row other, related row other → SameColumns row other)
    (forth : Matched related first.results.rows second.results.rows) {key : Identity}
    {row : AttributionResult} (found : getResult first key = some row) :
    ∃ other, getResult second key = some other ∧ related row other := by
  obtain ⟨member, same⟩ := Table.find_eq_some.mp found
  obtain ⟨other, present, alike⟩ := forth row member
  refine ⟨other, Table.find_eq_some.mpr ⟨present, ?_⟩, alike⟩
  exact (columns row other alike).identity.symm.trans same

theorem SameColumns.order {row other : AttributionResult} (same : SameColumns row other) :
    computedOrder row = computedOrder other := by
  rw [computedOrder, computedOrder, same.computedAt, same.id]

theorem SameColumns.page {row other : AttributionResult} (same : SameColumns row other) :
    row.toPageKey = other.toPageKey :=
  congrArg Identity.toPageKey same.identity

theorem getLatestResult_matched
    (columns : ∀ row other, related row other → SameColumns row other)
    (forth : Matched related first.results.rows second.results.rows)
    (back : Matched (fun other row => related row other) second.results.rows first.results.rows)
    {page : PageKey} {row : AttributionResult} (latest : getLatestResult first page = some row) :
    ∃ other, getLatestResult second page = some other ∧ related row other := by
  obtain ⟨member, same⟩ := latest_mem latest
  obtain ⟨other, present, alike⟩ := forth row member
  have equal := columns row other alike
  refine ⟨other, latest_of_newest present (equal.page.symm.trans same) ?_, alike⟩
  intro third thirdPresent thirdPage
  obtain ⟨fourth, fourthMember, fourthAlike⟩ := back third thirdPresent
  have fourthEqual := columns fourth third fourthAlike
  rw [← fourthEqual.order, ← equal.order]
  exact latest_newest latest fourthMember (fourthEqual.page.trans thirdPage)

end Lookups

section Answers

variable {runtime : Runtime} {now : Time} {store : Store} {results : SerialTable AttributionResult}

theorem getResult_alike (same : Indistinguishable runtime now store
      { store with results := results }) (key : Identity) :
    Together (Alike runtime store now) (getResult store key)
      (getResult { store with results := results } key) := by
  refine together_of_forth ?_ ?_
  · intro row found
    exact getResult_matched (fun _ _ => Alike.columns) same.forth found
  · intro other found
    obtain ⟨row, present, _⟩ :=
      getResult_matched (fun _ _ alike => (Alike.columns alike).symm) same.back found
    exact ⟨row, present⟩

theorem getLatestResult_alike (same : Indistinguishable runtime now store
      { store with results := results }) (page : PageKey) :
    Together (Alike runtime store now) (getLatestResult store page)
      (getLatestResult { store with results := results } page) := by
  refine together_of_forth ?_ ?_
  · intro row found
    exact getLatestResult_matched (fun _ _ => Alike.columns) same.forth same.back found
  · intro other found
    obtain ⟨row, present, _⟩ :=
      getLatestResult_matched (fun _ _ alike => (Alike.columns alike).symm) same.back same.forth
        found
    exact ⟨row, present⟩

theorem enqueue_withResults (key : Identity) (priority : Int) :
    enqueue { store with results := results } key priority true now =
      { enqueue store key priority true now with results := results } := by
  have written : ∀ existing newerWork,
      enqueueWrite { store with results := results } key priority now existing newerWork =
        (enqueueWrite store key priority now existing newerWork).map
          (fun after => { after with results := results }) := by
    intro existing newerWork
    cases existing with
    | none =>
        cases newerWork with
        | true => rfl
        | false =>
            simp only [enqueueWrite, Bool.false_eq_true, if_false, Option.map_map]
            rfl
    | some item =>
        simp only [enqueueWrite]
        split <;> rfl
  have read : getWork { store with results := results } key = getWork store key := rfl
  have newer : newerWorkExists { store with results := results } key =
    newerWorkExists store key := rfl
  simp only [enqueue, declined, Bool.not_true, Bool.false_and, Bool.false_eq_true, if_false, read,
    newer, written]
  cases enqueueWrite store key priority now (getWork store key) (newerWorkExists store key) <;> rfl

theorem reviveDead_withResults (settings : Settings) (key : Identity) :
    reviveDead settings { store with results := results } key now =
      { reviveDead settings store key now with results := results } := by
  simp only [reviveDead, getWork]
  split
  · rfl
  · split <;> rfl

theorem reviveDead_frame (settings : Settings) (store : Store) (key : Identity) (now : Time) :
    reviveDead settings store key now =
      { store with work := (reviveDead settings store key now).work } := by
  rcases reviveDead_store settings store key now with same | ⟨work, _, _, revival⟩
  · rw [same]
  · rw [revival]
    rfl

theorem refresh_frame (settings : Settings) (store : Store) (key : Identity) (now : Time) :
    refresh settings store key now =
      { store with work := (refresh settings store key now).work } := by
  rw [refresh]
  rcases enqueueIfStale_store (reviveDead settings store key now) key demand
    settings.pageFreshnessSeconds now with same | queued
  · rw [same]
    exact reviveDead_frame settings store key now
  · rw [queued, enqueue_frame, reviveDead_frame]

/-- A refresh reads from the results only when the newest one was computed. -/
theorem refresh_withResults (settings : Settings) (key : Identity)
    (same : (getLatestResult { store with results := results } key.toPageKey).map
        (fun result => result.computedAt) =
      (getLatestResult store key.toPageKey).map (fun result => result.computedAt)) :
    refresh settings { store with results := results } key now =
      { refresh settings store key now with results := results } := by
  have newest : getLatestResult (reviveDead settings store key now) key.toPageKey =
      getLatestResult store key.toPageKey := by
    simp only [getLatestResult, pageResults, reviveDead_results]
  have fresh : ∀ cutoff : Time,
      (getLatestResult
          { reviveDead settings store key now with results := results } key.toPageKey).any
          (fun latest => cutoff ≤ latest.computedAt) =
        (getLatestResult (reviveDead settings store key now) key.toPageKey).any
          (fun latest => cutoff ≤ latest.computedAt) := by
    intro cutoff
    rw [newest]
    change (getLatestResult { store with results := results } key.toPageKey).any _ = _
    have asked := congrArg (Option.any (fun computedAt => decide (cutoff ≤ computedAt))) same
    simpa only [Option.any_map] using asked
  rw [refresh, refresh, enqueueIfStale_eq, enqueueIfStale_eq, reviveDead_withResults,
    enqueue_withResults, fresh]
  split <;> rfl

theorem getLatestResult_computedAt (same : Indistinguishable runtime now store
      { store with results := results }) (page : PageKey) :
    (getLatestResult { store with results := results } page).map
        (fun result => result.computedAt) =
      (getLatestResult store page).map (fun result => result.computedAt) := by
  rcases getLatestResult_alike same page with
    ⟨absent, missing⟩ | ⟨row, other, found, counterpart, alike⟩
  · rw [absent, missing]
  · rw [found, counterpart, Option.map_some, Option.map_some, alike.columns.computedAt]

theorem Alike.freshUntil {row other : AttributionResult} (alike : Alike runtime store now row other)
    (settings : Settings) : freshUntil settings row = freshUntil settings other := by
  rw [WikiPeople.freshUntil, WikiPeople.freshUntil, alike.columns.computedAt]

theorem Alike.isFresh {row other : AttributionResult} (alike : Alike runtime store now row other)
    (settings : Settings) : isFresh settings row now = isFresh settings other now := by
  rw [WikiPeople.isFresh, WikiPeople.isFresh, alike.freshUntil]

theorem readyPayload_alike {row other : AttributionResult} {request : Request}
    (hides : runtime.settings.hideSanctionedContributors = true)
    (alike : Alike runtime store now row other) (wiki : row.wiki = request.wiki)
    (pageId : row.pageId = request.pageId) :
    readyPayload runtime store request now row =
      readyPayload runtime { store with results := results } request now other := by
  have fields := alike.attributionFields hides
  rw [wiki, pageId] at fields
  have elsewhere : attributionFields runtime { store with results := results } request.wiki
      request.pageId now other =
        attributionFields runtime store request.wiki request.pageId now other := rfl
  have columns := alike.columns
  simp only [readyPayload, fields, elsewhere, columns.identity, columns.title, columns.metric,
    columns.countLimited, columns.countableTokens, columns.computedAt]

theorem readyPagePayload_alike {row other : AttributionResult} {request : Request}
    (hides : runtime.settings.hideSanctionedContributors = true)
    (alike : Alike runtime store now row other) (wiki : row.wiki = request.wiki)
    (pageId : row.pageId = request.pageId) (work : SerialTable WorkItem) (refreshing : Bool) :
    readyPagePayload runtime { store with work := work } request now row refreshing =
      readyPagePayload runtime { store with work := work, results := results } request now other
        refreshing := by
  have fields := alike.attributionFields hides
  rw [wiki, pageId] at fields
  have here : attributionFields runtime { store with work := work } request.wiki
      request.pageId now row =
        attributionFields runtime store request.wiki request.pageId now row := rfl
  have elsewhere : attributionFields runtime
      { store with work := work, results := results } request.wiki request.pageId now other =
        attributionFields runtime store request.wiki request.pageId now other := rfl
  have columns := alike.columns
  simp only [readyPagePayload, alike.freshUntil, alike.isFresh, here, elsewhere, fields,
    columns.identity, columns.title, columns.metric, columns.countLimited,
    columns.countableTokens, columns.computedAt]

theorem deadWork_withResults (settings : Settings) (key : Identity) :
    deadWork settings { store with results := results } key now =
      deadWork settings store key now := rfl

theorem pageAttribution_alike (hides : runtime.settings.hideSanctionedContributors = true)
    (same : Indistinguishable runtime now store { store with results := results })
    (request : Request) :
    (pageAttribution runtime store request now).1 =
      (pageAttribution runtime { store with results := results } request now).1 := by
  simp only [pageAttribution, deadWork_withResults]
  cases refusal runtime request with
  | some response => rfl
  | none =>
      rcases getResult_alike same (request.key runtime.settings.algorithmVersion) with
        ⟨absent, missing⟩ | ⟨row, other, found, counterpart, alike⟩
      · simp only [absent, missing]
        cases deadWork runtime.settings store
          (request.key runtime.settings.algorithmVersion) now <;> rfl
      · have key : row.toIdentity = request.key runtime.settings.algorithmVersion :=
          (Table.find_eq_some.mp found).2
        have wiki : row.wiki = request.wiki := congrArg (fun key => key.wiki) key
        have pageId : row.pageId = request.pageId := congrArg (fun key => key.pageId) key
        simp only [found, counterpart]
        rw [readyPayload_alike hides alike wiki pageId]

theorem pageAttributionByFreshness_alike
    (hides : runtime.settings.hideSanctionedContributors = true)
    (same : Indistinguishable runtime now store { store with results := results })
    (request : Request) :
    (pageAttributionByFreshness runtime store request now).1 =
      (pageAttributionByFreshness runtime { store with results := results } request now).1 := by
  simp only [pageAttributionByFreshness, deadWork_withResults]
  cases refusal runtime request with
  | some response => rfl
  | none =>
      rcases getLatestResult_alike same
          (request.key runtime.settings.algorithmVersion).toPageKey with
        ⟨absent, missing⟩ | ⟨row, other, found, counterpart, alike⟩
      · simp only [absent, missing]
        cases deadWork runtime.settings store
          (request.key runtime.settings.algorithmVersion) now <;> rfl
      · have page := (latest_mem found).2
        have wiki : row.wiki = request.wiki := congrArg PageKey.wiki page
        have pageId : row.pageId = request.pageId := congrArg PageKey.pageId page
        have revision : row.revisionId = other.revisionId :=
          congrArg Identity.revisionId alike.columns.identity
        simp only [found, counterpart, ← alike.isFresh, ← revision]
        cases isFresh runtime.settings row now with
        | true =>
            apply congrArg (conditional runtime request _ _)
            exact readyPagePayload_alike hides alike wiki pageId store.work _
        | false =>
            have asked := @refresh_withResults now store results runtime.settings
              (request.key runtime.settings.algorithmVersion)
              (getLatestResult_computedAt same _)
            have frame := refresh_frame runtime.settings store
              (request.key runtime.settings.algorithmVersion) now
            simp only [Bool.false_eq_true, if_false, asked]
            apply congrArg (conditional runtime request _ _)
            rw [frame]
            exact readyPagePayload_alike hides alike wiki pageId _ _

end Answers

theorem respond_indistinguishable {runtime : Runtime} {now : Time} {first second : Store}
    (hides : runtime.settings.hideSanctionedContributors = true)
    (same : Indistinguishable runtime now first second) (version : Version)
    (request : Request) :
    (respond runtime version first request now).1 =
      (respond runtime version second request now).1 := by
  obtain ⟨results, rfl⟩ : ∃ results, second = { first with results := results } :=
    ⟨second.results, same.others⟩
  cases version with
  | v1 => exact pageAttribution_alike hides same request
  | v2 => exact pageAttributionByFreshness_alike hides same request

def listedContributors (response : Response) : List Json :=
  match response.body.bind (Json.field "contributors") with
  | some (.arr entries) => entries
  | _ => []

section Listed

variable {runtime : Runtime} {store : Store} {request : Request} {now : Time}
  {result : AttributionResult}

/-- What a ready answer of either version says about the stored result it presents. -/
structure Presents (runtime : Runtime) (store : Store) (request : Request) (now : Time)
    (result : AttributionResult) (payload : Json) : Prop where
  stored : result ∈ store.results.rows
  page : result.toPageKey = (request.key runtime.settings.algorithmVersion).toPageKey
  status : payload.field "status" = some (.str "ready")
  metric : payload.field "metric" = some (.str result.metric)
  contributors : payload.field "contributors" =
    some (.arr ((presentedContributors runtime store request.wiki request.pageId now
      result).map contributorJson))
  distinct : payload.field "distinct_contributors" = some (.int result.distinctContributors)
  others : payload.field "other_contributors" =
    some (.int (max 0 (result.distinctContributors -
      (presentedContributors runtime store request.wiki request.pageId now result).length)))

theorem readyPayload_presents (stored : result ∈ store.results.rows)
    (page : result.toPageKey = (request.key runtime.settings.algorithmVersion).toPageKey) :
    Presents runtime store request now result (readyPayload runtime store request now result) :=
  ⟨stored, page, rfl, rfl, rfl, rfl, rfl⟩

theorem readyPagePayload_presents (stored : result ∈ store.results.rows)
    (page : result.toPageKey = (request.key runtime.settings.algorithmVersion).toPageKey)
    (work : SerialTable WorkItem) (refreshing : Bool) :
    Presents runtime store request now result
      (readyPagePayload runtime { store with work := work } request now result refreshing) :=
  ⟨stored, page, rfl, rfl, rfl, rfl, rfl⟩

inductive Answered (runtime : Runtime) (store : Store) (request : Request) (now : Time) :
    Response → Prop
  | refused (response : Response) (refused : refusal runtime request = some response) :
      Answered runtime store request now response
  | ready (cacheControl : String) (extra : List (String × String)) (result : AttributionResult)
      (payload : Json) (presents : Presents runtime store request now result payload) :
      Answered runtime store request now (conditional runtime request cacheControl extra payload)
  | unavailable (revisionField : String) (work : WorkItem) :
      Answered runtime store request now (unavailable request revisionField work)
  | pending (revisionField : String) :
      Answered runtime store request now (pending request revisionField)

theorem pageAttribution_answered :
    Answered runtime store request now (pageAttribution runtime store request now).1 := by
  simp only [pageAttribution]
  cases refused : refusal runtime request with
  | some response => exact .refused response refused
  | none =>
      cases found : getResult store (request.key runtime.settings.algorithmVersion) with
      | some result =>
          obtain ⟨stored, key⟩ := Table.find_eq_some.mp found
          exact .ready _ _ result _
            (readyPayload_presents stored (congrArg Identity.toPageKey key))
      | none =>
          dsimp only
          split
          · exact .unavailable _ _
          · exact .pending _

theorem pageAttributionByFreshness_answered :
    Answered runtime store request now
      (pageAttributionByFreshness runtime store request now).1 := by
  simp only [pageAttributionByFreshness]
  cases refused : refusal runtime request with
  | some response => exact .refused response refused
  | none =>
      cases found : getLatestResult store
          (request.key runtime.settings.algorithmVersion).toPageKey with
      | some result =>
          obtain ⟨stored, page⟩ := latest_mem found
          refine .ready _ _ result _ ?_
          -- The refresh changes neither the opt-outs nor the standings.
          cases isFresh runtime.settings result now with
          | true => exact readyPagePayload_presents stored page store.work _
          | false =>
              simp only [Bool.false_eq_true, if_false]
              rw [refresh_frame]
              exact readyPagePayload_presents stored page _ _
      | none =>
          dsimp only
          split
          · exact .unavailable _ _
          · exact .pending _

theorem respond_answered {version : Version} :
    Answered runtime store request now (respond runtime version store request now).1 := by
  cases version with
  | v1 => exact pageAttribution_answered
  | v2 => exact pageAttributionByFreshness_answered

theorem conditional_answer {cacheControl : String} {extra : List (String × String)}
    {payload : Json} {response : Response}
    (same : response = conditional runtime request cacheControl extra payload) :
    response.status = 304 ∨ response.status = 200 ∧ response.body = some payload := by
  subst same
  simp only [conditional]
  split
  · exact Or.inl rfl
  · exact Or.inr ⟨rfl, rfl⟩

theorem Answered.success {response : Response}
    (answered : Answered runtime store request now response) (fine : response.status ≤ 299) :
    (response.status = 200 ∧ ∃ result payload, response.body = some payload ∧
        Presents runtime store request now result payload) ∨
      (response.status = 202 ∧
        ∃ revisionField, response = WikiPeople.pending request revisionField) := by
  cases answered with
  | refused response refused =>
      have late := refusal_status refused
      omega
  | ready cacheControl extra result payload presents =>
      rcases conditional_answer rfl with unchanged | ⟨ready, body⟩
      · rw [unchanged] at fine
        simp at fine
      · exact Or.inl ⟨ready, result, payload, body, presents⟩
  | unavailable revisionField work => simp [WikiPeople.unavailable] at fine
  | pending revisionField => exact Or.inr ⟨rfl, revisionField, rfl⟩

theorem respond_ready {version : Version}
    (ready : (respond runtime version store request now).1.status = 200) :
    ∃ result payload, (respond runtime version store request now).1.body = some payload ∧
      Presents runtime store request now result payload := by
  have fine : (respond runtime version store request now).1.status ≤ 299 := by omega
  rcases respond_answered.success fine with ⟨_, presented⟩ | ⟨waiting, _⟩
  · exact presented
  · omega

theorem Presents.listed {response : Response} {payload : Json} (body : response.body = some payload)
    (presents : Presents runtime store request now result payload) :
    listedContributors response =
      (presentedContributors runtime store request.wiki request.pageId now result).map
        contributorJson := by
  rw [listedContributors, body, Option.bind_some, presents.contributors]

theorem contributorJson_userId {contributor : Contributor} {userId : Int}
    (shown : (contributorJson contributor).field "user_id" = some (.int userId)) :
    contributor.userId = some userId := by
  cases named : contributor.userId with
  | some other =>
      simp only [contributorJson, named, Json.field] at shown
      cases shown
      rfl
  | none =>
      cases evidence : contributor.evidence <;>
        simp [contributorJson, named, evidence, evidenceField, Json.field,
          List.lookup_cons] at shown

theorem presented_nameable (hides : runtime.settings.hideSanctionedContributors = true)
    {wiki : String} {pageId : Int} {contributor : Contributor}
    (presented : contributor ∈ presentedContributors runtime store wiki pageId now result) :
    isOptedOut store wiki pageId = false ∧
      contributorNameable runtime store wiki now contributor = true := by
  rw [presentedContributors] at presented
  cases hidden : isOptedOut store wiki pageId with
  | true =>
      rw [hidden, if_pos rfl] at presented
      cases presented
  | false =>
      rw [hidden, if_neg Bool.false_ne_true, nameableContributors_eq hides] at presented
      exact ⟨rfl, (List.mem_filter.mp presented).2⟩

theorem listed_nameable (hides : runtime.settings.hideSanctionedContributors = true)
    {version : Version} (ready : (respond runtime version store request now).1.status = 200)
    {entry : Json} (listed : entry ∈ listedContributors (respond runtime version store request
      now).1) :
    isOptedOut store request.wiki request.pageId = false ∧
      ∀ userId, entry.field "user_id" = some (.int userId) →
        accountNameable runtime store request.wiki now userId = true := by
  obtain ⟨result, payload, body, presents⟩ := respond_ready ready
  rw [presents.listed body] at listed
  obtain ⟨contributor, presented, rfl⟩ := List.mem_map.mp listed
  obtain ⟨visible, nameable⟩ := presented_nameable hides presented
  refine ⟨visible, ?_⟩
  intro userId shown
  rw [contributorNameable, contributorJson_userId shown] at nameable
  exact nameable

end Listed

/-- Withheld names leave no trace in any answer. -/
theorem withheld_without_trace (runtime : Runtime)
    (hides : runtime.settings.hideSanctionedContributors = true) (version : Version)
    (request : Request) (now : Time) :
    (∀ first second, Indistinguishable runtime now first second →
        (respond runtime version first request now).1 =
          (respond runtime version second request now).1) ∧
      ∀ store, (respond runtime version store request now).1.status = 200 →
        ∀ entry ∈ listedContributors (respond runtime version store request now).1,
          isOptedOut store request.wiki request.pageId = false ∧
            ∀ userId, entry.field "user_id" = some (.int userId) →
              accountNameable runtime store request.wiki now userId = true := by
  constructor
  · intro first second same
    exact respond_indistinguishable hides same version request
  · intro store ready entry listed
    exact listed_nameable hides ready listed

def bannedStanding : ContributorStanding :=
  { wiki := "frwiki", userId := 8, username := "Bob", blockedAt := some 0
    blockExpiresAt := none, blockPartial := false, blockReason := none
    globallyLocked := false, lockReason := none, lockCheckedAt := none, syncedAt := 0 }

def articleStore (contributors : List Contributor) : Store :=
  saveResult { Store.empty with contributorStanding := Table.empty.put bannedStanding }
    { toIdentity := articleKey 10
      title := "A"
      metric := "wikiwho-surviving-alphanumeric-tokens"
      contributors := contributors
      distinctContributors := 2
      countLimited := false
      countableTokens := 90
      wikiwhoRevisionId := 10
      computedAt := 0 }

theorem withheld_without_trace_banned :
    (respond plainRuntime .v2 (articleStore ownTokens.contributors) (articleRequest 10) 0).1 =
      (respond plainRuntime .v2
        (articleStore (⟨some 8, "Bob", .tokenCount 9, 1 / 10⟩ :: ownTokens.contributors))
        (articleRequest 10) 0).1 := by
  refine (withheld_without_trace plainRuntime rfl .v2 (articleRequest 10) 0).1 _ _ ?_
  have refused : Refused plainRuntime (articleStore ownTokens.contributors) "frwiki" 0
      ⟨some 8, "Bob", .tokenCount 9, 1 / 10⟩ := ⟨8, rfl, by decide⟩
  have padded : Padded (Refused plainRuntime (articleStore ownTokens.contributors) "frwiki" 0)
      ownTokens.contributors (⟨some 8, "Bob", .tokenCount 9, 1 / 10⟩ :: ownTokens.contributors) :=
    .insert _ refused (.keep _ .nil)
  refine ⟨rfl, ?_, ?_⟩
  · intro row member
    rw [List.mem_singleton.mp member]
    exact ⟨_, List.mem_singleton.mpr rfl, Or.inl (.refused _ _ padded)⟩
  · intro other member
    rw [List.mem_singleton.mp member]
    exact ⟨_, List.mem_singleton.mpr rfl, Or.inl (.refused _ _ padded)⟩

end WikiPeople
