import WikiPeople.Gadget
import WikiPeople.Provenance
import WikiPeople.Serving

/-! From the worker to the reader: what an answer and the sentence built from it say about
the stored result. -/

namespace WikiPeople

open Relational Transition

/-- A request in some state of a run, whatever the settings of the server and the two lists
are by then. -/
structure Reading where
  reached : LadderSystem
  reader : Runtime
  optouts : Table PageOptOut
  standings : Table ContributorStanding
  request : Request
  now : Time

def Reading.store (reading : Reading) : Store :=
  { reading.reached.system.store with
    pageOptout := reading.optouts, contributorStanding := reading.standings }

def Reading.response (reading : Reading) (version : Version) : Response :=
  (respond reading.reader version reading.store reading.request reading.now).1

def Reading.listed (reading : Reading) (result : AttributionResult) : List Contributor :=
  presentedContributors reading.reader reading.store reading.request.wiki reading.request.pageId
    reading.now result

section Listed

theorem presented_sublist (runtime : Runtime) (store : Store) (wiki : String) (pageId : Int)
    (now : Time) (result : AttributionResult) :
    (presentedContributors runtime store wiki pageId now result).Sublist result.contributors := by
  unfold presentedContributors
  split
  · exact List.nil_sublist _
  · unfold nameableContributors
    split
    · exact List.Sublist.refl _
    · exact List.filter_sublist

variable {runtime : Runtime} {interpreter : Interpreter} {start : Time} {reading : Reading}
  {result : AttributionResult}

theorem reading_ranked (run : (ladderService runtime interpreter start).Reachable reading.reached)
    (stored : result ∈ reading.store.results.rows) :
    Ranked interpreter runtime.settings reading.reached.attributions result.toResultValues :=
  (everyResult_ranked run).stored result stored

theorem listed_limited (run : (ladderService runtime interpreter start).Reachable reading.reached)
    (stored : result ∈ reading.store.results.rows) :
    (reading.listed result).length ≤ 3 := by
  have fewer := (presented_sublist reading.reader reading.store reading.request.wiki
    reading.request.pageId reading.now result).length_le
  exact le_trans fewer (reading_ranked run stored).limited

theorem listed_counted (run : (ladderService runtime interpreter start).Reachable reading.reached)
    (stored : result ∈ reading.store.results.rows) :
    ((reading.listed result).length : Int) ≤ result.distinctContributors := by
  have fewer := (presented_sublist reading.reader reading.store reading.request.wiki
    reading.request.pageId reading.now result).length_le
  exact le_trans (Int.ofNat_le.mpr fewer) (reading_ranked run stored).counted

end Listed

def shownEditor (browser : Browser) (contributor : Contributor) : TopEditor where
  share := browser.number (some (.float contributor.share))
  username := some contributor.username

theorem topEditor?_contributorJson (browser : Browser) (contributor : Contributor) :
    topEditor? browser (contributorJson contributor) = .ok (shownEditor browser contributor) := by
  obtain ⟨userId, username, evidence, share⟩ := contributor
  cases userId <;> cases evidence <;> rfl

structure Shows (browser : Browser) (result : AttributionResult) (listed : List Contributor)
    (data : ContributionData) : Prop where
  humanCount : data.humanCount = result.distinctContributors
  wroteTheText : data.wroteTheText = true ↔ result.metric = survivingTextMetric
  topEditors : data.topEditors = listed.map (shownEditor browser)

theorem normalize_shows {browser : Browser} {result : AttributionResult}
    {listed : List Contributor} {payload : Json} (few : listed.length ≤ 3)
    (metric : payload.field "metric" = some (.str result.metric)) :
    ∃ data, normalizeContributionData browser payload result.distinctContributors
        (listed.map contributorJson) = .ok data ∧ Shows browser result listed data := by
  have entries : (listed.map contributorJson).mapM (topEditor? browser) =
      .ok (listed.map (shownEditor browser)) := by
    rw [List.mapM_map]
    exact mapM_ok (fun contributor _ => topEditor?_contributorJson browser contributor)
  have whole : (listed.map contributorJson).take 3 = listed.map contributorJson :=
    List.take_of_length_le (by rwa [List.length_map])
  rw [normalizeContributionData, whole, entries]
  refine ⟨_, rfl, rfl, ?_, rfl⟩
  simp [metric, Json.isText]

theorem readAnswer_presents {runtime : Runtime} {store : Store} {request : Request} {now : Time}
    {result : AttributionResult} {payload : Json}
    (presents : Presents runtime store request now result payload)
    (few : (presentedContributors runtime store request.wiki request.pageId now result).length ≤ 3)
    (browser : Browser) :
    ∃ data, readAnswer browser payload = .ok (some data) ∧ Shows browser result
      (presentedContributors runtime store request.wiki request.pageId now result) data := by
  obtain ⟨data, normalized, shows⟩ := normalize_shows few presents.metric
  refine ⟨data, ?_, shows⟩
  cases payload with
  | obj fields =>
      simp only [readAnswer, presents.status, presents.distinct, presents.contributors, asNumber]
      rw [if_pos (by decide), normalized]
      rfl
  | _ => cases presents.status

theorem loadFrom_read {browser : Browser} {fetch : Nat → Option Response}
    {data : ContributionData} {retries attempt : Nat}
    (loaded : loadFrom browser fetch attempt retries = .ok (some data)) :
    ∃ place answer, fetchJson (fetch place) = .ok answer ∧
      readAnswer browser answer = .ok (some data) := by
  induction retries generalizing attempt with
  | zero =>
      obtain ⟨answer, fetched, read⟩ := bind_eq_ok.mp loaded
      exact ⟨attempt, answer, fetched, read⟩
  | succ retries ih =>
      rw [loadFrom] at loaded
      split at loaded
      · exact ih loaded
      · obtain ⟨answer, fetched, read⟩ := bind_eq_ok.mp loaded
        exact ⟨attempt, answer, fetched, read⟩

theorem fetchJson_ok {response : Option Response} {answer : Json}
    (fetched : fetchJson response = .ok answer) :
    ∃ answered, response = some answered ∧ answered.status ≤ 299 ∧
      answered.body = some answer := by
  cases response with
  | none => cases fetched
  | some answered =>
      simp only [fetchJson] at fetched
      split at fetched
      · rename_i fine
        cases body : answered.body with
        | none =>
            rw [body] at fetched
            cases fetched
        | some json =>
            rw [body] at fetched
            cases fetched
            exact ⟨answered, rfl, fine.2, body⟩
      · cases fetched

theorem loaded_presents {browser : Browser} {readings : Nat → Option Reading} {retries : Nat}
    {data : ContributionData} {version : Version}
    (loaded : loadContributionData browser
      (fun attempt => (readings attempt).map (fun reading => reading.response version)) retries =
        .ok (some data)) :
    ∃ attempt reading result payload, readings attempt = some reading ∧
      (reading.response version).body = some payload ∧
      readAnswer browser payload = .ok (some data) ∧
      Presents reading.reader reading.store reading.request reading.now result payload := by
  obtain ⟨attempt, answer, fetched, read⟩ := loadFrom_read loaded
  obtain ⟨response, answered, fine, body⟩ := fetchJson_ok fetched
  obtain ⟨reading, present, rfl⟩ := Option.map_eq_some_iff.mp answered
  rcases respond_answered.success fine with
    ⟨_, result, payload, carried, presents⟩ | ⟨_, revisionField, waiting⟩
  · rw [Reading.response, carried] at body
    cases body
    exact ⟨attempt, reading, result, answer, present, carried, read, presents⟩
  · rw [Reading.response, waiting] at body
    cases body
    cases read

section Honest

variable (interpreter : Interpreter) (settings : Settings) (attributions : List Attribution)
  (key : Identity) (contributor : Contributor)

/-- The ranking of surviving tokens of the revision of the key selected the account: it
cleared both thresholds and the exclusion rule when an attribution of the key was computed. -/
def Authored : Prop :=
  ∃ attribution ∈ attributions, attribution.lease.toIdentity = key ∧
    ∃ tokens candidates users user editor count share,
      attribution.upstream.fetchRevision key.wiki key.revisionId = .ok tokens ∧
      attribution.upstream.resolveUsers .tokens key.wiki candidates = .ok users ∧
      ChosenByTokens interpreter settings (countTokens interpreter.unicode tokens).1
        (countTokens interpreter.unicode tokens).2 users
        (some (attribution.upstream.globalGroups .tokens key.wiki)) contributor user editor count
        share

/-- The ranking of edits of the page of the key selected the account. -/
def Edited : Prop :=
  ∃ attribution ∈ attributions, attribution.lease.toIdentity = key ∧
    ∃ history candidates users user userId count share,
      attribution.upstream.getEditorHistory key.wiki key.pageId settings.topEditorMaxRevisions =
        .ok history ∧
      history.complete = true ∧
      attribution.upstream.resolveUsers .edits key.wiki candidates = .ok users ∧
      ChosenByEdits interpreter history.counts history.revisions users
        (some (attribution.upstream.globalGroups .edits key.wiki)) contributor user userId count
        share

end Honest

section Selected

variable {interpreter : Interpreter} {settings : Settings} {attributions : List Attribution}
  {values : ResultValues} {contributor : Contributor}

theorem Authored.evidence {key : Identity}
    (authored : Authored interpreter settings attributions key contributor) :
    ∃ count, contributor.evidence = .tokenCount count := by
  obtain ⟨_, _, _, _, _, _, _, _, count, _, _, _, chosen⟩ := authored
  exact ⟨count, congrArg Contributor.evidence chosen.named⟩

theorem Edited.evidence {key : Identity}
    (edited : Edited interpreter settings attributions key contributor) :
    ∃ count, contributor.evidence = .editCount count := by
  obtain ⟨_, _, _, _, _, _, _, _, count, _, _, _, _, chosen⟩ := edited
  exact ⟨count, congrArg Contributor.evidence chosen.named⟩

theorem Ranked.selected (ranked : Ranked interpreter settings attributions values)
    (member : contributor ∈ values.contributors) :
    (values.metric = metricTokens ∧
        Authored interpreter settings attributions values.toIdentity contributor) ∨
      (values.metric = metricEdits ∧
        Edited interpreter settings attributions values.toIdentity contributor) := by
  obtain ⟨attribution, present, same, named⟩ := ranked.named
  have wiki : attribution.lease.wiki = values.wiki := congrArg (fun key => key.wiki) same
  have pageId : attribution.lease.pageId = values.pageId := congrArg (fun key => key.pageId) same
  have revision : attribution.lease.revisionId = values.revisionId :=
    congrArg Identity.revisionId same
  rcases named with ⟨metric, tokens, candidates, users, fetched, resolved, ranking⟩ |
    ⟨metric, none | ⟨history, candidates, users, walked, complete, resolved, ranking⟩⟩
  · obtain ⟨user, editor, count, share, chosen⟩ := mem_selectContributors ranking member
    rw [wiki, revision] at fetched
    rw [wiki] at resolved chosen
    exact Or.inl ⟨metric, attribution, present, same, tokens, candidates, users, user, editor,
      count, share, fetched, resolved, chosen⟩
  · rw [none] at member
    cases member
  · obtain ⟨user, userId, count, share, chosen⟩ := mem_selectTopEditors ranking member
    rw [wiki, pageId] at walked
    rw [wiki] at resolved chosen
    exact Or.inr ⟨metric, attribution, present, same, history, candidates, users, user, userId,
      count, share, walked, complete, resolved, chosen⟩

end Selected

/-- Every part of the sentence that depends on the ranking speaks of edits. -/
structure EditWording (summary : Summary) : Prop where
  opening : summary.opening = ⟨"wikipeople-summary-prefix-edits", none⟩
  tooltip : ∃ dates, summary.tooltip = ⟨"wikipeople-tooltip-edits", none⟩ :: dates ∧
    ∀ message ∈ dates, message.key = "wikipeople-computed"
  shares : ∀ link ∈ summary.editors, ∀ label, link.share = some label →
    label.key = "wikipeople-share-edits"

/-- The sentence about a result claims no more than the ranking that named the accounts. -/
structure Honest (interpreter : Interpreter) (settings : Settings)
    (attributions : List Attribution) (result : AttributionResult)
    (listed : List Contributor) (summary : Summary) : Prop where
  names : summary.editors.map EditorLink.name =
    listed.map (fun contributor => shownName contributor.username)
  authored : listed ≠ [] → summary.opening.key = "wikipeople-summary-prefix" →
    ∀ contributor ∈ listed,
      Authored interpreter settings attributions result.toIdentity contributor
  edited : (∃ contributor ∈ listed,
      Edited interpreter settings attributions result.toIdentity contributor) →
    EditWording summary

section Building

variable {browser : Browser} {data : ContributionData} {result : AttributionResult}
  {listed : List Contributor} {summary : Summary}

theorem buildArticleSummary_some
    (built : buildArticleSummary browser data = .ok (some summary)) :
    ¬ data.humanCount < 1 ∧
      data.topEditors.mapM (createEditorLink browser (namedByEditCount data)) =
        .ok summary.editors ∧
      summary.tooltip = summaryTooltip browser data ∧
      summary.opening.parameter = none ∧
      summary.opening.key = (if namedByEditCount data then "wikipeople-summary-prefix-edits"
        else "wikipeople-summary-prefix") ∧
      summary.history.map HistoryLink.count =
        (if data.topEditors.isEmpty then some data.humanCount
          else if 0 < otherCount data then some (otherCount data) else none) := by
  unfold buildArticleSummary at built
  split at built
  · cases built
  · rename_i some_
    cases links : data.topEditors.mapM (createEditorLink browser (namedByEditCount data)) with
    | error raised =>
        rw [links] at built
        cases built
    | ok editors =>
        rw [links] at built
        cases built
        refine ⟨some_, rfl, rfl, rfl, rfl, ?_⟩
        dsimp only
        split
        · rfl
        · split <;> rfl

theorem createEditorLink_ok {byEditCount : Bool} {editor : TopEditor} {link : EditorLink}
    (created : createEditorLink browser byEditCount editor = .ok link) :
    (∃ username, editor.username = some username ∧ link.name = shownName username) ∧
      ∀ label, link.share = some label →
        label.key = if byEditCount then "wikipeople-share-edits" else "wikipeople-share" := by
  unfold createEditorLink at created
  split at created
  · cases created
  · rename_i username named
    split at created
    · cases created
    · cases created
      refine ⟨⟨username, named, rfl⟩, ?_⟩
      intro label shown
      obtain ⟨share, _, shown⟩ := Option.bind_eq_some_iff.mp shown
      obtain ⟨format, _, rfl⟩ := Option.map_eq_some_iff.mp shown
      rfl

theorem createEditorLinks {byEditCount : Bool} {links : List EditorLink}
    (created : (listed.map (shownEditor browser)).mapM (createEditorLink browser byEditCount) =
      .ok links) :
    links.map EditorLink.name = listed.map (fun contributor => shownName contributor.username) ∧
      ∀ link ∈ links, ∀ label, link.share = some label →
        label.key = if byEditCount then "wikipeople-share-edits" else "wikipeople-share" := by
  have each := List.forall₂_map_left_iff.mp (mapM_forall₂ created)
  clear created
  induction each with
  | nil =>
      refine ⟨rfl, ?_⟩
      intro link member
      cases member
  | cons made rest ih =>
      obtain ⟨⟨username, named, shown⟩, wording⟩ := createEditorLink_ok made
      cases named
      refine ⟨?_, ?_⟩
      · rw [List.map_cons, List.map_cons, shown, ih.1]
      · intro link member
        rcases List.mem_cons.mp member with rfl | later
        · exact wording
        · exact ih.2 link later

theorem Shows.empty (shows : Shows browser result listed data) :
    data.topEditors.isEmpty = listed.isEmpty := by
  rw [shows.topEditors]
  exact List.isEmpty_map

theorem Shows.length (shows : Shows browser result listed data) :
    data.topEditors.length = listed.length := by
  rw [shows.topEditors]
  exact List.length_map _

theorem Shows.namedByEditCount (shows : Shows browser result listed data) :
    namedByEditCount data = true ↔ listed ≠ [] ∧ result.metric ≠ survivingTextMetric := by
  rw [WikiPeople.namedByEditCount, shows.empty, Bool.and_eq_true, Bool.not_eq_true',
    List.isEmpty_eq_false_iff, Bool.not_eq_true', ← Bool.not_eq_true, shows.wroteTheText]

theorem Shows.editWording (shows : Shows browser result listed data)
    (named : listed ≠ []) (weaker : result.metric ≠ survivingTextMetric)
    (built : buildArticleSummary browser data = .ok (some summary)) : EditWording summary := by
  obtain ⟨_, links, tooltip, parameter, opening, _⟩ := buildArticleSummary_some built
  have byEdits := shows.namedByEditCount.mpr ⟨named, weaker⟩
  rw [byEdits] at links opening
  refine ⟨?_, ?_, ?_⟩
  · cases begun : summary.opening with
    | mk key other =>
        rw [begun] at opening parameter
        cases opening
        cases parameter
        rfl
  · refine ⟨((browser.formatDate data.computedAt).map
        (fun date => ⟨"wikipeople-computed", some date⟩)).toList, ?_, ?_⟩
    · have some_ : data.topEditors.isEmpty = false := by
        rw [shows.empty]
        exact List.isEmpty_eq_false_iff.mpr named
      rw [tooltip, summaryTooltip, some_, byEdits]
      rfl
    · intro message member
      obtain ⟨date, _, rfl⟩ := Option.map_eq_some_iff.mp (Option.mem_toList.mp member)
      rfl
  · rw [shows.topEditors] at links
    exact (createEditorLinks links).2

end Building

theorem honest_summary {runtime : Runtime} {interpreter : Interpreter} {start : Time}
    {browser : Browser} {reading : Reading} {result : AttributionResult}
    {data : ContributionData} {summary : Summary}
    (run : (ladderService runtime interpreter start).Reachable reading.reached)
    (stored : result ∈ reading.store.results.rows)
    (shows : Shows browser result (reading.listed result) data)
    (built : buildArticleSummary browser data = .ok (some summary)) :
    Honest interpreter runtime.settings reading.reached.attributions result
      (reading.listed result) summary := by
  have ranked := reading_ranked run stored
  have kept := presented_sublist reading.reader reading.store reading.request.wiki
    reading.request.pageId reading.now result
  obtain ⟨_, links, _, _, opening, _⟩ := buildArticleSummary_some built
  refine ⟨?_, ?_, ?_⟩
  · rw [shows.topEditors] at links
    exact (createEditorLinks links).1
  · intro named authorship contributor member
    have strong : result.metric = survivingTextMetric := by
      by_contra weaker
      rw [shows.namedByEditCount.mpr ⟨named, weaker⟩, authorship] at opening
      exact absurd opening (by decide)
    rcases ranked.selected (kept.subset member) with ⟨_, authored⟩ | ⟨metric, _⟩
    · exact authored
    · exact absurd (strong.symm.trans metric) metrics_differ
  · rintro ⟨contributor, member, edited⟩
    rcases ranked.selected (kept.subset member) with ⟨_, authored⟩ | ⟨metric, _⟩
    · obtain ⟨tokens, counted⟩ := authored.evidence
      obtain ⟨edits, other⟩ := edited.evidence
      rw [counted] at other
      cases other
    · refine shows.editWording (List.ne_nil_of_mem member) ?_ built
      intro strong
      exact metrics_differ (strong.symm.trans metric)

/-- Whatever upstream answers to the workers, the sentence a reader sees is worded by the
ranking that selected the accounts it names. -/
theorem metric_honest (runtime : Runtime) (interpreter : Interpreter) (start : Time)
    (browser : Browser) (readings : Nat → Option Reading) (retries : Nat) (summary : Summary)
    (run : ∀ attempt reading, readings attempt = some reading →
      (ladderService runtime interpreter start).Reachable reading.reached)
    (rendered : articleSummary browser
      (fun attempt => (readings attempt).map (fun reading => reading.response .v2)) retries =
        .ok (some summary)) :
    ∃ attempt reading result payload, readings attempt = some reading ∧
      (reading.response .v2).body = some payload ∧
      Presents reading.reader reading.store reading.request reading.now result payload ∧
      Honest interpreter runtime.settings reading.reached.attributions result
        (reading.listed result) summary := by
  obtain ⟨loaded, found, built⟩ := bind_eq_ok.mp rendered
  cases loaded with
  | none => cases built
  | some data =>
      obtain ⟨attempt, reading, result, payload, present, body, read, presents⟩ :=
        loaded_presents found
      have reached := run attempt reading present
      obtain ⟨same, whole, shows⟩ := readAnswer_presents presents
        (listed_limited reached presents.stored) browser
      rw [read] at whole
      cases whole
      exact ⟨attempt, reading, result, payload, present, body, presents,
        honest_summary reached presents.stored shows built⟩

/-- The transactions that store a result of the page "A" at revision 10. -/
def writtenRun : List LadderEvent :=
  [.other (.enqueue (articleKey 10) 100 false), .other (.claim "a" 0),
    .other (.getPage 0 (.ok (articlePage 10))), .compute 0 ownUpstream, .other (.perform 0),
    .other (.perform 0), .other (.perform 0)]

def writtenReading (reached : LadderSystem) : Reading :=
  ⟨reached, plainRuntime, .empty, .empty, articleRequest 10, 0⟩

def plainBrowser : Browser where
  number := asNumber
  formatDate := fun _ => none
  formatPercentage := some (fun share => toString share)
  formatNumber := fun count => toString count
  userPage := fun username => some ("/wiki/User:" ++ username)
  text := Message.key

def claimsAuthorship : Except String (Option Summary) → Bool
  | .ok (some summary) =>
      summary.opening.key = "wikipeople-summary-prefix" && !summary.editors.isEmpty
  | _ => false

theorem claimsAuthorship_iff {outcome : Except String (Option Summary)} :
    claimsAuthorship outcome = true ↔ ∃ summary, outcome = .ok (some summary) ∧
      summary.opening.key = "wikipeople-summary-prefix" ∧ summary.editors ≠ [] := by
  rcases outcome with raised | summary | summary <;> simp [claimsAuthorship]

theorem writtenRun_claims :
    ∃ reached, (ladderService plainRuntime plainInterpreter 0).Reachable reached ∧
      claimsAuthorship (articleSummary plainBrowser (fun _ =>
        (some (writtenReading reached)).map (fun reading => reading.response .v2)) 0) = true :=
  Machine.exists_of_run writtenRun (by decide +kernel)

theorem metric_honest_written :
    ∃ reached summary result, summary.opening.key = "wikipeople-summary-prefix" ∧
      (writtenReading reached).listed result ≠ [] ∧
      Honest plainInterpreter fromEnv reached.attributions result
        ((writtenReading reached).listed result) summary := by
  obtain ⟨reached, run, claimed⟩ := writtenRun_claims
  obtain ⟨summary, rendered, key, named⟩ := claimsAuthorship_iff.mp claimed
  obtain ⟨attempt, reading, result, payload, present, _, _, honest⟩ :=
    metric_honest plainRuntime plainInterpreter 0 plainBrowser
      (fun _ => some (writtenReading reached)) 0 summary
      (by rintro _ _ ⟨⟩; exact run) rendered
  cases present
  refine ⟨reached, summary, result, key, ?_, honest⟩
  intro nobody
  have names := honest.names
  rw [nobody] at names
  exact named (List.map_eq_nil_iff.mp names)

/-- How many people the sentence speaks for: those it names, and those behind its link. -/
def peopleCounted (summary : Summary) : Rat :=
  summary.editors.length + ((summary.history.map HistoryLink.count).getD 0)

theorem Shows.otherCount {browser : Browser} {result : AttributionResult}
    {listed : List Contributor} {data : ContributionData}
    (shows : Shows browser result listed data)
    (counted : (listed.length : Int) ≤ result.distinctContributors) :
    otherCount data = ((result.distinctContributors - listed.length : Int) : Rat) := by
  have nonneg : (0 : Int) ≤ result.distinctContributors - listed.length :=
    Int.sub_nonneg.mpr counted
  rw [WikiPeople.otherCount, shows.humanCount, shows.length]
  have cast : (result.distinctContributors : Rat) - (listed.length : Rat) =
      ((result.distinctContributors - listed.length : Int) : Rat) := by
    rw [Int.cast_sub, Int.cast_natCast]
  rw [cast]
  have shown : (0 : Rat) ≤ ((result.distinctContributors - listed.length : Int) : Rat) := by
    exact_mod_cast nonneg
  exact max_eq_right shown

theorem Shows.peopleCounted {browser : Browser} {result : AttributionResult}
    {listed : List Contributor} {data : ContributionData} {summary : Summary}
    (shows : Shows browser result listed data)
    (counted : (listed.length : Int) ≤ result.distinctContributors)
    (built : buildArticleSummary browser data = .ok (some summary)) :
    peopleCounted summary = result.distinctContributors := by
  obtain ⟨_, links, _, _, _, history⟩ := buildArticleSummary_some built
  have editors : summary.editors.length = listed.length := by
    rw [shows.topEditors] at links
    have names := congrArg List.length (createEditorLinks links).1
    simpa only [List.length_map] using names
  rw [WikiPeople.peopleCounted, history, editors, shows.empty, shows.otherCount counted]
  cases listed with
  | nil => simp [shows.humanCount]
  | cons first rest =>
      rw [List.isEmpty_cons, if_neg Bool.false_ne_true]
      split
      · rw [Option.getD_some, Int.cast_sub, Int.cast_natCast, add_sub_cancel]
      · rename_i nobody
        have all : result.distinctContributors = (first :: rest).length := by
          rw [Int.cast_pos] at nobody
          omega
        rw [Option.getD_none, add_zero, all, Int.cast_natCast]

/-- Names and others add up to the stored total in every ready answer, and the gadget counts
the same others. -/
theorem count_adds_up (runtime : Runtime) (interpreter : Interpreter) (start : Time)
    (reading : Reading) (version : Version)
    (run : (ladderService runtime interpreter start).Reachable reading.reached)
    (ready : (reading.response version).status = 200) :
    ∃ result payload entries others, (reading.response version).body = some payload ∧
      result ∈ reading.reached.system.store.results.rows ∧
      payload.field "contributors" = some (.arr entries) ∧
      payload.field "distinct_contributors" = some (.int result.distinctContributors) ∧
      payload.field "other_contributors" = some (.int others) ∧
      (entries.length : Int) + others = result.distinctContributors ∧ entries.length ≤ 3 ∧
      ∀ browser, ∃ data, readAnswer browser payload = .ok (some data) ∧
        otherCount data = others ∧ data.topEditors.length = entries.length ∧
        ∀ summary, buildArticleSummary browser data = .ok (some summary) →
          peopleCounted summary = result.distinctContributors := by
  obtain ⟨result, payload, body, presents⟩ := respond_ready ready
  have counted := listed_counted run presents.stored
  refine ⟨result, payload, _, _, body, presents.stored, presents.contributors,
    presents.distinct, presents.others, ?_, ?_, ?_⟩
  · rw [List.length_map]
    change ((reading.listed result).length : Int) +
      max 0 (result.distinctContributors - (reading.listed result).length) = _
    omega
  · rw [List.length_map]
    exact listed_limited run presents.stored
  · intro browser
    obtain ⟨data, read, shows⟩ := readAnswer_presents presents
      (listed_limited run presents.stored) browser
    refine ⟨data, read, ?_, ?_, ?_⟩
    · rw [shows.otherCount counted]
      exact congrArg Int.cast (max_eq_right (Int.sub_nonneg.mpr counted)).symm
    · rw [shows.length, List.length_map]
    · intro summary built
      exact shows.peopleCounted counted built

def namesListed (payload : Json) : Nat :=
  match payload.field "contributors" with
  | some (.arr entries) => entries.length
  | _ => 0

/-- One of the two editors is listed. -/
theorem count_adds_up_written :
    ∃ reached result payload entries others,
      (entries.length = 1 ∧ others = 1) ∧
      ((writtenReading reached).response .v2).body = some payload ∧
      result ∈ reached.system.store.results.rows ∧
      payload.field "contributors" = some (.arr entries) ∧
      payload.field "distinct_contributors" = some (.int result.distinctContributors) ∧
      payload.field "other_contributors" = some (.int others) ∧
      (entries.length : Int) + others = result.distinctContributors ∧ entries.length ≤ 3 ∧
      ∀ browser, ∃ data, readAnswer browser payload = .ok (some data) ∧
        otherCount data = others ∧ data.topEditors.length = entries.length ∧
        ∀ summary, buildArticleSummary browser data = .ok (some summary) →
          peopleCounted summary = result.distinctContributors := by
  obtain ⟨reached, run, ready, listed⟩ :
      ∃ reached, (ladderService plainRuntime plainInterpreter 0).Reachable reached ∧
        ((writtenReading reached).response .v2).status = 200 ∧
        (((writtenReading reached).response .v2).body.map namesListed = some 1 ∧
          reached.system.store.results.rows.map (fun result => result.distinctContributors) = [2]) :=
    Machine.exists_of_run writtenRun (by decide +kernel)
  obtain ⟨result, payload, entries, others, told, stored, names, total, rest, sum, bound⟩ :=
    count_adds_up plainRuntime plainInterpreter 0 (writtenReading reached) .v2 run ready
  refine ⟨reached, result, payload, entries, others, ?_, told, stored, names, total, rest, sum,
    bound⟩
  have one : entries.length = 1 := by
    rw [told, Option.map_some, namesListed, names] at listed
    exact Option.some.inj listed.1
  have two : result.distinctContributors = 2 := by
    have among : result.distinctContributors ∈ reached.system.store.results.rows.map
        (fun result => result.distinctContributors) := List.mem_map_of_mem stored
    rw [listed.2] at among
    exact List.mem_singleton.mp among
  omega

end WikiPeople
