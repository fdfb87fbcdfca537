import WikiPeople.ArticleBox
import WikiPeople.Sentence
import WikiPeople.World

/-! From the facts about a page to the sentence under its title, through the worker, the store,
the endpoint of the gadget and the gadget. -/

namespace WikiPeople

open Relational

/-- What a reader is told of a world whose attribution was computed at some instant: all of it
but the names that the lists of the store withhold. -/
def World.told (interpreter : Interpreter) (settings : Settings) (world : World)
    (reader : Runtime) (store : Store) (page : PageKey) (browser : Browser)
    (computedAt now : Time) : ContributionData :=
  let attributed := world.attribution interpreter settings
  let named :=
    if isOptedOut store page.wiki page.pageId then []
    else nameableContributors reader store page.wiki now attributed.contributors
  { computedAt := some (.str (isoformat computedAt))
    humanCount :=
      ((max attributed.contributors.length (world.editorCount.count - world.bots.length) : Int) :
        Rat)
    limited := world.editorCount.limited
    wroteTheText := !(world.topWriters interpreter settings).isEmpty
    topEditors := named.map (shownEditor browser) }

section Short

variable {interpreter : Interpreter} {settings : Settings} {world : World}

theorem specified_short {Name : Type} {groups : Option (String → List String)}
    {metric : Metric Name} {total : Int} (entries : List (Name × Nat)) :
    (specified interpreter groups metric total entries).length ≤ 3 := by
  unfold specified
  rw [List.length_map]
  exact List.length_take_le _ _

theorem attribution_short :
    (world.attribution interpreter settings).contributors.length ≤ 3 := by
  unfold World.attribution
  dsimp only
  split
  · unfold World.topEditors
    split
    · exact specified_short _
    · exact Nat.zero_le 3
  · exact specified_short _

theorem attribution_metric :
    ((world.attribution interpreter settings).metric == survivingTextMetric) =
      !(world.topWriters interpreter settings).isEmpty := by
  unfold World.attribution
  cases (world.topWriters interpreter settings).isEmpty <;> rfl

end Short

section Answer

variable {browser : Browser} {reader : Runtime} {store asked : Store} {request : Request}
  {now : Time} {result : AttributionResult}

theorem readAnswer_page (refreshing : Bool)
    (few : (presentedContributors reader store request.wiki request.pageId now result).length ≤ 3) :
    readAnswer browser (readyPagePayload reader store request now result refreshing) =
      .ok (some
        { computedAt := some (.str (isoformat result.computedAt))
          humanCount := (result.distinctContributors : Rat)
          limited := result.countLimited
          wroteTheText := result.metric == survivingTextMetric
          topEditors := (presentedContributors reader store request.wiki request.pageId now
            result).map (shownEditor browser) }) := by
  have entries : ((presentedContributors reader store request.wiki request.pageId now
      result).map contributorJson).mapM (topEditor? browser) =
        .ok ((presentedContributors reader store request.wiki request.pageId now result).map
          (shownEditor browser)) := by
    rw [List.mapM_map]
    exact mapM_ok fun contributor _ => topEditor?_contributorJson browser contributor
  have whole : ((presentedContributors reader store request.wiki request.pageId now
      result).map contributorJson).take 3 =
        (presentedContributors reader store request.wiki request.pageId now result).map
          contributorJson := List.take_of_length_le (by rwa [List.length_map])
  change (normalizeContributionData browser
    (readyPagePayload reader store request now result refreshing) result.distinctContributors
    ((presentedContributors reader store request.wiki request.pageId now result).map
      contributorJson)).map some = _
  rw [normalizeContributionData, whole, entries]
  rfl

theorem fetchJson_conditional (plain : request.ifNoneMatch = none) (cacheControl : String)
    (extra : List (String × String)) (payload : Json) :
    fetchJson (some (conditional reader request cacheControl extra payload)) = .ok payload := by
  have sent : ifNoneMatch request.ifNoneMatch (etag reader payload) = false := by
    rw [plain]
    rfl
  simp only [conditional, sent, Bool.false_eq_true, if_false]
  rfl

theorem respond_latest
    (found : getLatestResult store (request.key reader.settings.algorithmVersion).toPageKey =
      some result)
    (accepted : refusal reader request = none) (plain : request.ifNoneMatch = none) :
    ∃ work refreshing, fetchJson (some (respond reader .v2 store request now).1) =
      .ok (readyPagePayload reader { store with work := work } request now result
        refreshing) := by
  simp only [respond, pageAttributionByFreshness, accepted, found]
  rw [fetchJson_conditional plain]
  split
  · exact ⟨store.work, _, rfl⟩
  · rw [refresh_frame]
    exact ⟨_, _, rfl⟩

end Answer

section Reader

variable {interpreter : Interpreter} {settings : Settings} {upstream : Upstream}
  {lease : WorkLease} {before after : Store} {instant : Time} {page : PageMetadata}
  {attributed : Attributed}

theorem StoredResult.latest
    (stored : StoredResult interpreter settings upstream lease before after instant page
      attributed)
    (older : ∀ other ∈ before.results.rows, other.toPageKey = lease.toPageKey →
      other.computedAt < instant) :
    ∃ result, getLatestResult after lease.toPageKey = some result ∧
      result.toResultValues = resultValues lease page attributed instant := by
  obtain ⟨result, found, values⟩ := stored.stored
  obtain ⟨present, identity⟩ := Table.find_eq_some.mp found
  have same : result.toPageKey = lease.toPageKey := congrArg Identity.toPageKey identity
  have computed : result.computedAt = instant := congrArg ResultValues.computedAt values
  refine ⟨result, latest_of_newest present same ?_, values⟩
  intro other member page
  by_cases own : other.toIdentity = lease.toIdentity
  · rw [SerialTable.row_of_key member present (own.trans identity.symm)]
  · have before := older other ((stored.others other own).mp member) page
    refine Prod.Lex.toLex_le_toLex.mpr (Or.inl ?_)
    rw [computed]
    exact before

theorem loadContributionData_answered {browser : Browser} {fetch : Nat → Option Response}
    {polls retries : Nat} {data : ContributionData}
    (waiting : ∀ attempt < polls, readAttempt browser (fetch attempt) = .ok none)
    (patient : polls ≤ retries)
    (ready : readAttempt browser (fetch polls) = .ok (some data)) :
    loadContributionData browser fetch retries = .ok (some data) := by
  obtain ⟨left, rfl⟩ := Nat.exists_eq_add_of_le patient
  have handed := loadFrom_pending polls left 0 (by simpa using waiting)
  rw [loadContributionData, handed, Nat.zero_add]
  change (fetchJson (fetch polls)).bind (readAnswer browser) = .ok (some data) at ready
  cases left with
  | zero => exact ready
  | succ left => rw [loadFrom, ready]

end Reader

/-- The sentence a reader gets of a page whose job is run to its end is the sentence about the
facts of the world, with the names withheld that the lists withhold by then. The gadget may have
asked in vain before, and nothing but the results need be as the job left them. -/
theorem reader_sees_world (interpreter : Interpreter) (settings : Settings) (wire : JobWire)
    (upstream : Upstream) (world : World) (store claimed later : Store) (workerId name : String)
    (pick : Nat) (clock : Nat → Time) (lease : WorkLease) (reader : Runtime) (request : Request)
    (browser : Browser) (fetch : Nat → Option Response) (polls retries : Nat) (now : Time)
    (division : List (List Edit)) (measures : interpreter.Measures)
    (taken : claim store workerId settings.workerLeaseSeconds pick (clock 0) =
      some (lease, claimed))
    (answers : wire.Answers settings lease upstream)
    (documents : wire.Documents interpreter.unicode world lease name division)
    (keeps : KeepsBudget settings.topEditorMaxRevisions division)
    (article : world.page.pageNamespace = 0) (direct : world.page.isRedirect = false)
    (current : world.page.revisionId = lease.revisionId)
    (older : ∀ other ∈ store.results.rows, other.toPageKey = lease.toPageKey →
      other.computedAt < clock 1)
    (kept : later.results =
      (runOnce interpreter settings upstream store workerId pick clock).2.results)
    (same : (request.key reader.settings.algorithmVersion).toPageKey = lease.toPageKey)
    (accepted : refusal reader request = none) (plain : request.ifNoneMatch = none)
    (waiting : ∀ attempt < polls, readAttempt browser (fetch attempt) = .ok none)
    (patient : polls ≤ retries)
    (fetched : fetch polls = some (respond reader .v2 later request now).1) :
    articleSummary browser fetch retries =
      buildArticleSummary browser (world.told interpreter settings reader later lease.toPageKey
        browser (clock 1) now) := by
  have reported := getPage_world documents answers
  have answered := attributePage_world measures documents keeps answers
  have stored := runOnce_stored taken reported article direct current answered
  obtain ⟨result, latest, values⟩ := stored.latest older
  have found : getLatestResult later
      (request.key reader.settings.algorithmVersion).toPageKey = some result := by
    rw [same, ← latest, getLatestResult, getLatestResult, pageResults, pageResults, kept]
  obtain ⟨work, refreshing, response⟩ := @respond_latest reader later request now result
    found accepted plain
  have wiki : request.wiki = lease.wiki := congrArg PageKey.wiki same
  have pageId : request.pageId = lease.pageId := congrArg PageKey.pageId same
  have contributors : result.contributors =
      (world.attribution interpreter settings).contributors :=
    congrArg ResultValues.contributors values
  have few := le_trans (presented_sublist reader { later with work := work } request.wiki
    request.pageId now result).length_le (contributors ▸ attribution_short)
  have ready : readAttempt browser (fetch polls) = .ok (some (world.told interpreter settings
      reader later lease.toPageKey browser (clock 1) now)) := by
    rw [readAttempt, fetched, response]
    refine (readAnswer_page refreshing few).trans ?_
    rw [presentedContributors, wiki, pageId, contributors, World.told, ← attribution_metric]
    obtain ⟨columns, id⟩ := result
    change columns = _ at values
    subst values
    rfl
  have loaded := loadContributionData_answered waiting patient ready
  rw [articleSummary, loaded]
  rfl

/-! A reader asks for Ada's page before the job runs and after it. -/

def adaAsked : Response × Store := respond plainRuntime .v2 .empty (articleRequest 10) 0

def adaStored : Store :=
  (runOnce plainInterpreter oneToken (adaWire.within 5) adaAsked.2 "a" 0 (fun _ => 0)).2

def adaFetch (attempt : Nat) : Option Response :=
  some (if attempt = 0 then adaAsked.1
    else (respond plainRuntime .v2 adaStored (articleRequest 10) 0).1)

def adaTold : ContributionData :=
  adaWorld.told plainInterpreter oneToken plainRuntime adaStored (articleKey 10).toPageKey
    plainBrowser 0 0

theorem adaAsked_queues : adaAsked.2 = enqueue .empty (articleKey 10) 100 true 0 := rfl

theorem reader_sees_world_ada :
    (adaTold.topEditors.map TopEditor.username = [some "Ada"] ∧ adaTold.wroteTheText = true) ∧
      articleSummary plainBrowser adaFetch 4 = buildArticleSummary plainBrowser adaTold := by
  refine ⟨by decide +kernel, ?_⟩
  obtain ⟨lease, claimed, taken, page⟩ : ∃ lease claimed,
      claim adaAsked.2 "a" oneToken.workerLeaseSeconds 0 0 = some (lease, claimed) ∧
        lease.toIdentity = articleKey 10 := by
    rw [adaAsked_queues]
    exact ⟨_, _, rfl, rfl⟩
  have answers : adaWire.Answers oneToken lease (adaWire.within 5) := by
    refine JobWire.answers_within ?_ ?_ ?_ <;> rw [page] <;> decide
  have told := reader_sees_world plainInterpreter oneToken adaWire (adaWire.within 5) adaWorld
    adaAsked.2 claimed adaStored "a" "fr.wikipedia.org" 0 (fun _ => 0) lease plainRuntime
    (articleRequest 10) plainBrowser adaFetch 1 4 0 editBatches plainInterpreter_measures taken
    answers (adaWire_documents lease page) (Or.inl (by decide)) rfl rfl (by rw [page]; rfl)
    (by rw [adaAsked_queues]; intro other member; cases member) rfl (by rw [page]; rfl) rfl rfl
    (by intro attempt first; rw [Nat.lt_one_iff.mp first]; rfl) (by decide) rfl
  rw [told, page]
  rfl

end WikiPeople
