import WikiPeople.OddTokens
import WikiPeople.Outcomes
import WikiPeople.PageRequests

/-! A job down to the wire: the worker's calls upstream as requests of its two clients. -/

namespace WikiPeople

open Relational Raising

/-- What `count_tokens` reads of a token. -/
def readToken (token : Json) : Except Exn Token := do
  let value ← (token.get "str" .null).mapError raised
  let editor ← (token.get "editor" .null).mapError raised
  .ok ⟨value.asText?, editor.asText?⟩

/-- Everything that MediaWiki, its REST interface and WikiWho answer in the course of one job.
Both clients have one resolver. -/
structure JobWire where
  languages : List String
  spell : Json → String
  readText : String → Option Int
  pages : String → Params → Except SendError Json
  users : Rung → String → Params → Except SendError Json
  groups : Rung → String → Params → Except SendError Json
  history : Nat → String → Params → Except SendError Json
  bots : Nat → String → Params → Except SendError Json
  counts : String → Except SendError Json
  wikiwho : WikiWhoClient
  shared : wikiwho.languages = languages

namespace JobWire

variable (wire : JobWire)

def client (send : String → Params → Except SendError Json) : Client :=
  ⟨wire.languages, wire.spell, send⟩

def session (send : Nat → String → Params → Except SendError Json) : Session :=
  ⟨wire.languages, wire.spell, send⟩

def getPage (wiki : String) (pageId : Int) : Except Exn PageMetadata :=
  (wire.client wire.pages).getPage wire.readText wiki pageId

/-- The job's calls come to what the clients make of the answers. A stream and a listing that
never end are never answered. -/
structure Answers (settings : Settings) (lease : WorkLease) (upstream : Upstream) : Prop where
  page : upstream.getPage lease.wiki lease.pageId = wire.getPage lease.wiki lease.pageId
  revision : ∃ turns tokens,
    wire.wikiwho.fetchRevision lease.revisionId lease.wiki turns = some tokens ∧
      upstream.fetchRevision lease.wiki lease.revisionId =
        tokens.bind (fun tokens => tokens.mapM readToken)
  users : ∀ rung userIds, upstream.resolveUsers rung lease.wiki userIds =
    (wire.client (wire.users rung)).resolveUsers wire.readText lease.wiki userIds
  groups : ∀ rung username, upstream.globalGroups rung lease.wiki username =
    ((wire.client (wire.groups rung)).requestGlobalUserInfo lease.wiki username).map
      GlobalUserInfo.groups
  history : ∃ passes, getEditorHistory (wire.session wire.history) wire.readText lease.wiki
    lease.pageId settings.topEditorMaxRevisions passes =
      some (upstream.getEditorHistory lease.wiki lease.pageId settings.topEditorMaxRevisions)
  editors : ∀ title, upstream.getEditorCount lease.wiki title =
    getEditorCount wire.languages wire.counts lease.wiki title
  bots : ∃ passes counted, getBotContributorCount (wire.session wire.bots) lease.wiki
    lease.pageId passes = some counted ∧
      upstream.getBotContributorCount lease.wiki lease.pageId = counted.map Int.ofNat

/-- The wiki is not covered, or MediaWiki, asked for the page, denies it. -/
def Denies (wiki : String) (pageId : Int) : Prop :=
  language wire.languages wiki = none ∨ (wire.client wire.pages).DeniesPage wiki pageId

end JobWire

section Tokens

variable {unicode : Text.Unicode}

theorem countElement_read (counted : Counter String × Nat) (token : Json) :
    countElement unicode counted token = (readToken token).map (countToken unicode counted) := by
  unfold countElement readToken countToken
  cases token.get "str" .null with
  | error fault => rfl
  | ok value =>
      cases token.get "editor" .null with
      | error fault => rfl
      | ok editor =>
          cases value with
          | str value =>
              cases editor with
              | str editor => exact (apply_ite Except.ok _ _ _).symm
              | _ => rfl
          | _ => rfl

theorem countTokens_read (tokens : List Json) :
    (tokens.mapM readToken).map (countTokens unicode) = countElements unicode tokens := by
  have each : ∀ counted : Counter String × Nat,
      (tokens.mapM readToken).map (fun read => read.foldl (countToken unicode) counted) =
        tokens.foldlM (countElement unicode) counted := by
    induction tokens with
    | nil => exact fun counted => rfl
    | cons token tokens ih =>
        intro counted
        rw [List.mapM_cons, List.foldlM_cons, countElement_read]
        cases readToken token with
        | error fault => rfl
        | ok read =>
            refine Eq.trans ?_ (ih (countToken unicode counted read))
            change Except.map _ (Except.bind (tokens.mapM readToken) _) = _
            cases tokens.mapM readToken <;> rfl
  exact each _

end Tokens

section Job

variable {interpreter : Interpreter} {settings : Settings} {wire : JobWire} {lease : WorkLease}
  {upstream : Upstream} {code : String}

theorem only_quotient {part whole : Int} : Only Temporary (quotient interpreter part whole) := by
  rw [quotient]
  cases interpreter.divide part whole with
  | none => exact only_error rfl
  | some share => exact only_ok share

theorem only_shouldHighlight {user : ResolvedUser} {lookup : GlobalGroupLookup}
    (lookups : ∀ username, Only Temporary (lookup username)) :
    Only Temporary (shouldHighlightContributor interpreter.unicode interpreter.alphabet user
      (some lookup)) :=
  only_ite (only_ok _) (only_ite (only_ok _) (only_ite (only_ok _)
    (only_map _ (lookups user.username))))

theorem only_topEditor {totalRevisions : Int} {users : Users} {lookup : GlobalGroupLookup}
    {entry : Int × Nat} (lookups : ∀ username, Only Temporary (lookup username)) :
    Only Temporary (topEditor interpreter totalRevisions users (some lookup) entry) := by
  rw [topEditor]
  cases userOf users entry.1 with
  | none => exact only_ok none
  | some user =>
      refine only_bind (only_shouldHighlight lookups) fun highlighted => only_ite ?_ (only_ok _)
      exact only_bind only_quotient fun share => only_ok _

theorem only_rankEdits (answers : wire.Answers settings lease upstream)
    (covered : language wire.languages lease.wiki = some code) :
    Only Temporary (rankEdits interpreter settings upstream lease) := by
  obtain ⟨passes, returned⟩ := answers.history
  have lookups : ∀ username, Only Temporary (upstream.globalGroups .edits lease.wiki username) := by
    intro username
    rw [answers.groups]
    exact only_map _ (only_requestGlobalUserInfo covered)
  refine only_bind (only_getEditorHistory covered returned) fun history => ?_
  refine only_ite ?_ (only_ok _)
  refine only_bind ?_ fun users => ?_
  · rw [answers.users]
    exact only_resolveUsers covered
  · exact only_ite (only_ok _) (only_collect (fun _ => only_topEditor lookups) _)

/-- What the first rung gives up for good is caught, so no attribution is given up for good. -/
theorem only_workerAttribute (answers : wire.Answers settings lease upstream)
    (covered : language wire.languages lease.wiki = some code) :
    Only Temporary (workerAttribute interpreter settings upstream lease) := by
  rw [workerAttribute]
  cases rankTokens interpreter settings upstream lease with
  | mk ranked totalTokens =>
      cases ranked with
      | ok contributors =>
          exact only_ite (only_map _ (only_rankEdits answers covered)) (only_ok _)
      | error fault =>
          dsimp only [caught]
          cases lasting : fault.isPermanentData with
          | true => exact only_map _ (only_rankEdits answers covered)
          | false => exact only_error lasting

theorem only_attributePage (answers : wire.Answers settings lease upstream)
    (covered : language wire.languages lease.wiki = some code) (page : PageMetadata) :
    Only Temporary (attributePage interpreter settings upstream lease page) := by
  refine only_bind (only_workerAttribute answers covered) fun named => ?_
  obtain ⟨passes, counted, returned, same⟩ := answers.bots
  rw [answers.editors, same]
  refine only_bind (only_getEditorCount covered) fun editorCount => ?_
  exact only_bind (only_map _ (only_getBotContributorCount covered returned)) fun botCount =>
    only_ok _

theorem getPage_denied {wiki : String} {pageId : Int} :
    Condemns (wire.getPage wiki pageId) ↔ wire.Denies wiki pageId :=
  getPage_condemns

theorem only_process {store : Store} {page : PageMetadata} {clock : Nat → Time}
    {attribution : PageMetadata → Except Exn Attributed}
    (only : Only Temporary (attribution page)) :
    Only Temporary (process store lease (.ok page) attribution clock) := by
  refine only_ite (only_ok _) (only_ite (only_ok _) (only_ite (only_ok _) ?_))
  cases attributed : attribution page with
  | error fault => exact only_error (only fault attributed)
  | ok attributed => exact only_ok _

/-- A job is given up for good exactly where the wiki is not covered or MediaWiki denies the
page, whatever else MediaWiki and WikiWho answer. -/
theorem job_condemned_iff (interpreter : Interpreter) (settings : Settings) (wire : JobWire)
    (store : Store) (lease : WorkLease) (upstream : Upstream) (clock : Nat → Time)
    (answers : wire.Answers settings lease upstream) :
    Condemns (process store lease (upstream.getPage lease.wiki lease.pageId)
        (attributePage interpreter settings upstream lease) clock) ↔
      wire.Denies lease.wiki lease.pageId := by
  rw [answers.page, ← getPage_denied]
  cases fetched : wire.getPage lease.wiki lease.pageId with
  | error fault =>
      constructor
      · rintro ⟨exn, failed, lasting⟩
        cases failed
        exact ⟨fault, rfl, lasting⟩
      · rintro ⟨exn, failed, lasting⟩
        cases failed
        exact ⟨fault, rfl, lasting⟩
  | ok page =>
      have undenied : ¬ Condemns (.ok page : Except Exn PageMetadata) := by
        rintro ⟨exn, failed, _⟩
        cases failed
      refine iff_of_false (Only.not_condemns ?_) undenied
      cases covered : language wire.languages lease.wiki with
      | none =>
          rw [← fetched, getPage_denied] at undenied
          exact absurd (Or.inl covered) undenied
      | some code => exact only_process (only_attributePage answers covered page)

end Job

/-! A page that was deleted, heard on a wire on which everything else fails. -/

def deletedPage : Json :=
  .obj [("batchcomplete", .bool true), ("query", .obj [("pages", .arr [.obj
    [("pageid", .int 1), ("missing", .bool true)]])])]

def downWikiWho : WikiWhoClient where
  languages := ["fr"]
  baseUrl := "https://wikiwho.example"
  maxResponseBytes := 100
  spell := fun _ => ""
  statusText := fun _ => ""
  parse := fun _ => .malformed ""
  send := fun _ _ => .error "timed out"

def deletedWire : JobWire where
  languages := ["fr"]
  spell := fun _ => ""
  readText := fun _ => none
  pages := fun _ _ => .ok deletedPage
  users := fun _ _ _ => .error (.unavailable "timed out")
  groups := fun _ _ _ => .error (.unavailable "timed out")
  history := fun _ _ _ => .error (.unavailable "timed out")
  bots := fun _ _ _ => .error (.unavailable "timed out")
  counts := fun _ => .error (.unavailable "timed out")
  wikiwho := downWikiWho
  shared := rfl

/-- The calls of a job on a wire, where each loop is given so many passes. -/
def JobWire.within (wire : JobWire) (passes : Nat) : Upstream where
  getPage := wire.getPage
  fetchRevision := fun wiki revisionId =>
    ((wire.wikiwho.fetchRevision revisionId wiki passes).getD (.ok [])).bind
      (fun tokens => tokens.mapM readToken)
  resolveUsers := fun rung wiki userIds =>
    (wire.client (wire.users rung)).resolveUsers wire.readText wiki userIds
  globalGroups := fun rung wiki username =>
    ((wire.client (wire.groups rung)).requestGlobalUserInfo wiki username).map
      GlobalUserInfo.groups
  getEditorHistory := fun wiki pageId maxRevisions =>
    (getEditorHistory (wire.session wire.history) wire.readText wiki pageId maxRevisions
      passes).getD (.ok ⟨.empty, 0, false⟩)
  getEditorCount := fun wiki title => getEditorCount wire.languages wire.counts wiki title
  getBotContributorCount := fun wiki pageId =>
    ((getBotContributorCount (wire.session wire.bots) wiki pageId passes).getD (.ok 0)).map
      Int.ofNat

theorem JobWire.answers_within {wire : JobWire} {passes : Nat} {settings : Settings}
    {lease : WorkLease}
    (revision : (wire.wikiwho.fetchRevision lease.revisionId lease.wiki passes).isSome = true)
    (history : (getEditorHistory (wire.session wire.history) wire.readText lease.wiki
      lease.pageId settings.topEditorMaxRevisions passes).isSome = true)
    (bots : (getBotContributorCount (wire.session wire.bots) lease.wiki lease.pageId
      passes).isSome = true) :
    wire.Answers settings lease (wire.within passes) where
  page := rfl
  revision := by
    obtain ⟨tokens, read⟩ := Option.isSome_iff_exists.mp revision
    exact ⟨passes, tokens, read, by simp only [JobWire.within, read, Option.getD_some]⟩
  users := fun _ _ => rfl
  groups := fun _ _ => rfl
  history := by
    obtain ⟨walked, read⟩ := Option.isSome_iff_exists.mp history
    exact ⟨passes, by simp only [JobWire.within, read, Option.getD_some]⟩
  editors := fun _ => rfl
  bots := by
    obtain ⟨counted, read⟩ := Option.isSome_iff_exists.mp bots
    exact ⟨passes, counted, read, by simp only [JobWire.within, read, Option.getD_some]⟩

def deletedLease : WorkLease :=
  { toIdentity := articleKey 10, id := 0, priority := 100, attempts := 1 }

theorem job_condemned_deleted :
    Condemns (process .empty deletedLease ((deletedWire.within 1).getPage "frwiki" 1)
      (attributePage plainInterpreter fromEnv (deletedWire.within 1) deletedLease)
      (fun _ => 0)) := by
  refine (job_condemned_iff plainInterpreter fromEnv deletedWire .empty deletedLease
    (deletedWire.within 1) (fun _ => 0) ?_).mpr (Or.inr ?_)
  · exact JobWire.answers_within (by decide) (by decide) (by decide)
  · exact ⟨_, deletedPage, rfl, rfl, rfl, rfl⟩

end WikiPeople
