import WikiPeople.Clients
import WikiPeople.Library.Ranking

/-! Titles and categories as the Action API answers about them. -/

namespace WikiPeople

open Relational

/-- `int(value)`; what it makes of a text is a parameter. -/
def asInt (readText : String → Option Int) : Json → Except Exn Int
  | .int value => .ok value
  | .bool value => .ok (if value then 1 else 0)
  | .float value => .ok (value.num.tdiv value.den)
  | .str text => (readText text).elim (.error (.unexpected "ValueError")) .ok
  | _ => .error (raised .typeError)

def titlesParams (titles : List String) : Params :=
  [("action", "query"), ("titles", String.intercalate "|" titles), ("redirects", "1")]

section Reading

variable (spell : Json → String) (readText : String → Option Int)

/-- What the loop makes of one page; `none` where it goes on to the next. -/
def readTitle (page : Json) : Except Exn (Option TitleInfo) := do
  if (← (page.get "invalid" .null).mapError raised).truthy then .ok none
  else
    let title ← (page.get "title" (.str "")).mapError raised
    let number ← (page.get "ns" (.int 0)).mapError raised
    let pageNamespace ← asInt readText number
    let missing ← (page.get "missing" .null).mapError raised
    if missing.truthy then .ok (some ⟨title.toStr spell, pageNamespace, none⟩)
    else
      let identifier ← (page.getItem "pageid").mapError raised
      let pageId ← asInt readText identifier
      .ok (some ⟨title.toStr spell, pageNamespace, some pageId⟩)

def readTitles (data : Json) : Except Exn (List TitleInfo) := do
  let pages ← (data.getPath ["query", "pages"] (.arr [])).mapError raised
  let items ← pages.items.mapError raised
  let infos ← items.mapM (readTitle spell readText)
  .ok (infos.filterMap id)

end Reading

def Client.classifyBatch (client : Client) (readText : String → Option Int) (wiki : String)
    (titles : List String) : Except Exn (List TitleInfo) := do
  let data ← client.action wiki (titlesParams titles)
  readTitles client.spell readText data

/-- Titles are asked about by the fifty; the first batch that raises ends it. -/
def Client.classifyTitles (client : Client) (readText : String → Option Int) (wiki : String)
    (titles : List String) : Except Exn (List TitleInfo) :=
  ((titles.toChunks 50).mapM (client.classifyBatch readText wiki)).map List.flatten

/-! The answers MediaWiki documents. -/

/-- A page object in format version 2. A revision is the text of its main slot, `none` where
that is hidden. -/
inductive PageObject where
  | existing (pageId pageNamespace : Int) (title : String) (revisions : List (Option String))
  | missing (pageNamespace : Int) (title : String)
  | invalid (title reason : String)
  | special (pageNamespace : Int) (negative : pageNamespace < 0) (title : String)

def revisionJson (content : Option String) : Json :=
  .obj [("slots", .obj [("main", .obj (("contentmodel", .str "wikitext") ::
    content.elim [("texthidden", .bool true)] (fun text => [("content", .str text)])))])]

namespace PageObject

/-- Only an existing page has a page id, and a special page is not missing. -/
def json : PageObject → Json
  | existing pageId pageNamespace title revisions =>
      .obj (("pageid", .int pageId) :: ("ns", .int pageNamespace) :: ("title", .str title) ::
        if revisions.isEmpty then [] else [("revisions", .arr (revisions.map revisionJson))])
  | missing pageNamespace title =>
      .obj [("ns", .int pageNamespace), ("title", .str title), ("missing", .bool true)]
  | invalid title reason =>
      .obj [("title", .str title), ("invalidreason", .str reason), ("invalid", .bool true)]
  | special pageNamespace _ title =>
      .obj [("ns", .int pageNamespace), ("title", .str title), ("special", .bool true)]

def isSpecial : PageObject → Bool
  | special _ _ _ => true
  | _ => false

/-- The title an object resolves to, for an object that is no special page. -/
def info? : PageObject → Option TitleInfo
  | existing pageId pageNamespace title _ => some ⟨title, pageNamespace, some pageId⟩
  | missing pageNamespace title => some ⟨title, pageNamespace, none⟩
  | _ => none

def content : PageObject → Option String
  | existing _ _ _ (revision :: _) => some (revision.getD "")
  | _ => none

end PageObject

inductive Failure where
  | unreachable (reason : String)
  | refused (error : Json)

inductive Answer where
  | failed (failure : Failure)
  | pages (objects : List PageObject)

def pagesJson (objects : List PageObject) : Json :=
  .obj [("batchcomplete", .bool true),
    ("query", .obj [("pages", .arr (objects.map PageObject.json))])]

def Answer.sent : Answer → Except SendError Json
  | failed (.unreachable reason) => .error (.unavailable reason)
  | failed (.refused error) => .ok (.obj [("error", error)])
  | pages objects => .ok (pagesJson objects)

def Failure.exn (spell : Json → String) : Failure → Exn
  | unreachable reason => .known .retryableUpstream s!"Action API indisponible : {reason}"
  | refused error => .known .retryableUpstream s!"Erreur Action API : {error.toStr spell}"

def Answer.read (spell : Json → String) : Answer → Except Exn (List PageObject)
  | failed failure => .error (failure.exn spell)
  | pages objects => .ok objects

/-- A client whose every request that is sent is answered as documented. -/
def answering (languages : List String) (spell : Json → String) (answer : Params → Answer) :
    Client where
  languages := languages
  spell := spell
  send := fun _ params => if overlong params then .error .invalidUrl else (answer params).sent

def documentedPages (spell : Json → String) (answer : Params → Answer) (params : Params) :
    Except Exn (List PageObject) :=
  if overlong params then .error (.unexpected "InvalidURL") else (answer params).read spell

section Answered

variable {spell : Json → String} {readText : String → Option Int}

theorem readTitle_json (object : PageObject) :
    readTitle spell readText object.json =
      if object.isSpecial then .error (raised .keyError) else .ok object.info? := by
  cases object with
  | existing pageId pageNamespace title revisions => cases revisions <;> rfl
  | missing pageNamespace title => rfl
  | invalid title reason => rfl
  | special pageNamespace negative title => rfl

theorem readTitles_pages (objects : List PageObject) :
    readTitles spell readText (pagesJson objects) =
      if objects.any PageObject.isSpecial then .error (raised .keyError)
      else .ok (objects.filterMap PageObject.info?) := by
  have loop : (objects.map PageObject.json).mapM (readTitle spell readText) =
      if objects.any PageObject.isSpecial then .error (raised .keyError)
      else .ok (objects.map PageObject.info?) := by
    induction objects with
    | nil => rfl
    | cons object objects ih =>
        rw [List.map_cons, List.mapM_cons, readTitle_json, ih, List.any_cons]
        cases object.isSpecial with
        | true => rfl
        | false => cases objects.any PageObject.isSpecial <;> rfl
  change ((objects.map PageObject.json).mapM (readTitle spell readText) >>=
    fun infos => .ok (infos.filterMap id)) = _
  rw [loop]
  cases objects.any PageObject.isSpecial with
  | true => rfl
  | false => simp [bind, Except.bind, List.filterMap_map]

variable {languages : List String} {answer : Params → Answer} {wiki : String}

theorem action_answering (params : Params) :
    (answering languages spell answer).action wiki params =
      (host languages wiki).bind (fun _ =>
        (documentedPages spell answer (payload params)).map pagesJson) := by
  rw [Client.action]
  change (host languages wiki).bind _ = _
  congr 1
  funext code
  rw [Client.request, answering, documentedPages]
  dsimp only
  cases overlong (payload params) with
  | true => rfl
  | false =>
      rw [if_neg Bool.false_ne_true, if_neg Bool.false_ne_true]
      cases answer (payload params) with
      | failed failure => cases failure <;> rfl
      | pages objects => rfl

theorem classifyBatch_answering (titles : List String) :
    (answering languages spell answer).classifyBatch readText wiki titles =
      (host languages wiki).bind (fun _ =>
        (documentedPages spell answer (payload (titlesParams titles))).bind (fun objects =>
          if objects.any PageObject.isSpecial then .error (raised .keyError)
          else .ok (objects.filterMap PageObject.info?))) := by
  rw [Client.classifyBatch, action_answering]
  cases host languages wiki with
  | error unknown => rfl
  | ok code =>
      cases documentedPages spell answer (payload (titlesParams titles)) with
      | error failed => rfl
      | ok objects => exact readTitles_pages objects

theorem getWikitext_answering (title : String) :
    (answering languages spell answer).getWikitext wiki title =
      (host languages wiki).bind (fun _ =>
        (documentedPages spell answer (payload (wikitextParams title))).map (fun objects =>
          objects.head?.bind PageObject.content)) := by
  rw [Client.getWikitext, action_answering]
  cases host languages wiki with
  | error unknown => rfl
  | ok code =>
      cases documentedPages spell answer (payload (wikitextParams title)) with
      | error failed => rfl
      | ok objects =>
          cases objects with
          | nil => rfl
          | cons object objects =>
              cases object with
              | existing pageId pageNamespace title revisions =>
                  cases revisions with
                  | nil => rfl
                  | cons revision revisions => cases revision <;> rfl
              | missing pageNamespace title => rfl
              | invalid title reason => rfl
              | special pageNamespace negative title => rfl

end Answered

/-- The answers to the requests for a category, one after the other: batches that another
follows, until one is the last or a request fails. -/
inductive CategoryAnswers where
  | failed (failure : Failure)
  | last (batch : List CategoryMember)
  | more (batch : List CategoryMember) (next : CategoryAnswers)

namespace CategoryAnswers

/-- The loop of `category_members`, with the members so far: another request as long as there
are fewer than `limit`. -/
def collect (spell : Json → String) (limit : Int) :
    List CategoryMember → CategoryAnswers → Except Exn (List CategoryMember × Bool)
  | members, failed failure =>
      if members.length < limit then .error (failure.exn spell)
      else .ok (upTo limit members, true)
  | members, last batch =>
      if members.length < limit then
        .ok (upTo limit (members ++ batch), limit < (members ++ batch).length)
      else .ok (upTo limit members, true)
  | members, more batch next =>
      if members.length < limit then collect spell limit (members ++ batch) next
      else .ok (upTo limit members, true)

/-- All the members the answers deliver. -/
def members : CategoryAnswers → List CategoryMember
  | failed _ => []
  | last batch => batch
  | more batch next => batch ++ next.members

variable {spell : Json → String} {limit : Int} {found kept : List CategoryMember}
  {truncated : Bool} {answers : CategoryAnswers}

theorem collect_from (bound : 0 ≤ limit)
    (collected : collect spell limit found answers = .ok (kept, truncated)) :
    kept = (found ++ answers.members).take limit.toNat := by
  induction answers generalizing found with
  | failed failure =>
      rw [collect] at collected
      split at collected
      · cases collected
      · rename_i enough
        cases collected
        exact upTo_enough bound enough _
  | last batch =>
      rw [collect] at collected
      split at collected
      · cases collected
        exact upTo_nonneg bound _
      · rename_i enough
        cases collected
        exact upTo_enough bound enough _
  | more batch next ih =>
      rw [collect] at collected
      split at collected
      · rw [ih collected, members, List.append_assoc]
      · rename_i enough
        cases collected
        exact upTo_enough bound enough _

theorem collect_ok (collected : collect spell limit [] answers = .ok (kept, truncated)) :
    kept = answers.members.take limit.toNat := by
  rcases le_or_gt 0 limit with bound | negative
  · exact collect_from bound collected
  · -- A negative limit asks nothing.
    have idle : ¬ (([] : List CategoryMember).length : Int) < limit :=
      not_lt.mpr (le_of_lt negative)
    have nothing : kept = upTo limit [] := by
      cases answers <;> rw [collect, if_neg idle] at collected <;> cases collected <;> rfl
    rw [nothing, Int.toNat_of_nonpos (le_of_lt negative), upTo, if_pos negative, List.take_nil,
      List.take_zero]

theorem collect_failed {raised : Exn}
    (stopped : collect spell limit found answers = .error raised) :
    ∃ failure : Failure, raised = failure.exn spell := by
  induction answers generalizing found with
  | failed failure =>
      rw [collect] at stopped
      split at stopped
      · cases stopped
        exact ⟨failure, rfl⟩
      · cases stopped
  | last batch =>
      rw [collect] at stopped
      split at stopped <;> cases stopped
  | more batch next ih =>
      rw [collect] at stopped
      split at stopped
      · exact ih stopped
      · cases stopped

end CategoryAnswers

end WikiPeople
