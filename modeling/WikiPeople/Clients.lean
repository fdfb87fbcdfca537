import WikiPeople.Library.FormEncoding
import WikiPeople.Library.Json
import WikiPeople.Config

/-! The Action API client: how a request is answered and how a page's source is read. -/

namespace WikiPeople

/-- A title as MediaWiki understands it; `pageId` is `none` where there is no such page. -/
structure TitleInfo where
  title : String
  pageNamespace : Int
  pageId : Option Int
  deriving DecidableEq, Repr

structure CategoryMember where
  pageId : Int
  title : String
  deriving DecidableEq, Repr

abbrev Params := List (String × String)

/-- Why a request has no answer. `invalidUrl` is `httpx.InvalidURL`, which is neither an
`HTTPError` nor a `ValueError`. -/
inductive SendError where
  | unavailable (reason : String)
  | invalidUrl

/-- `httpx` builds no URL with a longer query, and sends nothing then. -/
def maxQueryLength : Nat := 65536

def overlong (params : Params) : Bool := maxQueryLength < (FormEncoding.urlencode params).length

/-- The HTTP client with the resolver. `send` is what comes of a request to the Action API of a
host; `spell` is how a value that is no string is printed. -/
structure Client where
  languages : List String
  spell : Json → String
  send : String → Params → Except SendError Json

/-- A Python exception that no caller of the client expects. -/
def raised (fault : Json.Fault) : Exn := .unexpected fault.name

theorem get_field {item : Json} (object : item.isObject = true) (name : String)
    (fallback : Json) :
    (item.get name fallback).mapError raised = .ok ((item.field name).getD fallback) := by
  rw [Json.get_eq, if_pos object]
  rfl

def payload (params : Params) : Params := ("format", "json") :: ("formatversion", "2") :: params

def checkError (spell : Json → String) (data : Json) : Except Exn Json := do
  if ← (data.contains "error").mapError raised then
    let error ← (data.getItem "error").mapError raised
    .error (.known .retryableUpstream s!"Erreur Action API : {error.toStr spell}")
  else .ok data

def Client.request (client : Client) (host : String) (params : Params) : Except Exn Json :=
  match client.send host (payload params) with
  | .error (.unavailable reason) =>
      .error (.known .retryableUpstream s!"Action API indisponible : {reason}")
  | .error .invalidUrl => .error (.unexpected "InvalidURL")
  | .ok data => checkError client.spell data

def Client.action (client : Client) (wiki : String) (params : Params) : Except Exn Json := do
  let host ← host client.languages wiki
  client.request host params

def wikitextParams (title : String) : Params :=
  [("action", "query"), ("titles", title), ("prop", "revisions"), ("rvprop", "content"),
    ("rvslots", "main"), ("rvlimit", "1")]

/-- The second half of `get_wikitext`, for the first page of the answer. -/
def readPage (spell : Json → String) (page : Json) : Except Json.Fault (Option String) := do
  if (← page.get "missing" .null).truthy then .ok none
  else if (← page.get "invalid" .null).truthy then .ok none
  else
    let revisions ← page.get "revisions" (.arr [])
    if !revisions.truthy then .ok none
    else
      let revision ← revisions.getFirst
      let content ← revision.getPath ["slots", "main", "content"] (.str "")
      .ok (some (content.toStr spell))

/-- What `get_wikitext` reads from an answer: the source, or `none` for no such page. -/
def readWikitext (spell : Json → String) (data : Json) : Except Json.Fault (Option String) := do
  let pages ← data.getPath ["query", "pages"] (.arr [])
  if !pages.truthy then .ok none
  else
    let page ← pages.getFirst
    readPage spell page

def Client.getWikitext (client : Client) (wiki title : String) :
    Except Exn (Option String) := do
  let data ← client.action wiki (wikitextParams title)
  (readWikitext client.spell data).mapError raised

/-! What an answer says, apart from how it is read. -/

def textPath : List String := ["slots", "main", "content"]

def flagged (name : String) (page : Json) : Bool := (page.field name).any Json.truthy

def pageGone (page : Json) : Bool := flagged "missing" page || flagged "invalid" page

def pageCarriesText (page : Json) : Bool :=
  ((page.field "revisions").bind Json.first?).any (fun revision =>
    (revision.path textPath).isSome)

/-- The value is absent in the sense of Python, or a list that starts with such an item. -/
def listOf (item : Json → Bool) (value : Json) : Bool := !value.truthy || value.first?.any item

/-- Whatever is present on the way to the text is an object or a list of objects. -/
def pageLegible (page : Json) : Bool :=
  page.isObject && (page.field "revisions").all (listOf (Json.fits textPath))

def answeredPage (data : Json) : Option Json :=
  (data.path ["query", "pages"]).bind Json.first?

def saysGone (data : Json) : Bool := (answeredPage data).any pageGone

def carriesText (data : Json) : Bool := (answeredPage data).any pageCarriesText

def pagesLegible (data : Json) : Bool :=
  data.fits ["query", "pages"] && (data.path ["query", "pages"]).all (listOf pageLegible)

/-- The answer reports no error and has the shape the Action API documents. -/
def legible (data : Json) : Bool := (data.field "error").isNone && pagesLegible data

/-- What MediaWiki answers to the request for a page's source; `none` where the wiki has no
host or nothing is answered. -/
def Client.answer (client : Client) (wiki title : String) : Option Json :=
  match host client.languages wiki with
  | .error _ => none
  | .ok host => (client.send host (payload (wikitextParams title))).toOption

theorem get_flag {page : Json} (object : page.isObject = true) {name : String}
    (clear : flagged name page = false) :
    ∃ value, page.get name .null = .ok value ∧ value.truthy = false := by
  rw [Json.get_eq, if_pos object]
  refine ⟨_, rfl, ?_⟩
  cases found : page.field name with
  | none => rfl
  | some value => simpa [flagged, found] using clear

/-- What a reading comes to: the source with an absent page read as an empty one, or nothing
where it raised. -/
def sourceRead {Raised : Type} (reading : Except Raised (Option String)) : Option String :=
  (reading.map (fun source => source.getD "")).toOption

theorem read_list {value : Json} {item : Json → Bool}
    {next : Json → Except Json.Fault (Option String)}
    (inner : ∀ head, value.first? = some head →
      sourceRead (next head) = if item head then some "" else none)
    (text : ∀ letter, sourceRead (next (.str letter)) = none) :
    sourceRead (if !value.truthy then .ok none else value.getFirst >>= next) =
      if listOf item value then some "" else none := by
  by_cases filled : value.truthy = true
  · simp only [filled, listOf, Bool.not_true, Bool.false_eq_true, if_false, Bool.false_or]
    cases head : value.first? with
    | some first => simpa [Json.getFirst_eq head, bind, Except.bind] using inner first head
    | none =>
        rcases Json.getFirst_none head with ⟨fault, read⟩ | ⟨letter, read⟩
        · simp [read, bind, Except.bind, sourceRead, Except.map, Except.toOption]
        · simpa [read, bind, Except.bind] using text letter
  · simp [filled, listOf, sourceRead, Except.map, Except.toOption]

theorem readRevision_silent (spell : Json → String) {revision : Json}
    (silent : revision.path textPath = none) :
    sourceRead (do
      let content ← revision.getPath ["slots", "main", "content"] (.str "")
      .ok (some (content.toStr spell))) = if revision.fits textPath then some "" else none := by
  rw [Json.getPath_eq, ← textPath, silent]
  cases revision.fits textPath <;> rfl

theorem readPage_silent (spell : Json → String) {page : Json} (present : pageGone page = false)
    (silent : pageCarriesText page = false) :
    sourceRead (readPage spell page) = if pageLegible page then some "" else none := by
  cases object : page.isObject with
  | false =>
      have illegible : pageLegible page = false := by simp [pageLegible, object]
      simp [readPage, Json.get_eq, object, illegible, bind, Except.bind, sourceRead, Except.map,
        Except.toOption]
  | true =>
      rw [pageGone, Bool.or_eq_false_iff] at present
      obtain ⟨missing, readMissing, existing⟩ := get_flag object present.1
      obtain ⟨invalid, readInvalid, valid⟩ := get_flag object present.2
      have readRevisions := Json.get_eq page "revisions" (.arr [])
      rw [if_pos object] at readRevisions
      have reading : readPage spell page =
          (let revisions := (page.field "revisions").getD (.arr [])
          if !revisions.truthy then .ok none
          else revisions.getFirst >>= fun revision => do
            let content ← revision.getPath ["slots", "main", "content"] (.str "")
            .ok (some (content.toStr spell))) := by
        simp [readPage, readMissing, existing, readInvalid, valid, readRevisions, bind,
          Except.bind]
      rw [reading, pageLegible, object, Bool.true_and]
      cases found : page.field "revisions" with
      | none => rfl
      | some revisions =>
          refine read_list ?_ (fun _ => rfl)
          intro revision head
          rw [Option.getD_some] at head
          apply readRevision_silent spell
          simpa [pageCarriesText, found, head] using silent

/-- An answer in which the page is there without its text is read as an empty source, unless
reading it raises. -/
theorem readWikitext_silent (spell : Json → String) {data : Json}
    (present : saysGone data = false) (silent : carriesText data = false) :
    sourceRead (readWikitext spell data) = if pagesLegible data then some "" else none := by
  rw [readWikitext, Json.getPath_eq, pagesLegible]
  cases fits : data.fits ["query", "pages"] with
  | false => rfl
  | true =>
      rw [if_pos rfl, Bool.true_and]
      cases found : data.path ["query", "pages"] with
      | none => rfl
      | some pages =>
          refine read_list ?_ (fun _ => rfl)
          intro page head
          rw [Option.getD_some] at head
          have answered : answeredPage data = some page := by simp [answeredPage, found, head]
          refine readPage_silent spell ?_ ?_
          · simpa [saysGone, answered] using present
          · simpa [carriesText, answered] using silent

theorem sourceRead_mapError {Raised Other : Type} (report : Raised → Other)
    (reading : Except Raised (Option String)) :
    sourceRead (reading.mapError report) = sourceRead reading := by
  cases reading <;> rfl

theorem sourceRead_checked (spell : Json → String) (data : Json) :
    sourceRead (checkError spell data >>= fun data =>
        (readWikitext spell data).mapError raised) =
      if data.isObject && (data.field "error").isNone then sourceRead (readWikitext spell data)
      else none := by
  cases data with
  | obj fields =>
      rw [checkError, Json.contains, Json.getItem, Json.field]
      cases reported : fields.lookup "error" with
      | none => exact sourceRead_mapError raised _
      | some error => rfl
  | arr items =>
      rw [checkError, Json.contains]
      cases items.any (Json.isText "error") <;> rfl
  | str text =>
      rw [checkError, Json.contains]
      cases text.toList.tails.any "error".toList.isPrefixOf <;> rfl
  | _ => rfl

theorem getWikitext_answer (client : Client) (wiki title : String) :
    (client.answer wiki title = none ∧ sourceRead (client.getWikitext wiki title) = none) ∨
      ∃ data, client.answer wiki title = some data ∧
        sourceRead (client.getWikitext wiki title) =
          if data.isObject && (data.field "error").isNone then
            sourceRead (readWikitext client.spell data)
          else none := by
  rw [Client.answer, Client.getWikitext, Client.action]
  cases host client.languages wiki with
  | error reason => exact Or.inl ⟨rfl, rfl⟩
  | ok code =>
      simp only [bind, Except.bind, Client.request]
      cases client.send code (payload (wikitextParams title)) with
      | error failed => cases failed <;> exact Or.inl ⟨rfl, rfl⟩
      | ok data => exact Or.inr ⟨data, rfl, sourceRead_checked client.spell data⟩

theorem getWikitext_silent (client : Client) (wiki title : String)
    (present : (client.answer wiki title).any saysGone = false)
    (silent : (client.answer wiki title).any carriesText = false) :
    sourceRead (client.getWikitext wiki title) =
      if (client.answer wiki title).any legible then some "" else none := by
  rcases getWikitext_answer client wiki title with ⟨unanswered, read⟩ | ⟨data, answered, read⟩
  · rw [read, unanswered]
    rfl
  · rw [answered, Option.any_some] at present silent
    rw [read, answered, Option.any_some, readWikitext_silent client.spell present silent, legible]
    cases object : data.isObject with
    | false => simp [pagesLegible, Json.fits, object]
    | true => cases (data.field "error").isNone <;> rfl

end WikiPeople
