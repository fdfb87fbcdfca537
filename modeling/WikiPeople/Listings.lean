import WikiPeople.Ladder
import WikiPeople.Library.Paging
import WikiPeople.Titles

/-! The three listings that are read to their end, one request after the other: the bots among
a page's contributors, its history, and the members of a category. -/

namespace WikiPeople

open Relational Paging

/-- The client during one call: the same request may be answered differently each time. -/
structure Session where
  languages : List String
  spell : Json → String
  send : Nat → String → Params → Except SendError Json

def Session.client (session : Session) (asked : Nat) : Client :=
  ⟨session.languages, session.spell, session.send asked⟩

/-- How the HTTP client writes the value of a parameter. -/
def paramText (spell : Json → String) : Json → String
  | .str text => text
  | .bool value => if value then "true" else "false"
  | .null => ""
  | value => spell value

/-- A list is written once for each of its items. -/
def paramTexts (spell : Json → String) : Json → List String
  | .arr items => items.map (paramText spell)
  | value => [paramText spell value]

def fieldParams (spell : Json → String) (field : String × Json) : Params :=
  (paramTexts spell field.2).map (fun text => (field.1, text))

/-- `{**params, **continuation}`. -/
def continued (spell : Json → String) (params : Params) : Json → Except Exn Params
  | .obj fields =>
      let known := params.flatMap (fun param =>
        (fields.lookup param.1).elim [param] (fun value => fieldParams spell (param.1, value)))
      let added := fields.filter (fun field => field.1 ∉ params.map Prod.fst)
      .ok (known ++ added.flatMap (fieldParams spell))
  | _ => .error (raised .typeError)

def Session.ask (session : Session) (wiki : String) (params : Params) (asked : Nat)
    (continuation : Json) : Except Exn Json := do
  let params ← continued session.spell params continuation
  (session.client asked).action wiki params

/-- `data.get("continue", {})`. -/
def continuationOf (data : Json) : Except Exn Json :=
  (data.get "continue" (.obj [])).mapError raised

/-- What raises ends a loop. -/
def passOf {State Result : Type} :
    Except Exn (Step State Result) → Step State (Except Exn Result)
  | .error raised => .done (.error raised)
  | .ok (.ask next) => .ask next
  | .ok (.done result) => .done (.ok result)

def botParams (pageId : Int) : Params :=
  [("action", "query"), ("pageids", toString pageId), ("prop", "contributors"),
    ("pcrights", "bot"), ("pclimit", "max")]

def readBots (data : Json) : Except Json.Fault Nat := do
  let pages ← data.getPath ["query", "pages"] (.arr [])
  if !pages.truthy then .ok 0
  else
    let page ← pages.getFirst
    let contributors ← page.get "contributors" (.arr [])
    contributors.len

def botPageLimit : Nat := 100

/-- One pass of `get_bot_contributor_count`: the bots so far, and the continuation. -/
def botStep (session : Session) (wiki : String) (pageId : Int) (asked : Nat)
    (state : Nat × Json) : Step (Nat × Json) (Except Exn Nat) :=
  if botPageLimit ≤ asked then
    .done (.error (.known .retryableUpstream "Pagination des bots anormalement longue"))
  else passOf do
    let data ← session.ask wiki (botParams pageId) asked state.2
    let more ← (readBots data).mapError raised
    let next ← continuationOf data
    if next.truthy then .ok (.ask (state.1 + more, next)) else .ok (.done (state.1 + more))

def historyParams (pageId : Int) : Params :=
  [("action", "query"), ("pageids", toString pageId), ("prop", "revisions"),
    ("rvprop", "ids|user|userid"), ("rvlimit", "max")]

structure HistoryWalk where
  counts : Counter Int
  revisions : Nat
  continuation : Json

def HistoryWalk.start : HistoryWalk := ⟨.empty, 0, .obj []⟩

/-- `int(revision.get("userid") or 0)`. -/
def revisionUser (readText : String → Option Int) (revision : Json) : Except Exn Int := do
  let number ← (revision.get "userid" .null).mapError raised
  if number.truthy then asInt readText number else .ok 0

/-- A revision without an account counts in the total only. -/
def tallyRevision (readText : String → Option Int) (tally : Counter Int × Nat)
    (revision : Json) : Except Exn (Counter Int × Nat) := do
  let userId ← revisionUser readText revision
  .ok (if 0 < userId then tally.1.tally userId else tally.1, tally.2 + 1)

def readRevisions (readText : String → Option Int) (page : Json) (tally : Counter Int × Nat) :
    Except Exn (Counter Int × Nat) := do
  let revisions ← (page.get "revisions" (.arr [])).mapError raised
  let items ← revisions.items.mapError raised
  items.foldlM (tallyRevision readText) tally

/-- One pass of `get_editor_history`. -/
def historyStep (session : Session) (readText : String → Option Int) (wiki : String)
    (pageId maxRevisions : Int) (asked : Nat) (walk : HistoryWalk) :
    Step HistoryWalk (Except Exn EditorHistory) :=
  if maxRevisions ≤ walk.revisions then .done (.ok ⟨walk.counts, walk.revisions, false⟩)
  else passOf do
    let data ← session.ask wiki (historyParams pageId) asked walk.continuation
    let pages ← (data.getPath ["query", "pages"] (.arr [])).mapError raised
    if !pages.truthy then .ok (.done ⟨walk.counts, walk.revisions, false⟩)
    else
      let page ← pages.getFirst.mapError raised
      let (counts, revisions) ← readRevisions readText page (walk.counts, walk.revisions)
      let next ← continuationOf data
      if next.truthy then .ok (.ask ⟨counts, revisions, next⟩)
      else .ok (.done ⟨counts, revisions, true⟩)

def categoryParams (category : String) : Params :=
  [("action", "query"), ("list", "categorymembers"), ("cmtitle", category),
    ("cmnamespace", "0"), ("cmlimit", "max"), ("cmprop", "ids|title")]

def readMember (spell : Json → String) (readText : String → Option Int) (member : Json) :
    Except Exn CategoryMember := do
  let number ← (member.getItem "pageid").mapError raised
  let pageId ← asInt readText number
  let title ← (member.getItem "title").mapError raised
  .ok ⟨pageId, title.toStr spell⟩

def readMembers (spell : Json → String) (readText : String → Option Int) (data : Json) :
    Except Exn (List CategoryMember) := do
  let members ← (data.getPath ["query", "categorymembers"] (.arr [])).mapError raised
  let items ← members.items.mapError raised
  items.mapM (readMember spell readText)

/-- One pass of `category_members`: the members so far, and the continuation. -/
def categoryStep (session : Session) (readText : String → Option Int) (wiki category : String)
    (limit : Int) (asked : Nat) (state : List CategoryMember × Json) :
    Step (List CategoryMember × Json) (Except Exn (List CategoryMember × Bool)) :=
  if limit ≤ state.1.length then .done (.ok (upTo limit state.1, true))
  else passOf do
    let data ← session.ask wiki (categoryParams category) asked state.2
    let batch ← readMembers session.spell readText data
    let members := state.1 ++ batch
    let next ← continuationOf data
    if next.truthy then .ok (.ask (members, next))
    else .ok (.done (upTo limit members, limit < members.length))

section Calls

variable (session : Session) (readText : String → Option Int) (wiki : String)

/-- A call that is given so many passes; `none` where it is still asking after them. -/
def getBotContributorCount (pageId : Int) (passes : Nat) : Option (Except Exn Nat) :=
  run (botStep session wiki pageId) passes 0 (0, .obj [])

def getEditorHistory (pageId maxRevisions : Int) (passes : Nat) :
    Option (Except Exn EditorHistory) :=
  run (historyStep session readText wiki pageId maxRevisions) passes 0 .start

def categoryMembers (category : String) (limit : Int) (passes : Nat) :
    Option (Except Exn (List CategoryMember × Bool)) :=
  run (categoryStep session readText wiki category limit) passes 0 ([], .obj [])

end Calls

/-! What the Action API answers to a listing that it splits. -/

def continuationJson (fields : List (String × String)) : Json :=
  .obj (fields.map (fun field => (field.1, .str field.2)))

def listingJson (query : Json) (continuation : Option (List (String × String))) : Json :=
  .obj (("query", query) ::
    (continuation.map (fun fields => ("continue", continuationJson fields))).toList)

def continuationAt (continuations : Nat → List (String × String)) : Nat → Json
  | 0 => .obj []
  | place + 1 => continuationJson (continuations place)

/-- The parts of a listing are answered in order, each to the request that carries the
continuation of the part before it, and all but the last with a continuation. -/
structure Session.Serves (session : Session) (code : String) (params : Params)
    (continuations : Nat → List (String × String)) (queries : List Json) : Prop where
  filled : ∀ place, continuations place ≠ []
  answers : ∀ place query request, queries[place]? = some query →
    continued session.spell params (continuationAt continuations place) = .ok request →
    session.send place code (payload request) = .ok (listingJson query
      (if place + 1 < queries.length then some (continuations place) else none))

section Served

variable {session : Session} {readText : String → Option Int} {wiki code : String}
  {params : Params} {continuations : Nat → List (String × String)} {queries : List Json}

theorem foldlM_tally (readText : String → Option Int) (items : List Json)
    (tally : Counter Int × Nat) :
    items.foldlM (tallyRevision readText) tally =
      (items.mapM (revisionUser readText)).map (fun users =>
        ((users.filter (fun userId => 0 < userId)).foldl Counter.tally tally.1,
          tally.2 + users.length)) := by
  induction items generalizing tally with
  | nil => rfl
  | cons item items ih =>
      rw [List.foldlM_cons, List.mapM_cons, tallyRevision]
      cases revisionUser readText item with
      | error raised => rfl
      | ok userId =>
          simp only [bind, Except.bind, ih]
          cases items.mapM (revisionUser readText) with
          | error raised => rfl
          | ok users =>
              by_cases named : 0 < userId
              · simp [named, Except.map, pure, Except.pure]
                omega
              · simp [named, Except.map, pure, Except.pure]
                omega

theorem continuationAt_object (continuations : Nat → List (String × String)) (place : Nat) :
    ∃ fields, continuationAt continuations place = .obj fields := by
  cases place with
  | zero => exact ⟨[], rfl⟩
  | succ place => exact ⟨_, rfl⟩

theorem checkError_listing (spell : Json → String) (query : Json)
    (continuation : Option (List (String × String))) :
    checkError spell (listingJson query continuation) = .ok (listingJson query continuation) := by
  cases continuation <;> rfl

theorem request_answered {client : Client} {data : Json}
    (answer : client.send code (payload params) = .ok data) :
    client.request code params = checkError client.spell data := by
  rw [Client.request, answer]

theorem ask_continued (known : host session.languages wiki = .ok code) {asked : Nat}
    {continuation : Json} {request : Params}
    (merged : continued session.spell params continuation = .ok request) :
    session.ask wiki params asked continuation =
      (session.client asked).request code request := by
  rw [Session.ask, merged]
  change (session.client asked).action wiki request = _
  rw [Client.action]
  change (host session.languages wiki).bind _ = _
  rw [known]
  rfl

theorem ask_served (served : session.Serves code params continuations queries)
    (known : host session.languages wiki = .ok code) {place : Nat} {query : Json}
    (found : queries[place]? = some query) :
    session.ask wiki params place (continuationAt continuations place) =
      .ok (listingJson query
        (if place + 1 < queries.length then some (continuations place) else none)) := by
  obtain ⟨fields, object⟩ := continuationAt_object continuations place
  have unpacked : ∃ request, continued session.spell params
      (continuationAt continuations place) = .ok request := by
    rw [object]
    exact ⟨_, rfl⟩
  obtain ⟨request, merged⟩ := unpacked
  have answer := served.answers place query request found merged
  rw [ask_continued known merged]
  exact (request_answered answer).trans (checkError_listing _ query _)

theorem continuationOf_listing (query : Json) (continuation : Option (List (String × String))) :
    continuationOf (listingJson query continuation) =
      .ok (continuation.elim (.obj []) continuationJson) := by
  cases continuation <;> rfl

theorem continuationJson_truthy {fields : List (String × String)} (filled : fields ≠ []) :
    (continuationJson fields).truthy = true := by
  cases fields with
  | nil => exact absurd rfl filled
  | cons field fields => rfl

end Served

end WikiPeople
