import WikiPeople.GlobalUsers
import WikiPeople.Library.FormEncoding
import WikiPeople.Library.Raising
import WikiPeople.Listings
import WikiPeople.WikiWho

/-! The rest of what a worker asks about one page: its metadata, the number of its editors and
the accounts that may be named. What is read from an answer, and what may be raised. -/

namespace WikiPeople

open Relational Raising Paging

def pageParams (pageId : Int) : Params :=
  [("action", "query"), ("pageids", toString pageId), ("prop", "revisions|info"),
    ("rvprop", "ids")]

/-- `int(value[name])`. -/
def intItem (readText : String → Option Int) (name : String) (value : Json) : Except Exn Int := do
  let number ← (value.getItem name).mapError raised
  asInt readText number

/-- What becomes of a page that is there, once its revisions are. -/
def readFields (spell : Json → String) (readText : String → Option Int) (page revisions : Json) :
    Except Exn PageMetadata := do
  let pageId ← intItem readText "pageid" page
  let revision ← revisions.getFirst.mapError raised
  let revisionId ← intItem readText "revid" revision
  let title ← (page.getItem "title").mapError raised
  let pageNamespace ← intItem readText "ns" page
  let redirect ← (page.get "redirect" .null).mapError raised
  .ok
    { pageId := pageId
      revisionId := revisionId
      title := title.toStr spell
      pageNamespace := pageNamespace
      isRedirect := redirect.truthy }

def noPage (wiki : String) (pageId : Int) : Exn :=
  .known .permanentData s!"Page inexistante : {wiki}/{pageId}"

def noRevision (wiki : String) (pageId : Int) : Exn :=
  .known .permanentData s!"Page sans révision : {wiki}/{pageId}"

/-- The second half of `get_page`, for the first page of the answer. -/
def readFirstPage (spell : Json → String) (readText : String → Option Int) (wiki : String)
    (pageId : Int) (page : Json) : Except Exn PageMetadata := do
  let missing ← (page.get "missing" .null).mapError raised
  if missing.truthy then .error (noPage wiki pageId)
  else
    let revisions ← (page.get "revisions" (.arr [])).mapError raised
    if !revisions.truthy then .error (noRevision wiki pageId)
    else readFields spell readText page revisions

def readMetadata (spell : Json → String) (readText : String → Option Int) (wiki : String)
    (pageId : Int) (data : Json) : Except Exn PageMetadata := do
  let pages ← (data.getPath ["query", "pages"] (.arr [])).mapError raised
  if !pages.truthy then .error (noPage wiki pageId)
  else
    let page ← pages.getFirst.mapError raised
    readFirstPage spell readText wiki pageId page

def Client.getPage (client : Client) (readText : String → Option Int) (wiki : String)
    (pageId : Int) : Except Exn PageMetadata := do
  let data ← client.action wiki (pageParams pageId)
  readMetadata client.spell readText wiki pageId data

def editorCountUrl (host title : String) : String :=
  let path := FormEncoding.quote (String.ofList (Text.replaceChar ' ' '_' title.toList))
  s!"https://{host}/w/rest.php/v1/page/{path}/history/counts/editors"

def invalidCount : Exn := .known .retryableUpstream "Réponse de comptage REST invalide"

/-- `isinstance(count, int)`, which a bool is too. -/
def readEditorCount (data : Json) : Except Exn EditorCount := do
  let count ← (data.get "count" .null).mapError raised
  let limit ← (data.get "limit" .null).mapError raised
  match count with
  | .int count => .ok ⟨count, limit.truthy⟩
  | .bool count => .ok ⟨if count then 1 else 0, limit.truthy⟩
  | _ => .error invalidCount

/-- `fetch` is what comes of a request for a URL. -/
def getEditorCount (languages : List String) (fetch : String → Except SendError Json)
    (wiki title : String) : Except Exn EditorCount := do
  let host ← host languages wiki
  match fetch (editorCountUrl host title) with
  | .error (.unavailable reason) =>
      .error (.known .retryableUpstream s!"Comptage REST indisponible : {reason}")
  | .error .invalidUrl => .error (.unexpected "InvalidURL")
  | .ok data => readEditorCount data

def userParams (userIds : List Int) : Params :=
  [("action", "query"), ("list", "users"),
    ("ususerids", String.intercalate "|" (userIds.map toString)), ("usprop", "groups")]

/-- What the loop makes of one item; `none` where it goes on to the next. -/
def readUser (spell : Json → String) (readText : String → Option Int) (item : Json) :
    Except Exn (Option ResolvedUser) := do
  let number ← (item.get "userid" (.int 0)).mapError raised
  let userId ← asInt readText number
  if userId ≤ 0 then .ok none
  else
    let name ← (item.get "name" (.str (toString userId))).mapError raised
    let groups ← (item.get "groups" (.arr [])).mapError raised
    let items ← groups.items.mapError raised
    let names ← items.mapM groupName
    let missing ← (item.get "missing" .null).mapError raised
    let invalid ← (item.get "invalid" .null).mapError raised
    .ok (some ⟨userId, name.toStr spell, names, missing.truthy || invalid.truthy⟩)

def Client.userBatch (client : Client) (readText : String → Option Int) (wiki : String)
    (userIds : List Int) : Except Exn (List (Option ResolvedUser)) := do
  let data ← client.action wiki (userParams userIds)
  let users ← (data.getPath ["query", "users"] (.arr [])).mapError raised
  let items ← users.items.mapError raised
  items.mapM (readUser client.spell readText)

/-- Fifty accounts for each request. Of two items with one id the later one counts. -/
def Client.resolveUsers (client : Client) (readText : String → Option Int) (wiki : String)
    (userIds : List Int) : Except Exn Users :=
  ((userIds.toChunks 50).mapM (client.userBatch readText wiki)).map fun batches =>
    ((batches.flatten.filterMap id).map (fun user => (user.userId, user))).foldl Table.put
      Table.empty

/-! Nothing of this gives a page up for good, but for what MediaWiki says of the page. -/

/-- Worth another attempt. -/
def Temporary (exn : Exn) : Prop := exn.isPermanentData = false

section Temporary

variable {languages : List String} {wiki code title : String} {pageId : Int} {client : Client}
  {spell : Json → String} {readText : String → Option Int} {data page value : Json}

theorem temporary_raised (fault : Json.Fault) : Temporary (raised fault) := rfl

theorem only_host (covered : language languages wiki = some code) :
    Only Temporary (host languages wiki) := by
  rw [host, requireLanguage, covered]
  exact only_ok _

theorem only_asInt : Only Temporary (asInt readText value) := by
  cases value with
  | str text =>
      rw [asInt]
      cases readText text with
      | none => exact only_error rfl
      | some number => exact only_ok number
  | null => exact only_error rfl
  | arr items => exact only_error rfl
  | obj fields => exact only_error rfl
  | _ => exact only_ok _

theorem only_checkError : Only Temporary (checkError spell data) := by
  refine only_bind (only_mapError temporary_raised) fun reported => only_ite ?_ (only_ok _)
  exact only_bind (only_mapError temporary_raised) fun error => only_error rfl

theorem only_action {params : Params} (covered : language client.languages wiki = some code) :
    Only Temporary (client.action wiki params) := by
  refine only_bind (only_host covered) fun host => ?_
  rw [Client.request]
  cases client.send host (payload params) with
  | error failed => cases failed <;> exact only_error rfl
  | ok data => exact only_checkError

theorem only_intItem {name : String} : Only Temporary (intItem readText name value) :=
  only_bind (only_mapError temporary_raised) fun _ => only_asInt

theorem only_readFields {revisions : Json} :
    Only Temporary (readFields spell readText page revisions) := by
  refine only_bind only_intItem fun pageId => ?_
  refine only_bind (only_mapError temporary_raised) fun revision => ?_
  refine only_bind only_intItem fun revisionId => ?_
  refine only_bind (only_mapError temporary_raised) fun title => ?_
  refine only_bind only_intItem fun pageNamespace => ?_
  exact only_bind (only_mapError temporary_raised) fun redirect => only_ok _

theorem only_getEditorCount {fetch : String → Except SendError Json}
    (covered : language languages wiki = some code) :
    Only Temporary (getEditorCount languages fetch wiki title) := by
  refine only_bind (only_host covered) fun host => ?_
  cases fetch (editorCountUrl host title) with
  | error failed => cases failed <;> exact only_error rfl
  | ok data =>
      refine only_bind (only_mapError temporary_raised) fun count => ?_
      refine only_bind (only_mapError temporary_raised) fun limit => ?_
      cases count with
      | int count => exact only_ok _
      | bool count => exact only_ok _
      | _ => exact only_error rfl

theorem only_groupName : Only Temporary (groupName value) := by
  cases value with
  | str name => exact only_ok name
  | _ => exact only_error rfl

theorem only_readUser {item : Json} : Only Temporary (readUser spell readText item) := by
  refine only_bind (only_mapError temporary_raised) fun number => ?_
  refine only_bind only_asInt fun userId => only_ite (only_ok _) ?_
  refine only_bind (only_mapError temporary_raised) fun name => ?_
  refine only_bind (only_mapError temporary_raised) fun groups => ?_
  refine only_bind (only_mapError temporary_raised) fun items => ?_
  refine only_bind (only_mapM fun _ => only_groupName) fun names => ?_
  refine only_bind (only_mapError temporary_raised) fun missing => ?_
  exact only_bind (only_mapError temporary_raised) fun invalid => only_ok _

theorem only_resolveUsers {userIds : List Int}
    (covered : language client.languages wiki = some code) :
    Only Temporary (client.resolveUsers readText wiki userIds) := by
  refine only_map _ (only_mapM fun batch => ?_)
  refine only_bind (only_action covered) fun data => ?_
  refine only_bind (only_mapError temporary_raised) fun users => ?_
  exact only_bind (only_mapError temporary_raised) fun items => only_mapM fun _ => only_readUser

theorem only_requestGlobalUserInfo {username : String}
    (covered : language client.languages wiki = some code) :
    Only Temporary (client.requestGlobalUserInfo wiki username) := by
  refine only_bind (only_action covered) fun data => ?_
  refine only_bind (only_mapError temporary_raised) fun info => ?_
  refine only_bind (only_mapError temporary_raised) fun groups => ?_
  refine only_bind (only_mapError temporary_raised) fun items => ?_
  refine only_bind (only_mapM fun _ => only_groupName) fun names => ?_
  exact only_bind (only_mapError temporary_raised) fun locked => only_ok _

variable {session : Session} {asked passes : Nat}

theorem only_ask {params : Params} {continuation : Json}
    (covered : language session.languages wiki = some code) :
    Only Temporary (session.ask wiki params asked continuation) := by
  have merged : Only Temporary (continued session.spell params continuation) := by
    cases continuation with
    | obj fields => exact only_ok _
    | _ => exact only_error rfl
  exact only_bind merged fun params => only_action covered

theorem only_passOf {State Result : Type} {pass : Except Exn (Step State Result)}
    {result : Except Exn Result} (only : Only Temporary pass)
    (taken : passOf pass = .done result) : Only Temporary result := by
  cases pass with
  | error fault =>
      cases taken
      exact only_error (only fault rfl)
  | ok step =>
      cases step with
      | ask next => cases taken
      | done value =>
          cases taken
          exact only_ok value

theorem only_botStep {state : Nat × Json} {result : Except Exn Nat}
    (covered : language session.languages wiki = some code)
    (taken : botStep session wiki pageId asked state = .done result) :
    Only Temporary result := by
  unfold botStep at taken
  split at taken
  · cases taken
    exact only_error rfl
  · refine only_passOf ?_ taken
    refine only_bind (only_ask covered) fun data => ?_
    refine only_bind (only_mapError temporary_raised) fun more => ?_
    exact only_bind (only_mapError temporary_raised) fun next => only_ite (only_ok _) (only_ok _)

theorem only_getBotContributorCount {counted : Except Exn Nat}
    (covered : language session.languages wiki = some code)
    (returned : getBotContributorCount session wiki pageId passes = some counted) :
    Only Temporary counted :=
  only_run (fun _ _ _ taken => only_botStep covered taken) returned

theorem only_tallyRevision {tally : Counter Int × Nat} {revision : Json} :
    Only Temporary (tallyRevision readText tally revision) := by
  refine only_bind ?_ fun userId => only_ok _
  refine only_bind (only_mapError temporary_raised) fun number => ?_
  exact only_ite only_asInt (only_ok _)

theorem only_historyStep {maxRevisions : Int} {walk : HistoryWalk}
    {result : Except Exn EditorHistory}
    (covered : language session.languages wiki = some code)
    (taken : historyStep session readText wiki pageId maxRevisions asked walk = .done result) :
    Only Temporary result := by
  unfold historyStep at taken
  split at taken
  · cases taken
    exact only_ok _
  · refine only_passOf ?_ taken
    refine only_bind (only_ask covered) fun data => ?_
    refine only_bind (only_mapError temporary_raised) fun pages => ?_
    refine only_ite (only_ok _) ?_
    refine only_bind (only_mapError temporary_raised) fun page => ?_
    have read : Only Temporary (readRevisions readText page (walk.counts, walk.revisions)) := by
      refine only_bind (only_mapError temporary_raised) fun revisions => ?_
      refine only_bind (only_mapError temporary_raised) fun items => ?_
      exact only_foldlM (fun _ _ => only_tallyRevision) _
    refine only_bind read fun tally => ?_
    exact only_bind (only_mapError temporary_raised) fun next => only_ite (only_ok _) (only_ok _)

theorem only_getEditorHistory {maxRevisions : Int} {history : Except Exn EditorHistory}
    (covered : language session.languages wiki = some code)
    (returned : getEditorHistory session readText wiki pageId maxRevisions passes =
      some history) : Only Temporary history :=
  only_run (fun _ _ _ taken => only_historyStep covered taken) returned

end Temporary

/-! What MediaWiki says of a page that is not there. -/

def deniedPage (page : Json) : Bool :=
  page.isObject && (flagged "missing" page || !flagged "revisions" page)

def deniesPage (data : Json) : Bool :=
  data.fits ["query", "pages"] &&
    (!(data.path ["query", "pages"]).any Json.truthy || (answeredPage data).any deniedPage)

/-- MediaWiki, asked for the page, reports no error and denies it. -/
def Client.DeniesPage (client : Client) (wiki : String) (pageId : Int) : Prop :=
  ∃ name data, host client.languages wiki = .ok name ∧
    client.send name (payload (pageParams pageId)) = .ok data ∧
    (data.field "error").isNone = true ∧ deniesPage data = true

section Denied

variable {client : Client} {spell : Json → String} {readText : String → Option Int}
  {wiki : String} {pageId : Int} {data page : Json} {exn : Exn}

/-- A program that gives up for good exactly under a condition. -/
def Condemns {Result : Type} (program : Except Exn Result) : Prop :=
  ∃ exn, program = .error exn ∧ exn.isPermanentData = true

theorem Only.not_condemns {Result : Type} {program : Except Exn Result}
    (only : Only Temporary program) : ¬ Condemns program := by
  rintro ⟨exn, failed, lasting⟩
  rw [only exn failed] at lasting
  cases lasting

theorem condemns_bind {First Second : Type} {first : Except Exn First}
    {next : First → Except Exn Second} (only : Only Temporary first) :
    Condemns (first >>= next) ↔ ∃ value, first = .ok value ∧ Condemns (next value) := by
  cases first with
  | error fault =>
      refine iff_of_false (Only.not_condemns (only_error (only fault rfl))) ?_
      rintro ⟨value, returned, _⟩
      cases returned
  | ok value =>
      constructor
      · intro condemned
        exact ⟨value, rfl, condemned⟩
      · rintro ⟨other, returned, condemned⟩
        cases returned
        exact condemned

theorem condemns_ite {Result : Type} {condition : Prop} [Decidable condition]
    {first second : Except Exn Result} (lasting : Condemns first) :
    Condemns (if condition then first else second) ↔ condition ∨ Condemns second := by
  split
  · rename_i holds
    exact iff_of_true lasting (Or.inl holds)
  · rename_i fails
    exact ⟨Or.inr, fun either => either.resolve_left fails⟩

theorem condemns_noPage {Result : Type} :
    Condemns (.error (noPage wiki pageId) : Except Exn Result) := ⟨_, rfl, rfl⟩

theorem condemns_noRevision {Result : Type} :
    Condemns (.error (noRevision wiki pageId) : Except Exn Result) := ⟨_, rfl, rfl⟩

theorem flagged_getD {name : String} {fallback : Json} (falsy : fallback.truthy = false) :
    ((page.field name).getD fallback).truthy = flagged name page := by
  rw [flagged]
  cases page.field name with
  | none => exact falsy
  | some value => rfl

theorem not_condemns_raised {Result : Type} (fault : Json.Fault) :
    ¬ Condemns (.error (raised fault) : Except Exn Result) :=
  Only.not_condemns (only_error (temporary_raised fault))

theorem readFirstPage_other (object : page.isObject = false) :
    readFirstPage spell readText wiki pageId page = .error (raised .attributeError) := by
  rw [readFirstPage, Json.get_eq, object]
  rfl

theorem readFirstPage_condemns :
    Condemns (readFirstPage spell readText wiki pageId page) ↔ deniedPage page = true := by
  cases object : page.isObject with
  | false =>
      rw [readFirstPage_other object, deniedPage, object]
      exact iff_of_false (not_condemns_raised _) Bool.false_ne_true
  | true =>
      rw [readFirstPage, deniedPage, object, get_field object, get_field object]
      change Condemns (ite _ _ _) ↔ _
      rw [condemns_ite condemns_noPage, flagged_getD rfl, Bool.true_and, Bool.or_eq_true]
      refine or_congr_right ?_
      change Condemns (ite _ _ _) ↔ _
      rw [condemns_ite condemns_noRevision, flagged_getD rfl]
      exact or_iff_left (Only.not_condemns only_readFields)

theorem getFirst_condemns {pages : Json} :
    Condemns ((pages.getFirst.mapError raised).bind (readFirstPage spell readText wiki pageId)) ↔
      pages.first?.any deniedPage = true := by
  cases found : pages.first? with
  | some page =>
      rw [Json.getFirst_eq found]
      exact readFirstPage_condemns
  | none =>
      refine iff_of_false ?_ Bool.false_ne_true
      rcases Json.getFirst_none found with ⟨fault, failed⟩ | ⟨text, failed⟩
      · rw [failed]
        exact not_condemns_raised fault
      · rw [failed]
        change ¬ Condemns (readFirstPage spell readText wiki pageId (.str text))
        rw [readFirstPage_other rfl]
        exact not_condemns_raised _

theorem readMetadata_condemns :
    Condemns (readMetadata spell readText wiki pageId data) ↔ deniesPage data = true := by
  rw [readMetadata, deniesPage, answeredPage, Json.getPath_eq]
  cases shaped : data.fits ["query", "pages"] with
  | false => exact iff_of_false (not_condemns_raised _) Bool.false_ne_true
  | true =>
      change Condemns (ite _ _ _) ↔ _
      rw [condemns_ite condemns_noPage, Bool.true_and, Bool.or_eq_true]
      cases data.path ["query", "pages"] with
      | none => exact iff_of_true (Or.inl rfl) (Or.inl rfl)
      | some pages => exact or_congr Iff.rfl getFirst_condemns

theorem checkError_eq_ok {answer : Json} (checked : checkError spell data = .ok answer) :
    answer = data := by
  unfold checkError at checked
  obtain ⟨reported, -, checked⟩ := bind_eq_ok.mp checked
  split at checked
  · obtain ⟨error, -, checked⟩ := bind_eq_ok.mp checked
    cases checked
  · exact (Except.ok.inj checked).symm

theorem checkError_object (object : data.isObject = true) :
    checkError spell data = .ok data ↔ (data.field "error").isNone = true := by
  cases data with
  | obj fields =>
      rw [checkError, Json.contains, Json.getItem, Json.field]
      cases fields.lookup "error" with
      | none => exact iff_of_true rfl rfl
      | some error => exact iff_of_false (fun passed => by cases passed) Bool.false_ne_true
  | _ => cases object

theorem action_eq_ok {name : String} {params : Params}
    (known : host client.languages wiki = .ok name) :
    client.action wiki params = .ok data ↔
      client.send name (payload params) = .ok data ∧ checkError client.spell data = .ok data := by
  change ((host client.languages wiki).bind fun name => client.request name params) = _ ↔ _
  rw [known]
  change client.request name params = _ ↔ _
  unfold Client.request
  cases client.send name (payload params) with
  | error failed =>
      constructor
      · intro answered
        cases failed <;> cases answered
      · rintro ⟨answered, _⟩
        cases answered
  | ok answer =>
      constructor
      · intro checked
        obtain rfl := checkError_eq_ok checked
        exact ⟨rfl, checked⟩
      · rintro ⟨same, checked⟩
        cases same
        exact checked

theorem isObject_of_denied (denied : deniesPage data = true) : data.isObject = true := by
  rw [deniesPage, Json.fits, Bool.and_eq_true, Bool.and_eq_true] at denied
  exact denied.1.1

/-- A page is given up for good exactly where the wiki is not covered, or MediaWiki denies it. -/
theorem getPage_condemns :
    Condemns (client.getPage readText wiki pageId) ↔
      language client.languages wiki = none ∨ client.DeniesPage wiki pageId := by
  cases covered : language client.languages wiki with
  | none =>
      refine iff_of_true ?_ (Or.inl rfl)
      refine ⟨.known .permanentData s!"WikiWho ne prend pas en charge {wiki}", ?_, rfl⟩
      simp only [Client.getPage, Client.action, host, requireLanguage, covered]
      rfl
  | some code =>
      have known : host client.languages wiki = .ok (code ++ ".wikipedia.org") := by
        rw [host, requireLanguage, covered]
        rfl
      rw [Client.getPage, condemns_bind (only_action covered)]
      constructor
      · rintro ⟨data, answered, condemned⟩
        have denied := readMetadata_condemns.mp condemned
        obtain ⟨sent, checked⟩ := (action_eq_ok known).mp answered
        exact Or.inr ⟨_, data, known, sent,
          (checkError_object (isObject_of_denied denied)).mp checked, denied⟩
      · rintro (none_ | ⟨name, data, asked, sent, clear, denied⟩)
        · cases none_
        · rw [known] at asked
          cases asked
          exact ⟨data, (action_eq_ok known).mpr
            ⟨sent, (checkError_object (isObject_of_denied denied)).mpr clear⟩,
            readMetadata_condemns.mpr denied⟩

end Denied

end WikiPeople
