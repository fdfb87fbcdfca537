import WikiPeople.Listings
import WikiPeople.Worker

/-! The requests of the two functions that ask about titles by the fifty: `classify_titles`
puts them into the request line, `resolve_titles` into the body. -/

namespace WikiPeople

open FormEncoding

inductive Method where
  | get
  | post
  deriving DecidableEq

structure HttpRequest where
  method : Method
  url : String
  body : String
  deriving DecidableEq

def apiUrl (host : String) : String := "https://" ++ host ++ "/w/api.php"

/-- What `_request` has the HTTP client send. -/
def httpRequest (method : Method) (host : String) (params : Params) : HttpRequest :=
  match method with
  | .get => ⟨.get, apiUrl host ++ "?" ++ urlencode params, ""⟩
  | .post => ⟨.post, apiUrl host, urlencode params⟩

def Method.builds (method : Method) (params : Params) : Bool :=
  match method with
  | .get => !overlong params
  | .post => true

/-- What lies outside: how texts are written and read, and what becomes of the requests that a
call sends, each by its number. -/
structure Wire where
  spell : Json → String
  readText : String → Option Int
  transport : Nat → HttpRequest → Except String Json

def Wire.session (wire : Wire) (languages : List String) (method : Method) : Session :=
  ⟨languages, wire.spell, fun asked host params =>
    if method.builds params then
      (wire.transport asked (httpRequest method host params)).mapError .unavailable
    else .error .invalidUrl⟩

structure Exchange (Result : Type) where
  sent : List HttpRequest
  outcome : Except Exn Result

/-- A question about a batch of titles, and how its answer is read. -/
structure Inquiry (Info : Type) where
  method : Method
  params : List String → Params
  read : Json → Except Exn (List Info)

section Loop

variable {Info : Type} (wire : Wire) (languages : List String) (wiki : String)

/-- The request about a batch; none where the wiki has no host or the query is overlong. -/
def Inquiry.requests (inquiry : Inquiry Info) (batch : List String) : List HttpRequest :=
  match host languages wiki with
  | .error _ => []
  | .ok host =>
      if inquiry.method.builds (payload (inquiry.params batch)) then
        [httpRequest inquiry.method host (payload (inquiry.params batch))]
      else []

def askBatch (inquiry : Inquiry Info) (asked : Nat) (batch : List String) :
    Exchange (List Info) where
  sent := inquiry.requests languages wiki batch
  outcome := do
    let client := (wire.session languages inquiry.method).client asked
    let data ← client.action wiki (inquiry.params batch)
    inquiry.read data

/-- The loop over the batches; the first one that raises ends it. -/
def askBatches (inquiry : Inquiry Info) : Nat → List (List String) → Exchange (List Info)
  | _, [] => ⟨[], .ok []⟩
  | asked, batch :: rest =>
      let first := askBatch wire languages wiki inquiry asked batch
      match first.outcome with
      | .error raised => ⟨first.sent, .error raised⟩
      | .ok infos =>
          let later := askBatches inquiry (asked + 1) rest
          ⟨first.sent ++ later.sent, later.outcome.map (infos ++ ·)⟩

def askTitles (inquiry : Inquiry Info) (titles : List String) : Exchange (List Info) :=
  askBatches wire languages wiki inquiry 0 (titles.toChunks 50)

end Loop

section Reading

variable (spell : Json → String) (readText : String → Option Int)

def resolveParams (titles : List String) : Params :=
  titlesParams titles ++ [("prop", "revisions"), ("rvprop", "ids")]

/-- What the loop of `resolve_titles` makes of one page; `none` where it goes on to the next. -/
def readPageMetadata (page : Json) : Except Exn (Option PageMetadata) := do
  let revisions ← (page.get "revisions" (.arr [])).mapError raised
  let missing ← (page.get "missing" .null).mapError raised
  if missing.truthy || !revisions.truthy then .ok none
  else
    let pageId ← asInt readText (← (page.getItem "pageid").mapError raised)
    let revision ← revisions.getFirst.mapError raised
    let revisionId ← asInt readText (← (revision.getItem "revid").mapError raised)
    let title ← (page.getItem "title").mapError raised
    let pageNamespace ← asInt readText (← (page.getItem "ns").mapError raised)
    .ok (some ⟨pageId, revisionId, title.toStr spell, pageNamespace, false⟩)

def readResolved (data : Json) : Except Exn (List PageMetadata) := do
  let pages ← (data.getPath ["query", "pages"] (.arr [])).mapError raised
  let items ← pages.items.mapError raised
  let found ← items.mapM (readPageMetadata spell readText)
  .ok (found.filterMap id)

end Reading

def Wire.classification (wire : Wire) : Inquiry TitleInfo :=
  ⟨.get, titlesParams, readTitles wire.spell wire.readText⟩

def Wire.resolution (wire : Wire) : Inquiry PageMetadata :=
  ⟨.post, resolveParams, readResolved wire.spell wire.readText⟩

section Requests

variable (wire : Wire) (languages : List String) (wiki : String) (titles : List String)

def Wire.classifyTitles : Exchange (List TitleInfo) :=
  askTitles wire languages wiki wire.classification titles

def Wire.resolveTitles : Exchange (List PageMetadata) :=
  askTitles wire languages wiki wire.resolution titles

end Requests

/-! How a loop proceeds. -/

section Turns

variable {Info : Type} {wire : Wire} {languages : List String} {wiki : String}
  {inquiry : Inquiry Info}

/-- The batches are asked about in turn; some are left only where the call raises. -/
def Exchange.InTurn {Result : Type} (exchange : Exchange Result)
    (requests : List String → List HttpRequest) (batches : List (List String)) : Prop :=
  ∃ asked left, asked ++ left = batches ∧ exchange.sent = asked.flatMap requests ∧
    (exchange.outcome.isOk = true → left = [])

theorem askBatches_cons_ok {asked : Nat} {batch : List String} {rest : List (List String)}
    {infos : List Info}
    (answered : (askBatch wire languages wiki inquiry asked batch).outcome = .ok infos) :
    askBatches wire languages wiki inquiry asked (batch :: rest) =
      let later := askBatches wire languages wiki inquiry (asked + 1) rest
      ⟨inquiry.requests languages wiki batch ++ later.sent, later.outcome.map (infos ++ ·)⟩ := by
  rw [askBatches]
  simp only [answered]
  rfl

theorem askBatches_cons_error {asked : Nat} {batch : List String} {rest : List (List String)}
    {raised : Exn}
    (answered : (askBatch wire languages wiki inquiry asked batch).outcome = .error raised) :
    askBatches wire languages wiki inquiry asked (batch :: rest) =
      ⟨inquiry.requests languages wiki batch, .error raised⟩ := by
  rw [askBatches]
  simp only [answered]
  rfl

theorem isOk_map {Result Other : Type} (outcome : Except Exn Result) (change : Result → Other) :
    (outcome.map change).isOk = outcome.isOk := by
  cases outcome <;> rfl

theorem askBatches_inTurn (asked : Nat) (batches : List (List String)) :
    (askBatches wire languages wiki inquiry asked batches).InTurn
      (inquiry.requests languages wiki) batches := by
  induction batches generalizing asked with
  | nil => exact ⟨[], [], rfl, rfl, fun _ => rfl⟩
  | cons batch rest ih =>
      cases answered : (askBatch wire languages wiki inquiry asked batch).outcome with
      | error raised =>
          rw [askBatches_cons_error answered]
          refine ⟨[batch], rest, rfl, by simp, ?_⟩
          intro fine
          cases fine
      | ok infos =>
          obtain ⟨done, left, split, sent, complete⟩ := ih (asked + 1)
          rw [askBatches_cons_ok answered]
          refine ⟨batch :: done, left, by rw [List.cons_append, split], ?_, ?_⟩
          · simp only [sent, List.flatMap_cons]
          · intro fine
            apply complete
            rwa [isOk_map] at fine

theorem askBatches_heard {batches : List (List String)}
    (heard : ∀ batch ∈ batches, ∀ asked,
      (askBatch wire languages wiki inquiry asked batch).outcome.isOk = true) (asked : Nat) :
    (askBatches wire languages wiki inquiry asked batches).outcome.isOk = true := by
  induction batches generalizing asked with
  | nil => rfl
  | cons batch rest ih =>
      have first := heard batch List.mem_cons_self asked
      cases answered : (askBatch wire languages wiki inquiry asked batch).outcome with
      | error raised =>
          rw [answered] at first
          cases first
      | ok infos =>
          rw [askBatches_cons_ok answered, isOk_map]
          exact ih (fun other later => heard other (List.mem_cons_of_mem batch later)) _

theorem askBatches_refused {batches : List (List String)} {batch : List String}
    (member : batch ∈ batches)
    (refused : ∀ asked, (askBatch wire languages wiki inquiry asked batch).outcome.isOk = false)
    (asked : Nat) :
    (askBatches wire languages wiki inquiry asked batches).outcome.isOk = false := by
  induction batches generalizing asked with
  | nil => cases member
  | cons first rest ih =>
      cases answered : (askBatch wire languages wiki inquiry asked first).outcome with
      | error raised =>
          rw [askBatches_cons_error answered]
          rfl
      | ok infos =>
          rw [askBatches_cons_ok answered]
          simp only [isOk_map]
          rcases List.mem_cons.mp member with rfl | member
          · have failing := refused asked
            rw [answered] at failing
            cases failing
          · exact ih member (asked + 1)

end Turns

/-- The client over a wire that answers a request alike whenever it is made. -/
def overWire (languages : List String) (spell : Json → String)
    (answer : HttpRequest → Except String Json) : Client :=
  ⟨languages, spell, fun host params =>
    if Method.get.builds params then
      (answer (httpRequest .get host params)).mapError .unavailable
    else .error .invalidUrl⟩

theorem classifyTitles_outcome (languages : List String) (spell : Json → String)
    (readText : String → Option Int) (answer : HttpRequest → Except String Json) (wiki : String)
    (titles : List String) :
    ((⟨spell, readText, fun _ => answer⟩ : Wire).classifyTitles languages wiki titles).outcome =
      (overWire languages spell answer).classifyTitles readText wiki titles := by
  let wire : Wire := ⟨spell, readText, fun _ => answer⟩
  have batchwise (asked : Nat) (batch : List String) :
      (askBatch wire languages wiki wire.classification asked batch).outcome =
        (overWire languages spell answer).classifyBatch readText wiki batch := rfl
  suffices whole : ∀ asked batches,
      (askBatches wire languages wiki wire.classification asked batches).outcome =
        (batches.mapM ((overWire languages spell answer).classifyBatch readText wiki)).map
          List.flatten from whole 0 (titles.toChunks 50)
  intro asked batches
  induction batches generalizing asked with
  | nil => rfl
  | cons batch rest ih =>
      rw [List.mapM_cons]
      cases answered : (overWire languages spell answer).classifyBatch readText wiki batch with
      | error raised =>
          rw [askBatches_cons_error ((batchwise asked batch).trans answered)]
          rfl
      | ok infos =>
          rw [askBatches_cons_ok ((batchwise asked batch).trans answered)]
          simp only [ih (asked + 1)]
          cases rest.mapM ((overWire languages spell answer).classifyBatch readText wiki) <;> rfl

/-! How long the request lines are. -/

/-- The query that carries a batch: 57 characters, and every title percent-encoded with three
characters for a bar. -/
def queryLength (batch : List String) : Nat :=
  57 + (batch.map (fun title => width title + 3)).sum

def lineLength (address : String) (batch : List String) : Nat :=
  address.length + 19 + queryLength batch

theorem length_apiUrl (address : String) : (apiUrl address).length = address.length + 18 := by
  rw [apiUrl, String.length_append, String.length_append]
  change 8 + address.length + 10 = _
  omega

theorem classification_query {batch : List String} (filled : batch ≠ []) :
    (urlencode (payload (titlesParams batch))).length = queryLength batch := by
  have fixed : width "format" + width "json" = 10 ∧ width "formatversion" + width "2" = 14 ∧
      width "action" + width "query" = 11 ∧ width "titles" = 6 ∧
      width "redirects" + width "1" = 10 ∧ width "|" = 3 := by decide
  have query := @length_urlencode (payload (titlesParams batch)) (List.cons_ne_nil _ _)
  have joined := @measure_intercalate width width_append "|" batch filled
  simp only [payload, titlesParams, List.map_cons, List.map_nil, List.sum_cons,
    List.sum_nil] at query
  rw [fixed.2.2.2.2.2] at joined
  rw [queryLength, ← joined, payload, titlesParams]
  omega

theorem classification_url (wire : Wire) (address : String) {batch : List String}
    (filled : batch ≠ []) :
    (httpRequest .get address (payload (wire.classification.params batch))).url.length =
      lineLength address batch := by
  change (apiUrl address ++ "?" ++ urlencode (payload (titlesParams batch))).length = _
  rw [String.length_append, String.length_append, length_apiUrl, lineLength,
    classification_query filled]
  rfl

theorem builds_classification (wire : Wire) {batch : List String} (filled : batch ≠ []) :
    wire.classification.method.builds (payload (wire.classification.params batch)) = true ↔
      queryLength batch ≤ maxQueryLength := by
  rw [← classification_query filled, ← Nat.not_lt]
  change (!overlong (payload (titlesParams batch))) = true ↔ _
  rw [overlong, Bool.not_eq_true', decide_eq_false_iff_not]

theorem resolution_url (wire : Wire) (address : String) (batch : List String) :
    (httpRequest .post address (payload (wire.resolution.params batch))).url.length =
      address.length + 18 := length_apiUrl address

theorem requests_served {Info : Type} {inquiry : Inquiry Info} {languages : List String}
    {wiki address : String} (served : host languages wiki = .ok address) {batch : List String}
    (built : inquiry.method.builds (payload (inquiry.params batch)) = true) :
    inquiry.requests languages wiki batch =
      [httpRequest inquiry.method address (payload (inquiry.params batch))] := by
  rw [Inquiry.requests, served]
  exact if_pos built

theorem mem_requests {Info : Type} {inquiry : Inquiry Info} {languages : List String}
    {wiki address : String} (served : host languages wiki = .ok address) {batch : List String}
    {request : HttpRequest} (sent : request ∈ inquiry.requests languages wiki batch) :
    request = httpRequest inquiry.method address (payload (inquiry.params batch)) := by
  rw [Inquiry.requests, served] at sent
  dsimp only at sent
  split at sent
  · exact List.mem_singleton.mp sent
  · cases sent

theorem requests_unserved {Info : Type} {inquiry : Inquiry Info} {languages : List String}
    {wiki : String} {error : Exn} (unserved : host languages wiki = .error error)
    (batch : List String) : inquiry.requests languages wiki batch = [] := by
  rw [Inquiry.requests, unserved]

section Batch

variable {Info : Type} {wire : Wire} {languages : List String} {wiki address : String}
  {inquiry : Inquiry Info} {asked : Nat} {batch : List String}

theorem askBatch_unbuilt (served : host languages wiki = .ok address)
    (unbuilt : inquiry.method.builds (payload (inquiry.params batch)) = false) :
    (askBatch wire languages wiki inquiry asked batch).outcome =
      .error (.unexpected "InvalidURL") := by
  change (host languages wiki >>= fun address => Client.request _ address _) >>= _ = _
  rw [served]
  change Client.request _ address _ >>= _ = _
  have unsent : ((wire.session languages inquiry.method).client asked).send address
      (payload (inquiry.params batch)) = .error .invalidUrl := by
    exact if_neg (by rw [unbuilt]; exact Bool.false_ne_true)
  rw [Client.request, unsent]
  rfl

theorem askBatch_built (served : host languages wiki = .ok address)
    (built : inquiry.method.builds (payload (inquiry.params batch)) = true) :
    (askBatch wire languages wiki inquiry asked batch).outcome =
      match wire.transport asked
          (httpRequest inquiry.method address (payload (inquiry.params batch))) with
      | .error reason =>
          .error (.known .retryableUpstream s!"Action API indisponible : {reason}")
      | .ok data => checkError wire.spell data >>= inquiry.read := by
  change (host languages wiki >>= fun address => Client.request _ address _) >>= _ = _
  rw [served]
  change Client.request _ address _ >>= _ = _
  have sent : ((wire.session languages inquiry.method).client asked).send address
      (payload (inquiry.params batch)) = (wire.transport asked
        (httpRequest inquiry.method address (payload (inquiry.params batch)))).mapError
          .unavailable := if_pos built
  rw [Client.request, sent]
  cases wire.transport asked
      (httpRequest inquiry.method address (payload (inquiry.params batch))) <;> rfl

end Batch

/-- A server that refuses long request lines makes `classify_titles` raise for every list with
fifty titles that do not fit, at every attempt. -/
theorem classifyTitles_refused {wire : Wire} {languages : List String} {wiki address : String}
    {titles batch : List String} {limit : Nat}
    (refuses : ∀ asked request, limit < request.url.length →
      ∃ reason, wire.transport asked request = .error reason)
    (served : host languages wiki = .ok address) (member : batch ∈ titles.toChunks 50)
    (long : limit < lineLength address batch) :
    (wire.classifyTitles languages wiki titles).outcome.isOk = false := by
  apply askBatches_refused member
  intro asked
  cases built : wire.classification.method.builds
      (payload (wire.classification.params batch)) with
  | false =>
      rw [askBatch_unbuilt served built]
      rfl
  | true =>
      rw [← classification_url wire address (Paging.filled_toChunks batch member)] at long
      obtain ⟨reason, refused⟩ := refuses asked _ long
      have unheard : wire.transport asked (httpRequest wire.classification.method address
          (payload (wire.classification.params batch))) = .error reason := refused
      rw [askBatch_built served built, unheard]
      rfl

/-- The server answers every request whose line keeps to the limit, with something to read. -/
def Wire.Serves {Info : Type} (wire : Wire) (inquiry : Inquiry Info) (limit : Nat) : Prop :=
  ∀ asked request, request.url.length ≤ limit → ∃ data infos,
    wire.transport asked request = .ok data ∧ checkError wire.spell data = .ok data ∧
      inquiry.read data = .ok infos

/-- The call asks about the titles in order, each once, by request lines of at most `limit`
characters, and hears about all of them from a server that answers such lines. -/
structure Asks {Info : Type} (wire : Wire) (languages : List String) (wiki : String)
    (inquiry : Inquiry Info) (titles : List String) (limit : Nat) : Prop where
  covered : (titles.toChunks 50).flatten = titles
  inTurn : (askTitles wire languages wiki inquiry titles).InTurn
    (inquiry.requests languages wiki) (titles.toChunks 50)
  short : ∀ request ∈ (askTitles wire languages wiki inquiry titles).sent,
    request.url.length ≤ limit
  heard : (host languages wiki).isOk = true → wire.Serves inquiry limit →
    (askTitles wire languages wiki inquiry titles).outcome.isOk = true

def ShortLines (limit : Nat) (languages : List String) (wiki : String) (titles : List String) :
    Prop :=
  ∀ wire : Wire,
    Asks wire languages wiki wire.classification titles limit ∧
      Asks wire languages wiki wire.resolution titles limit

def emptyWire : Wire where
  spell := fun _ => ""
  readText := fun _ => none
  transport := fun _ _ => .ok (.obj [])

theorem emptyWire_serves (limit : Nat) : emptyWire.Serves emptyWire.classification limit :=
  fun _ _ _ => ⟨.obj [], [], rfl, rfl, rfl⟩

theorem lines_of_short {limit : Nat} {languages : List String} {wiki address : String}
    {titles batch : List String} (short : ShortLines limit languages wiki titles)
    (served : host languages wiki = .ok address) (member : batch ∈ titles.toChunks 50) :
    lineLength address batch ≤ limit ∧ queryLength batch ≤ maxQueryLength := by
  have asks := (short emptyWire).1
  have filled := Paging.filled_toChunks batch member
  have heard := asks.heard (by rw [served]; rfl) (emptyWire_serves limit)
  have built : emptyWire.classification.method.builds
      (payload (emptyWire.classification.params batch)) = true := by
    by_contra unbuilt
    have refused := @askBatches_refused _ emptyWire languages wiki emptyWire.classification _ _
      member (fun asked => by
        rw [askBatch_unbuilt served (Bool.not_eq_true _ ▸ unbuilt)]
        rfl) 0
    exact absurd heard (by rw [askTitles, refused]; exact Bool.false_ne_true)
  refine ⟨?_, (builds_classification emptyWire filled).mp built⟩
  obtain ⟨done, left, split, sent, complete⟩ := asks.inTurn
  have whole : done = titles.toChunks 50 := by
    rw [← split, complete heard, List.append_nil]
  rw [← classification_url emptyWire address filled]
  apply asks.short
  rw [sent, whole]
  refine List.mem_flatMap.mpr ⟨batch, member, ?_⟩
  rw [requests_served served built]
  exact List.mem_singleton.mpr rfl

theorem asks_of_fits {Info : Type} {wire : Wire} {inquiry : Inquiry Info}
    {languages : List String} {wiki : String} {titles : List String} {limit : Nat}
    (fits : ∀ address, host languages wiki = .ok address → ∀ batch ∈ titles.toChunks 50,
      inquiry.method.builds (payload (inquiry.params batch)) = true ∧
        (httpRequest inquiry.method address (payload (inquiry.params batch))).url.length ≤
          limit) :
    Asks wire languages wiki inquiry titles limit := by
  have inTurn := @askBatches_inTurn Info wire languages wiki inquiry 0 (titles.toChunks 50)
  refine ⟨Paging.flatten_toChunks 50 titles, inTurn, ?_, ?_⟩
  · obtain ⟨done, left, split, sent, _⟩ := inTurn
    intro request member
    rw [askTitles, sent] at member
    obtain ⟨batch, asked, made⟩ := List.mem_flatMap.mp member
    cases served : host languages wiki with
    | error error =>
        rw [requests_unserved served] at made
        cases made
    | ok address =>
        rw [mem_requests served made]
        exact (fits address served batch (split ▸ List.mem_append_left left asked)).2
  · intro hosted serves
    cases served : host languages wiki with
    | error error =>
        rw [served] at hosted
        cases hosted
    | ok address =>
        apply askBatches_heard
        intro batch member asked
        obtain ⟨built, line⟩ := fits address served batch member
        obtain ⟨data, infos, answer, fine, read⟩ := serves asked _ line
        rw [askBatch_built served built, answer]
        change (checkError wire.spell data >>= inquiry.read).isOk = true
        rw [fine]
        change (inquiry.read data).isOk = true
        rw [read]
        rfl

/-- Both functions ask as they should on every run exactly where, on a wiki with a host, any
fifty of the titles make a query that is built, in a line that keeps to the limit. -/
theorem shortLines_iff (limit : Nat) (languages : List String) (wiki : String)
    (titles : List String) :
    ShortLines limit languages wiki titles ↔
      ∀ address, host languages wiki = .ok address → ∀ batch ∈ titles.toChunks 50,
        lineLength address batch ≤ limit ∧ queryLength batch ≤ maxQueryLength := by
  constructor
  · intro short address served batch member
    exact lines_of_short short served member
  · intro fits wire
    constructor
    · apply asks_of_fits
      intro address served batch member
      obtain ⟨line, query⟩ := fits address served batch member
      have filled := Paging.filled_toChunks batch member
      exact ⟨(builds_classification wire filled).mpr query,
        (classification_url wire address filled).trans_le line⟩
    · apply asks_of_fits
      intro address served batch member
      have line := resolution_url wire address batch
      have longer := (fits address served batch member).1
      rw [lineLength] at longer
      refine ⟨rfl, line.trans_le ?_⟩
      omega

/-- No limit will do: a Cyrillic title of any length is a list on which the lines pass it, or
the query is not even built. -/
theorem cyrillic_lists_unread :
    ¬ ∃ limit, ∀ titles, ShortLines limit ["ru"] "ruwiki" titles := by
  rintro ⟨limit, short⟩
  let title := String.ofList (List.replicate limit 'Т')
  have served : host ["ru"] "ruwiki" = .ok "ru.wikipedia.org" := by decide
  have batches : [title].toChunks 50 = [[title]] := rfl
  have member : [title] ∈ [title].toChunks 50 := by rw [batches]; exact List.mem_singleton_self _
  have line := (lines_of_short (short [title]) served member).1
  have wide : width title = limit * 6 := by
    rw [width, String.toList_ofList, List.map_replicate, List.sum_replicate_nat]
    rfl
  rw [lineLength, queryLength, List.map_singleton, List.sum_singleton, wide] at line
  omega

end WikiPeople
