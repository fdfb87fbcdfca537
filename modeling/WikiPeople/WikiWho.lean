import WikiPeople.Clients
import WikiPeople.Library.Paging

/-! One revision from WikiWho: its body is streamed and read within a budget of bytes, and only
the tokens of the very revision are taken from it. -/

namespace WikiPeople

open Paging

/-- What the stream has next; a part is never empty. -/
inductive Arrival where
  | part (first : UInt8) (others : List UInt8)
  | ended
  | broken (message : String)

/-- A response whose body is yet to come, and may never end. -/
structure Streamed where
  status : Nat
  arrivals : Nat → Arrival

/-- What `json.loads` makes of a body: a value, a `JSONDecodeError`, or another exception. -/
inductive Parsed where
  | value (data : Json)
  | malformed (message : String)
  | unreadable (fault : String)

/-- The client of WikiWho. `send` is what WikiWho answers to a request, or the text of the
network error; `statusText` is the text of an error status. -/
structure WikiWhoClient where
  languages : List String
  baseUrl : String
  maxResponseBytes : Int
  spell : Json → String
  statusText : Nat → String
  parse : List UInt8 → Parsed
  send : String → Params → Except String Streamed

def revisionUrl (baseUrl language : String) (revisionId : Int) : String :=
  s!"{baseUrl}/{language}/api/v1.0.0-beta/rev_content/rev_id/{revisionId}/"

def revisionParams : Params :=
  [("o_rev_id", "false"), ("editor", "true"), ("token_id", "false"), ("out", "false"),
    ("in", "false")]

/-- Statuses that say that a later attempt may be answered. -/
def isBusy (status : Nat) : Bool := status ∈ [408, 425, 429] || 500 ≤ status

/-- `response.raise_for_status()` passes. -/
def isSuccess (status : Nat) : Bool := 200 ≤ status && status ≤ 299

def carriedTokens (revisionId : Int) (wrapper : Json) : Except Exn (Option (List Json)) := do
  let revision ← (wrapper.get (toString revisionId) .null).mapError raised
  match revision with
  | .obj fields =>
      match fields.lookup "tokens" with
      | some (.arr tokens) => .ok (some tokens)
      | _ => .ok none
  | _ => .ok none

def firstCarried (revisionId : Int) : List Json → Except Exn (Option (List Json))
  | [] => .ok none
  | wrapper :: wrappers => do
      match ← carriedTokens revisionId wrapper with
      | some tokens => .ok (some tokens)
      | none => firstCarried revisionId wrappers

namespace WikiWhoClient

variable (client : WikiWhoClient) (revisionId : Int)

def down (message : String) : Exn :=
  .known .retryableUpstream s!"WikiWho indisponible : {message}"

def tooLarge : Exn :=
  .known .responseTooLarge s!"Réponse WikiWho supérieure à {client.maxResponseBytes} octets"

/-- One turn of the loop over `response.iter_bytes()`; `kept` are the bytes so far. -/
def partStep (arrivals : Nat → Arrival) (arrived : Nat) (kept : List UInt8) :
    Step (List UInt8) (Except Exn (List UInt8)) :=
  match arrivals arrived with
  | .ended => .done (.ok kept)
  | .broken message => .done (.error (down message))
  | .part first others =>
      let size := kept.length + (first :: others).length
      if client.maxResponseBytes < size then .done (.error client.tooLarge)
      else .ask (kept ++ first :: others)

/-- The loop over the revisions of an answer that reports success, and what follows it. -/
def exactTokens (revisions : Json) : Except Exn (List Json) := do
  let wrappers ← revisions.items.mapError raised
  match ← firstCarried revisionId wrappers with
  | some tokens => .ok tokens
  | none =>
      .error (.known .retryableUpstream
        s!"WikiWho n’a pas encore renvoyé la révision exacte {revisionId}")

def readData (data : Json) : Except Exn (List Json) := do
  let success ← (data.get "success" .null).mapError raised
  if success.truthy then
    let revisions ← (data.get "revisions" (.arr [])).mapError raised
    exactTokens revisionId revisions
  else
    let message ← (data.get "message" .null).mapError raised
    let text := message.toStr client.spell
    .error (.known .retryableUpstream s!"WikiWho a refusé la révision : {text}")

def readTokens (body : List UInt8) : Except Exn (List Json) :=
  match client.parse body with
  | .malformed message => .error (down message)
  | .unreadable fault => .error (.unexpected fault)
  | .value data => client.readData revisionId data

/-- What becomes of a response, its stream read for at most so many turns of the loop. -/
def readResponse (response : Streamed) (turns : Nat) : Option (Except Exn (List Json)) :=
  let status := response.status
  if status = 400 then
    some (.error (.known .permanentData
      s!"WikiWho ne sert pas la révision {revisionId} (HTTP 400)"))
  else if isBusy status then
    some (.error (.known .retryableUpstream
      s!"WikiWho HTTP {status} pour la révision {revisionId}"))
  else if isSuccess status then
    (run (client.partStep response.arrivals) turns 0 []).map
      (fun body => body.bind (client.readTokens revisionId))
  else some (.error (down (client.statusText status)))

/-- `fetch_revision`; `none` where the stream is still being read after so many turns. -/
def fetchRevision (wiki : String) (turns : Nat) : Option (Except Exn (List Json)) :=
  match requireLanguage client.languages wiki with
  | .error raised => some (.error raised)
  | .ok language =>
      match client.send (revisionUrl client.baseUrl language revisionId) revisionParams with
      | .error message => some (.error (down message))
      | .ok response => client.readResponse revisionId response turns

end WikiWhoClient

/-! What was received, whichever way the body was cut into parts. -/

inductive Received (arrivals : Nat → Arrival) : Nat → List UInt8 → Prop
  | start : Received arrivals 0 []
  | next {count : Nat} {bytes : List UInt8} {first : UInt8} {others : List UInt8}
      (earlier : Received arrivals count bytes)
      (arrived : arrivals count = .part first others) :
      Received arrivals (count + 1) (bytes ++ first :: others)

def Delivers (arrivals : Nat → Arrival) (body : List UInt8) : Prop :=
  ∃ count, Received arrivals count body ∧ arrivals count = .ended

def Exceeds (arrivals : Nat → Arrival) (limit : Nat) : Prop :=
  ∃ count bytes, Received arrivals count bytes ∧ limit < bytes.length

section Stream

variable {arrivals : Nat → Arrival} {client : WikiWhoClient} {limit count later : Nat}
  {kept bytes body : List UInt8}

theorem Received.unique (first : Received arrivals count bytes)
    (second : Received arrivals count body) : bytes = body := by
  induction first generalizing body with
  | start =>
      cases second
      rfl
  | next earlier arrived ih =>
      cases second with
      | next other also =>
          rw [arrived] at also
          cases also
          rw [ih other]

theorem Received.earlier (all : Received arrivals later body) (before : count ≤ later) :
    ∃ bytes, Received arrivals count bytes ∧ bytes.length ≤ body.length := by
  induction all with
  | start =>
      obtain rfl : count = 0 := Nat.le_zero.mp before
      exact ⟨[], .start, Nat.le_refl _⟩
  | @next place known first others earlier arrived ih =>
      rcases Nat.lt_or_eq_of_le before with less | rfl
      · obtain ⟨bytes, received, fewer⟩ := ih (Nat.le_of_lt_succ less)
        exact ⟨bytes, received, fewer.trans (by simp)⟩
      · exact ⟨_, .next earlier arrived, Nat.le_refl _⟩

theorem Received.le_of_stopped (all : Received arrivals later body)
    (stopped : ∀ first others, arrivals count ≠ .part first others) : later ≤ count := by
  induction all with
  | start => exact Nat.zero_le _
  | @next place known first others earlier arrived ih =>
      rcases Nat.lt_or_eq_of_le ih with less | rfl
      · exact less
      · exact absurd arrived (stopped first others)

theorem not_exceeds (received : Received arrivals count bytes)
    (stopped : ∀ first others, arrivals count ≠ .part first others)
    (fits : bytes.length ≤ limit) : ¬ Exceeds arrivals limit := by
  rintro ⟨later, body, all, over_⟩
  obtain ⟨same, again, fewer⟩ := received.earlier (all.le_of_stopped stopped)
  rw [again.unique all] at fewer
  omega

theorem Delivers.not_exceeds (delivers : Delivers arrivals body) (fits : body.length ≤ limit) :
    ¬ Exceeds arrivals limit := by
  obtain ⟨count, received, ended⟩ := delivers
  refine WikiPeople.not_exceeds received ?_ fits
  intro first others part
  rw [ended] at part
  cases part

theorem Delivers.unique (first : Delivers arrivals bytes) (second : Delivers arrivals body) :
    bytes = body := by
  obtain ⟨count, received, ended⟩ := first
  obtain ⟨later, all, over_⟩ := second
  have stops : ∀ place, arrivals place = .ended →
      ∀ first others, arrivals place ≠ .part first others := by
    intro place there first others part
    rw [there] at part
    cases part
  obtain rfl : count = later := Nat.le_antisymm (received.le_of_stopped (stops later over_))
    (all.le_of_stopped (stops count ended))
  exact received.unique all

theorem not_delivers {message : String} (received : Received arrivals count bytes)
    (breaks : arrivals count = .broken message) : ¬ Delivers arrivals body := by
  rintro ⟨later, all, ended⟩
  have before : later ≤ count := by
    refine all.le_of_stopped ?_
    intro first others part
    rw [breaks] at part
    cases part
  have after : count ≤ later := by
    refine received.le_of_stopped ?_
    intro first others part
    rw [ended] at part
    cases part
  rw [Nat.le_antisymm before after, breaks] at ended
  cases ended

namespace WikiWhoClient

/-- A budget below zero is spent by the first byte, as one of zero is. -/
def budget (client : WikiWhoClient) : Nat := client.maxResponseBytes.toNat

inductive BodyOutcome (client : WikiWhoClient) (arrivals : Nat → Arrival) :
    Except Exn (List UInt8) → Prop
  | whole (body : List UInt8) (delivers : Delivers arrivals body)
      (fits : body.length ≤ client.budget) : BodyOutcome client arrivals (.ok body)
  | exceeds (over_ : Exceeds arrivals client.budget) :
      BodyOutcome client arrivals (.error client.tooLarge)
  | broken (message : String) (count : Nat) (bytes : List UInt8)
      (received : Received arrivals count bytes) (fits : bytes.length ≤ client.budget)
      (breaks : arrivals count = .broken message) :
      BodyOutcome client arrivals (.error (down message))

theorem within_budget {size : Nat} (some_ : 0 < size) :
    client.maxResponseBytes < (size : Int) ↔ client.budget < size := by
  rw [budget]
  omega

theorem partStep_asks {arrived : Nat} {next : List UInt8}
    (asks : client.partStep arrivals arrived kept = .ask next) :
    ∃ first others, arrivals arrived = .part first others ∧ next = kept ++ first :: others ∧
      next.length ≤ client.budget := by
  unfold partStep at asks
  split at asks
  · cases asks
  · cases asks
  · rename_i first others there
    have some_ : 0 < kept.length + (first :: others).length := by
      rw [List.length_cons]
      omega
    dsimp only at asks
    split at asks
    · cases asks
    · rename_i fits
      rw [within_budget some_] at fits
      cases asks
      refine ⟨first, others, there, rfl, ?_⟩
      rw [List.length_append]
      omega

/-- The induction on the turns: what was kept is what was received, within the budget. -/
theorem run_outcome {turns arrived : Nat} {result : Except Exn (List UInt8)}
    (received : Received arrivals arrived kept) (fits : kept.length ≤ client.budget)
    (returned : run (client.partStep arrivals) turns arrived kept = some result) :
    client.BodyOutcome arrivals result := by
  induction turns generalizing arrived kept with
  | zero => cases returned
  | succ turns ih =>
      rw [run] at returned
      cases taken : client.partStep arrivals arrived kept with
      | ask next =>
          rw [taken] at returned
          obtain ⟨first, others, there, rfl, within⟩ := partStep_asks taken
          exact ih (.next received there) within returned
      | done answer =>
          rw [taken] at returned
          cases returned
          unfold partStep at taken
          split at taken
          · rename_i ended
            cases taken
            exact .whole kept ⟨arrived, received, ended⟩ fits
          · rename_i message breaks
            cases taken
            exact .broken message arrived kept received fits breaks
          · rename_i first others there
            have some_ : 0 < kept.length + (first :: others).length := by
              rw [List.length_cons]
              omega
            dsimp only at taken
            split at taken
            · rename_i over_
              rw [within_budget some_] at over_
              cases taken
              refine .exceeds ⟨arrived + 1, _, .next received there, ?_⟩
              rw [List.length_append]
              exact over_
            · cases taken

/-- The body is read, or given up, in one turn more than the budget has bytes. -/
theorem body_read (client : WikiWhoClient) (arrivals : Nat → Arrival) :
    ∃ result, run (client.partStep arrivals) (client.budget + 1) 0 [] = some result := by
  have grows : ∀ asked kept next, client.partStep arrivals asked kept = .ask next →
      kept.length < next.length ∧ next.length ≤ client.budget := by
    intro asked kept next asks
    obtain ⟨first, others, _, rfl, within⟩ := partStep_asks asks
    refine ⟨?_, within⟩
    rw [List.length_append, List.length_cons]
    omega
  exact run_within grows (Nat.lt_succ_self _)

end WikiWhoClient

end Stream

/-! What the answer has for the revision. -/

/-- The list of tokens that one item of the answer has for the revision. -/
def listed (revisionId : Int) (wrapper : Json) : Option (List Json) :=
  match wrapper.path [toString revisionId, "tokens"] with
  | some (.arr tokens) => some tokens
  | _ => none

def ListsFirst (revisionId : Int) (wrappers : List Json) (tokens : List Json) : Prop :=
  ∃ earlier wrapper others, wrappers = earlier ++ wrapper :: others ∧
    (∀ other ∈ earlier, other.isObject = true ∧ listed revisionId other = none) ∧
    listed revisionId wrapper = some tokens

/-- The answer reports success and has these tokens of the very revision. -/
def Carries (data : Json) (revisionId : Int) (tokens : List Json) : Prop :=
  (data.field "success").any Json.truthy = true ∧
    ∃ wrappers, data.field "revisions" = some (.arr wrappers) ∧
      ListsFirst revisionId wrappers tokens

/-- Neither about the data nor about its size: worth another attempt, or unforeseen. -/
inductive Passing : Exn → Prop
  | retryable (message : String) : Passing (.known .retryableUpstream message)
  | unforeseen (message : String) : Passing (.unexpected message)

section Answers

variable {revisionId : Int} {tokens wrappers : List Json} {wrapper data : Json} {exn : Exn}

theorem isObject_of_listed (found : listed revisionId wrapper = some tokens) :
    wrapper.isObject = true := by
  cases wrapper with
  | obj fields => rfl
  | _ => cases found

theorem carriedTokens_object (object : wrapper.isObject = true) :
    carriedTokens revisionId wrapper = .ok (listed revisionId wrapper) := by
  unfold carriedTokens listed
  rw [get_field object, Json.path]
  cases wrapper.field (toString revisionId) with
  | none => rfl
  | some revision =>
      cases revision with
      | obj fields =>
          dsimp only [Option.getD_some, Option.bind_some, Json.path, Json.field, bind, Except.bind]
          cases fields.lookup "tokens" with
          | none => rfl
          | some value => cases value <;> rfl
      | _ => rfl

theorem carriedTokens_other (object : wrapper.isObject = false) :
    carriedTokens revisionId wrapper = .error (raised .attributeError) := by
  unfold carriedTokens
  rw [Json.get_eq, object]
  rfl

theorem firstCarried_cons (object : wrapper.isObject = true) :
    firstCarried revisionId (wrapper :: wrappers) =
      match listed revisionId wrapper with
      | some tokens => .ok (some tokens)
      | none => firstCarried revisionId wrappers := by
  rw [firstCarried, carriedTokens_object object]
  rfl

theorem listsFirst_cons (object : wrapper.isObject = true)
    (unlisted : listed revisionId wrapper = none) :
    ListsFirst revisionId (wrapper :: wrappers) tokens ↔
      ListsFirst revisionId wrappers tokens := by
  constructor
  · rintro ⟨earlier, chosen, others, split_, apart_, found⟩
    cases earlier with
    | nil =>
        cases split_
        rw [unlisted] at found
        cases found
    | cons first earlier =>
        cases split_
        exact ⟨earlier, chosen, others, rfl,
          fun other member => apart_ other (List.mem_cons_of_mem _ member), found⟩
  · rintro ⟨earlier, chosen, others, rfl, apart_, found⟩
    refine ⟨wrapper :: earlier, chosen, others, rfl, ?_, found⟩
    intro other member
    rcases List.mem_cons.mp member with rfl | member
    · exact ⟨object, unlisted⟩
    · exact apart_ other member

theorem listsFirst_here {known : List Json} (found : listed revisionId wrapper = some known) :
    ListsFirst revisionId (wrapper :: wrappers) tokens ↔ known = tokens := by
  constructor
  · rintro ⟨earlier, chosen, others, split_, apart_, also⟩
    cases earlier with
    | nil =>
        cases split_
        rw [found] at also
        exact Option.some.inj also
    | cons first earlier =>
        cases split_
        rw [(apart_ wrapper List.mem_cons_self).2] at found
        cases found
  · rintro rfl
    refine ⟨[], wrapper, wrappers, rfl, ?_, found⟩
    intro other member
    cases member

theorem firstCarried_found :
    firstCarried revisionId wrappers = .ok (some tokens) ↔
      ListsFirst revisionId wrappers tokens := by
  induction wrappers with
  | nil =>
      constructor
      · intro found
        cases found
      · rintro ⟨earlier, chosen, others, split_, _⟩
        cases earlier <;> cases split_
  | cons wrapper wrappers ih =>
      cases object : wrapper.isObject with
      | false =>
          rw [firstCarried, carriedTokens_other object]
          constructor
          · intro found
            cases found
          · rintro ⟨earlier, chosen, others, split_, apart_, found⟩
            cases earlier with
            | nil =>
                cases split_
                rw [isObject_of_listed found] at object
                cases object
            | cons first earlier =>
                cases split_
                rw [(apart_ wrapper List.mem_cons_self).1] at object
                cases object
      | true =>
          rw [firstCarried_cons object]
          cases found : listed revisionId wrapper with
          | none => exact ih.trans (listsFirst_cons object found).symm
          | some known =>
              rw [listsFirst_here found]
              constructor
              · intro same
                exact Option.some.inj (Except.ok.inj same)
              · rintro rfl
                rfl

theorem firstCarried_error (failed : firstCarried revisionId wrappers = .error exn) :
    Passing exn := by
  induction wrappers with
  | nil => cases failed
  | cons wrapper wrappers ih =>
      cases object : wrapper.isObject with
      | false =>
          rw [firstCarried, carriedTokens_other object] at failed
          cases failed
          exact .unforeseen _
      | true =>
          rw [firstCarried_cons object] at failed
          cases found : listed revisionId wrapper with
          | none =>
              rw [found] at failed
              exact ih failed
          | some known =>
              rw [found] at failed
              cases failed

theorem items_listed {value : Json} {items : List Json} (read : value.items = .ok items)
    (found : ListsFirst revisionId items tokens) : value = .arr items := by
  obtain ⟨earlier, chosen, others, rfl, _, has⟩ := found
  have member : chosen ∈ earlier ++ chosen :: others :=
    List.mem_append_right _ List.mem_cons_self
  have object := isObject_of_listed has
  cases value with
  | arr items =>
      cases read
      rfl
  | str text =>
      rw [← Except.ok.inj read] at member
      obtain ⟨char, _, rfl⟩ := List.mem_map.mp member
      cases object
  | obj fields =>
      rw [← Except.ok.inj read] at member
      obtain ⟨field, _, rfl⟩ := List.mem_map.mp member
      cases object
  | _ => cases read

end Answers

namespace WikiWhoClient

section Reading

variable {client : WikiWhoClient} {revisionId : Int} {tokens : List Json} {body : List UInt8}
  {exn : Exn}

theorem exactTokens_ok {revisions : Json} :
    exactTokens revisionId revisions = .ok tokens ↔
      ∃ wrappers, revisions = .arr wrappers ∧ ListsFirst revisionId wrappers tokens := by
  unfold exactTokens
  constructor
  · intro read
    cases items : revisions.items with
    | error fault =>
        rw [items] at read
        cases read
    | ok wrappers =>
        rw [items] at read
        dsimp only [Except.mapError, bind, Except.bind] at read
        cases carried : firstCarried revisionId wrappers with
        | error exn =>
            rw [carried] at read
            cases read
        | ok found =>
            rw [carried] at read
            cases found with
            | none => cases read
            | some known =>
                cases read
                have first := firstCarried_found.mp carried
                exact ⟨wrappers, items_listed items first, first⟩
  · rintro ⟨wrappers, rfl, first⟩
    dsimp only [Json.items, Except.mapError, bind, Except.bind]
    rw [firstCarried_found.mpr first]

theorem exactTokens_error {revisions : Json}
    (failed : exactTokens revisionId revisions = .error exn) : Passing exn := by
  unfold exactTokens at failed
  cases items : revisions.items with
  | error fault =>
      rw [items] at failed
      cases failed
      exact .unforeseen _
  | ok wrappers =>
      rw [items] at failed
      dsimp only [Except.mapError, bind, Except.bind] at failed
      cases carried : firstCarried revisionId wrappers with
      | error early =>
          rw [carried] at failed
          cases failed
          exact firstCarried_error carried
      | ok found =>
          rw [carried] at failed
          cases found with
          | some known => cases failed
          | none =>
              cases failed
              exact .retryable _

theorem readData_object {data : Json} (object : data.isObject = true) :
    client.readData revisionId data =
      if (data.field "success").any Json.truthy then
        exactTokens revisionId ((data.field "revisions").getD (.arr []))
      else
        let text := ((data.field "message").getD .null).toStr client.spell
        .error (.known .retryableUpstream s!"WikiWho a refusé la révision : {text}") := by
  unfold readData
  rw [get_field object, get_field object, get_field object]
  cases data.field "success" <;> rfl

theorem readData_other {data : Json} (object : data.isObject = false) :
    client.readData revisionId data = .error (raised .attributeError) := by
  unfold readData
  rw [Json.get_eq, object]
  rfl

theorem isObject_of_field {data value : Json} {name : String}
    (there : data.field name = some value) : data.isObject = true := by
  cases data with
  | obj fields => rfl
  | _ => cases there

theorem readData_ok {data : Json} :
    client.readData revisionId data = .ok tokens ↔ Carries data revisionId tokens := by
  cases object : data.isObject with
  | false =>
      rw [readData_other object]
      constructor
      · intro read
        cases read
      · rintro ⟨_, wrappers, there, _⟩
        rw [isObject_of_field there] at object
        cases object
  | true =>
      rw [readData_object object, Carries]
      by_cases said : (data.field "success").any Json.truthy = true
      · rw [if_pos said, exactTokens_ok]
        constructor
        · rintro ⟨wrappers, there, first⟩
          refine ⟨said, wrappers, ?_, first⟩
          cases present : data.field "revisions" with
          | some revisions =>
              rw [present] at there
              exact congrArg some there
          | none =>
              -- The empty list that stands for an absent field has no item.
              rw [present] at there
              cases there
              obtain ⟨earlier, chosen, others, split_, _⟩ := first
              cases earlier <;> cases split_
        · rintro ⟨_, wrappers, there, first⟩
          exact ⟨wrappers, by rw [there]; rfl, first⟩
      · rw [if_neg said]
        constructor
        · intro read
          cases read
        · rintro ⟨also, _⟩
          exact absurd also said

theorem readData_error {data : Json} (failed : client.readData revisionId data = .error exn) :
    Passing exn := by
  cases object : data.isObject with
  | false =>
      rw [readData_other object] at failed
      cases failed
      exact .unforeseen _
  | true =>
      rw [readData_object object] at failed
      split at failed
      · exact exactTokens_error failed
      · cases failed
        exact .retryable _

theorem readTokens_ok :
    client.readTokens revisionId body = .ok tokens ↔
      ∃ data, client.parse body = .value data ∧ Carries data revisionId tokens := by
  unfold readTokens
  cases client.parse body with
  | value data =>
      rw [readData_ok]
      constructor
      · intro carried
        exact ⟨data, rfl, carried⟩
      · rintro ⟨_, same, carried⟩
        cases same
        exact carried
  | _ =>
      constructor
      · intro read
        cases read
      · rintro ⟨_, there, _⟩
        cases there

theorem readTokens_error (failed : client.readTokens revisionId body = .error exn) :
    Passing exn := by
  unfold readTokens at failed
  cases parsed : client.parse body with
  | value data =>
      rw [parsed] at failed
      exact readData_error failed
  | malformed message =>
      rw [parsed] at failed
      cases failed
      exact .retryable _
  | unreadable fault =>
      rw [parsed] at failed
      cases failed
      exact .unforeseen _

end Reading

def Answered (client : WikiWhoClient) (wiki : String) (revisionId : Int)
    (response : Streamed) : Prop :=
  ∃ code, language client.languages wiki = some code ∧
    client.send (revisionUrl client.baseUrl code revisionId) revisionParams = .ok response

/-- What a reading comes to, told by what WikiWho sent as a whole: nothing depends on how the
body was cut into parts. -/
structure ReadsRevision (client : WikiWhoClient) (wiki : String) (revisionId : Int)
    (outcome : Except Exn (List Json)) : Prop where
  exact_ : ∀ tokens, outcome = .ok tokens ↔
    ∃ response body data, client.Answered wiki revisionId response ∧
      isSuccess response.status = true ∧ Delivers response.arrivals body ∧
      body.length ≤ client.budget ∧ client.parse body = .value data ∧
      Carries data revisionId tokens
  oversized : outcome = .error client.tooLarge ↔
    ∃ response, client.Answered wiki revisionId response ∧
      isSuccess response.status = true ∧ Exceeds response.arrivals client.budget
  permanent : (∃ message, outcome = .error (.known .permanentData message)) ↔
    language client.languages wiki = none ∨
      ∃ response, client.Answered wiki revisionId response ∧ response.status = 400

section Outcomes

variable {client : WikiWhoClient} {wiki code message : String} {revisionId : Int}
  {response other : Streamed} {exn : Exn}

theorem Answered.unique (first : client.Answered wiki revisionId response)
    (second : client.Answered wiki revisionId other) : response = other := by
  obtain ⟨code, covered, sent⟩ := first
  obtain ⟨also, again, answered⟩ := second
  rw [covered] at again
  cases again
  rw [sent] at answered
  exact Except.ok.inj answered

theorem fetchRevision_answered (answered : client.Answered wiki revisionId response)
    (turns : Nat) :
    client.fetchRevision revisionId wiki turns =
      client.readResponse revisionId response turns := by
  obtain ⟨code, covered, sent⟩ := answered
  unfold fetchRevision requireLanguage
  rw [covered]
  dsimp only
  rw [sent]

theorem not_busy {status : Nat} (success : isSuccess status = true) :
    ¬ isBusy status = true := by
  simp only [isSuccess, isBusy, Bool.and_eq_true, Bool.or_eq_true, decide_eq_true_eq,
    List.mem_cons, List.not_mem_nil, or_false] at *
  omega

theorem reads_passing (passing : Passing exn)
    (covered : language client.languages wiki ≠ none)
    (failed : ∀ response, client.Answered wiki revisionId response →
      isSuccess response.status = false ∧ response.status ≠ 400) :
    client.ReadsRevision wiki revisionId (.error exn) := by
  refine ⟨?_, ?_, ?_⟩
  · intro tokens
    constructor
    · intro read
      cases read
    · rintro ⟨response, _, _, answered, success, _⟩
      rw [(failed response answered).1] at success
      cases success
  · constructor
    · intro large
      cases passing <;> cases large
    · rintro ⟨response, answered, success, _⟩
      rw [(failed response answered).1] at success
      cases success
  · constructor
    · rintro ⟨message, lasting⟩
      cases passing <;> cases lasting
    · rintro (uncovered | ⟨response, answered, refused⟩)
      · exact absurd uncovered covered
      · exact absurd refused (failed response answered).2

theorem reads_permanent
    (reason : language client.languages wiki = none ∨
      ∃ response, client.Answered wiki revisionId response ∧ response.status = 400) :
    client.ReadsRevision wiki revisionId (.error (.known .permanentData message)) := by
  have unsuccessful : ∀ response, client.Answered wiki revisionId response →
      isSuccess response.status = false := by
    rintro response answered
    rcases reason with uncovered | ⟨refused, also, status⟩
    · obtain ⟨code, covered, _⟩ := answered
      rw [uncovered] at covered
      cases covered
    · rw [answered.unique also, isSuccess, status]
      rfl
  refine ⟨?_, ?_, ⟨fun _ => reason, fun _ => ⟨message, rfl⟩⟩⟩
  · intro tokens
    constructor
    · intro read
      cases read
    · rintro ⟨response, _, _, answered, success, _⟩
      rw [unsuccessful response answered] at success
      cases success
  · constructor
    · intro large
      cases large
    · rintro ⟨response, answered, success, _⟩
      rw [unsuccessful response answered] at success
      cases success

theorem Answered.reads {outcome : Except Exn (List Json)}
    (answered : client.Answered wiki revisionId response)
    (success : isSuccess response.status = true)
    (exact_ : ∀ tokens, outcome = .ok tokens ↔ ∃ body data, Delivers response.arrivals body ∧
      body.length ≤ client.budget ∧ client.parse body = .value data ∧
      Carries data revisionId tokens)
    (oversized : outcome = .error client.tooLarge ↔ Exceeds response.arrivals client.budget)
    (passing : ∀ message, outcome ≠ .error (.known .permanentData message)) :
    client.ReadsRevision wiki revisionId outcome := by
  refine ⟨?_, ?_, ?_⟩
  · intro tokens
    rw [exact_]
    constructor
    · rintro ⟨body, data, delivers⟩
      exact ⟨response, body, data, answered, success, delivers⟩
    · rintro ⟨also, body, data, same, _, delivers⟩
      rw [← answered.unique same] at delivers
      exact ⟨body, data, delivers⟩
  · rw [oversized]
    constructor
    · intro exceeds
      exact ⟨response, answered, success, exceeds⟩
    · rintro ⟨also, same, _, exceeds⟩
      rwa [← answered.unique same] at exceeds
  · constructor
    · rintro ⟨message, lasting⟩
      exact absurd lasting (passing message)
    · rintro (uncovered | ⟨also, again, refused⟩)
      · obtain ⟨code, covered, _⟩ := answered
        rw [uncovered] at covered
        cases covered
      · rw [answered.unique again, isSuccess, refused] at success
        cases success

theorem reads_body {read : Except Exn (List UInt8)}
    (answered : client.Answered wiki revisionId response)
    (success : isSuccess response.status = true)
    (body : client.BodyOutcome response.arrivals read) :
    client.ReadsRevision wiki revisionId (read.bind (client.readTokens revisionId)) := by
  cases body with
  | whole body delivers fits =>
      refine answered.reads success ?_ ?_ ?_
      · intro tokens
        rw [Except.bind, readTokens_ok]
        constructor
        · rintro ⟨data, parsed, carried⟩
          exact ⟨body, data, delivers, fits, parsed, carried⟩
        · rintro ⟨again, data, delivered, _, parsed, carried⟩
          rw [← delivers.unique delivered] at parsed
          exact ⟨data, parsed, carried⟩
      · constructor
        · intro large
          cases readTokens_error large
        · intro exceeds
          exact absurd exceeds (delivers.not_exceeds fits)
      · intro message lasting
        cases readTokens_error lasting
  | exceeds exceeds =>
      refine answered.reads success ?_ ⟨fun _ => exceeds, fun _ => rfl⟩ ?_
      · intro tokens
        constructor
        · intro read
          cases read
        · rintro ⟨body, data, delivers, fits, _⟩
          exact absurd exceeds (delivers.not_exceeds fits)
      · intro message lasting
        cases lasting
  | broken message count bytes received fits breaks =>
      refine answered.reads success ?_ ?_ ?_
      · intro tokens
        constructor
        · intro read
          cases read
        · rintro ⟨body, data, delivers, _⟩
          exact absurd delivers (not_delivers received breaks)
      · constructor
        · intro large
          cases large
        · intro exceeds
          refine absurd exceeds (not_exceeds received ?_ fits)
          intro first others part
          rw [breaks] at part
          cases part
      · intro message lasting
        cases lasting

theorem reads_response {turns : Nat} {outcome : Except Exn (List Json)}
    (answered : client.Answered wiki revisionId response)
    (returned : client.readResponse revisionId response turns = some outcome) :
    client.ReadsRevision wiki revisionId outcome := by
  have covered : language client.languages wiki ≠ none := by
    obtain ⟨code, covered, _⟩ := answered
    rw [covered]
    exact Option.some_ne_none code
  unfold readResponse at returned
  by_cases refused : response.status = 400
  · rw [if_pos refused] at returned
    cases returned
    exact reads_permanent (.inr ⟨response, answered, refused⟩)
  rw [if_neg refused] at returned
  by_cases success : isSuccess response.status = true
  · rw [if_neg (not_busy success), if_pos success] at returned
    obtain ⟨read, ended, rfl⟩ := Option.map_eq_some_iff.mp returned
    exact reads_body answered success (run_outcome .start (Nat.zero_le _) ended)
  · have failed : ∀ other, client.Answered wiki revisionId other →
        isSuccess other.status = false ∧ other.status ≠ 400 := by
      intro other also
      rw [← answered.unique also]
      exact ⟨Bool.eq_false_iff.mpr success, refused⟩
    by_cases busy : isBusy response.status = true
    · rw [if_pos busy] at returned
      cases returned
      exact reads_passing (.retryable _) covered failed
    · rw [if_neg busy, if_neg success] at returned
      cases returned
      exact reads_passing (.retryable _) covered failed

/-- What a call returns is told by what WikiWho sent. -/
theorem fetchRevision_reads {turns : Nat} {outcome : Except Exn (List Json)}
    (returned : client.fetchRevision revisionId wiki turns = some outcome) :
    client.ReadsRevision wiki revisionId outcome := by
  cases covered : language client.languages wiki with
  | none =>
      unfold fetchRevision requireLanguage at returned
      rw [covered] at returned
      cases returned
      exact reads_permanent (.inl covered)
  | some code =>
      cases sent : client.send (revisionUrl client.baseUrl code revisionId) revisionParams with
      | ok response =>
          have answered : client.Answered wiki revisionId response := ⟨code, covered, sent⟩
          rw [fetchRevision_answered answered] at returned
          exact reads_response answered returned
      | error message =>
          unfold fetchRevision requireLanguage at returned
          rw [covered] at returned
          dsimp only at returned
          rw [sent] at returned
          cases returned
          refine reads_passing (.retryable _) ?_ ?_
          · rw [covered]
            exact Option.some_ne_none code
          · rintro response ⟨also, again, answered⟩
            rw [covered] at again
            cases again
            rw [sent] at answered
            cases answered

theorem readResponse_returns (client : WikiWhoClient) (revisionId : Int) (response : Streamed) :
    ∃ outcome, ∀ turns, client.budget < turns →
      client.readResponse revisionId response turns = some outcome := by
  obtain ⟨read, returned⟩ := body_read client response.arrivals
  unfold readResponse
  by_cases refused : response.status = 400
  · simp only [if_pos refused]
    exact ⟨_, fun _ _ => rfl⟩
  by_cases busy : isBusy response.status = true
  · simp only [if_neg refused, if_pos busy]
    exact ⟨_, fun _ _ => rfl⟩
  by_cases success : isSuccess response.status = true
  · simp only [if_neg refused, if_neg busy, if_pos success]
    refine ⟨read.bind (client.readTokens revisionId), ?_⟩
    intro turns enough
    obtain ⟨more, rfl⟩ := Nat.exists_eq_add_of_le enough
    rw [run_more returned more]
    rfl
  · simp only [if_neg refused, if_neg busy, if_neg success]
    exact ⟨_, fun _ _ => rfl⟩

theorem fetchRevision_returns (client : WikiWhoClient) (wiki : String) (revisionId : Int) :
    ∃ outcome, ∀ turns, client.budget < turns →
      client.fetchRevision revisionId wiki turns = some outcome := by
  unfold fetchRevision
  cases requireLanguage client.languages wiki with
  | error raised => exact ⟨.error raised, fun _ _ => rfl⟩
  | ok code =>
      dsimp only
      cases client.send (revisionUrl client.baseUrl code revisionId) revisionParams with
      | error message => exact ⟨.error (down message), fun _ _ => rfl⟩
      | ok response => exact readResponse_returns client revisionId response

end Outcomes

/-- Every call returns, within one turn of the loop for each byte of the budget and one more,
also where the body never ends; and what it returns is told by what WikiWho sent. -/
theorem revision_read_exactly (client : WikiWhoClient) (wiki : String) (revisionId : Int) :
    ∃ outcome, client.ReadsRevision wiki revisionId outcome ∧
      ∀ turns, client.budget < turns →
        client.fetchRevision revisionId wiki turns = some outcome := by
  obtain ⟨outcome, returned⟩ := fetchRevision_returns client wiki revisionId
  exact ⟨outcome, fetchRevision_reads (returned _ (Nat.lt_succ_self _)), returned⟩

end WikiWhoClient

end WikiPeople
