import WikiPeople.Library.JsonText
import WikiPeople.Serving

/-! A conditional request: the validators of answers served before, and when they spare the
body of the answer that is due now. -/

namespace WikiPeople

open Json

section Payloads

variable {runtime : Runtime} {store : Store} {request : Request} {now : Time}
  {result : AttributionResult}

theorem contributorJson_formed (contributor : Contributor) :
    (contributorJson contributor).WellFormed := by
  obtain ⟨userId, username, evidence, share⟩ := contributor
  cases userId <;> cases evidence <;>
    exact .obj _ (by simp [evidenceField])
      (by simp [evidenceField, WellFormed.int, WellFormed.str, WellFormed.float])

theorem listed_formed (contributors : List Contributor) :
    (Json.arr (contributors.map contributorJson)).WellFormed :=
  .arr _ (List.forall_mem_map.mpr (fun contributor _ => contributorJson_formed contributor))

theorem readyPayload_formed : (readyPayload runtime store request now result).WellFormed := by
  refine .obj _ (by simp [attributionFields]) ?_
  simp [attributionFields, listed_formed, WellFormed.str, WellFormed.int, WellFormed.bool]

theorem readyPagePayload_formed {refreshing : Bool} :
    (readyPagePayload runtime store request now result refreshing).WellFormed := by
  refine .obj _ (by simp [attributionFields]) ?_
  simp [attributionFields, listed_formed, WellFormed.str, WellFormed.int, WellFormed.bool]

end Payloads

/-- The endpoint answers with this payload where the request sets no condition. -/
structure Ready (runtime : Runtime) (version : Version) (store : Store) (request : Request)
    (now : Time) (payload : Json) : Prop where
  status : (respond runtime version store { request with ifNoneMatch := none } now).1.status = 200
  body : (respond runtime version store { request with ifNoneMatch := none } now).1.body =
    some payload

section Revalidated

variable {runtime : Runtime} {store : Store} {request : Request} {now : Time}

/-- A condition changes an answer in one way only: it may replace a ready one by its bare
validator. -/
inductive Conditioned (runtime : Runtime) (request : Request)
    (answer : Option String → Response) : Prop
  | ready (payload : Json) (formed : payload.WellFormed)
      (same : ∀ header, ∃ cacheControl extra, answer header =
        conditional runtime { request with ifNoneMatch := header } cacheControl extra payload)
  | other (unready : ∀ header, (answer header).status ≠ 200)

theorem refused_conditioned {answer : Option String → Response} {response : Response}
    (refused : refusal runtime request = some response)
    (same : ∀ header, answer header = response) : Conditioned runtime request answer := by
  refine .other fun header => ?_
  have status := refusal_status refused
  rw [same]
  omega

theorem pageAttribution_conditioned :
    Conditioned runtime request (fun header =>
      (pageAttribution runtime store { request with ifNoneMatch := header } now).1) := by
  cases refused : refusal runtime request with
  | some response =>
      apply refused_conditioned refused
      intro header
      have same : refusal runtime { request with ifNoneMatch := header } = some response := refused
      simp only [pageAttribution, same]
  | none =>
      have same : ∀ header, refusal runtime { request with ifNoneMatch := header } = none :=
        fun _ => refused
      cases found : getResult store (request.key runtime.settings.algorithmVersion) with
      | some result =>
          refine .ready (readyPayload runtime store request now result) readyPayload_formed ?_
          intro header
          have stored : getResult store (Request.key { request with ifNoneMatch := header }
              runtime.settings.algorithmVersion) = some result := found
          simp only [pageAttribution, same, stored]
          exact ⟨_, _, rfl⟩
      | none =>
          refine .other fun header => ?_
          have missing : getResult store (Request.key { request with ifNoneMatch := header }
              runtime.settings.algorithmVersion) = none := found
          simp only [pageAttribution, same, missing]
          split <;> simp [unavailable, pending]

theorem pageAttributionByFreshness_conditioned :
    Conditioned runtime request (fun header =>
      (pageAttributionByFreshness runtime store { request with ifNoneMatch := header } now).1) := by
  cases refused : refusal runtime request with
  | some response =>
      apply refused_conditioned refused
      intro header
      have same : refusal runtime { request with ifNoneMatch := header } = some response := refused
      simp only [pageAttributionByFreshness, same]
  | none =>
      have same : ∀ header, refusal runtime { request with ifNoneMatch := header } = none :=
        fun _ => refused
      cases found : getLatestResult store
          (request.key runtime.settings.algorithmVersion).toPageKey with
      | some result =>
          let key := request.key runtime.settings.algorithmVersion
          let fresh := isFresh runtime.settings result now
          let asked := if fresh then store else refresh runtime.settings store key now
          let refreshing := !fresh && (getWork asked key).any WorkItem.live
          refine .ready (readyPagePayload runtime asked request now result refreshing)
            readyPagePayload_formed ?_
          intro header
          have stored : getLatestResult store (Request.key { request with ifNoneMatch := header }
              runtime.settings.algorithmVersion).toPageKey = some result := found
          simp only [pageAttributionByFreshness, same, stored]
          exact ⟨_, _, rfl⟩
      | none =>
          refine .other fun header => ?_
          have missing : getLatestResult store (Request.key { request with ifNoneMatch := header }
              runtime.settings.algorithmVersion).toPageKey = none := found
          simp only [pageAttributionByFreshness, same, missing]
          split <;> simp [unavailable, pending]

theorem respond_conditioned (version : Version) :
    Conditioned runtime request (fun header =>
      (respond runtime version store { request with ifNoneMatch := header } now).1) := by
  cases version with
  | v1 => exact pageAttribution_conditioned
  | v2 => exact pageAttributionByFreshness_conditioned

theorem respond_revalidated {version : Version} {payload : Json}
    (ready : Ready runtime version store request now payload) (header : Option String) :
    payload.WellFormed ∧
      ((respond runtime version store { request with ifNoneMatch := header } now).1.status = 304 ↔
        ifNoneMatch header (etag runtime payload) = true) := by
  cases @respond_conditioned runtime store request now version with
  | other unready => exact absurd ready.status (unready none)
  | ready current formed same =>
      obtain ⟨cacheControl, extra, plain⟩ := same none
      have carried := ready.body
      rw [plain] at carried
      have equal : current = payload := by simpa [conditional, ifNoneMatch] using carried
      subst equal
      obtain ⟨cacheControl, extra, conditioned⟩ := same header
      refine ⟨formed, ?_⟩
      rw [conditioned, conditional]
      cases named : ifNoneMatch header (etag runtime current) <;> simp

end Revalidated

/-- The validator of an answer as a client sends it back: bare or weak, which puts white
space behind the mark, and with white space around it. -/
structure Validator where
  payload : Json
  weak : Option (List Char)
  before : List Char
  after : List Char
  blank : ∀ char ∈ before ++ weak.getD [] ++ after, Text.isSpace char = true

section Header

variable (runtime : Runtime)

def Validator.mark (validator : Validator) : List Char :=
  validator.weak.elim [] (weakPrefix ++ ·)

def Validator.text (validator : Validator) : List Char :=
  validator.before ++ (validator.mark ++ (etag runtime validator.payload).toList) ++
    validator.after

/-- The header `If-None-Match` of a client that has these answers. -/
def conditionHeader (validators : List Validator) : String :=
  String.ofList ([','].intercalate (validators.map (Validator.text runtime)))

def HexDigest : Prop :=
  ∀ text, ∀ char ∈ (runtime.hexdigest text).toList, char ∈ "0123456789abcdef".toList

variable {runtime}

theorem etag_toList (payload : Json) : (etag runtime payload).toList =
    '"' :: ((runtime.hexdigest (payload.dumps runtime.formatFloat)).toList.take 32 ++ ['"']) := by
  simp [etag, Text.truncate]

theorem etag_same {first second : Json} : etag runtime first = etag runtime second ↔
    Text.truncate 32 (runtime.hexdigest (first.dumps runtime.formatFloat)) =
      Text.truncate 32 (runtime.hexdigest (second.dumps runtime.formatFloat)) := by
  rw [← String.toList_inj, etag_toList, etag_toList, Text.truncate, Text.truncate,
    String.ofList_inj, List.cons.injEq, List.append_cancel_right_eq]
  exact and_iff_right rfl

theorem etag_trimmed (payload : Json) : Text.Trimmed (etag runtime payload).toList := by
  rw [etag_toList]
  constructor
  · intro char first
    cases first
    decide
  · intro char last
    rw [← List.cons_append, List.getLast?_append] at last
    cases last
    decide

theorem etag_free (hex : HexDigest runtime) (payload : Json) :
    ',' ∉ (etag runtime payload).toList := by
  rw [etag_toList]
  intro member
  rcases List.mem_cons.mp member with quote | member
  · exact absurd quote (by decide)
  · rcases List.mem_append.mp member with digit | quote
    · exact absurd (hex _ _ (List.mem_of_mem_take digit)) (by decide)
    · exact absurd (List.mem_singleton.mp quote) (by decide)

theorem comma_visible {chars : List Char} (blank : ∀ char ∈ chars, Text.isSpace char = true) :
    ',' ∉ chars := by
  intro member
  exact absurd (blank ',' member) (by decide)

theorem Validator.blanks (validator : Validator) :
    (∀ char ∈ validator.before, Text.isSpace char = true) ∧
      (∀ gap, validator.weak = some gap → ∀ char ∈ gap, Text.isSpace char = true) ∧
      ∀ char ∈ validator.after, Text.isSpace char = true := by
  have blank := validator.blank
  simp only [List.mem_append] at blank
  refine ⟨fun char member => blank char (Or.inl (Or.inl member)), ?_,
    fun char member => blank char (Or.inr member)⟩
  intro gap weak char member
  exact blank char (Or.inl (Or.inr (by rwa [weak])))

theorem text_free (hex : HexDigest runtime) (validator : Validator) :
    ',' ∉ validator.text runtime := by
  obtain ⟨before, inside, after⟩ := validator.blanks
  have mark : ',' ∉ validator.mark := by
    rw [Validator.mark]
    cases weak : validator.weak with
    | none => exact List.not_mem_nil
    | some gap =>
        intro member
        rcases List.mem_append.mp member with letter | space
        · exact absurd letter (by decide)
        · exact comma_visible (inside gap weak) space
  rw [Validator.text, List.mem_append, List.mem_append, List.mem_append]
  rintro ((space | letter | tag) | space)
  · exact comma_visible before space
  · exact mark letter
  · exact etag_free hex validator.payload tag
  · exact comma_visible after space

/-- One candidate of the header, as `_if_none_match` compares it. -/
def namesTag (tag : String) (part : List Char) : Bool :=
  let candidate := Text.strip part
  let bare :=
    if weakPrefix.isPrefixOf candidate then Text.strip (candidate.drop 2) else candidate
  candidate = ['*'] || bare = tag.toList

theorem etag_visible (payload : Json) : (etag runtime payload).toList ≠ [] := by
  rw [etag_toList]
  exact List.cons_ne_nil _ _

theorem text_visible (validator : Validator) : validator.text runtime ≠ [] := by
  have visible := @etag_visible runtime validator.payload
  rw [Validator.text]
  simp [visible]

theorem strip_text (validator : Validator) : Text.strip (validator.text runtime) =
    validator.mark ++ (etag runtime validator.payload).toList := by
  obtain ⟨before, _, after⟩ := validator.blanks
  have trimmed := @etag_trimmed runtime validator.payload
  have visible := @etag_visible runtime validator.payload
  refine Text.strip_padded before after ⟨?_, ?_⟩ (List.append_ne_nil_of_right_ne_nil _ visible)
  · rw [Validator.mark]
    cases validator.weak with
    | none =>
        rw [Option.elim_none, List.nil_append]
        exact trimmed.first
    | some gap =>
        rw [Option.elim_some, weakPrefix, List.cons_append, List.cons_append, List.head?_cons]
        intro char first
        cases first
        decide
  · rw [List.getLast?_append_of_ne_nil _ visible]
    exact trimmed.last

theorem namesTag_text (validator : Validator) (tag : String) :
    namesTag tag (validator.text runtime) = true ↔ etag runtime validator.payload = tag := by
  obtain ⟨_, inside, _⟩ := validator.blanks
  have tagged := @etag_toList runtime validator.payload
  rw [namesTag, strip_text, ← String.toList_inj, Validator.mark]
  cases weak : validator.weak with
  | none => simp [weakPrefix, tagged]
  | some gap =>
      have bare : Text.strip (gap ++ (etag runtime validator.payload).toList) =
          (etag runtime validator.payload).toList := by
        have padded := Text.strip_padded (inside gap weak)
          (fun char member => absurd member (@List.not_mem_nil _ char))
          (@etag_trimmed runtime validator.payload) (@etag_visible runtime validator.payload)
        rwa [List.append_nil] at padded
      simp [weakPrefix, bare]

theorem ifNoneMatch_header (hex : HexDigest runtime) (validators : List Validator)
    (tag : String) : ifNoneMatch (some (conditionHeader runtime validators)) tag = true ↔
      ∃ validator ∈ validators, etag runtime validator.payload = tag := by
  cases validators with
  | nil => simp [ifNoneMatch, conditionHeader]
  | cons first rest =>
      have parts : (conditionHeader runtime (first :: rest)).toList.splitOn ',' =
          (first :: rest).map (Validator.text runtime) := by
        rw [conditionHeader, String.toList_ofList]
        apply List.splitOn_intercalate
        · intro text member
          obtain ⟨validator, _, rfl⟩ := List.mem_map.mp member
          exact text_free hex validator
        · simp
      have visible : conditionHeader runtime (first :: rest) ≠ "" := by
        intro empty
        rw [empty] at parts
        exact text_visible first (List.head_eq_of_cons_eq parts).symm
      have spelled : ifNoneMatch (some (conditionHeader runtime (first :: rest))) tag =
          ((conditionHeader runtime (first :: rest)).toList.splitOn ',').any (namesTag tag) := by
        rw [ifNoneMatch, if_neg visible]
        rfl
      rw [spelled, parts, List.any_map, List.any_eq_true]
      exact exists_congr fun validator => and_congr_right fun _ => namesTag_text validator tag

end Header

/-- A ready answer carried this payload, whatever the settings and the lists were then. -/
def Served (runtime : Runtime) (payload : Json) : Prop :=
  ∃ (server : Runtime) (version : Version) (store : Store) (request : Request) (now : Time),
    server.hexdigest = runtime.hexdigest ∧ server.formatFloat = runtime.formatFloat ∧
      Ready server version store request now payload

/-- The texts of the two payloads do not collide in what a validator keeps of their digests. -/
def Separated (runtime : Runtime) (first second : Json) : Prop :=
  Text.truncate 32 (runtime.hexdigest (first.dumps runtime.formatFloat)) =
      Text.truncate 32 (runtime.hexdigest (second.dumps runtime.formatFloat)) →
    first.dumps runtime.formatFloat = second.dumps runtime.formatFloat

theorem Served.formed {runtime : Runtime} {payload : Json} (served : Served runtime payload) :
    payload.WellFormed := by
  obtain ⟨server, version, store, request, now, _, _, ready⟩ := served
  exact (respond_revalidated ready none).1

theorem unchanged_iff (runtime : Runtime) (hex : HexDigest runtime)
    (numbers : NumberText runtime.formatFloat) (version : Version) (store : Store)
    (request : Request) (now : Time) (payload : Json)
    (ready : Ready runtime version store request now payload) (validators : List Validator)
    (served : ∀ validator ∈ validators, Served runtime validator.payload)
    (separates : ∀ validator ∈ validators, Separated runtime validator.payload payload) :
    (respond runtime version store
        { request with ifNoneMatch := some (conditionHeader runtime validators) } now).1.status =
        304 ↔ ∃ validator ∈ validators, Same validator.payload payload := by
  obtain ⟨formed, status⟩ := respond_revalidated ready (conditionHeader runtime validators)
  rw [status, ifNoneMatch_header hex]
  refine exists_congr fun validator => and_congr_right fun member => ?_
  rw [← dumps_eq_iff numbers (served validator member).formed formed, etag_same]
  exact ⟨separates validator member, fun same => by rw [same]⟩

/-- A spelling of fractions, which writes whole numbers as Python does. -/
def spelledShare (share : Rat) : String :=
  toString share.num ++ "." ++ toString (share.den - 1)

theorem int_pointless (number : Int) : '.' ∉ (toString number).toList := by
  have digits (size : Nat) : '.' ∉ Nat.toDigits 10 size := by
    intro member
    have digit := Nat.isDigit_of_mem_toDigits (by decide) (by decide) member
    cases digit
  rw [toList_toString]
  split
  · intro member
    rcases List.mem_cons.mp member with sign | digit
    · exact absurd sign (by decide)
    · exact digits _ digit
  · exact digits _

theorem spelledShare_toList (share : Rat) : (spelledShare share).toList =
    (toString share.num).toList ++ '.' :: Nat.toDigits 10 (share.den - 1) := by
  simp [spelledShare, Nat.toString_eq_repr]

theorem spelledShare_number : NumberText spelledShare where
  written := by
    intro share char member
    rw [spelledShare_toList] at member
    rcases List.mem_append.mp member with sign | rest
    · exact int_written share.num char sign
    · rcases List.mem_cons.mp rest with point | digit
      · rw [point]
        decide
      · simp [isNumberChar, Nat.isDigit_of_mem_toDigits (by decide) (by decide) digit]
  visible := by
    intro share empty
    have text := spelledShare_toList share
    rw [empty] at text
    simp at text
  injective := by
    intro first second same
    have texts := congrArg (fun text : String => Text.partition '.' text.toList) same
    rw [spelledShare_toList, spelledShare_toList, Text.partition_append (int_pointless _),
      Text.partition_append (int_pointless _), Prod.mk.injEq, Option.some.injEq] at texts
    have denominators := toDigits_injective texts.2
    have positive := first.den_pos
    have otherPositive := second.den_pos
    exact Rat.ext (int_injective (String.toList_inj.mp texts.1)) (by omega)
  fractional := by
    intro share number same
    have pointless := int_pointless number
    rw [← same, spelledShare_toList] at pointless
    simp at pointless

def namedStore (username : String) : Store :=
  articleStore [⟨some 7, username, .tokenCount 90, 1⟩]

def namedPayload (username : String) : Json :=
  ((respond plainRuntime .v2 (namedStore username) (articleRequest 10) 0).1.body).getD .null

/-- The digests of the two payloads are those of SHA-256. -/
def digestRuntime : Runtime :=
  { plainRuntime with
    hexdigest := fun text =>
      if text = (namedPayload "Ada").dumps spelledShare then
        "4850ca4f119253deff6144a6d5a68eb68f5f8212f30623f4809dc4cad15f9737"
      else if text = (namedPayload "Zoé").dumps spelledShare then
        "23a65da40d164a9b5f9a086241065f218ef02016a5fa18438183b56c4a82def9"
      else ""
    formatFloat := spelledShare }

theorem digestRuntime_hex : HexDigest digestRuntime := by
  intro text
  have digits (digest : String)
      (checked : digest.toList.all ("0123456789abcdef".toList.contains ·) = true) :
      ∀ char ∈ digest.toList, char ∈ "0123456789abcdef".toList :=
    fun char member => List.contains_iff_mem.mp (List.all_eq_true.mp checked char member)
  simp only [digestRuntime]
  split
  · exact digits _ (by decide)
  split
  · exact digits _ (by decide)
  · exact digits _ (by decide)

theorem namedPayload_ready (username : String) :
    Ready digestRuntime .v2 (namedStore username) (articleRequest 10) 0 (namedPayload username) :=
  ⟨rfl, rfl⟩

theorem namedPayload_served (username : String) : Served digestRuntime (namedPayload username) :=
  ⟨digestRuntime, .v2, namedStore username, articleRequest 10, 0, rfl, rfl,
    namedPayload_ready username⟩

theorem namedPayload_separated :
    Separated digestRuntime (namedPayload "Zoé") (namedPayload "Ada") := by
  intro collides
  by_contra different
  simp only [digestRuntime] at collides different
  rw [if_neg different, if_pos trivial, if_pos trivial] at collides
  exact absurd collides (by decide)

/-- A client with an answer from before the contributor was renamed, and the one due now. -/
def keptValidators : List Validator :=
  [{ payload := namedPayload "Zoé"
     weak := none
     before := []
     after := [' ']
     blank := List.all_eq_true.mp (by decide) },
    { payload := namedPayload "Ada"
      weak := some [' ']
      before := [' ']
      after := []
      blank := List.all_eq_true.mp (by decide) }]

theorem unchanged_iff_renamed :
    (respond digestRuntime .v2 (namedStore "Ada")
        { articleRequest 10 with
          ifNoneMatch := some (conditionHeader digestRuntime keptValidators) } 0).1.status =
      304 := by
  refine (unchanged_iff digestRuntime digestRuntime_hex spelledShare_number .v2 (namedStore "Ada")
    (articleRequest 10) 0 (namedPayload "Ada") (namedPayload_ready "Ada") keptValidators ?_
    ?_).mpr ⟨_, List.mem_cons_of_mem _ List.mem_cons_self, .refl _⟩
  · simp only [keptValidators, List.forall_mem_cons]
    exact ⟨namedPayload_served "Zoé", namedPayload_served "Ada", by simp⟩
  · simp only [keptValidators, List.forall_mem_cons]
    exact ⟨namedPayload_separated, fun _ => rfl, by simp⟩

end WikiPeople
