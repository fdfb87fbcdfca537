import Mathlib.Algebra.Ring.Nat
import WikiPeople.Config
import WikiPeople.Library.Numerals
import WikiPeople.Library.Text

/-! Which accounts may be named: the exclusion rule of a computation, and the sanction rule
applied when a response is built. -/

namespace WikiPeople

open Text

structure ResolvedUser where
  userId : Int
  username : String
  groups : List String
  missing : Bool
  deriving DecidableEq, Repr

abbrev GlobalGroupLookup := String → Except Exn (List String)

/-- Words and numbers, not white space or punctuation. -/
def isCountableToken (unicode : Unicode) (value : String) : Bool :=
  value.toList.any unicode.isAlnum

/-- `int(text)` of a text that is all digits raises where a digit is not decimal. -/
def toInt (unicode : Unicode) (text : String) : Except Exn Nat :=
  match unicode.int? text.toList with
  | some number => .ok number
  | none => .error (.unexpected "ValueError")

/-- `sys.int_info.default_max_str_digits`. -/
def maxStrDigits : Nat := 4300

/-- `int(editor)` of an editor that is all digits; `int` also refuses a numeral that is too
long. -/
def editorNumber (unicode : Unicode) (editor : String) : Except Exn Nat :=
  if maxStrDigits < editor.length then .error (.unexpected "ValueError")
  else toInt unicode editor

/-- `int(text)` of any text of digits. -/
def numeral (unicode : Unicode) (digits : List Char) : Except Exn Nat :=
  editorNumber unicode (String.ofList digits)

/-- The digits that `int` reads: decimal ones, and not too many. -/
def ReadableDigits (unicode : Unicode) (digits : List Char) : Prop :=
  digits.length ≤ maxStrDigits ∧ ∀ char ∈ digits, (unicode.decimal char).isSome = true

theorem numeral_eq_ok {unicode : Unicode} {digits : List Char} {number : Nat} :
    numeral unicode digits = .ok number ↔
      digits.length ≤ maxStrDigits ∧ unicode.int? digits = some number := by
  rw [numeral, editorNumber, toInt, String.length_ofList, String.toList_ofList]
  split
  · simp [Nat.not_le.mpr ‹_›]
  · cases unicode.int? digits <;> simp [Nat.not_lt.mp ‹_›]

theorem numeral_toDigits {unicode : Unicode} {number : Nat}
    (small : number < 10 ^ maxStrDigits) :
    numeral unicode (Nat.toDigits 10 number) = .ok number :=
  numeral_eq_ok.mpr ⟨(Nat.length_toDigits_le_iff (by decide) (by decide)).mpr small,
    Unicode.int?_toDigits number⟩

theorem numeral_returns {unicode : Unicode} {digits : List Char} :
    (∃ number, numeral unicode digits = .ok number) ↔ ReadableDigits unicode digits := by
  rw [ReadableDigits, ← Unicode.int?_isSome, Option.isSome_iff_exists, ← exists_and_left]
  exact exists_congr fun _ => numeral_eq_ok

def isRegisteredEditor (unicode : Unicode) (editor : String) : Except Exn Bool :=
  if unicode.isdigit editor.toList then
    (editorNumber unicode editor).map (fun number => 0 < number)
  else .ok false

def endsInBot (alphabet : Alphabet) (name : List Char) : Bool :=
  ("bot".toList.map alphabet.fold).isSuffixOf (name.map alphabet.fold)

/-- `bot$` in any case: the end of the text, or before a line break that ends it. -/
def hasBotName (alphabet : Alphabet) (username : String) : Bool :=
  let name := username.toList
  endsInBot alphabet name || (name.getLast? = some '\n' && endsInBot alphabet name.dropLast)

def isBotGroup (unicode : Unicode) (group : String) : Bool :=
  includes "bot" (unicode.lower group)

/-- Whether an editor may appear among the highlighted accounts. The global groups are asked
for only where nothing else has excluded the account. -/
def shouldHighlightContributor (unicode : Unicode) (alphabet : Alphabet) (user : ResolvedUser)
    (globalGroups : Option GlobalGroupLookup) : Except Exn Bool :=
  if user.missing || "~".toList.isPrefixOf user.username.toList then .ok false
  else if user.groups.any (isBotGroup unicode) then .ok false
  else if hasBotName alphabet user.username then .ok false
  else
    match globalGroups with
    | none => .ok true
    | some lookup =>
        (lookup user.username).map (fun groups => !groups.any (isBotGroup unicode))

/-- What a wiki has formally decided about an account, at the moment it was read. -/
structure AccountStanding where
  userId : Int
  username : String
  blockedAt : Option Time
  blockExpiresAt : Option Time
  blockPartial : Bool
  blockReason : Option String
  globallyLocked : Bool
  lockReason : Option String
  deriving DecidableEq, Repr

def blockCourtesyPattern : Pattern :=
  .anyOf
    [.literal "à sa demande", .literal "a sa demande", .literal "à la demande d",
      .literal "sa propre demande", .literal "own request",
      .seq (.literal "self") (.seq (.optional (.letter '-')) (.literal "request")),
      .literal "at their request", .literal "at his request", .literal "at her request",
      .literal "has retired", .literal "par sa demande",
      .literal "compte compromis", .literal "compromised", .literal "compromis",
      .literal "hacked", .literal "piratag", .literal "piraté", .literal "mot de passe",
      .seq (.literal "по ") (.seq (.optional (.literal "собственной "))
        (.anyOf [.literal "просьбе", .literal "запросу"])),
      .literal "взлом", .literal "скомпрометирован",
      .literal "right to vanish", .seq .boundary (.seq (.literal "RTV") .boundary),
      .literal "vanish", .literal "deceas", .literal "décéd", .literal "decede",
      .literal "умер", .literal "скончал"]

def blockCourtesyNegation : Pattern :=
  .anyOf
    [.seq (.literal "not ") (.seq (.optional (.literal "be ")) (.literal "compromised")),
      .literal "non compromis", .literal "pas compromis",
      .literal "no evidence of compromise"]

def lockSanctionPattern : Pattern :=
  .anyOf
    [.literal "abuse", .literal "abusiv", .seq .boundary (.literal "spam"),
      .seq .boundary (.seq (.literal "lta") .boundary), .literal "lock evasion",
      .literal "block evasion", .seq .boundary (.seq (.literal "banned") .boundary),
      .seq .boundary (.seq (.literal "ban") .boundary), .literal "sock", .literal "vandal",
      .literal "harass", .literal "phishing", .literal "troll",
      .seq .boundary (.seq (.literal "ufa") .boundary),
      .seq (.literal "unauthori") (.seq (.anyOf [.letter 's', .letter 'z']) (.literal "ed bot"))]

/-- A missing or empty reason is falsy. -/
def reasonText (reason : Option String) : Option String :=
  reason.filter (fun text => text ≠ "")

/-- Whether a global lock was imposed as a sanction rather than as a courtesy. -/
def isSanctionLock (alphabet : Alphabet) (standing : AccountStanding) : Bool :=
  if !standing.globallyLocked then false
  else
    match reasonText standing.lockReason with
    | none => false
    | some reason => Pattern.search alphabet lockSanctionPattern reason

/-- Whether a local block was a courtesy to the account rather than a sanction. -/
def isCourtesyBlock (alphabet : Alphabet) (standing : AccountStanding) : Bool :=
  match reasonText standing.blockReason with
  | none => false
  | some reason =>
      if Pattern.search alphabet blockCourtesyNegation reason then false
      else Pattern.search alphabet blockCourtesyPattern reason

/-- An account nobody has looked at is nameable. -/
def isNameableAccount (alphabet : Alphabet) (standing : Option AccountStanding)
    (maxVisibleBlockSeconds : Int) (now : Time) : Bool :=
  match standing with
  | none => true
  | some standing =>
      if isSanctionLock alphabet standing then false
      else
        match standing.blockedAt with
        | none => true
        | some blockedAt =>
            if standing.blockPartial then true
            else if isCourtesyBlock alphabet standing then true
            else
              match standing.blockExpiresAt with
              | none => false
              | some expiresAt =>
                  if expiresAt ≤ now then true
                  else expiresAt - blockedAt ≤ seconds maxVisibleBlockSeconds

end WikiPeople
