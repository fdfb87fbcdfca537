import Mathlib.Data.Rat.Defs

/-! JSON values and the canonical text `json.dumps` gives them with sorted keys, no spaces
and every character outside printable ASCII escaped. A float is the number it denotes, and
how it is spelled is a parameter. -/

inductive Json where
  | null
  | bool (value : Bool)
  | int (value : Int)
  | float (value : Rat)
  | str (value : String)
  | arr (items : List Json)
  | obj (fields : List (String × Json))

namespace Json

def field (name : String) : Json → Option Json
  | obj fields => fields.lookup name
  | _ => none

def isObject : Json → Bool
  | obj _ => true
  | _ => false

def first? : Json → Option Json
  | arr (item :: _) => some item
  | _ => none

def path : List String → Json → Option Json
  | [], value => some value
  | name :: names, value => (value.field name).bind (path names)

def fits : List String → Json → Bool
  | [], _ => true
  | name :: names, value => value.isObject && (value.field name).all (fits names)

/-! Reading a parsed value as Python does: a dictionary has `get`, a missing field may have
a default, and everything else raises. -/

inductive Fault where
  | attributeError
  | indexError
  | keyError
  | typeError
  deriving DecidableEq, Repr

def Fault.name : Fault → String
  | attributeError => "AttributeError"
  | indexError => "IndexError"
  | keyError => "KeyError"
  | typeError => "TypeError"

/-- `bool(value)`. -/
def truthy : Json → Bool
  | null => false
  | bool value => value
  | int value => value ≠ 0
  | float value => value ≠ 0
  | str value => !value.toList.isEmpty
  | arr items => !items.isEmpty
  | obj fields => !fields.isEmpty

/-- `value.get(name, fallback)`. -/
def get (value : Json) (name : String) (fallback : Json) : Except Fault Json :=
  match value with
  | obj fields => .ok ((fields.lookup name).getD fallback)
  | _ => .error .attributeError

/-- `value.get(first, {}).get(second, {})…get(last, fallback)`. -/
def getPath (value : Json) (names : List String) (fallback : Json) : Except Fault Json :=
  match names with
  | [] => .ok value
  | [last] => value.get last fallback
  | name :: next :: names =>
      (value.get name (obj [])).bind (fun inner => inner.getPath (next :: names) fallback)

/-- `value[0]`. -/
def getFirst : Json → Except Fault Json
  | arr (item :: _) => .ok item
  | arr [] => .error .indexError
  | str value =>
      match value.toList with
      | char :: _ => .ok (str (String.singleton char))
      | [] => .error .indexError
  | obj _ => .error .keyError
  | _ => .error .typeError

/-- `value[name]`. -/
def getItem (name : String) : Json → Except Fault Json
  | obj fields => (fields.lookup name).elim (.error .keyError) .ok
  | _ => .error .typeError

/-- `for item in value`: an array has its items, a text its characters, an object its names. -/
def items : Json → Except Fault (List Json)
  | arr items => .ok items
  | str value => .ok (value.toList.map (fun char => str (String.singleton char)))
  | obj fields => .ok (fields.map (fun field => str field.1))
  | _ => .error .typeError

/-- `len(value)`. -/
def len : Json → Except Fault Nat
  | arr items => .ok items.length
  | str value => .ok value.length
  | obj fields => .ok fields.length
  | _ => .error .typeError

def asText? : Json → Option String
  | str text => some text
  | _ => none

def isText (expected : String) : Json → Bool
  | str text => text == expected
  | _ => false

/-- `name in value`. -/
def contains (name : String) : Json → Except Fault Bool
  | obj fields => .ok (fields.lookup name).isSome
  | arr items => .ok (items.any (isText name))
  | str text => .ok (text.toList.tails.any name.toList.isPrefixOf)
  | _ => .error .typeError

/-- `str(value)`; how a value that is no string is spelled is a parameter. -/
def toStr (spell : Json → String) : Json → String
  | str text => text
  | value => spell value

theorem truthy_cons (item : Json) (items : List Json) : (arr (item :: items)).truthy = true := rfl

theorem getFirst_cons (item : Json) (items : List Json) :
    (arr (item :: items)).getFirst = .ok item := rfl

theorem getFirst_eq {value item : Json} (found : value.first? = some item) :
    value.getFirst = .ok item := by
  cases value with
  | arr items =>
      cases items with
      | nil => cases found
      | cons head rest =>
          cases found
          rfl
  | _ => cases found

theorem getFirst_none {value : Json} (missing : value.first? = none) :
    (∃ fault, value.getFirst = .error fault) ∨ ∃ text, value.getFirst = .ok (str text) := by
  cases value with
  | arr items =>
      cases items with
      | nil => exact Or.inl ⟨_, rfl⟩
      | cons head rest => cases missing
  | str text =>
      rw [getFirst]
      cases text.toList with
      | nil => exact Or.inl ⟨_, rfl⟩
      | cons char rest => exact Or.inr ⟨_, rfl⟩
  | _ => exact Or.inl ⟨_, rfl⟩

theorem get_eq (value : Json) (name : String) (fallback : Json) :
    value.get name fallback =
      if value.isObject then .ok ((value.field name).getD fallback)
      else .error .attributeError := by
  cases value <;> simp [get, isObject, field]

/-- A chain of `get` answers the value at the end of the path, or its fallback where a field
is absent, and raises where it meets something that is no object. -/
theorem getPath_eq (value : Json) (name : String) (names : List String) (fallback : Json) :
    value.getPath (name :: names) fallback =
      if value.fits (name :: names) then .ok ((value.path (name :: names)).getD fallback)
      else .error .attributeError := by
  induction names generalizing name value with
  | nil =>
      rw [getPath, get_eq, fits, path]
      cases object : value.isObject with
      | false => rfl
      | true => cases found : value.field name <;> rfl
  | cons next names ih =>
      rw [getPath, get_eq, fits, path]
      cases object : value.isObject with
      | false => rfl
      | true =>
          simp only [if_true, Except.bind, ih, Bool.true_and]
          -- Where the field is absent, its fallback `{}` has no fields either.
          cases found : value.field name with
          | none => rfl
          | some inner => rfl

def hexDigit (value : Nat) : Char :=
  if value < 10 then Char.ofNat (48 + value) else Char.ofNat (87 + value)

def hexEscape (code : Nat) : List Char :=
  ['\\', 'u', hexDigit (code / 4096 % 16), hexDigit (code / 256 % 16),
    hexDigit (code / 16 % 16), hexDigit (code % 16)]

/-- Characters past the basic plane become a surrogate pair. -/
def escapeChar (char : Char) : List Char :=
  let code := char.toNat
  if char = '"' then ['\\', '"']
  else if char = '\\' then ['\\', '\\']
  else if char = '\n' then ['\\', 'n']
  else if char = '\r' then ['\\', 'r']
  else if char = '\t' then ['\\', 't']
  else if code = 8 then ['\\', 'b']
  else if code = 12 then ['\\', 'f']
  else if 32 ≤ code ∧ code ≤ 126 then [char]
  else if code < 0x10000 then hexEscape code
  else
    hexEscape (0xD800 + (code - 0x10000) / 1024) ++ hexEscape (0xDC00 + (code - 0x10000) % 1024)

def dumpsString (text : String) : List Char :=
  '"' :: (text.toList.flatMap escapeChar ++ ['"'])

def joined (parts : List (List Char)) : List Char := (parts.intersperse [',']).flatten

def sortedFields (fields : List (String × List Char)) : List (String × List Char) :=
  fields.mergeSort (fun first second => decide (first.1 ≤ second.1))

mutual

def dumpsChars (formatFloat : Rat → String) : Json → List Char
  | null => "null".toList
  | bool true => "true".toList
  | bool false => "false".toList
  | int value => (toString value).toList
  | float value => (formatFloat value).toList
  | str value => dumpsString value
  | arr items => '[' :: (joined (dumpsItems formatFloat items) ++ [']'])
  | obj fields =>
      let written := (sortedFields (dumpsFields formatFloat fields)).map
        (fun (name, value) => dumpsString name ++ ':' :: value)
      '\x7b' :: (joined written ++ ['\x7d'])

def dumpsItems (formatFloat : Rat → String) : List Json → List (List Char)
  | [] => []
  | item :: items => dumpsChars formatFloat item :: dumpsItems formatFloat items

def dumpsFields (formatFloat : Rat → String) : List (String × Json) → List (String × List Char)
  | [] => []
  | (name, value) :: fields =>
      (name, dumpsChars formatFloat value) :: dumpsFields formatFloat fields

end

/-- `json.dumps(value, sort_keys=True, separators=(",", ":"))`. -/
def dumps (formatFloat : Rat → String) (value : Json) : String :=
  String.ofList (dumpsChars formatFloat value)

end Json
