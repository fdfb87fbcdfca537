import Mathlib.Data.Option.Basic

/-! Decimal text: what `str.isdigit` and `int` make of it, over any character database, and
that the numerals Python prints are read back. -/

namespace Text

/-- What `str` methods ask the character database. The digits of ASCII are digits. -/
structure Unicode where
  isAlnum : Char → Bool
  isDigit : Char → Bool
  decimal : Char → Option Nat
  lower : String → String
  ascii_isDigit : ∀ digit < 10, isDigit (Nat.digitChar digit) = true
  ascii_decimal : ∀ digit < 10, decimal (Nat.digitChar digit) = some digit

namespace Unicode

variable (unicode : Unicode)

/-- `text.isdigit()`. -/
def isdigit (text : List Char) : Bool := !text.isEmpty && text.all unicode.isDigit

/-- Read the digits after those that denote `value`. -/
def readDigits (value : Nat) : List Char → Option Nat
  | [] => some value
  | char :: rest => (unicode.decimal char).bind (fun digit => readDigits (10 * value + digit) rest)

/-- `int(text)` of a text that is all digits; `none` where one of them is not decimal. There
is no limit on how many there are. -/
def int? (text : List Char) : Option Nat := readDigits unicode 0 text

variable {unicode}

theorem readDigits_append (value : Nat) (first second : List Char) :
    unicode.readDigits value (first ++ second) =
      (unicode.readDigits value first).bind (fun read => unicode.readDigits read second) := by
  induction first generalizing value with
  | nil => rfl
  | cons char rest ih =>
      simp only [List.cons_append, readDigits]
      cases unicode.decimal char with
      | none => rfl
      | some digit => exact ih (10 * value + digit)

theorem readDigits_digit {digit : Nat} (small : digit < 10) (value : Nat) :
    unicode.readDigits value [Nat.digitChar digit] = some (10 * value + digit) := by
  simp only [readDigits, unicode.ascii_decimal digit small, Option.bind_some]

/-- The induction over the printed digits of a number: the last one, and those before it. -/
theorem int?_toDigits (number : Nat) : unicode.int? (Nat.toDigits 10 number) = some number := by
  induction number using Nat.strongRecOn with
  | ind number ih =>
      rcases Nat.lt_or_ge number 10 with small | large
      · rw [Nat.toDigits_of_lt_base small, int?, readDigits_digit small]
        simp
      · rw [Nat.toDigits_of_base_le (by decide) large, int?, readDigits_append]
        have shorter : number / 10 < number := Nat.div_lt_self (by omega) (by decide)
        rw [show unicode.readDigits 0 (Nat.toDigits 10 (number / 10)) = some (number / 10) from
          ih (number / 10) shorter, Option.bind_some,
          readDigits_digit (Nat.mod_lt number (by decide)), Nat.div_add_mod]

theorem isDigit_toDigits (number : Nat) :
    ∀ char ∈ Nat.toDigits 10 number, unicode.isDigit char = true := by
  induction number using Nat.strongRecOn with
  | ind number ih =>
      intro char member
      rcases Nat.lt_or_ge number 10 with small | large
      · rw [Nat.toDigits_of_lt_base small, List.mem_singleton] at member
        rw [member]
        exact unicode.ascii_isDigit number small
      · rw [Nat.toDigits_of_base_le (by decide) large, List.mem_append, List.mem_singleton]
          at member
        rcases member with earlier | last
        · exact ih (number / 10) (Nat.div_lt_self (by omega) (by decide)) char earlier
        · rw [last]
          exact unicode.ascii_isDigit _ (Nat.mod_lt number (by decide))

theorem isdigit_toDigits (number : Nat) : unicode.isdigit (Nat.toDigits 10 number) = true := by
  have filled : (Nat.toDigits 10 number).isEmpty = false :=
    List.isEmpty_eq_false_iff.mpr Nat.toDigits_ne_nil
  rw [isdigit, filled]
  exact List.all_eq_true.mpr (isDigit_toDigits number)

theorem int?_isSome {text : List Char} :
    (unicode.int? text).isSome = true ↔ ∀ char ∈ text, (unicode.decimal char).isSome = true := by
  rw [int?]
  generalize 0 = value
  induction text generalizing value with
  | nil => simp [readDigits]
  | cons char rest ih =>
      rw [readDigits, List.forall_mem_cons]
      cases unicode.decimal char with
      | none => simp
      | some digit => simpa using ih (10 * value + digit)

/-- What is documented of the character database: no character of ASCII is a digit but the
digits, and what is decimal is a digit. -/
structure Documented (unicode : Unicode) : Prop where
  ascii : ∀ char : Char, char.toNat < 128 → unicode.isDigit char = char.isDigit
  decimal : ∀ char, (unicode.decimal char).isSome = true → unicode.isDigit char = true

theorem Documented.not_mem (documented : unicode.Documented) {text : List Char}
    (digits : unicode.isdigit text = true) {char : Char} (ascii : char.toNat < 128)
    (odd : char.isDigit = false) : char ∉ text := by
  intro member
  have all := (Bool.and_eq_true_iff.mp digits).2
  have digit := List.all_eq_true.mp all char member
  rw [documented.ascii char ascii, odd] at digit
  cases digit

end Unicode

def asciiUnicode : Unicode where
  isAlnum := Char.isAlphanum
  isDigit := Char.isDigit
  decimal := fun char => if char.isDigit then some (char.toNat - 48) else none
  lower := fun text => text.toLower
  ascii_isDigit := by decide
  ascii_decimal := by decide

theorem asciiUnicode_documented : asciiUnicode.Documented where
  ascii := fun _ _ => rfl
  decimal := by
    intro char decimal
    by_cases digit : char.isDigit = true
    · exact digit
    · simp [asciiUnicode, digit] at decimal

end Text
