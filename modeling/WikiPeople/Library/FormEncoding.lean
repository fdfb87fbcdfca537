import Mathlib.Algebra.GroupWithZero.Nat
import Mathlib.Tactic.Common

/-! Parameters on one line as `application/x-www-form-urlencoded` writes them, and how long
the line gets. -/

namespace FormEncoding

/-- The characters that `quote_plus` leaves as they are. -/
def unreserved (char : Char) : Bool := char.isAlphanum || char ∈ ['_', '.', '-', '~']

def upperHexDigit (digit : Nat) : Char := Char.ofNat (if digit < 10 then digit + 48 else digit + 55)

def quoteByte (byte : UInt8) : List Char :=
  ['%', upperHexDigit (byte.toNat / 16), upperHexDigit (byte.toNat % 16)]

def quoteChar (char : Char) : List Char :=
  if char = ' ' then ['+']
  else if unreserved char then [char]
  else (String.utf8EncodeChar char).flatMap quoteByte

def quotePlus (text : String) : String := String.ofList (text.toList.flatMap quoteChar)

/-- `quote(text, safe="")`: a space is escaped like any other character. -/
def quote (text : String) : String :=
  String.ofList (text.toList.flatMap fun char =>
    if unreserved char then [char] else (String.utf8EncodeChar char).flatMap quoteByte)

def field (param : String × String) : String := quotePlus param.1 ++ "=" ++ quotePlus param.2

def urlencode (params : List (String × String)) : String := "&".intercalate (params.map field)

example : quotePlus "a b|Т" = "a+b%7C%D0%A2" := by decide
example : quote "AC/DC É" = "AC%2FDC%20%C3%89" := by decide

/-- Three characters for each byte of a character that is not left as it is. -/
def charWidth (char : Char) : Nat :=
  if char = ' ' || unreserved char then 1 else 3 * char.utf8Size

def width (text : String) : Nat := (text.toList.map charWidth).sum

theorem length_quoteByte (byte : UInt8) : (quoteByte byte).length = 3 := rfl

theorem length_quoteChar (char : Char) : (quoteChar char).length = charWidth char := by
  rw [quoteChar, charWidth]
  by_cases blank : char = ' '
  · simp [blank]
  · cases kept : unreserved char with
    | true => simp [blank]
    | false =>
        simp only [blank, decide_false, Bool.or_self, Bool.false_eq_true, if_false,
          List.length_flatMap, length_quoteByte]
        rw [List.map_const', List.sum_replicate_nat, String.length_utf8EncodeChar, Nat.mul_comm]

@[simp] theorem length_quotePlus (text : String) : (quotePlus text).length = width text := by
  rw [quotePlus, String.length_ofList, List.length_flatMap, width]
  exact congrArg List.sum (List.map_congr_left (fun char _ => length_quoteChar char))

def byteCount (text : String) : Nat := (text.toList.map Char.utf8Size).sum

theorem charWidth_le (char : Char) : charWidth char ≤ 3 * char.utf8Size := by
  have positive := char.utf8Size_pos
  rw [charWidth]
  split <;> omega

theorem width_le (text : String) : width text ≤ 3 * byteCount text := by
  rw [width, byteCount]
  induction text.toList with
  | nil => exact Nat.le_refl _
  | cons char rest ih =>
      have head := charWidth_le char
      simp only [List.map_cons, List.sum_cons]
      omega

theorem measure_intercalate {measure : String → Nat}
    (additive : ∀ left right, measure (left ++ right) = measure left + measure right)
    (separator : String) {texts : List String} (filled : texts ≠ []) :
    measure (separator.intercalate texts) + measure separator =
      (texts.map (fun text => measure text + measure separator)).sum := by
  induction texts with
  | nil => exact absurd rfl filled
  | cons text texts ih =>
      cases texts with
      | nil => simp
      | cons next texts =>
          have joined := ih (List.cons_ne_nil next texts)
          rw [String.intercalate_cons_cons, additive, additive, List.map_cons, List.sum_cons,
            ← joined]
          omega

theorem width_append (left right : String) : width (left ++ right) = width left + width right := by
  simp [width]

theorem length_urlencode {params : List (String × String)} (filled : params ≠ []) :
    (urlencode params).length + 1 =
      (params.map (fun param => width param.1 + width param.2 + 2)).sum := by
  have joined := @measure_intercalate String.length String.length_append "&"
    (params.map field) (by simpa using filled)
  rw [List.map_map] at joined
  refine joined.trans (congrArg List.sum (List.map_congr_left ?_))
  intro param _
  change (quotePlus param.1 ++ "=" ++ quotePlus param.2).length + 1 = _
  rw [String.length_append, String.length_append, length_quotePlus, length_quotePlus]
  change width param.1 + 1 + width param.2 + 1 = _
  omega

end FormEncoding
