import WikiPeople.Library.Json
import WikiPeople.Library.Lines
import WikiPeople.Library.Numerals
import Mathlib.Data.List.Nodup

/-! The canonical text of a JSON value determines the value up to the order of fields. -/

namespace Json

section Characters

def hexValue (char : Char) : Nat :=
  if char.toNat < 58 then char.toNat - 48 else char.toNat - 87

theorem hexValue_hexDigit : ∀ digit < 16, hexValue (hexDigit digit) = digit := by decide

def hexCode (first second third fourth : Char) : Nat :=
  4096 * hexValue first + 256 * hexValue second + 16 * hexValue third + hexValue fourth

theorem hexCode_hexEscape {code : Nat} (small : code < 0x10000) :
    hexCode (hexDigit (code / 4096 % 16)) (hexDigit (code / 256 % 16))
      (hexDigit (code / 16 % 16)) (hexDigit (code % 16)) = code := by
  have digit (number : Nat) : hexValue (hexDigit (number % 16)) = number % 16 :=
    hexValue_hexDigit _ (Nat.mod_lt _ (by decide))
  rw [hexCode, digit, digit, digit, digit]
  omega

/-- Read one character of a string back, with what follows it. -/
def unescape : List Char → Option (Char × List Char)
  | '\\' :: 'u' :: first :: second :: third :: fourth :: rest =>
      let code := hexCode first second third fourth
      if 0xD800 ≤ code ∧ code < 0xDC00 then
        match rest with
        | _ :: _ :: fifth :: sixth :: seventh :: eighth :: rest =>
            let low := hexCode fifth sixth seventh eighth
            some (Char.ofNat (0x10000 + (code - 0xD800) * 1024 + (low - 0xDC00)), rest)
        | _ => none
      else some (Char.ofNat code, rest)
  | '\\' :: 'n' :: rest => some ('\n', rest)
  | '\\' :: 'r' :: rest => some ('\r', rest)
  | '\\' :: 't' :: rest => some ('\t', rest)
  | '\\' :: 'b' :: rest => some (Char.ofNat 8, rest)
  | '\\' :: 'f' :: rest => some (Char.ofNat 12, rest)
  | '\\' :: char :: rest => some (char, rest)
  | char :: rest => some (char, rest)
  | [] => none

theorem toNat_valid (char : Char) :
    char.toNat < 0xD800 ∨ (0xDFFF < char.toNat ∧ char.toNat < 0x110000) := by
  have valid := char.valid
  simpa [UInt32.isValidChar, Nat.isValidChar] using valid

theorem unescape_hexEscape {code : Nat} (small : code < 0x10000)
    (scalar : code < 0xD800 ∨ 0xDFFF < code) (rest : List Char) :
    unescape (hexEscape code ++ rest) = some (Char.ofNat code, rest) := by
  have single : ¬ (0xD800 ≤ code ∧ code < 0xDC00) := by omega
  simp only [hexEscape, List.cons_append, List.nil_append, unescape, hexCode_hexEscape small,
    if_neg single]

theorem unescape_surrogates {code : Nat} (past : 0x10000 ≤ code) (inside : code < 0x110000)
    (rest : List Char) :
    unescape (hexEscape (0xD800 + (code - 0x10000) / 1024) ++
      hexEscape (0xDC00 + (code - 0x10000) % 1024) ++ rest) = some (Char.ofNat code, rest) := by
  have high : 0xD800 + (code - 0x10000) / 1024 < 0xDC00 := by omega
  have low : 0xDC00 + (code - 0x10000) % 1024 < 0x10000 := by omega
  have pair : 0x10000 + (0xD800 + (code - 0x10000) / 1024 - 0xD800) * 1024 +
      (0xDC00 + (code - 0x10000) % 1024 - 0xDC00) = code := by omega
  simp only [hexEscape, List.cons_append, List.nil_append, unescape,
    hexCode_hexEscape (Nat.lt_trans high (by decide)), hexCode_hexEscape low]
  rw [if_pos ⟨Nat.le_add_right _ _, high⟩, pair]

theorem unescape_plain {char : Char} (plain : char ≠ '\\') (rest : List Char) :
    unescape (char :: rest) = some (char, rest) := by
  unfold unescape
  split <;> simp_all

theorem unescape_escapeChar (char : Char) (rest : List Char) :
    unescape (escapeChar char ++ rest) = some (char, rest) := by
  have back : Char.ofNat char.toNat = char := Char.ofNat_toNat char
  have valid := toNat_valid char
  unfold escapeChar
  dsimp only
  by_cases quote : char = '"'
  · subst quote
    rfl
  rw [if_neg quote]
  by_cases backslash : char = '\\'
  · subst backslash
    rfl
  rw [if_neg backslash]
  by_cases newline : char = '\n'
  · subst newline
    rfl
  rw [if_neg newline]
  by_cases carriage : char = '\r'
  · subst carriage
    rfl
  rw [if_neg carriage]
  by_cases tab : char = '\t'
  · subst tab
    rfl
  rw [if_neg tab]
  by_cases backspace : char.toNat = 8
  · rw [if_pos backspace, ← back, backspace]
    rfl
  rw [if_neg backspace]
  by_cases formFeed : char.toNat = 12
  · rw [if_pos formFeed, ← back, formFeed]
    rfl
  rw [if_neg formFeed]
  by_cases ascii : 32 ≤ char.toNat ∧ char.toNat ≤ 126
  · rw [if_pos ascii]
    exact unescape_plain backslash rest
  rw [if_neg ascii]
  by_cases basic : char.toNat < 0x10000
  · rw [if_pos basic, unescape_hexEscape basic (valid.imp_right And.left), back]
  · have past : 0x10000 ≤ char.toNat := Nat.le_of_not_lt basic
    rw [if_neg basic, unescape_surrogates past (by omega), back]

theorem escapeChar_head (char : Char) :
    ∃ first rest, escapeChar char = first :: rest ∧ first ≠ '"' := by
  have read := unescape_escapeChar char []
  rw [List.append_nil] at read
  cases escaped : escapeChar char with
  | nil =>
      rw [escaped] at read
      cases read
  | cons first rest =>
      refine ⟨first, rest, rfl, ?_⟩
      rintro rfl
      rw [escaped, unescape_plain (by decide), Option.some.injEq, Prod.mk.injEq] at read
      rw [← read.1] at escaped
      cases escaped

theorem escaped_unique {first second rest other : List Char}
    (same : first.flatMap escapeChar ++ '"' :: rest = second.flatMap escapeChar ++ '"' :: other) :
    first = second ∧ rest = other := by
  induction first generalizing second with
  | nil =>
      cases second with
      | nil => exact ⟨rfl, List.tail_eq_of_cons_eq same⟩
      | cons char second =>
          obtain ⟨head, tail, escaped, bare⟩ := escapeChar_head char
          rw [List.flatMap_cons, escaped] at same
          exact absurd (List.head_eq_of_cons_eq same).symm bare
  | cons char first ih =>
      cases second with
      | nil =>
          obtain ⟨head, tail, escaped, bare⟩ := escapeChar_head char
          rw [List.flatMap_cons, escaped] at same
          exact absurd (List.head_eq_of_cons_eq same) bare
      | cons next second =>
          rw [List.flatMap_cons, List.flatMap_cons, List.append_assoc, List.append_assoc] at same
          have read := congrArg unescape same
          rw [unescape_escapeChar, unescape_escapeChar, Option.some.injEq, Prod.mk.injEq] at read
          obtain ⟨sameBody, sameRest⟩ := ih read.2
          exact ⟨by rw [read.1, sameBody], sameRest⟩

theorem dumpsString_unique {first second : String} {rest other : List Char}
    (same : dumpsString first ++ rest = dumpsString second ++ other) :
    first = second ∧ rest = other := by
  simp only [dumpsString, List.cons_append, List.append_assoc, List.nil_append] at same
  obtain ⟨body, after⟩ := escaped_unique (List.tail_eq_of_cons_eq same)
  exact ⟨String.toList_inj.mp body, after⟩

end Characters

section Numbers

def isNumberChar (char : Char) : Bool :=
  char.isDigit || char = '-' || char = '+' || char = '.' || char = 'e'

/-- What floats are spelled like: in the characters of numbers, each in its own way, and never
as an integer is. -/
structure NumberText (formatFloat : Rat → String) : Prop where
  written : ∀ value, ∀ char ∈ (formatFloat value).toList, isNumberChar char = true
  visible : ∀ value, formatFloat value ≠ ""
  injective : ∀ first second, formatFloat first = formatFloat second → first = second
  fractional : ∀ value (number : Int), formatFloat value ≠ toString number

def Ends (rest : List Char) : Prop :=
  ∀ char ∈ rest.head?, isNumberChar char = false

theorem ends_cons {char : Char} (stops : isNumberChar char = false) (rest : List Char) :
    Ends (char :: rest) := by
  intro next first
  cases first
  exact stops

theorem toList_toString (value : Int) :
    (toString value).toList =
      if value < 0 then '-' :: Nat.toDigits 10 value.natAbs else Nat.toDigits 10 value.natAbs := by
  cases value with
  | ofNat number => simp [toString, Int.repr]
  | negSucc number => simp [toString, Int.repr]

theorem int_written (value : Int) :
    ∀ char ∈ (toString value).toList, isNumberChar char = true := by
  have digits (number : Nat) : ∀ char ∈ Nat.toDigits 10 number, isNumberChar char = true := by
    intro char member
    simp [isNumberChar, Nat.isDigit_of_mem_toDigits (by decide) (by decide) member]
  rw [toList_toString]
  split
  · intro char member
    rcases List.mem_cons.mp member with sign | digit
    · rw [sign]
      decide
    · exact digits _ char digit
  · exact digits _

theorem toDigits_visible (number : Nat) : Nat.toDigits 10 number ≠ [] := by
  have positive := @Nat.length_toDigits_pos 10 number
  intro empty
  rw [empty] at positive
  cases positive

theorem int_visible (value : Int) : toString value ≠ "" := by
  intro empty
  have text := toList_toString value
  rw [empty] at text
  split at text
  · cases text
  · exact toDigits_visible _ text.symm

theorem toDigits_injective {first second : Nat}
    (same : Nat.toDigits 10 first = Nat.toDigits 10 second) : first = second := by
  have read := congrArg Text.asciiUnicode.int? same
  rw [Text.Unicode.int?_toDigits, Text.Unicode.int?_toDigits] at read
  exact Option.some.inj read

theorem toDigits_unsigned {number : Nat} {rest : List Char} :
    Nat.toDigits 10 number ≠ '-' :: rest := by
  intro signed
  have digit := @Nat.isDigit_of_mem_toDigits 10 number '-' (by decide) (by decide)
    (by rw [signed]; exact List.mem_cons_self)
  cases digit

theorem int_injective {first second : Int} (same : toString first = toString second) :
    first = second := by
  have texts := congrArg String.toList same
  rw [toList_toString, toList_toString] at texts
  split at texts <;> split at texts
  · have sizes := toDigits_injective (List.tail_eq_of_cons_eq texts)
    omega
  · exact absurd texts.symm toDigits_unsigned
  · exact absurd texts toDigits_unsigned
  · have sizes := toDigits_injective texts
    omega

theorem number_unique {first second rest other : List Char}
    (firstWritten : ∀ char ∈ first, isNumberChar char = true)
    (secondWritten : ∀ char ∈ second, isNumberChar char = true) (ends : Ends rest)
    (otherEnds : Ends other) (same : first ++ rest = second ++ other) :
    first = second ∧ rest = other := by
  have heads : first = second := by
    rw [← Text.takeWhile_run firstWritten ends, same, Text.takeWhile_run secondWritten otherEnds]
  subst heads
  exact ⟨rfl, List.append_cancel_left same⟩

end Numbers

section Joined

/-- What stands behind an item of a list: the end of the list, or a comma and the others. -/
def remainder (close : Char) (parts : List (List Char)) (rest : List Char) : List Char :=
  match parts with
  | [] => close :: rest
  | part :: parts => ',' :: (joined (part :: parts) ++ close :: rest)

theorem joined_cons (close : Char) (part : List Char) (parts : List (List Char))
    (rest : List Char) :
    joined (part :: parts) ++ close :: rest = part ++ remainder close parts rest := by
  cases parts with
  | nil => simp [joined, remainder]
  | cons next parts => simp [joined, remainder]

theorem remainder_ends {close : Char} (closes : isNumberChar close = false)
    (parts : List (List Char)) (rest : List Char) : Ends (remainder close parts rest) := by
  cases parts with
  | nil => exact ends_cons closes rest
  | cons part parts => exact ends_cons (by decide) _

theorem joined_unique {Item : Type} {write : Item → List Char} {alike : Item → Item → Prop}
    {close : Char} (closes : isNumberChar close = false) (bare : close ≠ ',')
    {items others : List Item} {rest after : List Char}
    (opens : ∀ item, ∃ first tail, write item = first :: tail ∧ first ≠ close)
    (reads : ∀ item ∈ items, ∀ other ∈ others, ∀ left right, Ends left → Ends right →
      write item ++ left = write other ++ right → alike item other ∧ left = right)
    (same : joined (items.map write) ++ close :: rest =
      joined (others.map write) ++ close :: after) :
    List.Forall₂ alike items others ∧ rest = after := by
  have unopened (item : Item) (left right : List Char) : write item ++ left ≠ close :: right := by
    obtain ⟨first, tail, written, distinct⟩ := opens item
    rw [written]
    intro equal
    exact distinct (List.head_eq_of_cons_eq equal)
  induction items generalizing others with
  | nil =>
      cases others with
      | nil => exact ⟨.nil, List.tail_eq_of_cons_eq same⟩
      | cons other others =>
          rw [List.map_cons, joined_cons] at same
          exact absurd same.symm (unopened other _ _)
  | cons item items ih =>
      cases others with
      | nil =>
          rw [List.map_cons, joined_cons] at same
          exact absurd same (unopened item _ _)
      | cons other others =>
          rw [List.map_cons, List.map_cons, joined_cons, joined_cons] at same
          obtain ⟨first, left⟩ := reads item List.mem_cons_self other List.mem_cons_self _ _
            (remainder_ends closes _ _) (remainder_ends closes _ _) same
          cases items with
          | nil =>
              cases others with
              | nil => exact ⟨.cons first .nil, List.tail_eq_of_cons_eq left⟩
              | cons next others => exact absurd (List.head_eq_of_cons_eq left) bare
          | cons second items =>
              cases others with
              | nil => exact absurd (List.head_eq_of_cons_eq left).symm bare
              | cons next others =>
                  obtain ⟨follow, tails⟩ := ih
                    (fun inner member outer present => reads inner (List.mem_cons_of_mem _ member)
                      outer (List.mem_cons_of_mem _ present))
                    (List.tail_eq_of_cons_eq left)
                  exact ⟨.cons first follow, tails⟩

end Joined

section Values

@[elab_as_elim]
theorem induct {motive : Json → Prop} (null : motive .null) (bool : ∀ value, motive (.bool value))
    (int : ∀ value, motive (.int value)) (float : ∀ value, motive (.float value))
    (str : ∀ value, motive (.str value))
    (arr : ∀ items, (∀ item ∈ items, motive item) → motive (.arr items))
    (obj : ∀ fields, (∀ field ∈ fields, motive field.2) → motive (.obj fields)) (value : Json) :
    motive value :=
  @Json.rec motive (fun items => ∀ item ∈ items, motive item)
    (fun fields => ∀ field ∈ fields, motive field.2) (fun field => motive field.2)
    null bool int float str arr obj
    (fun _ member => absurd member List.not_mem_nil)
    (fun _ _ first rest => List.forall_mem_cons.mpr ⟨first, rest⟩)
    (fun _ member => absurd member List.not_mem_nil)
    (fun _ _ first rest => List.forall_mem_cons.mpr ⟨first, rest⟩)
    (fun _ _ inner => inner) value

inductive WellFormed : Json → Prop
  | null : WellFormed null
  | bool (value : Bool) : WellFormed (bool value)
  | int (value : Int) : WellFormed (int value)
  | float (value : Rat) : WellFormed (float value)
  | str (value : String) : WellFormed (str value)
  | arr (items : List Json) (each : ∀ item ∈ items, WellFormed item) : WellFormed (arr items)
  | obj (fields : List (String × Json)) (names : (fields.map Prod.fst).Nodup)
      (each : ∀ field ∈ fields, WellFormed field.2) : WellFormed (obj fields)

theorem WellFormed.items {items : List Json} (formed : (Json.arr items).WellFormed) :
    ∀ item ∈ items, item.WellFormed := by
  cases formed with
  | arr items each => exact each

theorem WellFormed.fields {fields : List (String × Json)} (formed : (Json.obj fields).WellFormed) :
    (fields.map Prod.fst).Nodup ∧ ∀ field ∈ fields, field.2.WellFormed := by
  cases formed with
  | obj fields names each => exact ⟨names, each⟩

/-- Equal as values: the order of the fields of an object does not count, at any depth. -/
inductive Same : Json → Json → Prop
  | refl (value : Json) : Same value value
  | trans {first second third : Json} (before : Same first second) (after : Same second third) :
      Same first third
  | item (before after : List Json) {old new : Json} (same : Same old new) :
      Same (arr (before ++ old :: after)) (arr (before ++ new :: after))
  | field (before after : List (String × Json)) (name : String) {old new : Json}
      (same : Same old new) :
      Same (obj (before ++ (name, old) :: after)) (obj (before ++ (name, new) :: after))
  | reorder {fields others : List (String × Json)} (moved : fields.Perm others)
      (names : (fields.map Prod.fst).Nodup) : Same (obj fields) (obj others)

variable {formatFloat : Rat → String}

theorem dumpsItems_eq (items : List Json) :
    dumpsItems formatFloat items = items.map (dumpsChars formatFloat) := by
  induction items with
  | nil => rw [dumpsItems, List.map_nil]
  | cons item items ih => rw [dumpsItems, List.map_cons, ih]

theorem dumpsFields_eq (fields : List (String × Json)) :
    dumpsFields formatFloat fields =
      fields.map (fun field => (field.1, dumpsChars formatFloat field.2)) := by
  induction fields with
  | nil => rw [dumpsFields, List.map_nil]
  | cons field fields ih => rw [dumpsFields, List.map_cons, ih]

def byName (first second : String × Json) : Bool := decide (first.1 ≤ second.1)

def writeField (formatFloat : Rat → String) (field : String × Json) : List Char :=
  dumpsString field.1 ++ ':' :: dumpsChars formatFloat field.2

theorem dumpsChars_arr (items : List Json) :
    dumpsChars formatFloat (arr items) =
      '[' :: (joined (items.map (dumpsChars formatFloat)) ++ [']']) := by
  rw [dumpsChars, dumpsItems_eq]

theorem dumpsChars_obj (fields : List (String × Json)) :
    dumpsChars formatFloat (obj fields) =
      '\x7b' :: (joined ((fields.mergeSort byName).map (writeField formatFloat)) ++ ['\x7d']) := by
  have sorts := List.map_mergeSort (r := byName) (l := fields)
    (f := fun field : String × Json => (field.1, dumpsChars formatFloat field.2))
    (s := fun first second => decide (first.1 ≤ second.1)) (fun _ _ _ _ => rfl)
  rw [dumpsChars, dumpsFields_eq, sortedFields, ← sorts, List.map_map]
  rfl

section Sorting

variable {fields others : List (String × Json)}

theorem sorted_byName (fields : List (String × Json)) :
    (fields.mergeSort byName).Pairwise (fun first second => first.1 ≤ second.1) := by
  have sorted : (fields.mergeSort byName).Pairwise (fun first second => byName first second) := by
    apply List.pairwise_mergeSort
    · intro first second third before after
      simp only [byName, decide_eq_true_eq] at *
      exact String.le_trans before after
    · intro first second
      simp only [byName, Bool.or_eq_true, decide_eq_true_eq]
      exact String.le_total first.1 second.1
  exact sorted.imp (fun ordered => of_decide_eq_true ordered)

theorem sorted_perm (moved : fields.Perm others) (names : (fields.map Prod.fst).Nodup) :
    fields.mergeSort byName = others.mergeSort byName := by
  have sorts := List.mergeSort_perm fields byName
  refine List.Perm.eq_of_pairwise ?_ (sorted_byName fields) (sorted_byName others)
    ((sorts.trans moved).trans (List.mergeSort_perm others byName).symm)
  intro first second present member before after
  have same : first.1 = second.1 := String.le_antisymm before after
  refine List.inj_on_of_nodup_map names (sorts.mem_iff.mp present) ?_ same
  exact moved.mem_iff.mpr ((List.mergeSort_perm others byName).mem_iff.mp member)

end Sorting

theorem Same.items (before : List Json) {items others : List Json}
    (each : List.Forall₂ Same items others) :
    Same (arr (before ++ items)) (arr (before ++ others)) := by
  induction each generalizing before with
  | nil => exact .refl _
  | @cons item other items others first rest ih =>
      have next := ih (before ++ [other])
      rw [List.append_assoc, List.append_assoc] at next
      exact .trans (.item before items first) next

def SameField (field other : String × Json) : Prop :=
  field.1 = other.1 ∧ Same field.2 other.2

theorem Same.fields (before : List (String × Json)) {fields others : List (String × Json)}
    (each : List.Forall₂ SameField fields others) :
    Same (obj (before ++ fields)) (obj (before ++ others)) := by
  induction each generalizing before with
  | nil => exact .refl _
  | @cons field other fields others first rest ih =>
      have next := ih (before ++ [other])
      rw [List.append_assoc, List.append_assoc] at next
      obtain ⟨name, value⟩ := other
      obtain ⟨rfl, same⟩ := first
      exact .trans (.field before fields field.1 same) next

end Values

section Unique

variable {formatFloat : Rat → String}

theorem same_dumpsChars {first second : Json} (same : Same first second) :
    dumpsChars formatFloat first = dumpsChars formatFloat second := by
  induction same with
  | refl value => rfl
  | trans before after ih next => exact ih.trans next
  | item before after same ih => simp only [dumpsChars_arr, List.map_append, List.map_cons, ih]
  | field before after name same ih =>
      simp only [dumpsChars, dumpsFields_eq, List.map_append, List.map_cons, ih]
  | reorder moved names => rw [dumpsChars_obj, dumpsChars_obj, sorted_perm moved names]

def kind (char : Char) : Char := if isNumberChar char then '0' else char

/-- What the text of a value starts with, where one digit stands for every number. -/
def opener : Json → Char
  | null => 'n'
  | bool true => 't'
  | bool false => 'f'
  | int _ => '0'
  | float _ => '0'
  | str _ => '"'
  | arr _ => '['
  | obj _ => '\x7b'

theorem number_opens {text : List Char} (visible : text ≠ [])
    (written : ∀ char ∈ text, isNumberChar char = true) :
    ∃ first tail, text = first :: tail ∧ kind first = '0' := by
  cases text with
  | nil => exact absurd rfl visible
  | cons first tail => exact ⟨first, tail, rfl, if_pos (written first List.mem_cons_self)⟩

theorem toList_visible {text : String} (visible : text ≠ "") : text.toList ≠ [] := by
  intro empty
  exact visible (String.toList_inj.mp empty)

theorem dumpsChars_opens (numbers : NumberText formatFloat) (value : Json) :
    ∃ first tail, dumpsChars formatFloat value = first :: tail ∧ kind first = opener value := by
  cases value with
  | null => exact ⟨'n', _, rfl, rfl⟩
  | bool value => cases value <;> exact ⟨_, _, rfl, rfl⟩
  | int value => exact number_opens (toList_visible (int_visible value)) (int_written value)
  | float value =>
      exact number_opens (toList_visible (numbers.visible value)) (numbers.written value)
  | str value => exact ⟨'"', _, rfl, rfl⟩
  | arr items => exact ⟨'[', _, by rw [dumpsChars], rfl⟩
  | obj fields => exact ⟨'\x7b', _, by rw [dumpsChars], rfl⟩

theorem dumpsChars_open (numbers : NumberText formatFloat) (value : Json) :
    ∃ first tail, dumpsChars formatFloat value = first :: tail ∧ first ≠ ']' := by
  obtain ⟨first, tail, written, shape⟩ := dumpsChars_opens numbers value
  refine ⟨first, tail, written, ?_⟩
  rintro rfl
  rw [show kind ']' = ']' from rfl] at shape
  cases value with
  | bool value => cases value <;> simp [opener] at shape
  | _ => simp [opener] at shape

theorem opener_same (numbers : NumberText formatFloat) {value other : Json}
    {rest after : List Char}
    (same : dumpsChars formatFloat value ++ rest = dumpsChars formatFloat other ++ after) :
    opener value = opener other := by
  obtain ⟨first, tail, written, valueKind⟩ := dumpsChars_opens numbers value
  obtain ⟨second, others, spelled, otherKind⟩ := dumpsChars_opens numbers other
  rw [written, spelled] at same
  rw [← valueKind, ← otherKind, List.head_eq_of_cons_eq same]

/-- What is said of a value by the induction: its text is read back as nothing else. -/
def Unique (formatFloat : Rat → String) (value : Json) : Prop :=
  ∀ other : Json, value.WellFormed → other.WellFormed → ∀ rest after, Ends rest → Ends after →
    dumpsChars formatFloat value ++ rest = dumpsChars formatFloat other ++ after →
      Same value other ∧ rest = after

theorem writeField_unique {field other : String × Json} (inner : Unique formatFloat field.2)
    (formed : field.2.WellFormed) (otherFormed : other.2.WellFormed) {rest after : List Char}
    (ends : Ends rest) (afterEnds : Ends after)
    (same : writeField formatFloat field ++ rest = writeField formatFloat other ++ after) :
    SameField field other ∧ rest = after := by
  rw [writeField, writeField, List.append_assoc, List.append_assoc] at same
  obtain ⟨names, values⟩ := dumpsString_unique same
  obtain ⟨equal, tails⟩ := inner other.2 formed otherFormed rest after ends afterEnds
    (List.tail_eq_of_cons_eq values)
  exact ⟨⟨names, equal⟩, tails⟩

theorem unique_arr (numbers : NumberText formatFloat) {items others : List Json}
    {rest after : List Char} (inner : ∀ item ∈ items, Unique formatFloat item)
    (formed : (arr items).WellFormed) (otherFormed : (arr others).WellFormed)
    (same : dumpsChars formatFloat (arr items) ++ rest =
      dumpsChars formatFloat (arr others) ++ after) :
    Same (arr items) (arr others) ∧ rest = after := by
  rw [dumpsChars_arr, dumpsChars_arr, List.cons_append, List.cons_append, List.append_assoc,
    List.append_assoc] at same
  have reads : ∀ item ∈ items, ∀ other ∈ others, ∀ left right, Ends left → Ends right →
      dumpsChars formatFloat item ++ left = dumpsChars formatFloat other ++ right →
        Same item other ∧ left = right := by
    intro item member other present
    exact inner item member other (formed.items item member) (otherFormed.items other present)
  obtain ⟨each, tails⟩ := joined_unique (by decide) (by decide) (dumpsChars_open numbers) reads
    (List.tail_eq_of_cons_eq same)
  exact ⟨Same.items [] each, tails⟩

theorem unique_obj {fields others : List (String × Json)} {rest after : List Char}
    (inner : ∀ field ∈ fields, Unique formatFloat field.2) (formed : (obj fields).WellFormed)
    (otherFormed : (obj others).WellFormed)
    (same : dumpsChars formatFloat (obj fields) ++ rest =
      dumpsChars formatFloat (obj others) ++ after) :
    Same (obj fields) (obj others) ∧ rest = after := by
  rw [dumpsChars_obj, dumpsChars_obj, List.cons_append, List.cons_append, List.append_assoc,
    List.append_assoc] at same
  obtain ⟨names, values⟩ := formed.fields
  obtain ⟨otherNames, otherValues⟩ := otherFormed.fields
  have sorts := List.mergeSort_perm fields byName
  have otherSorts := List.mergeSort_perm others byName
  have reads : ∀ field ∈ fields.mergeSort byName, ∀ other ∈ others.mergeSort byName,
      ∀ left right, Ends left → Ends right →
        writeField formatFloat field ++ left = writeField formatFloat other ++ right →
          SameField field other ∧ left = right := by
    intro field member other present left right
    have own := sorts.mem_iff.mp member
    exact writeField_unique (inner field own) (values field own)
      (otherValues other (otherSorts.mem_iff.mp present))
  have opens : ∀ field, ∃ first tail, writeField formatFloat field = first :: tail ∧
      first ≠ '\x7d' := fun field => ⟨'"', _, rfl, by decide⟩
  obtain ⟨each, tails⟩ := joined_unique (by decide) (by decide) opens reads
    (List.tail_eq_of_cons_eq same)
  have sortedNames : ((others.mergeSort byName).map Prod.fst).Nodup :=
    (otherSorts.map Prod.fst).nodup_iff.mpr otherNames
  have equal : Same (obj fields) (obj others) :=
    .trans (.reorder sorts.symm names)
      (.trans (Same.fields [] each) (.reorder otherSorts sortedNames))
  exact ⟨equal, tails⟩

section Openers

variable {value : Json}

theorem opener_null (opened : opener value = 'n') : value = null := by
  cases value with
  | null => rfl
  | bool value => cases value <;> simp [opener] at opened
  | _ => simp [opener] at opened

theorem opener_bool {flag : Bool} (opened : opener value = opener (bool flag)) :
    value = bool flag := by
  cases value with
  | bool value => cases value <;> cases flag <;> simp [opener] at opened <;> rfl
  | _ => cases flag <;> simp [opener] at opened

theorem opener_str (opened : opener value = '"') : ∃ text, value = str text := by
  cases value with
  | str text => exact ⟨text, rfl⟩
  | bool value => cases value <;> simp [opener] at opened
  | _ => simp [opener] at opened

theorem opener_arr (opened : opener value = '[') : ∃ items, value = arr items := by
  cases value with
  | arr items => exact ⟨items, rfl⟩
  | bool value => cases value <;> simp [opener] at opened
  | _ => simp [opener] at opened

theorem opener_obj (opened : opener value = '\x7b') : ∃ fields, value = obj fields := by
  cases value with
  | obj fields => exact ⟨fields, rfl⟩
  | bool value => cases value <;> simp [opener] at opened
  | _ => simp [opener] at opened

def numberText (formatFloat : Rat → String) : Json → Option String
  | int value => some (toString value)
  | float value => some (formatFloat value)
  | _ => none

theorem opener_number (numbers : NumberText formatFloat) (opened : opener value = '0') :
    ∃ text, numberText formatFloat value = some text ∧
      dumpsChars formatFloat value = text.toList ∧
        ∀ char ∈ text.toList, isNumberChar char = true := by
  cases value with
  | int number => exact ⟨_, rfl, rfl, int_written number⟩
  | float number => exact ⟨_, rfl, rfl, numbers.written number⟩
  | bool value => cases value <;> simp [opener] at opened
  | _ => simp [opener] at opened

theorem numberText_unique (numbers : NumberText formatFloat) {other : Json} {text : String}
    (spelled : numberText formatFloat value = some text)
    (again : numberText formatFloat other = some text) : value = other := by
  have same := spelled.trans again.symm
  cases value with
  | int number =>
      cases other with
      | int next => exact congrArg int (int_injective (Option.some.inj same))
      | float next => exact absurd (Option.some.inj same).symm (numbers.fractional next number)
      | _ => cases again
  | float number =>
      cases other with
      | int next => exact absurd (Option.some.inj same) (numbers.fractional number next)
      | float next => exact congrArg float (numbers.injective _ _ (Option.some.inj same))
      | _ => cases again
  | _ => cases spelled

end Openers

theorem unique_number (numbers : NumberText formatFloat) {value : Json}
    (number : opener value = '0') : Unique formatFloat value := by
  intro other formed otherFormed rest after ends afterEnds same
  have otherNumber := (opener_same numbers same).symm.trans number
  obtain ⟨text, spelled, dumped, written⟩ := opener_number numbers number
  obtain ⟨second, otherSpelled, otherDumped, otherWritten⟩ := opener_number numbers otherNumber
  rw [dumped, otherDumped] at same
  obtain ⟨texts, tails⟩ := number_unique written otherWritten ends afterEnds same
  rw [← String.toList_inj.mp texts] at otherSpelled
  rw [numberText_unique numbers spelled otherSpelled]
  exact ⟨.refl other, tails⟩

/-- A text in front of anything that does not go on with a number is read as one value. Its
first character tells the kind of the value. -/
theorem dumpsChars_unique (numbers : NumberText formatFloat) (value : Json) :
    Unique formatFloat value := by
  induction value using induct with
  | null =>
      intro other formed otherFormed rest after ends afterEnds same
      obtain rfl := opener_null (opener_same numbers same).symm
      exact ⟨.refl _, List.append_cancel_left same⟩
  | bool value =>
      intro other formed otherFormed rest after ends afterEnds same
      obtain rfl := opener_bool (opener_same numbers same).symm
      exact ⟨.refl _, List.append_cancel_left same⟩
  | int value => exact unique_number numbers rfl
  | float value => exact unique_number numbers rfl
  | str value =>
      intro other formed otherFormed rest after ends afterEnds same
      obtain ⟨text, rfl⟩ := opener_str (opener_same numbers same).symm
      obtain ⟨rfl, tails⟩ := dumpsString_unique same
      exact ⟨.refl _, tails⟩
  | arr items ih =>
      intro other formed otherFormed rest after ends afterEnds same
      obtain ⟨others, rfl⟩ := opener_arr (opener_same numbers same).symm
      exact unique_arr numbers ih formed otherFormed same
  | obj fields ih =>
      intro other formed otherFormed rest after ends afterEnds same
      obtain ⟨others, rfl⟩ := opener_obj (opener_same numbers same).symm
      exact unique_obj ih formed otherFormed same

/-- The canonical text tells values apart, and nothing but values. -/
theorem dumps_eq_iff (numbers : NumberText formatFloat) {first second : Json}
    (formed : first.WellFormed) (otherFormed : second.WellFormed) :
    dumps formatFloat first = dumps formatFloat second ↔ Same first second := by
  rw [dumps, dumps, String.ofList_inj]
  constructor
  · intro same
    have ends : Ends [] := fun char member => nomatch member
    exact (dumpsChars_unique numbers first second formed otherFormed [] [] ends ends
      (by rw [same])).1
  · exact same_dumpsChars

end Unique

end Json
