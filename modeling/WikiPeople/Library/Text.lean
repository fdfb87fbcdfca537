import Mathlib.Data.List.DropRight

/-! Text as Python's `str` methods and star-free regular expressions treat it. What depends
on the character database (case folding, letters and digits beyond ASCII) is a parameter. -/

namespace Text

/-- The white space of `str.strip` and of the class `\s`. -/
def isSpace (char : Char) : Bool :=
  let code := char.toNat
  (9 ≤ code && code ≤ 13) || (28 ≤ code && code ≤ 32) || code = 0x85 || code = 0xA0 ||
    code = 0x1680 || (0x2000 ≤ code && code ≤ 0x200A) || code = 0x2028 || code = 0x2029 ||
    code = 0x202F || code = 0x205F || code = 0x3000

def strip (chars : List Char) : List Char :=
  (chars.dropWhile isSpace).rdropWhile isSpace

/-- `text.lstrip(char)` for a single character. -/
def lstripChar (char : Char) (chars : List Char) : List Char := chars.dropWhile (· = char)

/-- `text.partition(char)`: what is before the first `char`, and after it where there is
one. -/
def partition (char : Char) (chars : List Char) : List Char × Option (List Char) :=
  match chars.dropWhile (· ≠ char) with
  | [] => (chars, none)
  | _ :: after => (chars.takeWhile (· ≠ char), some after)

theorem partition_append {char : Char} {before : List Char} (free : char ∉ before)
    (after : List Char) : partition char (before ++ char :: after) = (before, some after) := by
  have kept : ∀ other ∈ before, decide (other ≠ char) = true := by
    intro other member
    exact decide_eq_true (fun same => free (same ▸ member))
  rw [partition, List.dropWhile_append_of_pos kept, List.takeWhile_append_of_pos kept,
    List.dropWhile_cons_of_neg (by simp), List.takeWhile_cons_of_neg (by simp), List.append_nil]

theorem partition_eq {char : Char} {chars before after : List Char}
    (parts : partition char chars = (before, some after)) :
    chars = before ++ char :: after ∧ char ∉ before := by
  rw [partition] at parts
  split at parts
  · cases parts
  · rename_i first rest found
    cases parts
    have head : first = char := by
      have stops := List.head?_dropWhile_not (fun other => decide (other ≠ char)) chars
      rw [found] at stops
      simpa using stops
    have whole := @List.takeWhile_append_dropWhile _ (fun other => decide (other ≠ char)) chars
    rw [found, head] at whole
    refine ⟨whole.symm, fun member => ?_⟩
    have other := List.mem_takeWhile_imp member
    simp at other

/-- Where `str.splitlines` ends a line. -/
def isLineBreak (char : Char) : Bool :=
  let code := char.toNat
  (10 ≤ code && code ≤ 13) || (28 ≤ code && code ≤ 30) || code = 0x85 || code = 0x2028 ||
    code = 0x2029

def splitlinesFrom (line : List Char) : List Char → List (List Char)
  | [] => if line.isEmpty then [] else [line.reverse]
  | '\r' :: '\n' :: rest => line.reverse :: splitlinesFrom [] rest
  | char :: rest =>
      if isLineBreak char then line.reverse :: splitlinesFrom [] rest
      else splitlinesFrom (char :: line) rest

def splitlines (chars : List Char) : List (List Char) := splitlinesFrom [] chars

/-- `text[:limit]`. -/
def truncate (limit : Nat) (text : String) : String := String.ofList (text.toList.take limit)

/-- `part in text`. -/
def includes (part : String) (text : String) : Bool :=
  text.toList.tails.any part.toList.isPrefixOf

/-- `text.replace(old, new)` for single characters. -/
def replaceChar (old new : Char) (chars : List Char) : List Char :=
  chars.map (fun char => if char = old then new else char)

/-- How many characters there are up to the end of the first `closing`. -/
def spanLength (closing : List Char) : List Char → Option Nat
  | [] => none
  | char :: rest =>
      if closing.isPrefixOf (char :: rest) then some closing.length
      else (spanLength closing rest).map (· + 1)

/-- The text without its spans, where `skip` characters still belong to one. -/
def removeSpansFrom (opening closing : List Char) : Nat → List Char → List Char
  | _, [] => []
  | skip + 1, _ :: rest => removeSpansFrom opening closing skip rest
  | 0, char :: rest =>
      if opening.isPrefixOf (char :: rest) then
        match spanLength closing (rest.drop (opening.length - 1)) with
        | some length => removeSpansFrom opening closing (opening.length - 1 + length) rest
        | none => char :: removeSpansFrom opening closing 0 rest
      else char :: removeSpansFrom opening closing 0 rest

/-- `re.sub(opening + ".*?" + closing, "", text, flags=re.DOTALL)`: every span from an
`opening` to the first `closing` after it, left to right. An `opening` that is never closed
stays. -/
def removeSpans (opening closing : String) (chars : List Char) : List Char :=
  removeSpansFrom opening.toList closing.toList 0 chars

example : removeSpans "<!--" "-->" "a<!--b--->c<!--d".toList = "ac<!--d".toList := by decide

/-- What a case-insensitive regular expression asks the character database. -/
structure Alphabet where
  isWord : Char → Bool
  fold : Char → Char

def asciiAlphabet : Alphabet where
  isWord := fun char => char.isAlphanum || char = '_'
  fold := Char.toLower

inductive Pattern where
  | never
  | blank
  | letter (char : Char)
  | boundary
  | seq (first second : Pattern)
  | alt (first second : Pattern)
  | optional (inner : Pattern)

namespace Pattern

def literal (text : String) : Pattern :=
  text.toList.foldr (fun char rest => seq (letter char) rest) blank

def anyOf (alternatives : List Pattern) : Pattern := alternatives.foldr alt never

/-- A place in a text: the character before it and the characters after it. -/
abbrev Position := Option Char × List Char

def ends (alphabet : Alphabet) : Pattern → Position → List Position
  | never, _ => []
  | blank, place => [place]
  | letter _, (_, []) => []
  | letter char, (_, next :: rest) =>
      if alphabet.fold next = alphabet.fold char then [(some next, rest)] else []
  | boundary, (previous, rest) =>
      if previous.any alphabet.isWord ≠ rest.head?.any alphabet.isWord then [(previous, rest)]
      else []
  | seq first second, place => (ends alphabet first place).flatMap (ends alphabet second)
  | alt first second, place => ends alphabet first place ++ ends alphabet second place
  | optional inner, place => ends alphabet inner place ++ [place]

def searchFrom (alphabet : Alphabet) (pattern : Pattern) : Option Char → List Char → Bool
  | previous, [] => !(ends alphabet pattern (previous, [])).isEmpty
  | previous, char :: rest =>
      !(ends alphabet pattern (previous, char :: rest)).isEmpty ||
        searchFrom alphabet pattern (some char) rest

/-- `re.search(pattern, text, re.IGNORECASE) is not None`. -/
def search (alphabet : Alphabet) (pattern : Pattern) (text : String) : Bool :=
  searchFrom alphabet pattern none text.toList

example : search asciiAlphabet (seq boundary (literal "ban")) "a ban" = true := by decide
example : search asciiAlphabet (seq boundary (literal "ban")) "turban" = false := by decide

end Pattern

end Text
