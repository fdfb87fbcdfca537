import WikiPeople.Library.Text
import Mathlib.Data.List.Count
import Mathlib.Data.List.Flatten
import Mathlib.Data.List.Infix

/-! What stripping, splitting into lines and removing spans keep of a text. -/

namespace Text

section Strip

variable {chars : List Char}

theorem strip_sublist (chars : List Char) : (strip chars).Sublist chars :=
  (List.rdropWhile_prefix isSpace _).sublist.trans (List.dropWhile_suffix isSpace).sublist

structure Trimmed (chars : List Char) : Prop where
  first : ∀ char ∈ chars.head?, isSpace char = false
  last : ∀ char ∈ chars.getLast?, isSpace char = false

theorem dropWhile_kept {test : Char → Bool} (free : ∀ char ∈ chars.head?, test char = false) :
    chars.dropWhile test = chars := by
  cases chars with
  | nil => rfl
  | cons char rest => exact List.dropWhile_cons_of_neg (by simp [free char rfl])

theorem head_dropWhile {test : Char → Bool} {char : Char}
    (first : char ∈ (chars.dropWhile test).head?) : test char = false := by
  induction chars with
  | nil => cases first
  | cons next rest ih =>
      rw [List.dropWhile_cons] at first
      split at first
      · exact ih first
      · rename_i kept
        cases first
        simpa using kept

theorem dropWhile_run {test : Char → Bool} {run rest : List Char}
    (passes : ∀ char ∈ run, test char = true) (stops : ∀ char ∈ rest.head?, test char = false) :
    (run ++ rest).dropWhile test = rest := by
  rw [List.dropWhile_append_of_pos passes, dropWhile_kept stops]

theorem takeWhile_run {test : Char → Bool} {run rest : List Char}
    (passes : ∀ char ∈ run, test char = true) (stops : ∀ char ∈ rest.head?, test char = false) :
    (run ++ rest).takeWhile test = run := by
  have stop : rest.takeWhile test = [] := by
    cases rest with
    | nil => rfl
    | cons char rest => exact List.takeWhile_cons_of_neg (by simp [stops char rfl])
  rw [List.takeWhile_append_of_pos passes, stop, List.append_nil]

theorem dropWhile_append_stop {test : Char → Bool} {rest : List Char}
    (stops : ∀ char ∈ rest.head?, test char = false) :
    (chars ++ rest).dropWhile test = chars.dropWhile test ++ rest := by
  induction chars with
  | nil => exact dropWhile_kept stops
  | cons char chars ih =>
      rw [List.cons_append, List.dropWhile_cons, List.dropWhile_cons, ih]
      split <;> rfl

theorem strip_dropWhile (chars : List Char) : strip (chars.dropWhile isSpace) = strip chars := by
  rw [strip, strip, dropWhile_kept (fun _ first => head_dropWhile first)]

theorem strip_trimmed (chars : List Char) : Trimmed (strip chars) := by
  constructor
  · intro char first
    obtain ⟨dropped, whole⟩ := List.rdropWhile_prefix isSpace (chars.dropWhile isSpace)
    apply @head_dropWhile chars
    rw [← whole, List.head?_append]
    rw [strip, Option.mem_def] at first
    rw [first]
    rfl
  · intro char last
    apply @head_dropWhile (chars.dropWhile isSpace).reverse
    rwa [strip, List.rdropWhile, List.getLast?_reverse] at last

theorem strip_eq_self (trimmed : Trimmed chars) : strip chars = chars := by
  rw [strip, dropWhile_kept trimmed.first, List.rdropWhile, dropWhile_kept, List.reverse_reverse]
  intro char first
  rw [List.head?_reverse] at first
  exact trimmed.last char first

theorem strip_padded {before after : List Char} (leading : ∀ char ∈ before, isSpace char = true)
    (trailing : ∀ char ∈ after, isSpace char = true) (trimmed : Trimmed chars)
    (visible : chars ≠ []) : strip (before ++ chars ++ after) = chars := by
  have opened : (before ++ chars ++ after).dropWhile isSpace = chars ++ after := by
    rw [List.append_assoc]
    apply dropWhile_run leading
    rw [List.head?_append_of_ne_nil _ visible]
    exact trimmed.first
  have closed : (after.reverse ++ chars.reverse).dropWhile isSpace = chars.reverse := by
    apply dropWhile_run
    · intro char member
      exact trailing char (List.mem_reverse.mp member)
    · rw [List.head?_reverse]
      exact trimmed.last
  rw [strip, opened, List.rdropWhile, List.reverse_append, closed, List.reverse_reverse]

end Strip

theorem replaceChar_absent {old new : Char} {chars : List Char} (absent : old ∉ chars) :
    replaceChar old new chars = chars := by
  have kept : ∀ char ∈ chars, (if char = old then new else char) = char := by
    intro char member
    rw [if_neg]
    rintro rfl
    exact absent member
  exact (List.map_congr_left kept).trans (List.map_id' _)

section Lines

theorem splitlinesFrom_free {line chars : List Char}
    (free : ∀ char ∈ line, isLineBreak char = false) :
    ∀ other ∈ splitlinesFrom line chars, ∀ char ∈ other, isLineBreak char = false := by
  have turned : ∀ char ∈ line.reverse, isLineBreak char = false :=
    fun char member => free char (List.mem_reverse.mp member)
  fun_induction splitlinesFrom line chars with
  | case1 => simp
  | case2 line => simpa using turned
  | case3 line rest ih =>
      intro other member
      rcases List.mem_cons.mp member with rfl | later
      · exact turned
      · exact ih (by simp) (by simp) other later
  | case4 line char rest different breaks ih =>
      intro other member
      rcases List.mem_cons.mp member with rfl | later
      · exact turned
      · exact ih (by simp) (by simp) other later
  | case5 line char rest different plain ih =>
      have longer : ∀ next ∈ char :: line, isLineBreak next = false := by
        intro next member
        rcases List.mem_cons.mp member with rfl | old
        · simpa using plain
        · exact free next old
      exact ih longer (fun next member => longer next (List.mem_reverse.mp member))

theorem splitlines_free {chars line : List Char} (member : line ∈ splitlines chars) :
    ∀ char ∈ line, isLineBreak char = false :=
  splitlinesFrom_free (by simp) line member

theorem splitlinesFrom_sublist (line chars : List Char) :
    (splitlinesFrom line chars).flatten.Sublist (line.reverse ++ chars) := by
  fun_induction splitlinesFrom line chars with
  | case1 => simp
  | case2 line => simp
  | case3 line rest ih =>
      rw [List.flatten_cons]
      have later := (List.sublist_cons_self '\n' rest).trans (List.sublist_cons_self '\r' _)
      exact (ih.trans later).append_left _
  | case4 line char rest different breaks ih =>
      rw [List.flatten_cons]
      exact (ih.trans (List.sublist_cons_self _ _)).append_left _
  | case5 line char rest different plain ih =>
      rwa [List.reverse_cons, List.append_assoc, List.singleton_append] at ih

theorem splitlines_sublist (chars : List Char) : (splitlines chars).flatten.Sublist chars :=
  splitlinesFrom_sublist [] chars

theorem splitlinesFrom_line {line first : List Char} (rest : List Char)
    (free : ∀ char ∈ first, isLineBreak char = false) :
    splitlinesFrom line (first ++ '\n' :: rest) =
      (line.reverse ++ first) :: splitlinesFrom [] rest := by
  induction first generalizing line with
  | nil =>
      rw [List.nil_append, List.append_nil]
      rw [splitlinesFrom]
      · rw [if_pos (by decide)]
      · simp
  | cons char first ih =>
      have plain := free char List.mem_cons_self
      rw [List.cons_append, splitlinesFrom]
      · rw [if_neg (by simp [plain]), ih (fun next member => free next
          (List.mem_cons_of_mem _ member)), List.reverse_cons, List.append_assoc,
          List.singleton_append]
      · rintro tail rfl same
        exact absurd plain (by decide)

theorem splitlines_line {first : List Char} (rest : List Char)
    (free : ∀ char ∈ first, isLineBreak char = false) :
    splitlines (first ++ '\n' :: rest) = first :: splitlines rest :=
  splitlinesFrom_line rest free

end Lines

section Spans

variable {opening closing chars : List Char}

theorem removeSpansFrom_sublist (skip : Nat) :
    (removeSpansFrom opening closing skip chars).Sublist (chars.drop skip) := by
  fun_induction removeSpansFrom opening closing skip chars with
  | case1 => simp
  | case2 skip char rest ih => exact ih
  | case3 char rest opens length found ih =>
      exact ih.trans ((List.drop_sublist _ _).trans (List.sublist_cons_self _ _))
  | case4 char rest opens open_ ih => exact ih.cons_cons _
  | case5 char rest plain ih => exact ih.cons_cons _

/-- Where a span is removed, the character it begins with becomes rarer. -/
theorem removeSpansFrom_fewer {first : Char} {more : List Char} :
    removeSpansFrom (first :: more) closing 0 chars = chars ∨
      (removeSpansFrom (first :: more) closing 0 chars).count first < chars.count first := by
  induction chars with
  | nil => exact Or.inl rfl
  | cons char rest ih =>
      have kept : char :: removeSpansFrom (first :: more) closing 0 rest = char :: rest ∨
          (char :: removeSpansFrom (first :: more) closing 0 rest).count first <
            (char :: rest).count first := by
        rcases ih with same | fewer
        · exact Or.inl (congrArg _ same)
        · right
          rw [List.count_cons, List.count_cons]
          omega
      rw [removeSpansFrom]
      split
      · rename_i opens
        split
        · right
          have begins : first = char := by
            rw [List.isPrefixOf_cons_cons, Bool.and_eq_true, beq_iff_eq] at opens
            exact opens.1
          have fewer : ∀ skip, (removeSpansFrom (first :: more) closing skip rest).count first <
              (char :: rest).count first := by
            intro skip
            have kept_rest := (@removeSpansFrom_sublist (first :: more) closing rest skip).trans
              (List.drop_sublist skip rest)
            rw [← begins, List.count_cons_self]
            exact Nat.lt_succ_of_le (kept_rest.count_le first)
          exact fewer _
        · exact kept
      · exact kept

theorem includes_iff {part text : String} :
    includes part text = true ↔ part.toList <:+: text.toList := by
  rw [includes, List.any_eq_true, List.infix_iff_prefix_suffix]
  simp only [List.mem_tails, List.isPrefixOf_iff_prefix, and_comm]

/-- No span: what follows an `opening` never holds a `closing`. -/
def SpanFree (opening closing chars : List Char) : Prop :=
  ∀ before after, chars = before ++ (opening ++ after) → ¬ closing <:+: after

theorem spanLength_eq_none (word : closing ≠ []) :
    spanLength closing chars = none ↔ ¬ closing <:+: chars := by
  induction chars with
  | nil => simp [spanLength, word]
  | cons char rest ih =>
      rw [spanLength, List.infix_cons_iff, ← List.isPrefixOf_iff_prefix]
      cases closing.isPrefixOf (char :: rest) with
      | true => simp
      | false => simp [ih]

theorem spanFree_cons {char : Char} {rest : List Char} :
    SpanFree opening closing (char :: rest) ↔
      (∀ after, char :: rest = opening ++ after → ¬ closing <:+: after) ∧
        SpanFree opening closing rest := by
  constructor
  · intro free
    refine ⟨fun after begins => free [] after begins, ?_⟩
    intro before after same
    exact free (char :: before) after (by rw [same, List.cons_append])
  · rintro ⟨here, later⟩ before after same
    cases before with
    | nil => exact here after same
    | cons first before =>
        rw [List.cons_append] at same
        exact later before after (List.cons.inj same).2

theorem removeSpansFrom_eq_self {first : Char} {more : List Char} (word : closing ≠ []) :
    removeSpansFrom (first :: more) closing 0 chars = chars ↔
      SpanFree (first :: more) closing chars := by
  induction chars with
  | nil =>
      refine ⟨fun _ before after same => ?_, fun _ => rfl⟩
      simp at same
  | cons char rest ih =>
      rw [spanFree_cons, removeSpansFrom]
      split
      · rename_i opens
        obtain ⟨after, begins⟩ := List.isPrefixOf_iff_prefix.mp opens
        have tail : rest.drop ((first :: more).length - 1) = after := by
          rw [← (List.cons.inj begins).2]
          simp
        have only : (∀ other, char :: rest = (first :: more) ++ other → ¬ closing <:+: other) ↔
            ¬ closing <:+: after := by
          rw [← begins]
          simp only [List.append_cancel_left_eq, forall_eq']
        rw [only, tail, ← spanLength_eq_none word]
        cases found : spanLength closing after with
        | none => simp [ih]
        | some length =>
            have shorter := (@removeSpansFrom_sublist (first :: more) closing rest
              ((first :: more).length - 1 + length)).length_le
            simp only [reduceCtorEq, false_and, iff_false]
            intro same
            rw [same, List.length_drop, List.length_cons] at shorter
            omega
      · rename_i plain
        have never : ∀ after, char :: rest = (first :: more) ++ after → ¬ closing <:+: after :=
          fun after begins => absurd (List.isPrefixOf_iff_prefix.mpr ⟨after, begins.symm⟩) plain
        rw [List.cons_inj_right, ih]
        exact (and_iff_right never).symm

theorem not_prefix_marked {word after : List Char} {mark : Char} (missing : mark ∉ word)
    (filled : word ≠ []) : ¬ word <+: mark :: after := by
  rintro ⟨rest, begins⟩
  cases word with
  | nil => exact filled rfl
  | cons first more =>
      rw [List.cons_append] at begins
      exact missing ((List.cons.inj begins).1 ▸ List.mem_cons_self)

theorem infix_cons_marked {word after : List Char} {mark : Char} (missing : mark ∉ word)
    (filled : word ≠ []) : word <:+: mark :: after ↔ word <:+: after := by
  rw [List.infix_cons_iff]
  exact or_iff_right (not_prefix_marked missing filled)

def foreign (word frame : List Char) : Bool :=
  frame.all (fun mark => !word.contains mark)

theorem foreign_cons {word frame : List Char} {mark : Char} :
    foreign word (mark :: frame) = true ↔ mark ∉ word ∧ foreign word frame = true := by
  simp [foreign]

theorem infix_foreign {word frame after : List Char} (apart : foreign word frame = true)
    (filled : word ≠ []) : word <:+: frame ++ after ↔ word <:+: after := by
  induction frame with
  | nil => rfl
  | cons mark frame ih =>
      obtain ⟨first, others⟩ := foreign_cons.mp apart
      rw [List.cons_append, infix_cons_marked first filled, ih others]

theorem infix_marked {word before after : List Char} {mark : Char} (missing : mark ∉ word)
    (filled : word ≠ []) :
    word <:+: before ++ mark :: after ↔ word <:+: before ∨ word <:+: after := by
  rw [List.infix_append_iff_ne_nil, infix_cons_marked missing filled]
  constructor
  · rintro (left | right | ⟨left, right, _, some, rfl, _, begins⟩)
    · exact Or.inl left
    · exact Or.inr right
    · have absent : mark ∉ right := fun inside => missing (List.mem_append_right left inside)
      exact absurd begins (not_prefix_marked absent some)
  · rintro (left | right)
    · exact Or.inl left
    · exact Or.inr (Or.inl right)

theorem spanFree_foreign {frame after : List Char} (apart : foreign opening frame = true)
    (opens : opening ≠ []) :
    SpanFree opening closing (frame ++ after) ↔ SpanFree opening closing after := by
  induction frame with
  | nil => rfl
  | cons mark frame ih =>
      obtain ⟨first, others⟩ := foreign_cons.mp apart
      have never : ∀ rest, mark :: (frame ++ after) = opening ++ rest → ¬ closing <:+: rest :=
        fun rest begins => absurd ⟨rest, begins.symm⟩ (not_prefix_marked first opens)
      rw [List.cons_append, spanFree_cons, and_iff_right never, ih others]

theorem spanFree_marked {before after : List Char} {mark : Char} (unopened : mark ∉ opening)
    (unclosed : mark ∉ closing) (opens : opening ≠ []) (closes : closing ≠ []) :
    SpanFree opening closing (before ++ mark :: after) ↔
      SpanFree opening closing before ∧ (opening <:+: before → ¬ closing <:+: after) ∧
        SpanFree opening closing after := by
  constructor
  · intro free
    refine ⟨?_, ?_, ?_⟩
    · rintro first rest rfl closed
      refine free first (rest ++ mark :: after) (by simp) ?_
      exact (infix_marked unclosed closes).mpr (Or.inl closed)
    · rintro ⟨first, rest, rfl⟩ closed
      refine free first (rest ++ mark :: after) (by simp) ?_
      exact (infix_marked unclosed closes).mpr (Or.inr closed)
    · rintro first rest rfl
      exact free (before ++ mark :: first) rest (by simp)
  · rintro ⟨left, across, right⟩ first rest same closed
    rcases List.append_eq_append_iff.mp same with ⟨middle, rfl, later⟩ | ⟨middle, rfl, later⟩
    · -- The opening begins at the mark or after it.
      cases middle with
      | nil => exact not_prefix_marked unopened opens ⟨rest, later.symm⟩
      | cons next middle =>
          rw [List.cons_append] at later
          exact right middle rest (List.cons.inj later).2 closed
    · rcases List.append_eq_append_iff.mp later with ⟨more, rfl, ends⟩ | ⟨more, rfl, ends⟩
      · -- It ends before the mark.
        subst ends
        rcases (infix_marked unclosed closes).mp closed with here | there
        · exact left first more rfl here
        · exact across ⟨first, more, by simp⟩ there
      · -- It runs up to the mark.
        cases more with
        | nil =>
            rw [List.nil_append] at ends
            subst ends
            have there := (infix_cons_marked unclosed closes).mp closed
            exact across ⟨first, [], by simp⟩ there
        | cons next more =>
            rw [List.cons_append] at ends
            have marked := (List.cons.inj ends).1
            exact unopened (List.mem_append_right middle (marked ▸ List.mem_cons_self))

end Spans

end Text
