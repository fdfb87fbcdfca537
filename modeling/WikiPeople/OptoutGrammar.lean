import WikiPeople.OptoutTitles

/-! The grammar of the list page: a line lists the target of a closed link right behind its
bullets. The parser also lists links that are never closed. -/

namespace WikiPeople

open Relational

/-- A line that lists something: bullets, then a link with a title, perhaps an anchor or a
display name, and whatever follows. -/
structure BulletEntry where
  indent : List Char
  bullets : List Char
  gap : List Char
  pad : List Char
  name : List Char
  part : List Char
  rest : List Char
  indent_blank : ∀ char ∈ indent, Text.isSpace char = true
  bulleted : bullets ≠ []
  bullets_stars : ∀ char ∈ bullets, char = '*'
  gap_blank : ∀ char ∈ gap, Text.isSpace char = true
  pad_blank : ∀ char ∈ pad, Text.isSpace char = true
  name_plain : ∀ char ∈ name, isTitleChar char = true
  part_marked : part = [] ∨ part.head? = some '#' ∨ part.head? = some '|'

namespace BulletEntry

def tail (entry : BulletEntry) : List Char := entry.part ++ "]]".toList ++ entry.rest

def line (entry : BulletEntry) : List Char :=
  entry.indent ++ (entry.bullets ++ (entry.gap ++ ("[[".toList ++
    (entry.pad ++ (entry.name ++ entry.tail)))))

end BulletEntry

/-- The line is in the grammar, and this is the title of its link. -/
def Lists (line : List Char) (title : String) : Prop :=
  title ≠ "" ∧ ∃ entry : BulletEntry, entry.line = line ∧ title.toList = linkTarget entry.name

/-- The parser lists exactly the titles of the lines of the grammar, each where it first
stands. -/
def AcceptsGrammar (wikitext : String) : Prop :=
  ∃ titleOf : List Char → Option String,
    (∀ line title, titleOf line = some title ↔ Lists line title) ∧
      parseOptoutPage wikitext = firstOnes ((pageLines wikitext).filterMap titleOf)

/-- What follows the opening brackets and blanks of the link behind the bullets. -/
def linkStart (line : List Char) : Option (List Char) :=
  match line.dropWhile Text.isSpace with
  | '*' :: rest =>
      match (rest.dropWhile (· = '*')).dropWhile Text.isSpace with
      | '[' :: '[' :: link => some (link.dropWhile Text.isSpace)
      | _ => none
  | _ => none

/-- Behind its title the link is closed, at once or after an anchor or a display name. -/
def closesLink : List Char → Bool
  | ']' :: ']' :: _ => true
  | '#' :: rest => "]]".toList <:+: rest
  | '|' :: rest => "]]".toList <:+: rest
  | _ => false

def grammarTitle (line : List Char) : Option String :=
  match linkStart line with
  | none => none
  | some link => if closesLink (link.dropWhile isTitleChar) then listedTitle line else none

section Grammar

variable {line link : List Char} {title : String}

def Opens (line rest link : List Char) : Prop :=
  line.dropWhile Text.isSpace = '*' :: rest ∧
    (rest.dropWhile (· = '*')).dropWhile Text.isSpace = '[' :: '[' :: link

theorem linkStart_none (closed : ¬ ∃ rest link, Opens line rest link) : linkStart line = none := by
  unfold linkStart
  split
  · rename_i rest begins
    split
    · rename_i link opens
      exact absurd ⟨rest, link, begins, opens⟩ closed
    · rfl
  · rfl

theorem bulletLink_none (closed : ¬ ∃ rest link, Opens line rest link) :
    bulletLink line = none := by
  unfold bulletLink
  split
  · rename_i rest begins
    split
    · rename_i link opens
      exact absurd ⟨rest, link, begins, opens⟩ closed
    · rfl
  · rfl

theorem bulletLink_eq (line : List Char) :
    bulletLink line = (linkStart line).map (fun link => link.takeWhile isTitleChar) := by
  by_cases opened : ∃ rest link, Opens line rest link
  · obtain ⟨rest, link, begins, opens⟩ := opened
    simp only [bulletLink, linkStart, begins, opens, Option.map_some]
    rfl
  · rw [bulletLink_none opened, linkStart_none opened, Option.map_none]

theorem head_tail (entry : BulletEntry) :
    ∀ char ∈ entry.tail.head?, isTitleChar char = false ∧ Text.isSpace char = false := by
  intro char first
  have marks : char = ']' ∨ char = '#' ∨ char = '|' := by
    rw [BulletEntry.tail] at first
    cases part : entry.part with
    | nil =>
        rw [part] at first
        exact Or.inl (Option.some.inj first).symm
    | cons mark more =>
        rw [part] at first
        have same : mark = char := Option.some.inj first
        subst same
        rcases entry.part_marked with none_ | hash | pipe
        · rw [part] at none_
          cases none_
        · rw [part] at hash
          exact Or.inr (Or.inl (Option.some.inj hash))
        · rw [part] at pipe
          exact Or.inr (Or.inr (Option.some.inj pipe))
  rcases marks with rfl | rfl | rfl <;> decide

theorem closesLink_tail (entry : BulletEntry) : closesLink entry.tail = true := by
  rw [BulletEntry.tail]
  rcases entry.part_marked with none_ | hash | pipe
  · rw [none_]
    rfl
  · obtain ⟨more, same⟩ := List.head?_eq_some_iff.mp hash
    rw [same]
    exact decide_eq_true ⟨more, entry.rest, rfl⟩
  · obtain ⟨more, same⟩ := List.head?_eq_some_iff.mp pipe
    rw [same]
    exact decide_eq_true ⟨more, entry.rest, rfl⟩

theorem linkStart_line (entry : BulletEntry) :
    linkStart entry.line = some (entry.name.dropWhile Text.isSpace ++ entry.tail) := by
  obtain ⟨star, stars, bullets⟩ := List.exists_cons_of_ne_nil entry.bulleted
  have all := entry.bullets_stars
  rw [bullets] at all
  have isStar := all star List.mem_cons_self
  subst isStar
  have more : ∀ char ∈ stars, decide (char = '*') = true :=
    fun char member => decide_eq_true (all char (List.mem_cons_of_mem _ member))
  have link : (entry.pad ++ (entry.name ++ entry.tail)).dropWhile Text.isSpace =
      entry.name.dropWhile Text.isSpace ++ entry.tail := by
    rw [List.dropWhile_append_of_pos entry.pad_blank, Text.dropWhile_append_stop]
    exact fun char first => (head_tail entry char first).2
  generalize opened : entry.pad ++ (entry.name ++ entry.tail) = after at link
  have brackets : (entry.gap ++ '[' :: '[' :: after).dropWhile Text.isSpace =
      '[' :: '[' :: after := by
    apply Text.dropWhile_run entry.gap_blank
    intro char first
    cases first
    decide
  have starred : (stars ++ (entry.gap ++ '[' :: '[' :: after)).dropWhile (· = '*') =
      entry.gap ++ '[' :: '[' :: after := by
    apply Text.dropWhile_run more
    intro char first
    refine decide_eq_false ?_
    rintro rfl
    cases gap : entry.gap with
    | nil =>
        rw [gap] at first
        exact absurd (Option.some.inj first) (by decide)
    | cons blank blanks =>
        rw [gap] at first
        have same : blank = '*' := Option.some.inj first
        have isBlank := entry.gap_blank blank (by rw [gap]; exact List.mem_cons_self)
        rw [same] at isBlank
        exact absurd isBlank (by decide)
  have begins : entry.line.dropWhile Text.isSpace =
      '*' :: (stars ++ (entry.gap ++ '[' :: '[' :: after)) := by
    rw [BulletEntry.line, opened, bullets]
    apply Text.dropWhile_run entry.indent_blank
    intro char first
    cases first
    decide
  simp only [linkStart, begins, starred, brackets, link]

theorem linkTarget_dropWhile (name : List Char) :
    linkTarget (name.dropWhile Text.isSpace) = linkTarget name := by
  rw [linkTarget, linkTarget, Text.strip_dropWhile]

theorem grammarTitle_complete (lists : Lists line title) : grammarTitle line = some title := by
  obtain ⟨filled, entry, rfl, same⟩ := lists
  have plain : ∀ char ∈ entry.name.dropWhile Text.isSpace, isTitleChar char = true :=
    fun char member => entry.name_plain char ((List.dropWhile_sublist _).subset member)
  have stops : ∀ char ∈ entry.tail.head?, isTitleChar char = false :=
    fun char first => (head_tail entry char first).1
  have listed : listedTitle entry.line = some title := by
    rw [listedTitle_eq_some]
    refine ⟨entry.name.dropWhile Text.isSpace, ?_, ?_, ?_⟩
    · rw [bulletLink_eq, linkStart_line, Option.map_some, Text.takeWhile_run plain stops]
    · rw [linkTarget_dropWhile, same]
    · rw [linkTarget_dropWhile, ← same]
      exact fun empty => filled (String.toList_inj.mp empty)
  rw [grammarTitle, linkStart_line]
  dsimp only
  rw [Text.dropWhile_run plain stops, closesLink_tail, if_pos rfl, listed]

theorem linkStart_split (found : linkStart line = some link) :
    ∃ indent stars gap pad, line = indent ++ ('*' :: stars ++ (gap ++ ("[[".toList ++
        (pad ++ link)))) ∧ (∀ char ∈ indent, Text.isSpace char = true) ∧
      (∀ char ∈ stars, char = '*') ∧ (∀ char ∈ gap, Text.isSpace char = true) ∧
      ∀ char ∈ pad, Text.isSpace char = true := by
  unfold linkStart at found
  split at found
  · rename_i rest begins
    split at found
    · rename_i after opens
      cases found
      refine ⟨line.takeWhile Text.isSpace, rest.takeWhile (· = '*'),
        (rest.dropWhile (· = '*')).takeWhile Text.isSpace, after.takeWhile Text.isSpace, ?_,
        fun char member => List.mem_takeWhile_imp member,
        fun char member => by simpa using List.mem_takeWhile_imp member,
        fun char member => List.mem_takeWhile_imp member,
        fun char member => List.mem_takeWhile_imp member⟩
      have inner : rest.dropWhile (· = '*') =
          (rest.dropWhile (· = '*')).takeWhile Text.isSpace ++
            ('[' :: '[' :: (after.takeWhile Text.isSpace ++ after.dropWhile Text.isSpace)) := by
        rw [List.takeWhile_append_dropWhile, ← opens, List.takeWhile_append_dropWhile]
      calc line
          = line.takeWhile Text.isSpace ++ '*' :: rest := by
            rw [← begins, List.takeWhile_append_dropWhile]
        _ = line.takeWhile Text.isSpace ++ '*' :: (rest.takeWhile (· = '*') ++
              rest.dropWhile (· = '*')) := by rw [List.takeWhile_append_dropWhile]
        _ = line.takeWhile Text.isSpace ++ '*' :: (rest.takeWhile (· = '*') ++
              ((rest.dropWhile (· = '*')).takeWhile Text.isSpace ++ ('[' :: '[' ::
                (after.takeWhile Text.isSpace ++ after.dropWhile Text.isSpace)))) := by
            rw [← inner]
    · cases found
  · cases found

theorem closesLink_split {after : List Char} (closed : closesLink after = true) :
    ∃ part rest, after = part ++ "]]".toList ++ rest ∧
      (part = [] ∨ part.head? = some '#' ∨ part.head? = some '|') := by
  unfold closesLink at closed
  split at closed
  · exact ⟨[], _, rfl, Or.inl rfl⟩
  · obtain ⟨more, rest, same⟩ := of_decide_eq_true closed
    exact ⟨'#' :: more, rest, by rw [← same]; rfl, Or.inr (Or.inl rfl)⟩
  · obtain ⟨more, rest, same⟩ := of_decide_eq_true closed
    exact ⟨'|' :: more, rest, by rw [← same]; rfl, Or.inr (Or.inr rfl)⟩
  · cases closed

theorem grammarTitle_sound (listed : grammarTitle line = some title) : Lists line title := by
  unfold grammarTitle at listed
  split at listed
  · cases listed
  · rename_i link start
    split at listed
    · rename_i closed
      obtain ⟨indent, stars, gap, pad, split_, indentBlank, allStars, gapBlank, padBlank⟩ :=
        linkStart_split start
      obtain ⟨part, rest, after, marked⟩ := closesLink_split closed
      obtain ⟨found, bullet, same, filled⟩ := listedTitle_eq_some.mp listed
      rw [bulletLink_eq, start] at bullet
      cases bullet
      refine ⟨?_, ⟨indent, '*' :: stars, gap, pad, link.takeWhile isTitleChar, part, rest,
        indentBlank, List.cons_ne_nil _ _, ?_, gapBlank, padBlank,
        fun char member => List.mem_takeWhile_imp member, marked⟩, ?_, same⟩
      · rintro rfl
        exact filled same.symm
      · intro char member
        rcases List.mem_cons.mp member with rfl | more
        · rfl
        · exact allStars char more
      · rw [split_, BulletEntry.line, BulletEntry.tail]
        dsimp only
        rw [← after, List.takeWhile_append_dropWhile]
    · cases listed

theorem grammarTitle_iff : grammarTitle line = some title ↔ Lists line title :=
  ⟨grammarTitle_sound, grammarTitle_complete⟩

end Grammar

/-- The titles the parser lists line by line, and whether their links are closed. -/
def lineEntry (line : List Char) : Option (Bool × String) :=
  (listedTitle line).map (fun title => ((grammarTitle line).isSome, title))

def pageEntries (wikitext : String) : List (Bool × String) :=
  (pageLines wikitext).filterMap lineEntry

def nextClosed (seen : List String) (entries : List (Bool × String)) : Option String :=
  ((entries.filter Prod.fst).map Prod.snd).find? (fun title => title ∉ seen)

/-- Each link that is not closed lists a title that was listed before, or the very title that
the next closed link lists. -/
def Harmless : List String → List (Bool × String) → Prop
  | _, [] => True
  | seen, (true, title) :: entries => Harmless (addNew seen title) entries
  | seen, (false, title) :: entries =>
      if title ∈ seen then Harmless seen entries
      else nextClosed seen entries = some title ∧ Harmless (seen ++ [title]) entries

section Harm

theorem foldl_closed_iff (seen : List String) (entries : List (Bool × String)) :
    (entries.map Prod.snd).foldl addNew seen =
        ((entries.filter Prod.fst).map Prod.snd).foldl addNew seen ↔
      Harmless seen entries := by
  induction entries generalizing seen with
  | nil => simp [Harmless]
  | cons entry entries ih =>
      obtain ⟨closed, title⟩ := entry
      cases closed with
      | true => exact ih (addNew seen title)
      | false =>
          rw [Harmless, List.filter_cons_of_neg (by simp), List.map_cons, List.foldl_cons]
          by_cases known : title ∈ seen
          · rw [if_pos known, addNew_known known]
            exact ih seen
          · rw [if_neg known, addNew_new known,
              foldl_addNew_find seen ((entries.filter Prod.fst).map Prod.snd)]
            rw [nextClosed]
            obtain ⟨new, grown, _⟩ := foldl_addNew (seen ++ [title]) (entries.map Prod.snd)
            cases next : ((entries.filter Prod.fst).map Prod.snd).find?
                (fun title => title ∉ seen) with
            | none =>
                simp [grown]
            | some other =>
                by_cases same : other = title
                · subst same
                  simpa using ih (seen ++ [other])
                · obtain ⟨rest, kept, _⟩ := foldl_addNew (seen ++ [other])
                    ((entries.filter Prod.fst).map Prod.snd)
                  have different : seen ++ [title] ++ new ≠ seen ++ [other] ++ rest := by
                    intro equal
                    rw [List.append_assoc, List.append_assoc, List.append_cancel_left_eq] at equal
                    exact same (List.cons.inj equal).1.symm
                  dsimp only
                  rw [grown, kept]
                  exact iff_of_false different (fun held => same (Option.some.inj held.1))

theorem grammarTitle_listed (line : List Char) :
    grammarTitle line = none ∨ grammarTitle line = listedTitle line := by
  unfold grammarTitle
  split
  · exact Or.inl rfl
  · split
    · exact Or.inr rfl
    · exact Or.inl rfl

theorem filterMap_lineEntry (lines : List (List Char)) :
    (lines.filterMap lineEntry).map Prod.snd = lines.filterMap listedTitle ∧
      ((lines.filterMap lineEntry).filter Prod.fst).map Prod.snd =
        lines.filterMap grammarTitle := by
  induction lines with
  | nil => exact ⟨rfl, rfl⟩
  | cons line lines ih =>
      obtain ⟨all, closed⟩ := ih
      rw [List.filterMap_cons, List.filterMap_cons, List.filterMap_cons, lineEntry]
      cases listed : listedTitle line with
      | none =>
          have unlisted : grammarTitle line = none := by
            rcases grammarTitle_listed line with same | same
            · exact same
            · exact same.trans listed
          rw [unlisted]
          exact ⟨all, closed⟩
      | some title =>
          rcases grammarTitle_listed line with same | same
          · rw [same]
            exact ⟨congrArg (title :: ·) all, closed⟩
          · rw [same, listed]
            exact ⟨congrArg (title :: ·) all, congrArg (title :: ·) closed⟩

end Harm

theorem acceptsGrammar_listed (wikitext : String) :
    AcceptsGrammar wikitext ↔
      parseOptoutPage wikitext = firstOnes ((pageLines wikitext).filterMap grammarTitle) := by
  constructor
  · rintro ⟨titleOf, documented, same⟩
    have unique : titleOf = grammarTitle := by
      funext line
      ext title
      rw [documented, grammarTitle_iff]
    rwa [unique] at same
  · exact fun same => ⟨grammarTitle, fun _ _ => grammarTitle_iff, same⟩

/-- The parser accepts exactly the documented grammar where its links that are never closed
are harmless. -/
theorem accepts_grammar_iff (wikitext : String) :
    AcceptsGrammar wikitext ↔ Harmless [] (pageEntries wikitext) := by
  obtain ⟨all, closed⟩ := filterMap_lineEntry (pageLines wikitext)
  rw [acceptsGrammar_listed, ← foldl_closed_iff, pageEntries, all, closed, parseOptoutPage_eq]
  rfl

/-- Brackets that are never closed hide the pages they name. -/
theorem unclosed_link_listed :
    parseOptoutPage "* [[Foo\n* [[Bar]baz]]\n* [[Ada]] since May" = ["Foo", "Bar", "Ada"] ∧
      (pageLines "* [[Foo\n* [[Bar]baz]]\n* [[Ada]] since May").filterMap grammarTitle =
        ["Ada"] ∧
      ¬ AcceptsGrammar "* [[Foo\n* [[Bar]baz]]\n* [[Ada]] since May" := by
  have listed : parseOptoutPage "* [[Foo\n* [[Bar]baz]]\n* [[Ada]] since May" =
      ["Foo", "Bar", "Ada"] := by decide
  have grammar : (pageLines "* [[Foo\n* [[Bar]baz]]\n* [[Ada]] since May").filterMap
      grammarTitle = ["Ada"] := by decide
  refine ⟨listed, grammar, ?_⟩
  rw [acceptsGrammar_listed, listed, grammar]
  decide

end WikiPeople
