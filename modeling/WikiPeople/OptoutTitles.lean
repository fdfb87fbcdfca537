import WikiPeople.Optout
import WikiPeople.Library.Lines
import WikiPeople.Library.Ranking

/-! The titles a list page names: when they are in normal form, and when the page written from
them reads the same. -/

namespace WikiPeople

open Relational

def pageLines (wikitext : String) : List (List Char) :=
  Text.splitlines (Text.removeSpans "<!--" "-->" wikitext.toList)

def listedTitle (line : List Char) : Option String :=
  match bulletLink line with
  | none => none
  | some link =>
      let title := String.ofList (linkTarget link)
      if title = "" then none else some title

theorem listTarget_eq (targets : List String) (line : List Char) :
    listTarget targets line = (listedTitle line).elim targets (addNew targets) := by
  unfold listTarget listedTitle
  cases bulletLink line with
  | none => rfl
  | some link =>
      by_cases empty : String.ofList (linkTarget link) = ""
      · simp [empty]
      · by_cases known : String.ofList (linkTarget link) ∈ targets <;> simp [empty, known, addNew]

theorem parseOptoutPage_eq (wikitext : String) :
    parseOptoutPage wikitext = firstOnes ((pageLines wikitext).filterMap listedTitle) := by
  have folded : ∀ (lines : List (List Char)) (targets : List String),
      lines.foldl listTarget targets = (lines.filterMap listedTitle).foldl addNew targets := by
    intro lines
    induction lines with
    | nil => intro targets; rfl
    | cons line lines ih =>
        intro targets
        rw [List.foldl_cons, listTarget_eq, ih, List.filterMap_cons]
        cases listedTitle line <;> rfl
  exact folded _ []

def writtenPage (titles : List String) : String :=
  String.ofList (titles.flatMap (fun title =>
    "* [[".toList ++ title.toList ++ "]]\n".toList))

theorem toList_writtenPage (titles : List String) :
    (writtenPage titles).toList = titles.flatMap (fun title =>
      "* [[".toList ++ title.toList ++ "]]\n".toList) := String.toList_ofList

structure NormalTitle (title : List Char) : Prop where
  filled : title ≠ []
  trimmed : Text.Trimmed title
  uncoloned : title.head? ≠ some ':'
  spaced : '_' ∉ title

/-- What spellings of one title have in common that differ only in underscores, blanks at the
ends or leading colons. -/
def spelling (title : List Char) : List Char :=
  Text.strip ((Text.replaceChar '_' ' ' title).dropWhile
    (fun char => char = ':' || Text.isSpace char))

/-- The titles are in normal form, the page written from them lists the same, and no title is
listed in two spellings. -/
structure NormalForm (wikitext : String) : Prop where
  normal : ∀ title ∈ parseOptoutPage wikitext, NormalTitle title.toList
  stable : parseOptoutPage (writtenPage (parseOptoutPage wikitext)) = parseOptoutPage wikitext
  once : ((parseOptoutPage wikitext).map (fun title => spelling title.toList)).Nodup

def bareLink (link : List Char) : List Char :=
  Text.strip (Text.lstripChar ':' (Text.strip link))

def cleanEnds (bare : List Char) : Bool :=
  bare.head?.all (fun char => char ≠ '_' && char ≠ ':') && bare.getLast?.all (· ≠ '_')

def commentFree (wikitext : String) : Bool :=
  Text.removeSpans "<!--" "-->" wikitext.toList = wikitext.toList

/-- No title of a line holds a comment, nor do two titles: none that holds the end of one is
first listed after one that holds the beginning. -/
structure Uncommented (titles : List String) : Prop where
  alone : ∀ title ∈ titles, commentFree title = true
  apart : ∀ earlier title later, titles = earlier ++ title :: later →
    title ∈ earlier ∨ ∀ other ∈ earlier,
      ¬ (Text.includes "<!--" other = true ∧ Text.includes "-->" title = true)

section Normal

variable {link title : List Char}

theorem linkTarget_eq (link : List Char) :
    linkTarget link = Text.replaceChar '_' ' ' (bareLink link) := rfl

theorem isSpace_replaced (char : Char) :
    Text.isSpace (if char = '_' then ' ' else char) = (char = '_' || Text.isSpace char) := by
  by_cases same : char = '_'
  · rw [if_pos same]
    simp only [same]
    decide
  · simp [same]

theorem replaced_spaced (chars : List Char) : '_' ∉ Text.replaceChar '_' ' ' chars := by
  intro member
  obtain ⟨char, _, same⟩ := List.mem_map.mp member
  split at same
  · cases same
  · rename_i different
    exact different same

theorem spaced_end {ends : Option Char} (plain : ∀ char ∈ ends, Text.isSpace char = false) :
    (∀ char ∈ ends.map (fun char => if char = '_' then ' ' else char),
      Text.isSpace char = false) ↔ ends ≠ some '_' := by
  cases ends with
  | none => simp
  | some char =>
      have visible := plain char rfl
      simp [isSpace_replaced, visible]

theorem trimmed_replaced {bare : List Char} (trimmed : Text.Trimmed bare) :
    Text.Trimmed (Text.replaceChar '_' ' ' bare) ↔
      bare.head? ≠ some '_' ∧ bare.getLast? ≠ some '_' := by
  rw [← spaced_end trimmed.first, ← spaced_end trimmed.last, ← List.head?_map,
    ← List.getLast?_map]
  exact ⟨fun ends => ⟨ends.first, ends.last⟩, fun ends => ⟨ends.1, ends.2⟩⟩

theorem colon_replaced (bare : List Char) :
    (Text.replaceChar '_' ' ' bare).head? = some ':' ↔ bare.head? = some ':' := by
  rw [Text.replaceChar, List.head?_map]
  cases bare.head? with
  | none => simp
  | some char => by_cases same : char = '_' <;> simp [same]

/-- A target is in normal form exactly where its link had clean ends. -/
theorem normalTitle_iff (filled : linkTarget link ≠ []) :
    NormalTitle (linkTarget link) ↔ cleanEnds (bareLink link) = true := by
  have trimmed : Text.Trimmed (bareLink link) := Text.strip_trimmed _
  rw [linkTarget_eq] at filled ⊢
  have clean : cleanEnds (bareLink link) = true ↔ ((bareLink link).head? ≠ some '_' ∧
      (bareLink link).head? ≠ some ':') ∧ (bareLink link).getLast? ≠ some '_' := by
    rw [cleanEnds]
    cases (bareLink link).head? <;> cases (bareLink link).getLast? <;> simp
  rw [clean]
  constructor
  · rintro ⟨_, ends, uncoloned, _⟩
    obtain ⟨first, last⟩ := (trimmed_replaced trimmed).mp ends
    exact ⟨⟨first, mt (colon_replaced _).mpr uncoloned⟩, last⟩
  · rintro ⟨⟨first, uncoloned⟩, last⟩
    exact ⟨filled, (trimmed_replaced trimmed).mpr ⟨first, last⟩,
      mt (colon_replaced _).mp uncoloned, replaced_spaced _⟩

end Normal

section Listed

variable {wikitext : String} {line link : List Char} {title : String}

def isTitleChar (char : Char) : Bool :=
  !(char = ']' || char = '|' || char = '#' || char = '\n')

theorem bulletLink_chars (found : bulletLink line = some link) :
    link.Sublist line ∧ ∀ char ∈ link, isTitleChar char = true := by
  unfold bulletLink at found
  split at found
  · rename_i rest begins
    split at found
    · rename_i after opens
      cases found
      refine ⟨?_, fun char member => List.mem_takeWhile_imp member⟩
      have inner : after.Sublist rest := by
        have whole := ((List.dropWhile_sublist Text.isSpace).trans
          (List.dropWhile_sublist (· = '*') (l := rest)))
        rw [opens] at whole
        exact ((List.sublist_cons_self _ _).trans (List.sublist_cons_self _ _)).trans whole
      have outer : rest.Sublist line := by
        have whole := List.dropWhile_sublist Text.isSpace (l := line)
        rw [begins] at whole
        exact (List.sublist_cons_self _ _).trans whole
      exact ((List.takeWhile_sublist _).trans (List.dropWhile_sublist _)).trans
        (inner.trans outer)
    · cases found
  · cases found

theorem listedTitle_eq_some : listedTitle line = some title ↔
    ∃ link, bulletLink line = some link ∧ title.toList = linkTarget link ∧
      linkTarget link ≠ [] := by
  unfold listedTitle
  cases bulletLink line with
  | none => simp
  | some link =>
      have empty : String.ofList (linkTarget link) = "" ↔ linkTarget link = [] := by
        constructor
        · intro same
          have chars := congrArg String.toList same
          simpa using chars
        · intro same
          rw [same]
      by_cases nothing : linkTarget link = []
      · simp [nothing]
      · simp only [mt empty.mp nothing, if_false, Option.some.injEq, exists_eq_left']
        constructor
        · rintro rfl
          exact ⟨String.toList_ofList, nothing⟩
        · rintro ⟨same, _⟩
          rw [← same, String.ofList_toList]

theorem mem_parseOptoutPage : title ∈ parseOptoutPage wikitext ↔
    ∃ line ∈ pageLines wikitext, listedTitle line = some title := by
  rw [parseOptoutPage_eq, mem_firstOnes, List.mem_filterMap]

theorem mem_linkTarget {char : Char} (member : char ∈ linkTarget link) :
    char = ' ' ∨ char ∈ link := by
  obtain ⟨source, inside, same⟩ := List.mem_map.mp member
  split at same
  · exact Or.inl same.symm
  · subst same
    have stripped := (Text.strip_sublist _).subset inside
    have uncoloned := (List.dropWhile_sublist _).subset stripped
    exact Or.inr ((Text.strip_sublist _).subset uncoloned)

theorem title_chars (listed : title ∈ parseOptoutPage wikitext) :
    ∀ char ∈ title.toList, isTitleChar char = true ∧ Text.isLineBreak char = false := by
  obtain ⟨line, member, found⟩ := mem_parseOptoutPage.mp listed
  obtain ⟨link, bullet, same, _⟩ := listedTitle_eq_some.mp found
  obtain ⟨part, plain⟩ := bulletLink_chars bullet
  intro char inside
  rw [same] at inside
  rcases mem_linkTarget inside with rfl | inLink
  · decide
  · exact ⟨plain char inLink, Text.splitlines_free member char (part.subset inLink)⟩

end Listed

section Written

variable {titles : List String} {title : String}

def writtenLine (title : String) : List Char :=
  "* [[".toList ++ title.toList ++ "]]".toList

theorem listedTitle_writtenLine (normal : NormalTitle title.toList)
    (plain : ∀ char ∈ title.toList, isTitleChar char = true) :
    listedTitle (writtenLine title) = some title := by
  obtain ⟨filled, trimmed, uncoloned, spaced⟩ := normal
  have bullet : bulletLink (writtenLine title) = some title.toList := by
    have link : (title.toList ++ "]]".toList).dropWhile Text.isSpace =
        title.toList ++ "]]".toList := by
      apply Text.dropWhile_kept
      intro char first
      rw [List.head?_append_of_ne_nil _ filled] at first
      exact trimmed.first char first
    have kept : (title.toList ++ "]]".toList).takeWhile isTitleChar = title.toList := by
      rw [List.takeWhile_append_of_pos plain]
      exact List.append_nil _
    calc bulletLink (writtenLine title)
        = some (((title.toList ++ "]]".toList).dropWhile Text.isSpace).takeWhile
            isTitleChar) := rfl
      _ = some title.toList := by rw [link, kept]
  have target : linkTarget title.toList = title.toList := by
    have uncolored : Text.lstripChar ':' title.toList = title.toList := by
      apply Text.dropWhile_kept
      intro char first
      refine decide_eq_false ?_
      rintro rfl
      exact uncoloned first
    rw [linkTarget, Text.strip_eq_self trimmed, uncolored, Text.strip_eq_self trimmed,
      Text.replaceChar_absent spaced]
  rw [listedTitle_eq_some]
  exact ⟨title.toList, bullet, target.symm, by rw [target]; exact filled⟩

theorem pageLines_writtenPage (free : commentFree (writtenPage titles) = true)
    (plain : ∀ title ∈ titles, ∀ char ∈ title.toList, Text.isLineBreak char = false) :
    pageLines (writtenPage titles) = titles.map writtenLine := by
  have same : Text.removeSpans "<!--" "-->" (writtenPage titles).toList =
      (writtenPage titles).toList := of_decide_eq_true free
  rw [pageLines, same, toList_writtenPage]
  clear same free
  induction titles with
  | nil => rfl
  | cons title titles ih =>
      have line : ∀ char ∈ writtenLine title, Text.isLineBreak char = false := by
        intro char member
        rw [writtenLine, List.mem_append, List.mem_append] at member
        have opening : ("* [[".toList.all (fun char => !Text.isLineBreak char)) = true := by decide
        have closing : ("]]".toList.all (fun char => !Text.isLineBreak char)) = true := by decide
        rcases member with (before | inside) | after
        · simpa using List.all_eq_true.mp opening char before
        · exact plain title List.mem_cons_self char inside
        · simpa using List.all_eq_true.mp closing char after
      have ends : "]]\n".toList = "]]".toList ++ ['\n'] := by decide
      have split : "* [[".toList ++ title.toList ++ "]]\n".toList =
          writtenLine title ++ ['\n'] := by
        rw [ends, writtenLine, ← List.append_assoc]
      rw [List.flatMap_cons, split, List.append_assoc, List.singleton_append,
        Text.splitlines_line _ line, List.map_cons,
        ih (fun other member => plain other (List.mem_cons_of_mem _ member))]

theorem parseOptoutPage_writtenPage (free : commentFree (writtenPage titles) = true)
    (once : titles.Nodup) (normal : ∀ title ∈ titles, NormalTitle title.toList)
    (plain : ∀ title ∈ titles, ∀ char ∈ title.toList,
      isTitleChar char = true ∧ Text.isLineBreak char = false) :
    parseOptoutPage (writtenPage titles) = titles := by
  have read : (titles.map writtenLine).filterMap listedTitle = titles := by
    have each : ∀ title ∈ titles, listedTitle (writtenLine title) = some title :=
      fun title member => listedTitle_writtenLine (normal title member)
        (fun char inside => (plain title member char inside).1)
    clear plain normal once free
    induction titles with
    | nil => rfl
    | cons title titles ih =>
        rw [List.map_cons, List.filterMap_cons_some (each title List.mem_cons_self),
          ih (fun other member => each other (List.mem_cons_of_mem _ member))]
  rw [parseOptoutPage_eq, pageLines_writtenPage free
    (fun title member char inside => (plain title member char inside).2), read]
  exact firstOnes_eq_self once

end Written

section Commented

variable {titles : List String}

theorem commentFree_iff {text : String} :
    commentFree text = true ↔ Text.SpanFree "<!--".toList "-->".toList text.toList := by
  rw [commentFree, decide_eq_true_eq]
  exact Text.removeSpansFrom_eq_self (by decide)

theorem writtenPage_cons (title : String) (titles : List String) :
    (writtenPage (title :: titles)).toList =
      "* [[".toList ++ (title.toList ++ ']' :: ("]\n".toList ++ (writtenPage titles).toList)) := by
  rw [toList_writtenPage, toList_writtenPage, List.flatMap_cons, List.append_assoc,
    List.append_assoc]
  rfl

theorem includes_writtenPage {word : String} (filled : word.toList ≠ [])
    (before : Text.foreign word.toList "* [[".toList = true) (bracket : ']' ∉ word.toList)
    (after : Text.foreign word.toList "]\n".toList = true) :
    word.toList <:+: (writtenPage titles).toList ↔
      ∃ title ∈ titles, Text.includes word title = true := by
  induction titles with
  | nil => simpa [writtenPage] using filled
  | cons title titles ih =>
      rw [writtenPage_cons, Text.infix_foreign before filled, Text.infix_marked bracket filled,
        Text.infix_foreign after filled, ih, ← Text.includes_iff]
      simp only [List.mem_cons, exists_eq_or_imp]

/-- A written page holds no comment exactly where its titles hold none, alone or in pairs. -/
theorem commentFree_writtenPage :
    commentFree (writtenPage titles) = true ↔
      (∀ title ∈ titles, commentFree title = true) ∧
        titles.Pairwise (fun other title =>
          ¬ (Text.includes "<!--" other = true ∧ Text.includes "-->" title = true)) := by
  have opens : "<!--".toList ≠ [] := by decide
  have closes : "-->".toList ≠ [] := by decide
  induction titles with
  | nil => simp [commentFree, writtenPage, Text.removeSpans, Text.removeSpansFrom]
  | cons title titles ih =>
      have closed : "-->".toList <:+: "]\n".toList ++ (writtenPage titles).toList ↔
          ∃ title ∈ titles, Text.includes "-->" title = true :=
        (Text.infix_foreign (by decide) closes).trans
          (includes_writtenPage closes (by decide) (by decide) (by decide))
      rw [commentFree_iff, writtenPage_cons, Text.spanFree_foreign (by decide) opens,
        Text.spanFree_marked (by decide) (by decide) opens closes, closed,
        Text.spanFree_foreign (by decide) opens, ← commentFree_iff, ← commentFree_iff,
        ← Text.includes_iff, List.pairwise_cons]
      simp only [List.mem_cons, forall_eq_or_imp]
      constructor
      · rintro ⟨first, across, rest⟩
        obtain ⟨alone, apart⟩ := ih.mp rest
        exact ⟨⟨first, alone⟩,
          fun other member both => across both.1 ⟨other, member, both.2⟩, apart⟩
      · rintro ⟨⟨first, alone⟩, across, apart⟩
        refine ⟨first, ?_, ih.mpr ⟨alone, apart⟩⟩
        rintro opened ⟨other, member, ends⟩
        exact across other member ⟨opened, ends⟩

theorem uncommented_iff : Uncommented titles ↔
    commentFree (writtenPage (firstOnes titles)) = true := by
  rw [commentFree_writtenPage, pairwise_firstOnes]
  simp only [mem_firstOnes]
  exact ⟨fun both => ⟨both.alone, both.apart⟩, fun both => ⟨both.1, both.2⟩⟩

end Commented

section Counting

variable {wikitext : String} {char : Char}

theorem count_linkTarget (unblank : char ≠ ' ') (link : List Char) :
    (linkTarget link).count char ≤ link.count char := by
  have replaced : ∀ chars : List Char,
      (Text.replaceChar '_' ' ' chars).count char ≤ chars.count char := by
    intro chars
    induction chars with
    | nil => rfl
    | cons first rest ih =>
        rw [Text.replaceChar, List.map_cons, List.count_cons, List.count_cons]
        by_cases scored : first = '_'
        · rw [if_pos scored, if_neg (by simpa using Ne.symm unblank)]
          exact Nat.le_add_right_of_le ih
        · rw [if_neg scored]
          exact Nat.add_le_add_right ih _
  have bare : (bareLink link).Sublist link :=
    ((Text.strip_sublist _).trans (List.dropWhile_sublist _)).trans (Text.strip_sublist _)
  exact (replaced _).trans (bare.count_le char)

theorem count_parseOptoutPage (unblank : char ≠ ' ') :
    ((parseOptoutPage wikitext).flatMap String.toList).count char ≤
      (Text.removeSpans "<!--" "-->" wikitext.toList).count char := by
  have drawn : ∀ lines : List (List Char),
      ((lines.filterMap listedTitle).flatMap String.toList).count char ≤
        lines.flatten.count char := by
    intro lines
    induction lines with
    | nil => rfl
    | cons line lines ih =>
        rw [List.flatten_cons, List.count_append, List.filterMap_cons]
        cases found : listedTitle line with
        | none => exact Nat.le_add_left_of_le ih
        | some title =>
            obtain ⟨link, bullet, same, _⟩ := listedTitle_eq_some.mp found
            have part := (bulletLink_chars bullet).1.count_le char
            have whole := count_linkTarget unblank link
            rw [List.flatMap_cons, List.count_append, same]
            omega
  have selected : ((parseOptoutPage wikitext).flatMap String.toList).Sublist
      (((pageLines wikitext).filterMap listedTitle).flatMap String.toList) := by
    rw [parseOptoutPage_eq]
    exact firstOnes_sublist.flatMap _
  calc ((parseOptoutPage wikitext).flatMap String.toList).count char
      ≤ (((pageLines wikitext).filterMap listedTitle).flatMap String.toList).count char :=
        selected.count_le char
    _ ≤ (pageLines wikitext).flatten.count char := drawn _
    _ ≤ (Text.removeSpans "<!--" "-->" wikitext.toList).count char :=
        (Text.splitlines_sublist _).count_le char

theorem count_writtenPage (titles : List String) :
    (writtenPage titles).toList.count '<' = (titles.flatMap String.toList).count '<' := by
  rw [toList_writtenPage]
  induction titles with
  | nil => rfl
  | cons title titles ih =>
      rw [List.flatMap_cons, List.flatMap_cons, List.count_append, List.count_append, ih,
        List.count_append, List.count_append]
      have before : "* [[".toList.count '<' = 0 := by decide
      have after : "]]\n".toList.count '<' = 0 := by decide
      omega

/-- A written page that holds a comment does not list its titles. -/
theorem commentFree_of_stable {titles : List String}
    (stable : parseOptoutPage (writtenPage titles) = titles) :
    commentFree (writtenPage titles) = true := by
  have drawn := @count_parseOptoutPage (writtenPage titles) '<' (by decide)
  rw [stable, ← count_writtenPage] at drawn
  rcases @Text.removeSpansFrom_fewer "-->".toList (writtenPage titles).toList '<'
    "!--".toList with same | fewer
  · exact decide_eq_true same
  · exact absurd fewer (Nat.not_lt.mpr drawn)

end Counting

theorem spelling_normal {title : List Char} (normal : NormalTitle title) :
    spelling title = title := by
  obtain ⟨_, trimmed, uncoloned, spaced⟩ := normal
  rw [spelling, Text.replaceChar_absent spaced, Text.dropWhile_kept, Text.strip_eq_self trimmed]
  intro char first
  have plain := trimmed.first char first
  have different : char ≠ ':' := by
    rintro rfl
    exact uncoloned first
  simp [plain, different]

/-- The titles are in normal form and read the same when written exactly where each bullet's
link has clean ends and no comment is left in the titles of the lines. -/
theorem normal_form_iff (wikitext : String) :
    NormalForm wikitext ↔
      (∀ line ∈ pageLines wikitext, ∀ link ∈ bulletLink line,
        cleanEnds (bareLink link) = true) ∧
      Uncommented ((pageLines wikitext).filterMap listedTitle) := by
  rw [uncommented_iff, ← parseOptoutPage_eq]
  constructor
  · rintro ⟨normal, stable, _⟩
    refine ⟨?_, commentFree_of_stable stable⟩
    intro line member link bullet
    by_cases nothing : linkTarget link = []
    · have bare : bareLink link = [] := List.map_eq_nil_iff.mp nothing
      rw [bare]
      rfl
    · have listed : String.ofList (linkTarget link) ∈ parseOptoutPage wikitext :=
        mem_parseOptoutPage.mpr ⟨line, member,
          listedTitle_eq_some.mpr ⟨link, bullet, String.toList_ofList, nothing⟩⟩
      have title := normal _ listed
      rw [String.toList_ofList] at title
      exact (normalTitle_iff nothing).mp title
  · rintro ⟨clean, free⟩
    have normal : ∀ title ∈ parseOptoutPage wikitext, NormalTitle title.toList := by
      intro title listed
      obtain ⟨line, member, found⟩ := mem_parseOptoutPage.mp listed
      obtain ⟨link, bullet, same, filled⟩ := listedTitle_eq_some.mp found
      rw [same]
      exact (normalTitle_iff filled).mpr (clean line member link bullet)
    have once : (parseOptoutPage wikitext).Nodup := by
      rw [parseOptoutPage_eq]
      exact firstOnes_nodup
    refine ⟨normal, ?_, ?_⟩
    · exact parseOptoutPage_writtenPage free once normal (fun _ listed => title_chars listed)
    · have same : (parseOptoutPage wikitext).map (fun title => spelling title.toList) =
          (parseOptoutPage wikitext).map String.toList :=
        List.map_congr_left (fun title listed => spelling_normal (normal title listed))
      rw [same]
      exact once.map (fun _ _ equal => String.toList_inj.mp equal)

/-- A leading underscore becomes a leading blank, which the page written from it loses. -/
theorem title_keeps_blank :
    parseOptoutPage "* [[_Foo]]\n* [[: :Bar]]\n* [[Foo]]" = [" Foo", ":Bar", "Foo"] ∧
      parseOptoutPage (writtenPage [" Foo", ":Bar", "Foo"]) = ["Foo", "Bar"] ∧
      ¬ NormalForm "* [[_Foo]]\n* [[: :Bar]]\n* [[Foo]]" := by
  have listed : parseOptoutPage "* [[_Foo]]\n* [[: :Bar]]\n* [[Foo]]" =
      [" Foo", ":Bar", "Foo"] := by decide
  have reread : parseOptoutPage (writtenPage [" Foo", ":Bar", "Foo"]) = ["Foo", "Bar"] := by
    decide
  refine ⟨listed, reread, ?_⟩
  intro form
  have stable := form.stable
  rw [listed, reread] at stable
  exact absurd stable (by decide)

end WikiPeople
