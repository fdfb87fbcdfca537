import WikiPeople.OddTokens

/-! `MAX_VISIBLE_BLOCK_SECONDS_BY_WIKI`: how the overrides are read from the environment, and
what a malformed one costs. -/

namespace WikiPeople

open Relational Text

/-- `_csv`: the items between the commas, without their margins; an empty one is none. -/
def csv (value : String) : List String :=
  (((value.toList.splitOn ',').map strip).filter (· ≠ [])).map String.ofList

/-- `int(text)` of digits behind a sign, if there is one. -/
def signedInt (unicode : Unicode) : List Char → Except Exn Int
  | '-' :: digits => (numeral unicode digits).map (fun number : Nat => -(number : Int))
  | '+' :: digits => (numeral unicode digits).map Int.ofNat
  | digits => (numeral unicode digits).map Int.ofNat

/-- What the loop of `_int_by_wiki` makes of an item. Its guard lets any number of minus signs
pass. -/
def overrideOf (unicode : Unicode) (item : String) : Except Exn (Option (String × Int)) :=
  match partition ':' item.toList with
  | (_, none) => .ok none
  | (wiki, some seconds) =>
      if !(strip wiki).isEmpty && unicode.isdigit (lstripChar '-' (strip seconds)) then
        (signedInt unicode (strip seconds)).map
          (fun seconds => some (String.ofList (strip wiki), seconds))
      else .ok none

def intByWiki (unicode : Unicode) (value : String) : Except Exn (List (String × Int)) :=
  (csv value).filterMapM (overrideOf unicode)

/-- The threshold of a wiki under the settings with these overrides; without settings there is
no service. -/
def thresholdUnder (unicode : Unicode) (settings : Settings) (value wiki : String) :
    Except Exn Int :=
  (intByWiki unicode value).map (fun overrides =>
    maxVisibleBlockSecondsFor { settings with maxVisibleBlockSecondsByWiki := overrides } wiki)

/-! What an item says, apart from how it is read. -/

/-- The number that the text denotes, which is decimal digits and at least one of them. -/
def decimalNumber (unicode : Unicode) (text : List Char) : Option Nat :=
  if text.isEmpty then none else unicode.int? text

/-- A decimal integer, with one of the signs in front of it or none. -/
def statedSeconds (unicode : Unicode) (signs : List Char) : List Char → Option Int
  | [] => none
  | first :: rest =>
      if first ∈ signs then
        (decimalNumber unicode rest).map (fun number =>
          if first = '-' then -(number : Int) else number)
      else (decimalNumber unicode (first :: rest)).map Int.ofNat

/-- The override that an item states: a wiki name that is not empty, a colon and an integer. -/
def statedOverride (unicode : Unicode) (signs : List Char) (item : String) :
    Option (String × Int) :=
  match partition ':' item.toList with
  | (_, none) => none
  | (wiki, some seconds) =>
      if (strip wiki).isEmpty then none
      else (statedSeconds unicode signs (strip seconds)).map
        (fun seconds => (String.ofList (strip wiki), seconds))

/-- The item is about the wiki: its name stands before a colon. -/
def Names (wiki item : String) : Prop :=
  ∃ name seconds, partition ':' item.toList = (name, some seconds) ∧
    String.ofList (strip name) = wiki

/-- The value is read as the overrides that its items state. A wiki that an inserted item does
not name keeps its threshold, and so does one that neither a corrupted item nor what it was
before names. -/
structure CostsOnlyItself (unicode : Unicode) (signs : List Char) (value : String) : Prop where
  exact : intByWiki unicode value =
    .ok ((csv value).filterMap (statedOverride unicode signs))
  inserted : ∀ settings wiki before item after threshold,
    value = ",".intercalate (before ++ item :: after) →
    (∀ part ∈ csv item, ¬ Names wiki part) →
    thresholdUnder unicode settings (",".intercalate (before ++ after)) wiki = .ok threshold →
    thresholdUnder unicode settings value wiki = .ok threshold
  corrupted : ∀ settings wiki before item original after threshold,
    value = ",".intercalate (before ++ item :: after) →
    (∀ part ∈ csv item, ¬ Names wiki part) → (∀ part ∈ csv original, ¬ Names wiki part) →
    thresholdUnder unicode settings (",".intercalate (before ++ original :: after)) wiki =
      .ok threshold →
    thresholdUnder unicode settings value wiki = .ok threshold

/-- Where only minus signs and digits follow the colon of an item with a name, there is at most
one of the signs, and `int` reads the digits. -/
def LegibleOverride (unicode : Unicode) (item : String) : Prop :=
  ∀ wiki seconds, partition ':' item.toList = (wiki, some seconds) → strip wiki ≠ [] →
    unicode.isdigit (lstripChar '-' (strip seconds)) = true →
    ((strip seconds).takeWhile (· = '-')).length ≤ 1 ∧
      ReadableDigits unicode (lstripChar '-' (strip seconds))

def PlusSigned (unicode : Unicode) (item : String) : Prop :=
  ∃ wiki seconds digits, partition ':' item.toList = (wiki, some seconds) ∧ strip wiki ≠ [] ∧
    strip seconds = '+' :: digits ∧ (decimalNumber unicode digits).isSome = true

section Seconds

variable {unicode : Unicode} {text : List Char}

theorem isdigit_of_decimal (documented : unicode.Documented)
    (decimal : (decimalNumber unicode text).isSome = true) : unicode.isdigit text = true := by
  rw [decimalNumber] at decimal
  split at decimal
  · cases decimal
  · rename_i filled
    rw [Unicode.isdigit, Bool.eq_false_iff.mpr filled, Bool.not_false, Bool.true_and]
    refine List.all_eq_true.mpr (fun char member => ?_)
    exact documented.decimal char (Unicode.int?_isSome.mp decimal char member)

theorem not_decimal (documented : unicode.Documented) {char : Char} (ascii : char.toNat < 128)
    (odd : char.isDigit = false) : (unicode.decimal char).isSome = false := by
  refine Bool.eq_false_iff.mpr (fun decimal => ?_)
  have digit := documented.decimal char decimal
  rw [documented.ascii char ascii, odd] at digit
  cases digit

theorem decimalNumber_readable (filled : unicode.isdigit text = true)
    (readable : ReadableDigits unicode text) :
    ∃ number, numeral unicode text = .ok number ∧ decimalNumber unicode text = some number := by
  obtain ⟨number, read⟩ := numeral_returns.mpr readable
  refine ⟨number, read, ?_⟩
  rw [decimalNumber, if_neg, (numeral_eq_ok.mp read).2]
  intro empty
  rw [Unicode.isdigit, empty] at filled
  cases filled

theorem minus_cases (text : List Char) :
    (text.head? ≠ some '-' ∧ lstripChar '-' text = text ∧ text.takeWhile (· = '-') = []) ∨
      ∃ rest, text = '-' :: rest ∧ lstripChar '-' text = lstripChar '-' rest ∧
        (text.takeWhile (· = '-')).length = (rest.takeWhile (· = '-')).length + 1 := by
  cases text with
  | nil => exact Or.inl ⟨by simp, rfl, rfl⟩
  | cons first rest =>
      by_cases minus : first = '-'
      · subst minus
        exact Or.inr ⟨rest, rfl, by simp [lstripChar], by simp⟩
      · exact Or.inl ⟨by simpa using minus, by simp [lstripChar, minus], by simp [minus]⟩

theorem minus_free (free : '-' ∉ text) :
    lstripChar '-' text = text ∧ text.takeWhile (· = '-') = [] := by
  rcases minus_cases text with ⟨-, same, none⟩ | ⟨rest, rfl, -⟩
  · exact ⟨same, none⟩
  · exact absurd List.mem_cons_self free

theorem signedInt_digits (documented : unicode.Documented)
    (digits : unicode.isdigit text = true) :
    signedInt unicode text = (numeral unicode text).map Int.ofNat := by
  have minus : '-' ∉ text := documented.not_mem digits (by decide) (by decide)
  have plus : '+' ∉ text := documented.not_mem digits (by decide) (by decide)
  rw [signedInt.eq_def]
  split
  · exact absurd List.mem_cons_self minus
  · exact absurd List.mem_cons_self plus
  · rfl

theorem signedInt_legible (documented : unicode.Documented)
    (digits : unicode.isdigit (lstripChar '-' text) = true)
    (few : (text.takeWhile (· = '-')).length ≤ 1)
    (readable : ReadableDigits unicode (lstripChar '-' text)) :
    ∃ seconds, signedInt unicode text = .ok seconds ∧
      statedSeconds unicode ['-'] text = some seconds := by
  obtain ⟨number, read, stated⟩ := decimalNumber_readable digits readable
  rcases minus_cases text with ⟨unsigned, same, -⟩ | ⟨rest, rfl, same, count⟩
  · rw [same] at digits read stated
    refine ⟨number, by rw [signedInt_digits documented digits, read]; rfl, ?_⟩
    cases text with
    | nil => cases digits
    | cons first rest =>
        have other : first ∉ ['-'] := by simpa using unsigned
        rw [statedSeconds, if_neg other, stated]
        rfl
  · have alone : lstripChar '-' rest = rest := by
      rcases minus_cases rest with ⟨-, alone, -⟩ | ⟨later, -, -, more⟩
      · exact alone
      · omega
    rw [same, alone] at read stated
    refine ⟨-(number : Int), by rw [signedInt, read]; rfl, ?_⟩
    rw [statedSeconds, if_pos (List.mem_singleton_self '-'), stated]
    rfl

/-- Where `int` returns there was at most one minus sign, and it could read the digits. -/
theorem legible_of_signedInt (documented : unicode.Documented) {seconds : Int}
    (digits : unicode.isdigit (lstripChar '-' text) = true)
    (returned : signedInt unicode text = .ok seconds) :
    (text.takeWhile (· = '-')).length ≤ 1 ∧ ReadableDigits unicode (lstripChar '-' text) := by
  rcases minus_cases text with ⟨-, same, none⟩ | ⟨rest, rfl, same, count⟩
  · rw [same] at digits ⊢
    rw [signedInt_digits documented digits] at returned
    obtain ⟨number, read, -⟩ := map_eq_ok.mp returned
    exact ⟨by simp [none], numeral_returns.mp ⟨number, read⟩⟩
  · rw [signedInt] at returned
    obtain ⟨number, read, -⟩ := map_eq_ok.mp returned
    have readable := numeral_returns.mp ⟨number, read⟩
    have free : '-' ∉ rest := by
      intro member
      have decimal := readable.2 '-' member
      rw [not_decimal documented (by decide) (by decide)] at decimal
      cases decimal
    obtain ⟨alone, none⟩ := minus_free free
    rw [same, alone, count, none]
    exact ⟨Nat.le_refl 1, readable⟩

theorem statedSeconds_refused (documented : unicode.Documented)
    (odd : unicode.isdigit (lstripChar '-' text) = false) :
    statedSeconds unicode ['-'] text = none := by
  have refused {digits : List Char} (same : lstripChar '-' text = lstripChar '-' digits) :
      decimalNumber unicode digits = none := by
    refine Option.not_isSome_iff_eq_none.mp (fun decimal => ?_)
    have digits := isdigit_of_decimal documented decimal
    have free : '-' ∉ _ := documented.not_mem digits (by decide) (by decide)
    rw [same, (minus_free free).1, digits] at odd
    cases odd
  rcases minus_cases text with ⟨unsigned, -, -⟩ | ⟨rest, rfl, same, -⟩
  · cases text with
    | nil => rfl
    | cons first rest =>
        have other : first ∉ ['-'] := by simpa using unsigned
        rw [statedSeconds, if_neg other, refused rfl]
        rfl
  · rw [statedSeconds, if_pos (List.mem_singleton_self '-'), refused same]
    rfl

end Seconds

section Items

variable {unicode : Unicode} {item : String}

theorem overrideOf_named {wiki seconds : List Char}
    (parts : partition ':' item.toList = (wiki, some seconds)) (named : strip wiki ≠ []) :
    overrideOf unicode item =
      if unicode.isdigit (lstripChar '-' (strip seconds)) then
        (signedInt unicode (strip seconds)).map
          (fun seconds => some (String.ofList (strip wiki), seconds))
      else .ok none := by
  have filled : (strip wiki).isEmpty = false := by simpa using named
  rw [overrideOf, parts]
  dsimp only
  rw [filled, Bool.not_false, Bool.true_and]

theorem statedOverride_named {wiki seconds : List Char}
    (parts : partition ':' item.toList = (wiki, some seconds)) (named : strip wiki ≠ [])
    (signs : List Char) :
    statedOverride unicode signs item = (statedSeconds unicode signs (strip seconds)).map
      (fun seconds => (String.ofList (strip wiki), seconds)) := by
  rw [statedOverride, parts]
  dsimp only
  rw [if_neg (by simpa using named)]

theorem item_cases (unicode : Unicode) (item : String) :
    (∃ wiki seconds, partition ':' item.toList = (wiki, some seconds) ∧ strip wiki ≠ []) ∨
      overrideOf unicode item = .ok none ∧ ∀ signs, statedOverride unicode signs item = none := by
  cases parts : partition ':' item.toList with
  | mk wiki seconds =>
      cases seconds with
      | none => exact Or.inr ⟨by rw [overrideOf, parts], fun signs => by rw [statedOverride, parts]⟩
      | some seconds =>
          by_cases named : strip wiki = []
          · refine Or.inr ⟨?_, fun signs => ?_⟩
            · rw [overrideOf, parts]
              simp [named]
            · rw [statedOverride, parts]
              simp [named]
          · exact Or.inl ⟨wiki, seconds, rfl, named⟩

theorem overrideOf_legible (documented : unicode.Documented)
    (legible : LegibleOverride unicode item) :
    overrideOf unicode item = .ok (statedOverride unicode ['-'] item) := by
  rcases item_cases unicode item with ⟨wiki, seconds, parts, named⟩ | ⟨nothing, unstated⟩
  · rw [overrideOf_named parts named, statedOverride_named parts named]
    cases digits : unicode.isdigit (lstripChar '-' (strip seconds)) with
    | false =>
        rw [statedSeconds_refused documented digits]
        rfl
    | true =>
        obtain ⟨few, readable⟩ := legible wiki seconds parts named digits
        obtain ⟨number, read, stated⟩ := signedInt_legible documented digits few readable
        rw [read, stated]
        rfl
  · rw [nothing, unstated]

theorem legible_of_overrideOf (documented : unicode.Documented)
    {made : Option (String × Int)} (returned : overrideOf unicode item = .ok made) :
    LegibleOverride unicode item := by
  intro wiki seconds parts named digits
  rw [overrideOf_named parts named, if_pos digits] at returned
  obtain ⟨number, read, -⟩ := map_eq_ok.mp returned
  exact legible_of_signedInt documented digits read

theorem intByWiki_legible (documented : unicode.Documented) {value : String}
    (legible : ∀ item ∈ csv value, LegibleOverride unicode item) :
    intByWiki unicode value = .ok ((csv value).filterMap (statedOverride unicode ['-'])) :=
  filterMapM_ok (fun item member => overrideOf_legible documented (legible item member))

theorem legible_of_intByWiki (documented : unicode.Documented) {value : String}
    {overrides : List (String × Int)} (returned : intByWiki unicode value = .ok overrides) :
    ∀ item ∈ csv value, LegibleOverride unicode item := by
  intro item member
  obtain ⟨made, read⟩ := filterMapM_returns.mp ⟨overrides, returned⟩ item member
  exact legible_of_overrideOf documented read

end Items

section Values

variable {unicode : Unicode} {settings : Settings} {wiki : String}

theorem csv_intercalate (texts : List String) :
    csv (",".intercalate texts) = texts.flatMap csv := by
  induction texts with
  | nil => rfl
  | cons text texts ih =>
      cases texts with
      | nil => simp
      | cons next texts =>
          have joined : (text ++ "," ++ ",".intercalate (next :: texts)).toList =
              text.toList ++ ',' :: (",".intercalate (next :: texts)).toList := by simp
          rw [String.intercalate_cons_cons, List.flatMap_cons, ← ih, csv, joined,
            List.splitOn_append_cons_self, List.map_append, List.filter_append,
            List.map_append]
          rfl

theorem lookup_unnamed {signs : List Char} {items : List String}
    (others : ∀ item ∈ items, ¬ Names wiki item) :
    (items.filterMap (statedOverride unicode signs)).lookup wiki = none := by
  rw [List.lookup_eq_none_iff]
  intro entry member
  obtain ⟨item, present, stated⟩ := List.mem_filterMap.mp member
  rcases item_cases unicode item with ⟨name, seconds, parts, named⟩ | ⟨-, unstated⟩
  · rw [statedOverride_named parts named] at stated
    obtain ⟨number, -, rfl⟩ := Option.map_eq_some_iff.mp stated
    rw [bne_iff_ne]
    intro same
    exact others item present ⟨name, seconds, parts, same.symm⟩
  · rw [unstated] at stated
    cases stated

theorem thresholdUnder_eq_ok (documented : unicode.Documented) {value : String}
    {threshold : Int} :
    thresholdUnder unicode settings value wiki = .ok threshold ↔
      (∀ item ∈ csv value, LegibleOverride unicode item) ∧
        (((csv value).filterMap (statedOverride unicode ['-'])).lookup wiki).getD
          settings.maxVisibleBlockSeconds = threshold := by
  constructor
  · intro returned
    obtain ⟨overrides, read, same⟩ := map_eq_ok.mp returned
    have legible := legible_of_intByWiki documented read
    rw [intByWiki_legible documented legible] at read
    cases read
    exact ⟨legible, same⟩
  · rintro ⟨legible, rfl⟩
    rw [thresholdUnder, intByWiki_legible documented legible]
    rfl

theorem lookup_between {before after between : List String}
    (others : ∀ item ∈ between, ¬ Names wiki item) :
    ((before ++ between ++ after).filterMap (statedOverride unicode ['-'])).lookup wiki =
      ((before ++ after).filterMap (statedOverride unicode ['-'])).lookup wiki := by
  rw [List.filterMap_append, List.filterMap_append, List.filterMap_append, List.lookup_append,
    List.lookup_append, List.lookup_append, lookup_unnamed others, Option.or_none]

/-- So they leave its threshold, whether they were inserted or stand where others stood. -/
theorem lookup_part {before after : List String} {item : String}
    (others : ∀ part ∈ csv item, ¬ Names wiki part) :
    ((csv (",".intercalate (before ++ item :: after))).filterMap
        (statedOverride unicode ['-'])).lookup wiki =
      ((csv (",".intercalate (before ++ after))).filterMap
        (statedOverride unicode ['-'])).lookup wiki := by
  rw [csv_intercalate, csv_intercalate, List.flatMap_append, List.flatMap_append,
    List.flatMap_cons, ← List.append_assoc, lookup_between others]

theorem threshold_inserted (documented : unicode.Documented) {before after : List String}
    {item : String} {threshold : Int}
    (legible : ∀ part ∈ csv (",".intercalate (before ++ item :: after)),
      LegibleOverride unicode part)
    (others : ∀ part ∈ csv item, ¬ Names wiki part)
    (was : thresholdUnder unicode settings (",".intercalate (before ++ after)) wiki =
      .ok threshold) :
    thresholdUnder unicode settings (",".intercalate (before ++ item :: after)) wiki =
      .ok threshold := by
  refine (thresholdUnder_eq_ok documented).mpr ⟨legible, ?_⟩
  rw [lookup_part others]
  exact ((thresholdUnder_eq_ok documented).mp was).2

theorem threshold_corrupted (documented : unicode.Documented) {before after : List String}
    {item original : String} {threshold : Int}
    (legible : ∀ part ∈ csv (",".intercalate (before ++ item :: after)),
      LegibleOverride unicode part)
    (others : ∀ part ∈ csv item, ¬ Names wiki part)
    (also : ∀ part ∈ csv original, ¬ Names wiki part)
    (was : thresholdUnder unicode settings (",".intercalate (before ++ original :: after)) wiki =
      .ok threshold) :
    thresholdUnder unicode settings (",".intercalate (before ++ item :: after)) wiki =
      .ok threshold := by
  refine (thresholdUnder_eq_ok documented).mpr ⟨legible, ?_⟩
  rw [lookup_part others, ← lookup_part also]
  exact ((thresholdUnder_eq_ok documented).mp was).2

theorem costsOnlyItself_of_exact (documented : unicode.Documented) {signs : List Char}
    {value : String} (exact : intByWiki unicode value =
      .ok ((csv value).filterMap (statedOverride unicode signs))) :
    CostsOnlyItself unicode signs value := by
  have legible := legible_of_intByWiki documented exact
  refine ⟨exact, ?_, ?_⟩
  · rintro settings wiki before item after threshold rfl others was
    exact threshold_inserted documented legible others was
  · rintro settings wiki before item original after threshold rfl others also was
    exact threshold_corrupted documented legible others also was

end Values

/-! The plus sign, which the guard does not know and `int` does. -/

section Plus

variable {unicode : Unicode} {item : String}

theorem statedSeconds_plus (documented : unicode.Documented) (digits : List Char) :
    statedSeconds unicode ['-'] ('+' :: digits) = none := by
  have odd : (unicode.decimal '+').isSome = false := not_decimal documented (by decide) (by decide)
  have unread : decimalNumber unicode ('+' :: digits) = none := by
    refine Option.not_isSome_iff_eq_none.mp (fun read => ?_)
    have decimal := Unicode.int?_isSome.mp read '+' List.mem_cons_self
    rw [odd] at decimal
    cases decimal
  rw [statedSeconds, if_neg (by decide), unread]
  rfl

theorem statedSeconds_unplussed {text : List Char} (unplussed : text.head? ≠ some '+') :
    statedSeconds unicode ['-', '+'] text = statedSeconds unicode ['-'] text := by
  cases text with
  | nil => rfl
  | cons first rest =>
      have other : first ≠ '+' := by simpa using unplussed
      rw [statedSeconds, statedSeconds]
      simp [other]

theorem statedOverride_plussed (documented : unicode.Documented)
    (plussed : PlusSigned unicode item) :
    statedOverride unicode ['-'] item = none ∧
      (statedOverride unicode ['-', '+'] item).isSome = true := by
  obtain ⟨wiki, seconds, digits, parts, named, signed, read⟩ := plussed
  obtain ⟨number, stated⟩ := Option.isSome_iff_exists.mp read
  rw [statedOverride_named parts named, statedOverride_named parts named, signed]
  constructor
  · rw [statedSeconds_plus documented]
    rfl
  · rw [statedSeconds, if_pos (by decide), stated]
    rfl

theorem statedOverride_unplussed (documented : unicode.Documented)
    (unplussed : ¬ PlusSigned unicode item) :
    statedOverride unicode ['-'] item = statedOverride unicode ['-', '+'] item := by
  rcases item_cases unicode item with ⟨wiki, seconds, parts, named⟩ | ⟨-, unstated⟩
  · rw [statedOverride_named parts named, statedOverride_named parts named]
    by_cases signed : (strip seconds).head? = some '+'
    · obtain ⟨digits, same⟩ := List.head?_eq_some_iff.mp signed
      have unread : decimalNumber unicode digits = none := by
        refine Option.not_isSome_iff_eq_none.mp (fun read => unplussed ?_)
        exact ⟨wiki, seconds, digits, parts, named, same, read⟩
      rw [same, statedSeconds_plus documented, statedSeconds, if_pos (by decide), unread]
      rfl
    · rw [statedSeconds_unplussed signed]
  · rw [unstated, unstated]

theorem statedOverride_iff (documented : unicode.Documented) :
    statedOverride unicode ['-'] item = statedOverride unicode ['-', '+'] item ↔
      ¬ PlusSigned unicode item := by
  constructor
  · intro same plussed
    obtain ⟨unstated, stated⟩ := statedOverride_plussed documented plussed
    rw [← same, unstated] at stated
    cases stated
  · exact statedOverride_unplussed documented

theorem overrides_plus_iff (documented : unicode.Documented) {items : List String} :
    items.filterMap (statedOverride unicode ['-']) =
        items.filterMap (statedOverride unicode ['-', '+']) ↔
      ∀ item ∈ items, ¬ PlusSigned unicode item := by
  rw [filterMap_eq_iff]
  · exact forall₂_congr (fun item _ => statedOverride_iff documented)
  · intro item made stated
    have unplussed : ¬ PlusSigned unicode item := by
      intro plussed
      rw [(statedOverride_plussed documented plussed).1] at stated
      cases stated
    rw [← statedOverride_unplussed documented unplussed, stated]

end Plus

/-- A malformed override costs only itself exactly where `int` reads each text that the guard
lets pass; where a plus sign is a sign as well, no item may have one. -/
theorem overrides_exact_iff (unicode : Unicode) (documented : unicode.Documented)
    (value : String) :
    (CostsOnlyItself unicode ['-'] value ↔ ∀ item ∈ csv value, LegibleOverride unicode item) ∧
    (CostsOnlyItself unicode ['-', '+'] value ↔
      (∀ item ∈ csv value, LegibleOverride unicode item) ∧
        ∀ item ∈ csv value, ¬ PlusSigned unicode item) := by
  refine ⟨⟨fun costs => legible_of_intByWiki documented costs.exact, fun legible => ?_⟩,
    ⟨fun costs => ?_, ?_⟩⟩
  · exact costsOnlyItself_of_exact documented (intByWiki_legible documented legible)
  · have legible := legible_of_intByWiki documented costs.exact
    have same := costs.exact
    rw [intByWiki_legible documented legible] at same
    exact ⟨legible, (overrides_plus_iff documented).mp (Except.ok.inj same)⟩
  · rintro ⟨legible, unplussed⟩
    refine costsOnlyItself_of_exact documented ?_
    rw [intByWiki_legible documented legible, (overrides_plus_iff documented).mpr unplussed]

/-- An item without a colon, one without a number and one with a word for it. -/
theorem overrides_exact_iff_malformed :
    CostsOnlyItself asciiUnicode ['-'] "frwiki:600,broken,enwiki:,dewiki:abc,ruwiki:0" ∧
      CostsOnlyItself asciiUnicode ['-', '+'] "frwiki:600,broken,enwiki:,dewiki:abc,ruwiki:0" := by
  have read : intByWiki asciiUnicode "frwiki:600,broken,enwiki:,dewiki:abc,ruwiki:0" =
      .ok [("frwiki", 600), ("ruwiki", 0)] := by decide
  have legible := legible_of_intByWiki asciiUnicode_documented read
  have unplussed : ∀ item ∈ csv "frwiki:600,broken,enwiki:,dewiki:abc,ruwiki:0",
      ¬ PlusSigned asciiUnicode item :=
    (overrides_plus_iff asciiUnicode_documented).mp (by decide)
  obtain ⟨minus, plus⟩ := overrides_exact_iff asciiUnicode asciiUnicode_documented
    "frwiki:600,broken,enwiki:,dewiki:abc,ruwiki:0"
  exact ⟨minus.mpr legible, plus.mpr ⟨legible, unplussed⟩⟩

/-- A sign too many, or a superscript, and there is no service for any wiki. -/
theorem odd_override_raises : superscriptUnicode.Documented ∧
    intByWiki asciiUnicode "frwiki:0,enwiki:--5" = .error (.unexpected "ValueError") ∧
      (∀ settings wiki, thresholdUnder asciiUnicode settings "frwiki:0,enwiki:--5" wiki =
        .error (.unexpected "ValueError")) ∧
      (∀ signs, ¬ CostsOnlyItself asciiUnicode signs "frwiki:0,enwiki:--5") ∧
      ∀ signs, ¬ CostsOnlyItself superscriptUnicode signs "frwiki:0,enwiki:²" := by
  have raises : intByWiki asciiUnicode "frwiki:0,enwiki:--5" =
      .error (.unexpected "ValueError") := by decide
  have superscript : intByWiki superscriptUnicode "frwiki:0,enwiki:²" =
      .error (.unexpected "ValueError") := by decide
  refine ⟨superscriptUnicode_documented, raises, ?_, ?_, ?_⟩
  · intro settings wiki
    rw [thresholdUnder, raises]
    rfl
  · intro signs costs
    have exact := costs.exact
    rw [raises] at exact
    cases exact
  · intro signs costs
    have exact := costs.exact
    rw [superscript] at exact
    cases exact

end WikiPeople
