import WikiPeople.Clients
import WikiPeople.Rankings

/-! What becomes of the token rung when WikiWho sends odd tokens: elements that are no objects,
and editors that are all digits and no number. -/

namespace WikiPeople

open Relational Text

/-- One pass of `count_tokens` over what was parsed. -/
def countElement (unicode : Unicode) (counted : Counter String × Nat) (token : Json) :
    Except Exn (Counter String × Nat) := do
  let value ← (token.get "str" .null).mapError raised
  let editor ← (token.get "editor" .null).mapError raised
  match value, editor with
  | .str value, .str editor =>
      if isCountableToken unicode value then .ok (counted.1.tally editor, counted.2 + 1)
      else .ok counted
  | _, _ => .ok counted

def countElements (unicode : Unicode) (tokens : List Json) : Except Exn (Counter String × Nat) :=
  tokens.foldlM (countElement unicode) (.empty, 0)

def elementEditor (unicode : Unicode) (token : Json) : Option String :=
  match token.field "str", token.field "editor" with
  | some (.str value), some (.str editor) =>
      if isCountableToken unicode value then some editor else none
  | _, _ => none

section Rung

variable (interpreter : Interpreter) (settings : Settings) (users : List Int → Users)
  (groups : Option (String → List String)) (tokens : List Json)

/-- The token rung over what WikiWho sent; the accounts are those of the directory. -/
def tokenRung : Except Exn (List Contributor) := do
  let (counts, total) ← countElements interpreter.unicode tokens
  let candidates ← candidateUserIds interpreter.unicode counts settings.candidatePoolSize
  selectContributors interpreter settings counts total (users candidates) (groups.map pureLookup)
    nameLimit

/-- The rung has counted the tokens that are well formed, and names of their editors those who
denote an account as it would were there no others. -/
structure RanksTheRest (counts : Counter String) (total : Nat) (directory : Users)
    (named : List Contributor) : Prop where
  counted : counts.Counts (tokens.filterMap (elementEditor interpreter.unicode))
  all : total = (tokens.filterMap (elementEditor interpreter.unicode)).length
  ranked : named = specified interpreter groups
    (tokenMetric interpreter total settings (denotedAccount interpreter.unicode directory)) total
    counts.rows
  denoted : ∀ contributor ∈ named, ∃ editor number user,
    editor ∈ tokens.filterMap (elementEditor interpreter.unicode) ∧
    editorNumber interpreter.unicode editor = .ok number ∧ 0 < number ∧
    userOf directory number = some user ∧ contributor.userId = some user.userId

/-- The three functions return, and what they return is right. -/
def Unpoisoned : Prop :=
  ∃ counts total candidates named,
    countElements interpreter.unicode tokens = .ok (counts, total) ∧
    candidateUserIds interpreter.unicode counts settings.candidatePoolSize = .ok candidates ∧
    tokenRung interpreter settings users groups tokens = .ok named ∧
    RanksTheRest interpreter settings groups tokens counts total (users candidates) named

/-- No element is odd: each is an object, and `int` reads the editors that are all digits. -/
def Digestible : Prop :=
  (∀ token ∈ tokens, token.isObject = true) ∧
    ∀ token ∈ tokens, ∀ editor, elementEditor interpreter.unicode token = some editor →
      ReadableEditor interpreter.unicode editor

end Rung

section Counting

variable {unicode : Unicode} {tokens : List Json}

theorem countElement_object (counted : Counter String × Nat) {token : Json}
    (object : token.isObject = true) :
    countElement unicode counted token = .ok ((elementEditor unicode token).elim counted
      (fun editor => (counted.1.tally editor, counted.2 + 1))) := by
  simp only [countElement, get_field object, elementEditor, bind, Except.bind]
  cases token.field "str" with
  | none => rfl
  | some value =>
      cases token.field "editor" with
      | none => cases value <;> rfl
      | some editor =>
          cases value <;> try rfl
          rename_i value
          cases editor <;> try rfl
          simp only [Option.getD_some]
          split <;> rfl

theorem countElement_odd (counted : Counter String × Nat) {token : Json}
    (odd : token.isObject = false) :
    countElement unicode counted token = .error (raised .attributeError) := by
  rw [countElement, Json.get_eq, odd]
  rfl

theorem countElements_objects (objects : ∀ token ∈ tokens, token.isObject = true) :
    countElements unicode tokens =
      .ok ((tokens.filterMap (elementEditor unicode)).foldl Counter.tally .empty,
        (tokens.filterMap (elementEditor unicode)).length) := by
  have counted := @foldlM_ok _ _ _ (countElement unicode) _ tokens
    (fun counted token member => countElement_object counted (objects token member)) (.empty, 0)
  rw [countElements, counted, Counter.foldl_named, Nat.zero_add]

theorem objects_of_countElements {result : Counter String × Nat}
    (counted : countElements unicode tokens = .ok result) :
    ∀ token ∈ tokens, token.isObject = true := by
  have each : ∀ before : Counter String × Nat,
      tokens.foldlM (countElement unicode) before = .ok result →
        ∀ token ∈ tokens, token.isObject = true := by
    clear counted
    induction tokens with
    | nil => exact fun _ _ _ member => absurd member List.not_mem_nil
    | cons first tokens ih =>
        intro before counted token member
        rw [List.foldlM_cons] at counted
        obtain ⟨next, taken, counted⟩ := bind_eq_ok.mp counted
        rcases List.mem_cons.mp member with rfl | later
        · by_contra odd
          rw [countElement_odd before (Bool.eq_false_iff.mpr odd)] at taken
          cases taken
        · exact ih next counted token later
  exact each _ counted

end Counting

section Candidates

variable {unicode : Unicode} {counts : Counter String}

theorem candidateUserId_returns {entry : String × Nat} :
    (∃ candidate, candidateUserId unicode entry = .ok candidate) ↔
      ReadableEditor unicode entry.1 := by
  rw [ReadableEditor, candidateUserId, isRegisteredEditor]
  cases unicode.isdigit entry.1.toList with
  | false => exact ⟨fun _ digits => (by cases digits), fun _ => ⟨none, rfl⟩⟩
  | true =>
      cases editorNumber unicode entry.1 with
      | error raised => simp [bind, Except.bind, Except.map]
      | ok number => cases number <;> simp [bind, Except.bind, Except.map]

/-- One editor that cannot be read is enough for the pool to be lost. -/
theorem candidateUserIds_returns (limit : Int) :
    (∃ candidates, candidateUserIds unicode counts limit = .ok candidates) ↔
      ∀ entry ∈ counts.rows, ReadableEditor unicode entry.1 := by
  have every : (∃ candidates, candidateUserIds unicode counts limit = .ok candidates) ↔
      ∃ every, counts.mostCommon.filterMapM (candidateUserId unicode) = .ok every := by
    rw [candidateUserIds]
    cases counts.mostCommon.filterMapM (candidateUserId unicode) <;> simp [Except.map]
  rw [every, filterMapM_returns]
  simp only [Counter.mem_mostCommon, candidateUserId_returns]

end Candidates

section Poison

variable {interpreter : Interpreter} {settings : Settings} {directory : Users}
  {groups : Option (String → List String)} {tokens : List Json}

theorem selectContributors_specified (measures : interpreter.Measures) {counts : Counter String}
    {total : Nat} (positive : ∀ entry ∈ counts.rows, 0 < entry.2) (sum : counts.total = total)
    (readable : ∀ entry ∈ counts.rows, ReadableEditor interpreter.unicode entry.1) :
    selectContributors interpreter settings counts total directory (groups.map pureLookup)
        nameLimit =
      .ok (specified interpreter groups (tokenMetric interpreter total settings
        (denotedAccount interpreter.unicode directory)) total counts.rows) := by
  have fits : ((counts.rows.map Prod.snd).sum : Int) ≤ total := by
    exact_mod_cast le_of_eq sum
  rw [selectContributors_judged measures positive fits readable, collect_judged]

theorem specified_denoted {total : Int} {entries : List (String × Nat)}
    {contributor : Contributor}
    (named : contributor ∈ specified interpreter groups (tokenMetric interpreter total settings
      (denotedAccount interpreter.unicode directory)) total entries) :
    ∃ entry ∈ entries, ∃ number user, editorNumber interpreter.unicode entry.1 = .ok number ∧
      0 < number ∧ userOf directory number = some user ∧
      contributor.userId = some user.userId := by
  obtain ⟨chosen, first, rfl⟩ := List.mem_map.mp named
  obtain ⟨entry, present, found⟩ :=
    List.mem_filterMap.mp (List.mem_mergeSort.mp (List.mem_of_mem_take first))
  obtain ⟨userId, candidate, resolved⟩ :=
    Option.bind_eq_some_iff.mp (eligible_eq_some found).1
  obtain ⟨registered, read⟩ := candidateUserId_eq_some.mp (madeOf_eq_some.mp candidate)
  obtain ⟨number, parsed, rfl⟩ := map_eq_ok.mp read
  refine ⟨entry, present, number, chosen.1, parsed, ?_, resolved, rfl⟩
  rw [isRegisteredEditor] at registered
  split at registered
  · obtain ⟨other, same, positive⟩ := map_eq_ok.mp registered
    rw [show editorNumber interpreter.unicode entry.1 = .ok number from parsed] at same
    cases same
    exact of_decide_eq_true positive
  · cases registered

theorem digestible_of_tokenRung {users : List Int → Users} {named : List Contributor}
    (returned : tokenRung interpreter settings users groups tokens = .ok named) :
    Digestible interpreter tokens := by
  obtain ⟨counted, taken, returned⟩ := bind_eq_ok.mp returned
  obtain ⟨candidates, listed, -⟩ := bind_eq_ok.mp returned
  have objects := objects_of_countElements taken
  refine ⟨objects, fun token member editor written => ?_⟩
  rw [countElements_objects objects] at taken
  cases taken
  have counts := Counter.counts_foldl Counter.counts_empty
    (tokens.filterMap (elementEditor interpreter.unicode))
  have occurs := List.count_pos_iff.mpr
    (List.mem_filterMap.mpr ⟨token, member, written⟩ : editor ∈ _)
  exact (candidateUserIds_returns _).mp ⟨candidates, listed⟩ (editor, _)
    ((counts editor _).mpr ⟨occurs, rfl⟩)

/-- The rung survives exactly the tokens that can be read. -/
theorem unpoisoned_iff (interpreter : Interpreter) (settings : Settings)
    (users : List Int → Users) (groups : Option (String → List String)) (tokens : List Json)
    (measures : interpreter.Measures) :
    Unpoisoned interpreter settings users groups tokens ↔ Digestible interpreter tokens := by
  constructor
  · rintro ⟨_, _, _, _, -, -, returned, -⟩
    exact digestible_of_tokenRung returned
  · rintro ⟨objects, readable⟩
    let editors := tokens.filterMap (elementEditor interpreter.unicode)
    have counts : (editors.foldl Counter.tally .empty).Counts editors := by
      simpa using Counter.counts_foldl Counter.counts_empty editors
    have sum : (editors.foldl Counter.tally .empty).total = editors.length := by
      rw [Counter.total_foldl]
      exact Nat.zero_add _
    have positive : ∀ entry ∈ (editors.foldl Counter.tally .empty).rows, 0 < entry.2 :=
      fun entry member => ((counts entry.1 entry.2).mp member).1
    have written : ∀ entry ∈ (editors.foldl Counter.tally .empty).rows, entry.1 ∈ editors := by
      intro entry member
      obtain ⟨occurs, same⟩ := (counts entry.1 entry.2).mp member
      exact List.count_pos_iff.mp (same ▸ occurs)
    have every : ∀ entry ∈ (editors.foldl Counter.tally .empty).rows,
        ReadableEditor interpreter.unicode entry.1 := by
      intro entry member
      obtain ⟨token, present, found⟩ := List.mem_filterMap.mp (written entry member)
      exact readable token present entry.1 found
    obtain ⟨candidates, listed⟩ := (candidateUserIds_returns settings.candidatePoolSize).mpr every
    have ranked := @selectContributors_specified interpreter settings (users candidates) groups
      measures _ editors.length positive sum every
    have counted := @countElements_objects interpreter.unicode tokens objects
    refine ⟨_, _, candidates, _, counted, listed, ?_, counts, rfl, rfl, ?_⟩
    · rw [tokenRung, counted]
      change (candidateUserIds interpreter.unicode _ _).bind _ = _
      rw [listed]
      exact ranked
    · intro contributor named
      obtain ⟨entry, member, number, user, read, above, resolved, same⟩ := specified_denoted named
      exact ⟨entry.1, number, user, written entry member, read, above, resolved, same⟩

end Poison

def adaUsers : Users := Table.empty.put (7, ⟨7, "Ada", ["user"], false⟩)

def adaElement : Json := .obj [("str", .str "mot"), ("editor", .str "7")]

theorem unpoisoned_iff_ada :
    Unpoisoned plainInterpreter fromEnv (fun _ => adaUsers) none
      (List.replicate 20 adaElement) := by
  refine (unpoisoned_iff plainInterpreter fromEnv (fun _ => adaUsers) none
    (List.replicate 20 adaElement) plainInterpreter_measures).mpr ⟨?_, ?_⟩
  · intro token member
    rw [List.eq_of_mem_replicate member]
    rfl
  · intro token member editor written _
    rw [List.eq_of_mem_replicate member] at written
    cases written
    exact ⟨7, rfl⟩

def superscriptUnicode : Unicode :=
  { asciiUnicode with
    isDigit := fun char => char.isDigit || char = '²'
    ascii_isDigit := by decide }

theorem superscriptUnicode_documented : superscriptUnicode.Documented where
  ascii := by
    intro char ascii
    have plain : char ≠ '²' := by
      rintro rfl
      exact absurd ascii (by decide)
    simp [superscriptUnicode, plain]
  decimal := by
    intro char decimal
    have digit := asciiUnicode_documented.decimal char decimal
    change (char.isDigit || _) = true
    rw [show char.isDigit = true from digit, Bool.true_or]

def superscriptElement : Json := .obj [("str", .str "mot"), ("editor", .str "²")]

/-- One element that is no object, or one editor that is a superscript, and Ada is not named. -/
theorem odd_tokens_raise :
    (¬ ∃ named, tokenRung plainInterpreter fromEnv (fun _ => adaUsers) none
      (.null :: List.replicate 20 adaElement) = .ok named) ∧
    ¬ ∃ named, tokenRung { plainInterpreter with unicode := superscriptUnicode } fromEnv
      (fun _ => adaUsers) none (superscriptElement :: List.replicate 20 adaElement) =
        .ok named := by
  constructor
  · rintro ⟨named, returned⟩
    have object := (digestible_of_tokenRung returned).1 .null List.mem_cons_self
    cases object
  · rintro ⟨named, returned⟩
    obtain ⟨number, read⟩ := (digestible_of_tokenRung returned).2 superscriptElement
      List.mem_cons_self "²" rfl rfl
    cases read

end WikiPeople
