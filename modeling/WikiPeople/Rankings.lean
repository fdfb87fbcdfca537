import Mathlib.Algebra.Order.BigOperators.Group.List
import Mathlib.Algebra.Order.Group.Nat
import Mathlib.Data.List.Find
import WikiPeople.Ladder

/-! Both rankings against what they are for: of the accounts that may be named, the three with
the greatest counts. -/

namespace WikiPeople

open Relational Text

def Evidence.count : Evidence → Nat
  | .tokenCount count => count
  | .editCount count => count

/-- What tells one ranking from the other: whose account an entry is, which counts are enough,
and what is said of them. -/
structure Metric (Name : Type) where
  account : Name → Option ResolvedUser
  clears : Nat → Bool
  evidence : Nat → Evidence
  counts : ∀ count, (evidence count).count = count

section Specification

variable (interpreter : Interpreter) (groups : Option (String → List String)) {Name : Type}
  (metric : Metric Name) (total : Int)

/-- None of the conditions excludes the account that are known without a request. -/
def passesLocally (user : ResolvedUser) : Bool :=
  !user.missing && !"~".toList.isPrefixOf user.username.toList &&
    !user.groups.any (isBotGroup interpreter.unicode) &&
    !hasBotName interpreter.alphabet user.username

def passesExclusion (user : ResolvedUser) : Bool :=
  passesLocally interpreter user &&
    !(groups.elim [] (fun groupsOf => groupsOf user.username)).any
      (isBotGroup interpreter.unicode)

def shareOf (count : Int) : Rat := (interpreter.divide count total).getD 0

/-- The account of an entry, where it may be named, and its count. -/
def eligible (entry : Name × Nat) : Option (ResolvedUser × Nat) :=
  (metric.account entry.1).bind (fun user =>
    if metric.clears entry.2 && passesExclusion interpreter groups user then some (user, entry.2)
    else none)

def nameOf (chosen : ResolvedUser × Nat) : Contributor :=
  namedAs interpreter chosen.1 (metric.evidence chosen.2) (shareOf interpreter total chosen.2)

/-- The specification of both rankings: of what may be named the first three, the greatest
count first and equal counts in the order in which they were first counted. -/
def specified (entries : List (Name × Nat)) : List Contributor :=
  ((byWeight Prod.snd (entries.filterMap (eligible interpreter groups metric))).take
    nameLimit).map (nameOf interpreter metric total)

def registeredAccount (users : Users) (editor : String) : Option ResolvedUser :=
  (users.rows.map Prod.snd).find? (fun user =>
    0 < user.userId && toString user.userId.toNat = editor)

def tokenMetric (settings : Settings) (account : String → Option ResolvedUser) :
    Metric String where
  account := account
  clears := fun count => settings.minimumTokens ≤ count &&
    settings.minimumShare ≤ shareOf interpreter total count
  evidence := .tokenCount
  counts := fun _ => rfl

def editMetric (users : Users) : Metric Int where
  account := userOf users
  clears := fun _ => true
  evidence := .editCount
  counts := fun _ => rfl

end Specification

def pureLookup (groupsOf : String → List String) : GlobalGroupLookup :=
  fun username => .ok (groupsOf username)

def raisingAt (groupsOf : String → List String) (name : String) : GlobalGroupLookup :=
  fun username =>
    if username = name then .error (.unexpected "AssertionError") else .ok (groupsOf username)

/-- A selection asks for the global groups of this name: it matters that asking raises. -/
def Consults (select : Option GlobalGroupLookup → Except Exn (List Contributor))
    (groupsOf : String → List String) (name : String) : Prop :=
  ∃ raised, select (some (raisingAt groupsOf name)) = .error raised

/-- The selection is the specified one, with the bounds on ids and counts, and asks for global
groups only of accounts that nothing else excludes and that it still could name. -/
structure EqualsSpecification {Name : Type} (interpreter : Interpreter)
    (groups : Option (String → List String)) (metric : Metric Name) (total : Int)
    (entries : List (Name × Nat))
    (select : Option GlobalGroupLookup → Except Exn (List Contributor)) : Prop where
  selected : select (groups.map pureLookup) =
    .ok (specified interpreter groups metric total entries)
  distinct : ((specified interpreter groups metric total entries).map Contributor.userId).Nodup
  counted : ∀ contributor ∈ specified interpreter groups metric total entries,
    0 < contributor.evidence.count ∧ (contributor.evidence.count : Int) ≤ total
  shared : (((specified interpreter groups metric total entries).map
    (fun contributor => contributor.evidence.count)).sum : Nat) ≤ total
  consulted : ∀ groupsOf name, groups = some groupsOf → Consults select groupsOf name →
    ∃ before entry after user, byWeight Prod.snd entries = before ++ entry :: after ∧
      metric.account entry.1 = some user ∧ user.username = name ∧
      metric.clears entry.2 = true ∧ passesLocally interpreter user = true ∧
      (before.filterMap (eligible interpreter groups metric)).length < nameLimit

section Judged

variable {interpreter : Interpreter} {groups : Option (String → List String)} {Name : Type}
  {metric : Metric Name} {total : Int}

def judged (interpreter : Interpreter) (metric : Metric Name) (total : Int)
    (globalGroups : Option GlobalGroupLookup) (entry : Name × Nat) :
    Except Exn (Option Contributor) :=
  match metric.account entry.1 with
  | none => .ok none
  | some user =>
      if metric.clears entry.2 then
        (shouldHighlightContributor interpreter.unicode interpreter.alphabet user
          globalGroups).map (fun passes =>
            if passes then some (nameOf interpreter metric total (user, entry.2)) else none)
      else .ok none

theorem shouldHighlight_eq (user : ResolvedUser) (globalGroups : Option GlobalGroupLookup) :
    shouldHighlightContributor interpreter.unicode interpreter.alphabet user globalGroups =
      if passesLocally interpreter user then
        globalGroups.elim (.ok true) (fun lookup => (lookup user.username).map
          (fun groups => !groups.any (isBotGroup interpreter.unicode)))
      else .ok false := by
  unfold shouldHighlightContributor passesLocally
  cases user.missing <;> cases "~".toList.isPrefixOf user.username.toList <;>
    cases user.groups.any (isBotGroup interpreter.unicode) <;>
    cases hasBotName interpreter.alphabet user.username <;> cases globalGroups <;> rfl

theorem shouldHighlight_pureLookup (user : ResolvedUser) :
    shouldHighlightContributor interpreter.unicode interpreter.alphabet user
        (groups.map pureLookup) = .ok (passesExclusion interpreter groups user) := by
  rw [shouldHighlight_eq, passesExclusion]
  cases passesLocally interpreter user <;> cases groups <;> rfl

theorem judged_pureLookup (entry : Name × Nat) :
    judged interpreter metric total (groups.map pureLookup) entry =
      .ok ((eligible interpreter groups metric entry).map (nameOf interpreter metric total)) := by
  rw [judged, eligible]
  cases metric.account entry.1 with
  | none => rfl
  | some user =>
      simp only [shouldHighlight_pureLookup, Option.bind_some]
      cases metric.clears entry.2 <;> cases passesExclusion interpreter groups user <;> rfl

theorem judged_raisingAt {groupsOf : String → List String} {name : String} {entry : Name × Nat}
    {made : Option Contributor}
    (returned : judged interpreter metric total (some (raisingAt groupsOf name)) entry =
      .ok made) :
    made = (eligible interpreter (some groupsOf) metric entry).map
      (nameOf interpreter metric total) := by
  have pure := @judged_pureLookup interpreter (some groupsOf) _ metric total entry
  rw [judged] at pure returned
  cases found : metric.account entry.1 with
  | none =>
      rw [found] at pure returned
      exact Except.ok.inj (returned.symm.trans pure)
  | some user =>
      simp only [found, shouldHighlight_eq] at pure returned
      cases clears : metric.clears entry.2 with
      | false =>
          simp only [clears] at pure returned
          exact Except.ok.inj (returned.symm.trans pure)
      | true =>
          cases passes : passesLocally interpreter user with
          | false =>
              simp only [clears, passes] at pure returned
              exact Except.ok.inj (returned.symm.trans pure)
          | true =>
              simp only [clears, passes, if_true, Option.elim_some, raisingAt] at pure returned
              split at returned
              · cases returned
              · exact Except.ok.inj (returned.symm.trans pure)

theorem judged_raises {groupsOf : String → List String} {name : String} {entry : Name × Nat}
    {raised : Exn}
    (failed : judged interpreter metric total (some (raisingAt groupsOf name)) entry =
      .error raised) :
    ∃ user, metric.account entry.1 = some user ∧ user.username = name ∧
      metric.clears entry.2 = true ∧ passesLocally interpreter user = true := by
  rw [judged] at failed
  cases found : metric.account entry.1 with
  | none =>
      rw [found] at failed
      cases failed
  | some user =>
      simp only [found, shouldHighlight_eq] at failed
      cases clears : metric.clears entry.2 with
      | false =>
          simp only [clears] at failed
          cases failed
      | true =>
          cases passes : passesLocally interpreter user with
          | false =>
              simp only [clears, passes] at failed
              cases failed
          | true =>
              simp only [clears, passes, if_true, Option.elim_some, raisingAt] at failed
              split at failed
              · rename_i same
                exact ⟨user, rfl, same, rfl, passes⟩
              · cases failed

theorem eligible_eq_some {entry : Name × Nat} {chosen : ResolvedUser × Nat}
    (found : eligible interpreter groups metric entry = some chosen) :
    metric.account entry.1 = some chosen.1 ∧ chosen.2 = entry.2 := by
  obtain ⟨user, account, made⟩ := Option.bind_eq_some_iff.mp found
  split at made
  · cases made
    exact ⟨account, rfl⟩
  · cases made

/-- Sorting before or after the choice makes no difference. -/
theorem specified_eq (entries : List (Name × Nat)) :
    specified interpreter groups metric total entries =
      ((byWeight Prod.snd entries).filterMap (fun entry =>
        (eligible interpreter groups metric entry).map (nameOf interpreter metric total))).take
          nameLimit := by
  rw [specified, ← filterMap_byWeight (fun entry chosen found => (eligible_eq_some found).2),
    List.map_take, List.map_filterMap]

theorem collect_judged (entries : List (Name × Nat)) :
    collect nameLimit (judged interpreter metric total (groups.map pureLookup)) []
      (byWeight Prod.snd entries) = .ok (specified interpreter groups metric total entries) := by
  rw [specified_eq]
  exact collect_of_values (by decide) (fun entry _ => judged_pureLookup entry)

theorem specified_counts (entries : List (Name × Nat)) :
    ((specified interpreter groups metric total entries).map
      (fun contributor => contributor.evidence.count)).Sublist
      ((byWeight Prod.snd entries).map Prod.snd) := by
  rw [specified_eq]
  refine ((List.take_sublist _ _).map _).trans (map_filterMap_sublist ?_)
  intro entry _ contributor made
  obtain ⟨chosen, found, rfl⟩ := Option.map_eq_some_iff.mp made
  exact (metric.counts chosen.2).trans (eligible_eq_some found).2

theorem specified_distinct {entries : List (Name × Nat)}
    (keys : (entries.map Prod.fst).Nodup)
    (apart : ∀ first second user other, metric.account first = some user →
      metric.account second = some other → user.userId = other.userId → first = second) :
    ((specified interpreter groups metric total entries).map Contributor.userId).Nodup := by
  have ranked : (byWeight Prod.snd entries).Pairwise (fun first second => first.1 ≠ second.1) := by
    have permuted := (List.mergeSort_perm entries
      (fun first second => decide (second.2 ≤ first.2))).map Prod.fst
    exact List.pairwise_map.mp (permuted.nodup_iff.mpr keys)
  rw [specified_eq, List.Nodup, List.pairwise_map]
  refine List.Pairwise.sublist (List.take_sublist _ _) (ranked.filterMap _ ?_)
  intro first second differ left named right other same
  obtain ⟨chosen, found, rfl⟩ := Option.map_eq_some_iff.mp named
  obtain ⟨rival, also, rfl⟩ := Option.map_eq_some_iff.mp other
  exact differ (apart first.1 second.1 chosen.1 rival.1 (eligible_eq_some found).1
    (eligible_eq_some also).1 (Option.some.inj same))

/-- A loop that judges the entries in descending order equals the specification. -/
theorem equalsSpecification_of {entries : List (Name × Nat)}
    {select : Option GlobalGroupLookup → Except Exn (List Contributor)}
    (loops : ∀ globalGroups, select globalGroups =
      collect nameLimit (judged interpreter metric total globalGroups) []
        (byWeight Prod.snd entries))
    (positive : ∀ entry ∈ entries, 0 < entry.2)
    (fits : ((entries.map Prod.snd).sum : Int) ≤ total) (keys : (entries.map Prod.fst).Nodup)
    (apart : ∀ first second user other, metric.account first = some user →
      metric.account second = some other → user.userId = other.userId → first = second) :
    EqualsSpecification interpreter groups metric total entries select := by
  have counts := @specified_counts interpreter groups Name metric total entries
  have sorted := List.mergeSort_perm entries (fun first second => decide (second.2 ≤ first.2))
  have sum : ((byWeight Prod.snd entries).map Prod.snd).sum = (entries.map Prod.snd).sum :=
    (sorted.map Prod.snd).sum_nat
  have bound : ∀ count ∈ (byWeight Prod.snd entries).map Prod.snd, 0 < count ∧
      (count : Int) ≤ total := by
    intro count member
    obtain ⟨entry, present, rfl⟩ := List.mem_map.mp member
    have most := List.single_le_sum (fun _ _ => Nat.zero_le _) _ member
    exact ⟨positive entry (sorted.mem_iff.mp present), by omega⟩
  refine ⟨?_, specified_distinct keys apart, ?_, ?_, ?_⟩
  · rw [loops, collect_judged]
  · intro contributor member
    exact bound _ (counts.subset (List.mem_map.mpr ⟨contributor, member, rfl⟩))
  · have most := counts.sum_le_sum (fun _ _ => Nat.zero_le _)
    omega
  · rintro groupsOf name rfl ⟨raised, failed⟩
    rw [loops] at failed
    obtain ⟨before, entry, after, split_, raises, quiet, few⟩ := collect_raised (by decide) failed
    obtain ⟨user, account, named, clears, passes⟩ := judged_raises raises
    refine ⟨before, entry, after, user, split_, account, named, clears, passes, ?_⟩
    have same : before.filterMap
        (madeOf (judged interpreter metric total (some (raisingAt groupsOf name)))) =
        (before.filterMap (eligible interpreter (some groupsOf) metric)).map
          (nameOf interpreter metric total) := by
      rw [List.map_filterMap]
      refine List.filterMap_congr (fun earlier member => ?_)
      obtain ⟨made, returned⟩ := quiet earlier member
      rw [madeOf, returned, ← judged_raisingAt returned]
      rfl
    rw [same, List.length_map, List.length_nil, Nat.zero_add] at few
    exact few

end Judged

def KeyedByOwn (users : Users) : Prop :=
  ∀ row ∈ users.rows, row.2.userId = row.1

/-- `str(int(editor)) == editor`, or the editor is not all digits. -/
def CanonicalEditor (unicode : Unicode) (editor : String) : Prop :=
  unicode.isdigit editor.toList = false ∨
    ∃ number, editorNumber unicode editor = .ok number ∧ toString number = editor

/-- The quotient of a part of a positive whole does not overflow. -/
def Interpreter.Measures (interpreter : Interpreter) : Prop :=
  ∀ part whole : Int, 0 < part → part ≤ whole → ∃ share, interpreter.divide part whole = some share

/-- `tokenContributor` with the exclusion rule before the two thresholds. -/
def exclusionFirst (interpreter : Interpreter) (settings : Settings) (totalTokens : Int)
    (users : Users) (globalGroups : Option GlobalGroupLookup) (entry : String × Nat) :
    Except Exn (Option Contributor) := do
  if ← isRegisteredEditor interpreter.unicode entry.1 then
    let userId ← editorNumber interpreter.unicode entry.1
    match userOf users userId with
    | none => .ok none
    | some user =>
        if ← shouldHighlightContributor interpreter.unicode interpreter.alphabet user
            globalGroups then
          let share ← quotient interpreter entry.2 totalTokens
          if (entry.2 : Int) < settings.minimumTokens ∨ share < settings.minimumShare then
            .ok none
          else .ok (some (namedAs interpreter user (.tokenCount entry.2) share))
        else .ok none
  else .ok none

def selectExclusionFirst (interpreter : Interpreter) (settings : Settings)
    (counts : Counter String) (totalTokens : Int) (users : Users)
    (globalGroups : Option GlobalGroupLookup) (limit : Nat) : Except Exn (List Contributor) :=
  if totalTokens ≤ 0 then .ok []
  else collect limit (exclusionFirst interpreter settings totalTokens users globalGroups) []
    counts.mostCommon

section Entries

variable {interpreter : Interpreter} {settings : Settings} {users : Users} {total : Int}

theorem natural_toList (number : Nat) : (toString number).toList = Nat.toDigits 10 number := by
  simp [toString]

theorem natural_injective {first second : Nat} (same : toString first = toString second) :
    first = second := by
  have digits := congrArg String.toList same
  rw [natural_toList, natural_toList] at digits
  have read := congrArg (fun text => asciiUnicode.int? text) digits
  simp only [Unicode.int?_toDigits] at read
  exact Option.some.inj read

theorem registeredAccount_spelled {editor : String} {user : ResolvedUser}
    (registered : registeredAccount users editor = some user) :
    0 < user.userId ∧ toString user.userId.toNat = editor := by
  have spelled := List.find?_some registered
  simpa using spelled

theorem registeredAccount_toString (own : KeyedByOwn users) {number : Nat}
    (positive : 0 < number) : registeredAccount users (toString number) = userOf users number := by
  rw [registeredAccount, userOf, Table.find, List.find?_map]
  congr 1
  refine List.find?_congr (fun row member => ?_)
  have key := own row member
  rw [Function.comp_apply, key, Bool.eq_iff_iff, Bool.and_eq_true]
  simp only [decide_eq_true_iff]
  constructor
  · rintro ⟨above, spelled⟩
    have equal := natural_injective spelled
    change row.1 = number
    omega
  · intro same
    rw [show row.1 = number from same, Int.toNat_natCast]
    exact ⟨by omega, rfl⟩

/-- `int` reads the editor where it is all digits. -/
def ReadableEditor (unicode : Unicode) (editor : String) : Prop :=
  unicode.isdigit editor.toList = true → ∃ number, editorNumber unicode editor = .ok number

def denotedAccount (unicode : Unicode) (users : Users) (editor : String) : Option ResolvedUser :=
  (madeOf (candidateUserId unicode) (editor, 0)).bind (userOf users)

theorem denotedAccount_odd {unicode : Unicode} {editor : String}
    (odd : unicode.isdigit editor.toList = false) : denotedAccount unicode users editor = none := by
  rw [denotedAccount, madeOf, candidateUserId, isRegisteredEditor, odd]
  rfl

theorem denotedAccount_read {unicode : Unicode} {editor : String} {number : Nat}
    (digits : unicode.isdigit editor.toList = true)
    (read : editorNumber unicode editor = .ok number) :
    denotedAccount unicode users editor = if 0 < number then userOf users number else none := by
  rw [denotedAccount, madeOf, candidateUserId, isRegisteredEditor, if_pos digits, read]
  cases number with
  | zero => rfl
  | succ number => rw [if_pos (Nat.succ_pos number)]; rfl

theorem tokenContributor_judged {entry : String × Nat}
    (readable : ReadableEditor interpreter.unicode entry.1)
    (measured : ∃ share, interpreter.divide entry.2 total = some share)
    (globalGroups : Option GlobalGroupLookup) :
    tokenContributor interpreter settings total users globalGroups entry =
      judged interpreter
        (tokenMetric interpreter total settings (denotedAccount interpreter.unicode users)) total
        globalGroups entry := by
  obtain ⟨share, divided⟩ := measured
  have known : shareOf interpreter total entry.2 = share := by rw [shareOf, divided]; rfl
  rw [judged]
  change _ = (match denotedAccount interpreter.unicode users entry.1 with
    | none => _
    | some user => _)
  cases digits : interpreter.unicode.isdigit entry.1.toList with
  | false =>
      rw [denotedAccount_odd digits, tokenContributor, isRegisteredEditor, digits]
      rfl
  | true =>
      obtain ⟨number, read⟩ := readable digits
      rw [denotedAccount_read digits read, tokenContributor, isRegisteredEditor, if_pos digits,
        read]
      cases number with
      | zero => rfl
      | succ number =>
          rw [if_pos (Nat.succ_pos number)]
          by_cases light : (entry.2 : Int) < settings.minimumTokens ∨
            share < settings.minimumShare
          · have short : (decide (settings.minimumTokens ≤ (entry.2 : Int)) &&
                decide (settings.minimumShare ≤ share)) = false := by
              simp only [Bool.and_eq_false_iff, decide_eq_false_iff_not]
              exact light.imp Int.not_le.mpr Rat.not_le.mpr
            simp only [Except.map, Nat.succ_pos, decide_true, if_true, quotient_eq_ok.mpr divided,
              bind, Except.bind, if_pos light, tokenMetric, known, short]
            cases userOf users ((number + 1 : Nat) : Int) <;> rfl
          · have enough : (decide (settings.minimumTokens ≤ (entry.2 : Int)) &&
                decide (settings.minimumShare ≤ share)) = true := by
              obtain ⟨counted, shared⟩ := not_or.mp light
              simp only [Bool.and_eq_true, decide_eq_true_iff]
              exact ⟨Int.not_lt.mp counted, Rat.not_lt.mp shared⟩
            simp only [Except.map, Nat.succ_pos, decide_true, if_true, quotient_eq_ok.mpr divided,
              bind, Except.bind, if_neg light, tokenMetric, known, enough]
            cases userOf users ((number + 1 : Nat) : Int) with
            | none => rfl
            | some user =>
                simp only [nameOf, known]
                cases shouldHighlightContributor interpreter.unicode interpreter.alphabet user
                  globalGroups with
                | error raised => rfl
                | ok passes => cases passes <;> rfl

theorem CanonicalEditor.readable {unicode : Unicode} {editor : String}
    (canonical : CanonicalEditor unicode editor) : ReadableEditor unicode editor := by
  intro digits
  rcases canonical with odd | ⟨number, read, -⟩
  · rw [odd] at digits
    cases digits
  · exact ⟨number, read⟩

theorem CanonicalEditor.registeredAccount_eq {unicode : Unicode} (own : KeyedByOwn users)
    {editor : String} (canonical : CanonicalEditor unicode editor) :
    registeredAccount users editor = denotedAccount unicode users editor := by
  rcases canonical with odd | ⟨number, read, spelled⟩
  · rw [denotedAccount_odd odd]
    refine Option.eq_none_iff_forall_ne_some.mpr (fun user registered => ?_)
    obtain ⟨-, spelled⟩ := registeredAccount_spelled registered
    rw [← spelled, natural_toList, Unicode.isdigit_toDigits] at odd
    cases odd
  · have digits : unicode.isdigit editor.toList = true := by
      rw [← spelled, natural_toList, Unicode.isdigit_toDigits]
    rw [denotedAccount_read digits read]
    split
    · rename_i positive
      rw [← spelled, registeredAccount_toString own positive]
    · rename_i none
      refine Option.eq_none_iff_forall_ne_some.mpr (fun user registered => ?_)
      obtain ⟨above, same⟩ := registeredAccount_spelled registered
      have equal := natural_injective (same.trans spelled.symm)
      omega

theorem judged_registered (own : KeyedByOwn users) {entry : String × Nat}
    (canonical : CanonicalEditor interpreter.unicode entry.1)
    (globalGroups : Option GlobalGroupLookup) :
    judged interpreter (tokenMetric interpreter total settings (registeredAccount users)) total
        globalGroups entry =
      judged interpreter
        (tokenMetric interpreter total settings (denotedAccount interpreter.unicode users)) total
        globalGroups entry := by
  simp only [judged, tokenMetric, nameOf, canonical.registeredAccount_eq own]
  rfl

theorem userOf_own (own : KeyedByOwn users) {userId : Int} {user : ResolvedUser}
    (resolved : userOf users userId = some user) : user.userId = userId := by
  obtain ⟨row, found, rfl⟩ := Option.map_eq_some_iff.mp resolved
  obtain ⟨present, same⟩ := Table.find_eq_some.mp found
  exact (own row present).trans same

theorem topEditor_judged {entry : Int × Nat}
    (measured : ∃ share, interpreter.divide entry.2 total = some share)
    (globalGroups : Option GlobalGroupLookup) :
    topEditor interpreter total users globalGroups entry =
      judged interpreter (editMetric users) total globalGroups entry := by
  obtain ⟨share, divided⟩ := measured
  have known : shareOf interpreter total entry.2 = share := by rw [shareOf, divided]; rfl
  rw [topEditor, judged]
  change (match userOf users entry.1 with | none => _ | some user => _) =
    (match userOf users entry.1 with | none => _ | some user => _)
  cases userOf users entry.1 with
  | none => rfl
  | some user =>
      simp only [quotient_eq_ok.mpr divided, bind, Except.bind, editMetric, nameOf, known]
      cases shouldHighlightContributor interpreter.unicode interpreter.alphabet user
        globalGroups with
      | error raised => rfl
      | ok passes => cases passes <;> rfl

theorem registered_number {unicode : Unicode} {editor : String}
    (registered : isRegisteredEditor unicode editor = .ok true) :
    ∃ number, editorNumber unicode editor = .ok number := by
  rw [isRegisteredEditor] at registered
  split at registered
  · obtain ⟨number, read, -⟩ := map_eq_ok.mp registered
    exact ⟨number, read⟩
  · cases registered

theorem exclusionFirst_eq {groups : Option (String → List String)} {entry : String × Nat}
    (measured : ∃ share, interpreter.divide entry.2 total = some share) :
    exclusionFirst interpreter settings total users (groups.map pureLookup) entry =
      tokenContributor interpreter settings total users (groups.map pureLookup) entry := by
  obtain ⟨share, divided⟩ := measured
  rw [exclusionFirst, tokenContributor]
  cases registered : isRegisteredEditor interpreter.unicode entry.1 with
  | error raised => rfl
  | ok registers =>
      cases registers with
      | false => rfl
      | true =>
          obtain ⟨number, read⟩ := registered_number registered
          simp only [quotient_eq_ok.mpr divided, read, bind, Except.bind, if_true,
            shouldHighlight_pureLookup]
          cases userOf users number with
          | none => exact (ite_self _).symm
          | some user =>
              dsimp only
              cases passesExclusion interpreter groups user with
              | false => exact (ite_self _).symm
              | true => rfl

end Entries

section Counted

variable {interpreter : Interpreter} {settings : Settings}

def countedEditor (unicode : Unicode) (token : Token) : Option String :=
  match token.str, token.editor with
  | some value, some editor => if isCountableToken unicode value then some editor else none
  | _, _ => none

theorem countToken_eq (unicode : Unicode) (counted : Counter String × Nat) (token : Token) :
    countToken unicode counted token = (countedEditor unicode token).elim counted
      (fun editor => (counted.1.tally editor, counted.2 + 1)) := by
  rw [countToken, countedEditor]
  cases token.str with
  | none => rfl
  | some value =>
      cases token.editor with
      | none => rfl
      | some editor => cases countable : isCountableToken unicode value <;> simp [countable]

theorem countTokens_eq (unicode : Unicode) (tokens : List Token) :
    countTokens unicode tokens =
      ((tokens.filterMap (countedEditor unicode)).foldl Counter.tally .empty,
        (tokens.filterMap (countedEditor unicode)).length) := by
  have step : countToken unicode = fun counted token =>
      (countedEditor unicode token).elim counted
        (fun editor => (counted.1.tally editor, counted.2 + 1)) :=
    funext fun counted => funext (countToken_eq unicode counted)
  rw [countTokens, step, Counter.foldl_named, Nat.zero_add]

theorem countTokens_counts (unicode : Unicode) (tokens : List Token) :
    (∀ entry ∈ (countTokens unicode tokens).1.rows, 0 < entry.2 ∧
      ∃ token ∈ tokens, token.editor = some entry.1) ∧
    (countTokens unicode tokens).1.total = (countTokens unicode tokens).2 := by
  rw [countTokens_eq]
  have counts := Counter.counts_foldl Counter.counts_empty
    (tokens.filterMap (countedEditor unicode))
  rw [List.nil_append] at counts
  constructor
  · rintro ⟨editor, count⟩ present
    obtain ⟨positive, occurs⟩ := (counts editor count).mp present
    refine ⟨positive, ?_⟩
    rw [occurs] at positive
    obtain ⟨token, member, counted⟩ :=
      List.mem_filterMap.mp (List.count_pos_iff.mp positive)
    refine ⟨token, member, ?_⟩
    rw [countedEditor] at counted
    split at counted
    · rename_i value other _ written
      split at counted
      · cases counted
        exact written
      · cases counted
    · cases counted
  · rw [Counter.total_foldl]
    change 0 + _ = _
    rw [Nat.zero_add]

end Counted


section Rankings

variable (interpreter : Interpreter) (settings : Settings) (users : Users)
  (groups : Option (String → List String))

theorem collect_counted {Name : Type} {total : Int} {entries : List (Name × Nat)}
    (positive : ∀ entry ∈ entries, 0 < entry.2)
    (fits : ((entries.map Prod.snd).sum : Nat) ≤ total)
    (entry : Name × Nat → Except Exn (Option Contributor)) :
    (if total ≤ 0 then .ok [] else collect nameLimit entry [] (byWeight Prod.snd entries)) =
      collect nameLimit entry [] (byWeight Prod.snd entries) := by
  split
  · rename_i empty
    cases entries with
    | nil =>
        rw [byWeight, List.mergeSort_nil]
        rfl
    | cons first rest =>
        have some := positive first List.mem_cons_self
        rw [List.map_cons, List.sum_cons] at fits
        omega
  · rfl

theorem measured_of_counts {interpreter : Interpreter} (measures : interpreter.Measures)
    {Name : Type} {total : Int} {entries : List (Name × Nat)}
    (positive : ∀ entry ∈ entries, 0 < entry.2)
    (fits : ((entries.map Prod.snd).sum : Nat) ≤ total) {entry : Name × Nat}
    (present : entry ∈ byWeight Prod.snd entries) :
    ∃ share, interpreter.divide entry.2 total = some share := by
  have counted := List.mem_mergeSort.mp present
  have part := List.single_le_sum (fun _ _ => Nat.zero_le _) entry.2
    (List.mem_map.mpr ⟨entry, counted, rfl⟩)
  have some := positive entry counted
  exact measures entry.2 total (by omega) (by omega)

theorem selectContributors_judged {interpreter : Interpreter} {settings : Settings}
    {users : Users} (measures : interpreter.Measures) {counts : Counter String} {total : Int}
    (positive : ∀ entry ∈ counts.rows, 0 < entry.2)
    (fits : ((counts.rows.map Prod.snd).sum : Nat) ≤ total)
    (readable : ∀ entry ∈ counts.rows, ReadableEditor interpreter.unicode entry.1)
    (globalGroups : Option GlobalGroupLookup) :
    selectContributors interpreter settings counts total users globalGroups nameLimit =
      collect nameLimit (judged interpreter
        (tokenMetric interpreter total settings (denotedAccount interpreter.unicode users)) total
        globalGroups) [] (byWeight Prod.snd counts.rows) := by
  rw [← collect_counted positive fits]
  change (if _ then _ else _) = (if _ then _ else _)
  congr 1
  exact collect_congr (fun entry member =>
    tokenContributor_judged (readable entry (Counter.mem_mostCommon.mp member))
      (measured_of_counts measures positive fits member) globalGroups) []

theorem selectExclusionFirst_eq {interpreter : Interpreter} {settings : Settings}
    {users : Users} {groups : Option (String → List String)} (measures : interpreter.Measures)
    {counts : Counter String} {total : Int} (positive : ∀ entry ∈ counts.rows, 0 < entry.2)
    (fits : ((counts.rows.map Prod.snd).sum : Nat) ≤ total) :
    selectExclusionFirst interpreter settings counts total users (groups.map pureLookup)
        nameLimit =
      selectContributors interpreter settings counts total users (groups.map pureLookup)
        nameLimit := by
  rw [selectExclusionFirst, selectContributors]
  congr 1
  exact collect_congr (fun entry member =>
    exclusionFirst_eq (measured_of_counts measures positive fits member)) []

theorem selectTopEditors_judged {interpreter : Interpreter} {users : Users}
    (measures : interpreter.Measures) {counts : Counter Int} {revisions : Int}
    (positive : ∀ entry ∈ counts.rows, 0 < entry.2)
    (fits : ((counts.rows.map Prod.snd).sum : Nat) ≤ revisions)
    (globalGroups : Option GlobalGroupLookup) :
    selectTopEditors interpreter counts revisions users globalGroups nameLimit =
      collect nameLimit (judged interpreter (editMetric users) revisions globalGroups) []
        (byWeight Prod.snd counts.rows) := by
  rw [← collect_counted positive fits]
  change (if _ then _ else _) = (if _ then _ else _)
  congr 1
  exact collect_congr (fun entry member =>
    topEditor_judged (measured_of_counts measures positive fits member) globalGroups) []

/-- Both rankings equal their specification, and the order of the checks of the token ranking
is no part of its result. -/
theorem rankings_specified (measures : interpreter.Measures) (own : KeyedByOwn users) :
    (∀ tokens : List Token,
      (∀ token ∈ tokens, ∀ editor, token.editor = some editor →
        CanonicalEditor interpreter.unicode editor) →
      EqualsSpecification interpreter groups
          (tokenMetric interpreter (countTokens interpreter.unicode tokens).2 settings
            (registeredAccount users))
          (countTokens interpreter.unicode tokens).2
          (countTokens interpreter.unicode tokens).1.rows
          (fun globalGroups => selectContributors interpreter settings
            (countTokens interpreter.unicode tokens).1
            (countTokens interpreter.unicode tokens).2 users globalGroups nameLimit) ∧
        selectExclusionFirst interpreter settings (countTokens interpreter.unicode tokens).1
            (countTokens interpreter.unicode tokens).2 users (groups.map pureLookup) nameLimit =
          selectContributors interpreter settings (countTokens interpreter.unicode tokens).1
            (countTokens interpreter.unicode tokens).2 users (groups.map pureLookup)
            nameLimit) ∧
    ∀ (counts : Counter Int) (revisions : Int), (∀ entry ∈ counts.rows, 0 < entry.2) →
      counts.total ≤ revisions →
      EqualsSpecification interpreter groups (editMetric users) revisions counts.rows
        (fun globalGroups =>
          selectTopEditors interpreter counts revisions users globalGroups nameLimit) := by
  constructor
  · intro tokens canonical
    obtain ⟨counted, sum⟩ := countTokens_counts interpreter.unicode tokens
    generalize countTokens interpreter.unicode tokens = result at counted sum
    obtain ⟨counts, total⟩ := result
    have positive : ∀ entry ∈ counts.rows, 0 < entry.2 := fun entry member =>
      (counted entry member).1
    have fits : ((counts.rows.map Prod.snd).sum : Int) ≤ total := by
      exact_mod_cast le_of_eq sum
    have canonicals : ∀ entry ∈ counts.rows,
        CanonicalEditor interpreter.unicode entry.1 := by
      intro entry member
      obtain ⟨-, token, present, written⟩ := counted entry member
      exact canonical token present entry.1 written
    constructor
    · refine equalsSpecification_of ?_ positive fits counts.unique ?_
      · intro globalGroups
        have readable := fun entry member => (canonicals entry member).readable
        rw [selectContributors_judged measures positive fits readable]
        exact collect_congr (fun entry member => (judged_registered own
          (canonicals entry (List.mem_mergeSort.mp member)) globalGroups).symm) []
      · intro first second user other resolved also same
        obtain ⟨above, spelled⟩ := registeredAccount_spelled resolved
        obtain ⟨-, respelled⟩ := registeredAccount_spelled also
        rw [← spelled, ← respelled, same]
    · exact selectExclusionFirst_eq measures positive fits
  · intro counts revisions positive fits
    refine equalsSpecification_of ?_ positive fits counts.unique ?_
    · exact selectTopEditors_judged measures positive fits
    · intro first second user other resolved also same
      have left := userOf_own own resolved
      have right := userOf_own own also
      rw [← left, ← right, same]

end Rankings

theorem plainInterpreter_measures : plainInterpreter.Measures :=
  fun part whole _ _ => ⟨part / whole, rfl⟩

/-- An archiving bot has the most, then Bob and Ada have as much as each other, then a bot that
CentralAuth alone knows as one, Carol and Dora. -/
def crowdUsers : Users where
  rows := [(9, ⟨9, "ArchiveBot", ["user"], false⟩), (8, ⟨8, "Bob", ["user"], false⟩),
    (7, ⟨7, "Ada", ["user"], false⟩), (12, ⟨12, "Eve", ["user"], false⟩),
    (10, ⟨10, "Carol", ["user"], false⟩), (11, ⟨11, "Dora", ["user"], false⟩)]
  unique := by decide

def crowdGroups (username : String) : List String :=
  if username = "Eve" then ["global-bot"] else []

def crowdTokens : List Token :=
  [("9", 24), ("8", 23), ("7", 23), ("12", 22), ("10", 21), ("11", 20)].flatMap
    fun (editor, count) => List.replicate count ⟨some "mot", some editor⟩

def crowdEdits : Counter Int where
  rows := [(9, 50), (8, 20), (7, 20), (12, 15), (10, 10), (11, 5)]
  unique := by decide

theorem crowdUsers_own : KeyedByOwn crowdUsers := by
  unfold KeyedByOwn
  decide

theorem crowdTokens_canonical : ∀ token ∈ crowdTokens, ∀ editor, token.editor = some editor →
    CanonicalEditor plainInterpreter.unicode editor := by
  intro token member editor written
  obtain ⟨⟨author, count⟩, listed, copied⟩ := List.mem_flatMap.mp member
  rw [List.eq_of_mem_replicate copied] at written
  cases written
  simp only [List.mem_cons, Prod.mk.injEq, List.not_mem_nil, or_false] at listed
  rcases listed with ⟨rfl, -⟩ | ⟨rfl, -⟩ | ⟨rfl, -⟩ | ⟨rfl, -⟩ | ⟨rfl, -⟩ | ⟨rfl, -⟩
  · exact Or.inr ⟨9, rfl, rfl⟩
  · exact Or.inr ⟨8, rfl, rfl⟩
  · exact Or.inr ⟨7, rfl, rfl⟩
  · exact Or.inr ⟨12, rfl, rfl⟩
  · exact Or.inr ⟨10, rfl, rfl⟩
  · exact Or.inr ⟨11, rfl, rfl⟩

theorem specified_ranked {interpreter : Interpreter} {groups : Option (String → List String)}
    {Name : Type} {metric : Metric Name} {total : Int} {entries : List (Name × Nat)}
    {found : List (ResolvedUser × Nat)}
    (eligibles : entries.filterMap (eligible interpreter groups metric) = found)
    (ranked : found.Pairwise (fun first second => second.2 ≤ first.2)) :
    (specified interpreter groups metric total entries).map Contributor.username =
      (found.take nameLimit).map (fun chosen => chosen.1.username) := by
  have sorted : byWeight Prod.snd found = found :=
    List.mergeSort_of_pairwise (ranked.imp fun before => decide_eq_true before)
  rw [specified, eligibles, sorted, List.map_map]
  rfl

/-- The bots are passed over, equal counts stay in their order and Dora is the fourth. -/
theorem rankings_specified_crowd :
    (EqualsSpecification plainInterpreter (some crowdGroups)
        (tokenMetric plainInterpreter (countTokens asciiUnicode crowdTokens).2 fromEnv
          (registeredAccount crowdUsers))
        (countTokens asciiUnicode crowdTokens).2 (countTokens asciiUnicode crowdTokens).1.rows
        (fun globalGroups => selectContributors plainInterpreter fromEnv
          (countTokens asciiUnicode crowdTokens).1 (countTokens asciiUnicode crowdTokens).2
          crowdUsers globalGroups nameLimit) ∧
      EqualsSpecification plainInterpreter (some crowdGroups) (editMetric crowdUsers) 120
        crowdEdits.rows (fun globalGroups =>
          selectTopEditors plainInterpreter crowdEdits 120 crowdUsers globalGroups nameLimit)) ∧
    (specified plainInterpreter (some crowdGroups)
      (tokenMetric plainInterpreter (countTokens asciiUnicode crowdTokens).2 fromEnv
        (registeredAccount crowdUsers))
      (countTokens asciiUnicode crowdTokens).2
      (countTokens asciiUnicode crowdTokens).1.rows).map Contributor.username =
        ["Bob", "Ada", "Carol"] ∧
    (specified plainInterpreter (some crowdGroups) (editMetric crowdUsers) 120
      crowdEdits.rows).map Contributor.username = ["Bob", "Ada", "Carol"] := by
  obtain ⟨tokens, edits⟩ := rankings_specified plainInterpreter fromEnv crowdUsers
    (some crowdGroups) plainInterpreter_measures crowdUsers_own
  refine ⟨⟨(tokens crowdTokens crowdTokens_canonical).1,
    edits crowdEdits 120 (by decide) (by decide)⟩, ?_, ?_⟩
  · let ranked : List (ResolvedUser × Nat) :=
      [(⟨8, "Bob", ["user"], false⟩, 23), (⟨7, "Ada", ["user"], false⟩, 23),
        (⟨10, "Carol", ["user"], false⟩, 21), (⟨11, "Dora", ["user"], false⟩, 20)]
    exact @specified_ranked _ _ _ _ _ _ ranked (by decide +kernel) (by decide)
  · let ranked : List (ResolvedUser × Nat) :=
      [(⟨8, "Bob", ["user"], false⟩, 20), (⟨7, "Ada", ["user"], false⟩, 20),
        (⟨10, "Carol", ["user"], false⟩, 10), (⟨11, "Dora", ["user"], false⟩, 5)]
    exact @specified_ranked _ _ _ _ _ _ ranked (by decide +kernel) (by decide)

end WikiPeople
