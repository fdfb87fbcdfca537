import WikiPeople.Library.Ranking
import WikiPeople.Policy

/-! The two rankings: accounts by surviving tokens and accounts by edits. -/

namespace WikiPeople

open Relational

/-- What the interpreter computes for the rankings: texts, the quotient of two integers as a
float (`none` where it overflows) and `round(share, 4)`. -/
structure Interpreter where
  unicode : Text.Unicode
  alphabet : Text.Alphabet
  divide : Int → Int → Option Rat
  round : Rat → Rat

/-- A token of WikiWho; a field that is no string is `none`. -/
structure Token where
  str : Option String
  editor : Option String
  deriving DecidableEq, Repr

def countToken (unicode : Text.Unicode) (counted : Counter String × Nat) (token : Token) :
    Counter String × Nat :=
  match token.str, token.editor with
  | some value, some editor =>
      if isCountableToken unicode value then (counted.1.tally editor, counted.2 + 1)
      else counted
  | _, _ => counted

def countTokens (unicode : Text.Unicode) (tokens : List Token) : Counter String × Nat :=
  tokens.foldl (countToken unicode) (.empty, 0)

def candidateUserId (unicode : Text.Unicode) (entry : String × Nat) :
    Except Exn (Option Int) := do
  if ← isRegisteredEditor unicode entry.1 then
    let userId ← editorNumber unicode entry.1
    .ok (some userId)
  else .ok none

def candidateUserIds (unicode : Text.Unicode) (counts : Counter String) (limit : Int) :
    Except Exn (List Int) :=
  (counts.mostCommon.filterMapM (candidateUserId unicode)).map (upTo limit)

def quotient (interpreter : Interpreter) (part whole : Int) : Except Exn Rat :=
  match interpreter.divide part whole with
  | some share => .ok share
  | none => .error (.unexpected "OverflowError")

/-- The accounts `list=users` answered about, by id. -/
abbrev Users := Dict Int ResolvedUser

def userOf (users : Users) (userId : Int) : Option ResolvedUser :=
  (users.find userId).map Prod.snd

def nameLimit : Nat := 3

def namedAs (interpreter : Interpreter) (user : ResolvedUser) (evidence : Evidence)
    (share : Rat) : Contributor where
  userId := some user.userId
  username := user.username
  evidence := evidence
  share := interpreter.round share

/-- The entry an account has in the edit ranking, where it has one. -/
def topEditor (interpreter : Interpreter) (totalRevisions : Int) (users : Users)
    (globalGroups : Option GlobalGroupLookup) (entry : Int × Nat) :
    Except Exn (Option Contributor) :=
  match userOf users entry.1 with
  | none => .ok none
  | some user => do
      if ← shouldHighlightContributor interpreter.unicode interpreter.alphabet user
          globalGroups then
        let share ← quotient interpreter entry.2 totalRevisions
        .ok (some (namedAs interpreter user (.editCount entry.2) share))
      else .ok none

def selectTopEditors (interpreter : Interpreter) (counts : Counter Int) (totalRevisions : Int)
    (users : Users) (globalGroups : Option GlobalGroupLookup) (limit : Nat) :
    Except Exn (List Contributor) :=
  if totalRevisions ≤ 0 then .ok []
  else collect limit (topEditor interpreter totalRevisions users globalGroups) []
    counts.mostCommon

/-- The entry an editor has in the token ranking, where it has one. Its significance is
decided before anything is asked about the account. -/
def tokenContributor (interpreter : Interpreter) (settings : Settings) (totalTokens : Int)
    (users : Users) (globalGroups : Option GlobalGroupLookup) (entry : String × Nat) :
    Except Exn (Option Contributor) := do
  if ← isRegisteredEditor interpreter.unicode entry.1 then
    let share ← quotient interpreter entry.2 totalTokens
    if (entry.2 : Int) < settings.minimumTokens ∨ share < settings.minimumShare then .ok none
    else
      let userId ← editorNumber interpreter.unicode entry.1
      match userOf users userId with
      | none => .ok none
      | some user =>
          if ← shouldHighlightContributor interpreter.unicode interpreter.alphabet user
              globalGroups then
            .ok (some (namedAs interpreter user (.tokenCount entry.2) share))
          else .ok none
  else .ok none

def selectContributors (interpreter : Interpreter) (settings : Settings)
    (counts : Counter String) (totalTokens : Int) (users : Users)
    (globalGroups : Option GlobalGroupLookup) (limit : Nat) : Except Exn (List Contributor) :=
  if totalTokens ≤ 0 then .ok []
  else collect limit (tokenContributor interpreter settings totalTokens users globalGroups) []
    counts.mostCommon

theorem quotient_eq_ok {interpreter : Interpreter} {part whole : Int} {share : Rat} :
    quotient interpreter part whole = .ok share ↔
      interpreter.divide part whole = some share := by
  unfold quotient
  cases interpreter.divide part whole <;> simp

section Entries

variable {interpreter : Interpreter} {settings : Settings} {users fewer : Users}
  {globalGroups : Option GlobalGroupLookup} {contributor : Contributor}

theorem candidateUserId_eq_some {entry : String × Nat} {userId : Int} :
    candidateUserId interpreter.unicode entry = .ok (some userId) ↔
      isRegisteredEditor interpreter.unicode entry.1 = .ok true ∧
        (editorNumber interpreter.unicode entry.1).map Int.ofNat = .ok userId := by
  unfold candidateUserId
  cases isRegisteredEditor interpreter.unicode entry.1 with
  | error raised => simp [bind, Except.bind]
  | ok registers =>
      cases editorNumber interpreter.unicode entry.1 <;> cases registers <;>
        simp [bind, Except.bind, Except.map]

theorem topEditor_eq_some {totalRevisions : Int} {entry : Int × Nat} :
    topEditor interpreter totalRevisions users globalGroups entry = .ok (some contributor) ↔
      ∃ user share, userOf users entry.1 = some user ∧
        interpreter.divide entry.2 totalRevisions = some share ∧
        shouldHighlightContributor interpreter.unicode interpreter.alphabet user
          globalGroups = .ok true ∧
        contributor = namedAs interpreter user (.editCount entry.2) share := by
  constructor
  · intro made
    unfold topEditor at made
    split at made
    · cases made
    · rename_i user resolved
      obtain ⟨highlighted, judged, made⟩ := bind_eq_ok.mp made
      cases highlighted with
      | false => cases made
      | true =>
          obtain ⟨share, measured, made⟩ := bind_eq_ok.mp made
          cases made
          exact ⟨user, share, resolved, quotient_eq_ok.mp measured, judged, rfl⟩
  · rintro ⟨user, share, resolved, measured, judged, rfl⟩
    simp only [topEditor, resolved, judged, quotient_eq_ok.mpr measured, bind, Except.bind,
      if_true]

theorem tokenContributor_eq_some {totalTokens : Int} {entry : String × Nat} :
    tokenContributor interpreter settings totalTokens users globalGroups entry =
        .ok (some contributor) ↔
      ∃ userId user share,
        candidateUserId interpreter.unicode entry = .ok (some userId) ∧
        userOf users userId = some user ∧
        interpreter.divide entry.2 totalTokens = some share ∧
        settings.minimumTokens ≤ entry.2 ∧ settings.minimumShare ≤ share ∧
        shouldHighlightContributor interpreter.unicode interpreter.alphabet user
          globalGroups = .ok true ∧
        contributor = namedAs interpreter user (.tokenCount entry.2) share := by
  constructor
  · intro made
    unfold tokenContributor at made
    obtain ⟨registers, registered, made⟩ := bind_eq_ok.mp made
    cases registers with
    | false => cases made
    | true =>
        obtain ⟨share, measured, made⟩ := bind_eq_ok.mp made
        split at made
        · cases made
        · rename_i cleared
          obtain ⟨enough, significant⟩ := not_or.mp cleared
          obtain ⟨number, read, made⟩ := bind_eq_ok.mp made
          split at made
          · cases made
          · rename_i user resolved
            obtain ⟨highlighted, judged, made⟩ := bind_eq_ok.mp made
            cases highlighted with
            | false => cases made
            | true =>
                cases made
                exact ⟨number, user, share,
                  candidateUserId_eq_some.mpr ⟨registered, by rw [read]; rfl⟩, resolved,
                  quotient_eq_ok.mp measured, Int.not_lt.mp enough, Rat.not_lt.mp significant,
                  judged, rfl⟩
  · rintro ⟨userId, user, share, candidate, resolved, measured, enough, significant, judged, rfl⟩
    obtain ⟨registered, read⟩ := candidateUserId_eq_some.mp candidate
    obtain ⟨number, parsed, rfl⟩ := map_eq_ok.mp read
    have cleared : ¬ ((entry.2 : Int) < settings.minimumTokens ∨ share < settings.minimumShare) :=
      not_or.mpr ⟨Int.not_lt.mpr enough, Rat.not_lt.mpr significant⟩
    have found : userOf users number = some user := resolved
    simp only [tokenContributor, registered, quotient_eq_ok.mpr measured, bind, Except.bind,
      if_true, if_neg cleared, parsed, found, judged]

theorem topEditor_skipped {totalRevisions : Int} {entry : Int × Nat}
    (fewer_users : userOf fewer entry.1 = userOf users entry.1 ∨ userOf fewer entry.1 = none)
    (skipped : topEditor interpreter totalRevisions users globalGroups entry = .ok none) :
    topEditor interpreter totalRevisions fewer globalGroups entry = .ok none := by
  rcases fewer_users with same | unknown
  · rw [topEditor, same]
    exact skipped
  · rw [topEditor, unknown]

theorem tokenContributor_skipped {totalTokens : Int} {entry : String × Nat}
    (fewer_users : ∀ userId, candidateUserId interpreter.unicode entry = .ok (some userId) →
      userOf fewer userId = userOf users userId ∨ userOf fewer userId = none)
    (skipped : tokenContributor interpreter settings totalTokens users globalGroups entry =
      .ok none) :
    tokenContributor interpreter settings totalTokens fewer globalGroups entry = .ok none := by
  unfold tokenContributor at skipped ⊢
  obtain ⟨registers, registered, skipped⟩ := bind_eq_ok.mp skipped
  rw [registered]
  cases registers with
  | false => rfl
  | true =>
      obtain ⟨share, measured, skipped⟩ := bind_eq_ok.mp skipped
      simp only [measured, bind, Except.bind, if_true]
      split at skipped
      · rename_i light
        rw [if_pos light]
      · rename_i cleared
        obtain ⟨number, read, skipped⟩ := bind_eq_ok.mp skipped
        rw [if_neg cleared, read]
        dsimp only
        rcases fewer_users number
          (candidateUserId_eq_some.mpr ⟨registered, by rw [read]; rfl⟩) with same | unknown
        · rw [same]
          exact skipped
        · rw [unknown]

end Entries

/-- The account was chosen by the edit ranking: the exclusion rule let it pass. -/
structure ChosenByEdits (interpreter : Interpreter) (history : Counter Int)
    (totalRevisions : Int) (users : Users) (globalGroups : Option GlobalGroupLookup)
    (contributor : Contributor) (user : ResolvedUser) (userId : Int) (count : Nat)
    (share : Rat) : Prop where
  counted : (userId, count) ∈ history.rows
  resolved : userOf users userId = some user
  measured : interpreter.divide count totalRevisions = some share
  highlighted : shouldHighlightContributor interpreter.unicode interpreter.alphabet user
    globalGroups = .ok true
  named : contributor = namedAs interpreter user (.editCount count) share

/-- The account was chosen by the token ranking: it cleared both thresholds and the exclusion
rule let it pass. -/
structure ChosenByTokens (interpreter : Interpreter) (settings : Settings)
    (counts : Counter String) (totalTokens : Int) (users : Users)
    (globalGroups : Option GlobalGroupLookup) (contributor : Contributor) (user : ResolvedUser)
    (editor : String) (count : Nat) (share : Rat) : Prop where
  counted : (editor, count) ∈ counts.rows
  resolved : ∃ userId, editorNumber interpreter.unicode editor = .ok userId ∧
    userOf users userId = some user
  measured : interpreter.divide count totalTokens = some share
  enough : settings.minimumTokens ≤ count
  significant : settings.minimumShare ≤ share
  highlighted : shouldHighlightContributor interpreter.unicode interpreter.alphabet user
    globalGroups = .ok true
  named : contributor = namedAs interpreter user (.tokenCount count) share

section Selected

variable {interpreter : Interpreter} {settings : Settings} {users : Users}
  {globalGroups : Option GlobalGroupLookup} {contributor : Contributor}

theorem topEditor_chosen {counts : Counter Int} {totalRevisions : Int} {entry : Int × Nat}
    (counted : entry ∈ counts.rows)
    (made : topEditor interpreter totalRevisions users globalGroups entry =
      .ok (some contributor)) :
    ∃ user share, ChosenByEdits interpreter counts totalRevisions users globalGroups contributor
      user entry.1 entry.2 share := by
  obtain ⟨user, share, resolved, measured, judged, named⟩ := topEditor_eq_some.mp made
  exact ⟨user, share, counted, resolved, measured, judged, named⟩

theorem tokenContributor_chosen {counts : Counter String} {totalTokens : Int}
    {entry : String × Nat} (counted : entry ∈ counts.rows)
    (made : tokenContributor interpreter settings totalTokens users globalGroups entry =
      .ok (some contributor)) :
    ∃ user share, ChosenByTokens interpreter settings counts totalTokens users globalGroups
      contributor user entry.1 entry.2 share := by
  obtain ⟨userId, user, share, candidate, resolved, measured, enough, significant, judged,
    named⟩ := tokenContributor_eq_some.mp made
  obtain ⟨_, read⟩ := candidateUserId_eq_some.mp candidate
  obtain ⟨number, parsed, rfl⟩ := map_eq_ok.mp read
  exact ⟨user, share, counted, ⟨number, parsed, resolved⟩, measured, enough, significant, judged,
    named⟩

theorem selectTopEditors_length {counts : Counter Int} {totalRevisions : Int} {limit : Nat}
    {selected : List Contributor} (positive : 0 < limit)
    (ranked : selectTopEditors interpreter counts totalRevisions users globalGroups limit =
      .ok selected) : selected.length ≤ limit := by
  unfold selectTopEditors at ranked
  split at ranked
  · cases ranked
    exact Nat.zero_le limit
  · refine collect_length ?_ ranked
    exact positive

theorem selectContributors_length {counts : Counter String} {totalTokens : Int} {limit : Nat}
    {selected : List Contributor} (positive : 0 < limit)
    (ranked : selectContributors interpreter settings counts totalTokens users globalGroups
      limit = .ok selected) : selected.length ≤ limit := by
  unfold selectContributors at ranked
  split at ranked
  · cases ranked
    exact Nat.zero_le limit
  · refine collect_length ?_ ranked
    exact positive

theorem mem_selectTopEditors {counts : Counter Int} {totalRevisions : Int} {limit : Nat}
    {selected : List Contributor}
    (ranked : selectTopEditors interpreter counts totalRevisions users globalGroups limit =
      .ok selected) (member : contributor ∈ selected) :
    ∃ user userId count share, ChosenByEdits interpreter counts totalRevisions users
      globalGroups contributor user userId count share := by
  unfold selectTopEditors at ranked
  split at ranked
  · cases ranked
    cases member
  · rcases mem_collect ranked member with none | ⟨entry, present, made⟩
    · cases none
    · obtain ⟨user, share, chosen⟩ := topEditor_chosen (Counter.mem_mostCommon.mp present) made
      exact ⟨user, entry.1, entry.2, share, chosen⟩

theorem mem_selectContributors {counts : Counter String} {totalTokens : Int} {limit : Nat}
    {selected : List Contributor}
    (ranked : selectContributors interpreter settings counts totalTokens users globalGroups
      limit = .ok selected) (member : contributor ∈ selected) :
    ∃ user editor count share, ChosenByTokens interpreter settings counts totalTokens users
      globalGroups contributor user editor count share := by
  unfold selectContributors at ranked
  split at ranked
  · cases ranked
    cases member
  · rcases mem_collect ranked member with none | ⟨entry, present, made⟩
    · cases none
    · obtain ⟨user, share, chosen⟩ :=
        tokenContributor_chosen (Counter.mem_mostCommon.mp present) made
      exact ⟨user, entry.1, entry.2, share, chosen⟩

end Selected

end WikiPeople
