import WikiPeople.Rotation

/-! Single lock checks: what a failed one leaves behind, and which accounts go first. -/

namespace WikiPeople

open Relational

section Returned

variable {settings : Settings} {answers : StandingAnswers} {chosen : List Int} {store : Store}
  {wiki : String} {now writtenAt : Time} {outcome : Except Exn StandingSync} {after : Store}
  {answer : StandingSync} {blocks : Dict Int AccountStanding}

theorem standingSync_raised {raised : Exn}
    (ran : Standing.syncWiki settings answers chosen store wiki false now writtenAt =
      some (.error raised, after)) : after = store := by
  unfold Standing.syncWiki at ran
  split at ran
  · cases ran
    rfl
  · dsimp only at ran
    split at ran
    · split at ran
      · cases ran
        rfl
      · cases ran
    · cases ran

/-- A run that returns was given a choice the database could make, and leaves for each named
account the record the loop made of it. -/
theorem standingSync_returned
    (ran : Standing.syncWiki settings answers chosen store wiki false now writtenAt =
      some (.ok answer, after))
    (fetched : answers.fetchStanding (namedContributorIds store wiki) = .ok blocks) :
    allowedCandidates store wiki (now - seconds settings.standingLockRecheckSeconds)
        settings.standingLockChecksPerRun.toNat chosen = true ∧
      answer.lookups ⊆ namedContributorIds store wiki ∧
      ∀ userId ∈ namedContributorIds store wiki, ∃ merged,
        mergeAccount answers now
          (dueAccounts settings (standingRecord store wiki) (namedContributorIds store wiki)
            chosen) (standingRecord store wiki) blocks userId = .ok merged ∧
        standingRecord after wiki userId = merged.record ∧
        (userId ∈ answer.lookups ↔ merged.lookedUp = true) := by
  unfold Standing.syncWiki at ran
  rw [fetched] at ran
  dsimp only at ran
  split at ran
  · rename_i allowed
    refine ⟨allowed, ?_⟩
    cases looped : Standing.mergeAccounts settings answers store wiki blocks chosen now with
    | error raised =>
        rw [looped] at ran
        cases ran
    | ok merged =>
        rw [looped] at ran
        cases ran
        obtain ⟨named, made⟩ := mergeAccounts_entries looped
        obtain ⟨known, _⟩ := @standingRecord_replaced _ _ _ _ _ _ _ writtenAt _ looped
          (Standing.conclude merged store wiki false writtenAt).2 rfl
        refine ⟨(lookups_rationed looped).2.1, ?_⟩
        intro userId member
        rw [← named] at member
        obtain ⟨entry, present, rfl⟩ := List.mem_map.mp member
        refine ⟨entry.2, made entry present, known entry present, ?_⟩
        have distinct : (merged.map Prod.fst).Nodup := named ▸ namedContributorIds_nodup store wiki
        constructor
        · intro asked
          obtain ⟨other, there, lookedUp, same⟩ := mem_lookups.mp asked
          rwa [List.inj_on_of_nodup_map distinct there present same] at lookedUp
        · intro lookedUp
          exact mem_lookups.mpr ⟨entry, present, lookedUp, rfl⟩
  · cases ran

theorem lookedUp_iff_due
    (ran : Standing.syncWiki settings answers chosen store wiki false now writtenAt =
      some (.ok answer, after))
    (fetched : answers.fetchStanding (namedContributorIds store wiki) = .ok blocks)
    {userId : Int} (member : userId ∈ namedContributorIds store wiki)
    (answered : (blocks.find userId).isSome = true) :
    userId ∈ answer.lookups ↔ userId ∈ dueAccounts settings (standingRecord store wiki)
      (namedContributorIds store wiki) chosen := by
  obtain ⟨_, _, merges⟩ := standingSync_returned ran fetched
  obtain ⟨merged, made, _, asked⟩ := merges userId member
  obtain ⟨entry, found⟩ := Option.isSome_iff_exists.mp answered
  obtain ⟨facts, _, turn⟩ := mergeAccount_answered
    (show (blocks.find userId).map Prod.snd = some entry.2 by rw [found]; rfl) made
  rw [asked]
  rcases turn with ⟨spared, silent, _⟩ | ⟨selected, lookedUp, _⟩
  · simp [spared, silent]
  · simp [selected, lookedUp]

theorem lookedUp_answered
    (ran : Standing.syncWiki settings answers chosen store wiki false now writtenAt =
      some (.ok answer, after))
    (fetched : answers.fetchStanding (namedContributorIds store wiki) = .ok blocks)
    {userId : Int} (member : userId ∈ namedContributorIds store wiki)
    (asked : userId ∈ answer.lookups) : (blocks.find userId).isSome = true := by
  obtain ⟨_, _, merges⟩ := standingSync_returned ran fetched
  obtain ⟨merged, made, _, lookedUp⟩ := merges userId member
  by_contra silent
  rw [mergeAccount_unanswered (by simpa using silent) made] at lookedUp
  cases lookedUp.mp asked

end Returned

section Failure

/-- The request fails with a `WikiPeopleError`. -/
def FailsKnown {Answer : Type} (request : Except Exn Answer) : Prop :=
  ∃ failure message, request = .error (.known failure message)

/-- One of the two requests of a lock check fails: the flag, or for a locked account the
reason. -/
def StandingAnswers.CheckFails (answers : StandingAnswers) (userId : Int) (username : String) :
    Prop :=
  FailsKnown (answers.globalUserInfo userId username) ∨
    (answers.globalUserInfo userId username = .ok true ∧
      FailsKnown (answers.globalLockReason userId username))

variable {answers : StandingAnswers} {now : Time} {userId : Int} {username : String}
  {previous facts : LockFacts} {checked : Bool}

theorem lockLookup_failed (fails : answers.CheckFails userId username)
    (looked : lockLookup answers now userId username previous = .ok (facts, checked)) :
    checked = false ∧
      ((FailsKnown (answers.globalUserInfo userId username) ∧ facts = previous) ∨
        (¬ FailsKnown (answers.globalUserInfo userId username) ∧
          facts = { previous with globallyLocked := true })) := by
  rcases fails with ⟨failure, message, info⟩ | ⟨info, failure, message, reason⟩
  · rw [lockLookup, info] at looked
    cases looked
    exact ⟨rfl, Or.inl ⟨⟨failure, message, info⟩, rfl⟩⟩
  · rw [lockLookup, info, reason] at looked
    cases looked
    refine ⟨rfl, Or.inr ⟨?_, rfl⟩⟩
    rintro ⟨failure, message, raised⟩
    rw [info] at raised
    cases raised

theorem lockLookup_kept_iff (fails : answers.CheckFails userId username)
    (looked : lockLookup answers now userId username previous = .ok (facts, checked)) :
    facts = previous ↔
      FailsKnown (answers.globalUserInfo userId username) ∨ previous.globallyLocked = true := by
  obtain ⟨_, ⟨flag, rfl⟩ | ⟨answered, rfl⟩⟩ := lockLookup_failed fails looked
  · simp [flag]
  · obtain ⟨locked, reason, time⟩ := previous
    simp [answered, eq_comm]

end Failure

/-- A failed lock check leaves the three facts as they were exactly where the flag itself
could not be read or the account was already recorded as locked. A run that raises leaves
everything as it was. -/
theorem failed_check_keeps_iff (settings : Settings) (answers : StandingAnswers)
    (chosen : List Int) (store : Store) (wiki : String) (now writtenAt : Time)
    (outcome : Except Exn StandingSync) (after : Store) (blocks : Dict Int AccountStanding)
    (userId : Int) (block : AccountStanding)
    (ran : Standing.syncWiki settings answers chosen store wiki false now writtenAt =
      some (outcome, after))
    (fetched : answers.fetchStanding (namedContributorIds store wiki) = .ok blocks)
    (member : userId ∈ namedContributorIds store wiki)
    (answered : (blocks.find userId).map Prod.snd = some block)
    (due : userId ∈ dueAccounts settings (standingRecord store wiki)
      (namedContributorIds store wiki) chosen)
    (fails : answers.CheckFails userId block.username) :
    (∀ raised, outcome = .error raised → after = store) ∧
      ∀ answer, outcome = .ok answer →
        (lockFactsOf (standingRecord after wiki userId) =
            lockFactsOf (standingRecord store wiki userId) ↔
          FailsKnown (answers.globalUserInfo userId block.username) ∨
            (lockFactsOf (standingRecord store wiki userId)).globallyLocked = true) := by
  constructor
  · rintro raised rfl
    exact standingSync_raised ran
  · rintro answer rfl
    obtain ⟨_, _, merges⟩ := standingSync_returned ran fetched
    obtain ⟨merged, made, record, _⟩ := merges userId member
    obtain ⟨facts, kept, ⟨spared, _⟩ | ⟨_, _, looked⟩⟩ := mergeAccount_answered answered made
    · exact absurd due spared
    · have stored : lockFactsOf (standingRecord after wiki userId) = facts := by
        rw [record, kept]
        rfl
      rw [stored]
      exact lockLookup_kept_iff fails looked

/-- CentralAuth says that the account 7 is locked and does not say why. -/
def unexplainedAnswers : StandingAnswers where
  fetchStanding := clearAnswers.fetchStanding
  globalUserInfo := fun _ _ => .ok true
  globalLockReason := fun _ _ => .error (.known .retryableUpstream "timeout")

/-- An account nothing is known of is recorded as locked by a check that failed. -/
theorem failed_check_overwrites :
    ∃ answer after blocks block,
      Standing.syncWiki fromEnv unexplainedAnswers [] namingStore "frwiki" false 0 0 =
          some (.ok answer, after) ∧
        unexplainedAnswers.fetchStanding (namedContributorIds namingStore "frwiki") =
          .ok blocks ∧
        7 ∈ namedContributorIds namingStore "frwiki" ∧
        (blocks.find 7).map Prod.snd = some block ∧
        7 ∈ dueAccounts fromEnv (standingRecord namingStore "frwiki")
          (namedContributorIds namingStore "frwiki") [] ∧
        unexplainedAnswers.CheckFails 7 block.username ∧
        lockFactsOf (standingRecord namingStore "frwiki" 7) = unchecked ∧
        lockFactsOf (standingRecord after "frwiki" 7) = ⟨true, none, none⟩ := by
  have ran : ((Standing.syncWiki fromEnv unexplainedAnswers [] namingStore "frwiki" false 0
      0).map fun run => (run.1.isOk, lockFactsOf (standingRecord run.2 "frwiki" 7))) =
        some (true, ⟨true, none, none⟩) := by decide +kernel
  obtain ⟨⟨outcome, after⟩, done, same⟩ := Option.map_eq_some_iff.mp ran
  cases outcome with
  | error raised => cases congrArg Prod.fst same
  | ok answer =>
      exact ⟨answer, after, _, _, done, rfl, by decide +kernel, rfl, by decide +kernel,
        Or.inr ⟨rfl, _, _, rfl⟩, by decide +kernel, congrArg Prod.snd same⟩

theorem failed_check_keeps_blocked :
    ∃ answer after, Standing.syncWiki fromEnv blockedAnswers [] namingStore "frwiki" false 0 0 =
        some (.ok answer, after) ∧
      lockFactsOf (standingRecord after "frwiki" 7) =
        lockFactsOf (standingRecord namingStore "frwiki" 7) := by
  have possible : ((Standing.syncWiki fromEnv blockedAnswers [] namingStore "frwiki" false 0
      0).map fun run => run.1.isOk) = some true := by decide +kernel
  obtain ⟨⟨outcome, after⟩, ran, same⟩ := Option.map_eq_some_iff.mp possible
  cases outcome with
  | error raised => cases same
  | ok answer =>
      have kept := (failed_check_keeps_iff fromEnv blockedAnswers [] namingStore "frwiki" 0 0
        (.ok answer) after _ 7 _ ran rfl (by decide +kernel) rfl (by decide +kernel)
        (Or.inl ⟨_, _, rfl⟩)).2 answer rfl
      exact ⟨answer, after, ran, kept.mpr (Or.inl ⟨_, _, rfl⟩)⟩

/-- The accounts nobody has ever tracked for which the run has no slot left. -/
def leftOut (settings : Settings) (store : Store) (wiki : String) (chosen : List Int) :
    List Int :=
  let unseen := (namedContributorIds store wiki).filter
    (fun userId => (standingRecord store wiki userId).isNone)
  unseen.drop (settings.standingLockChecksPerRun - chosen.length).toNat

/-- Where an answered account whose lock was never read is passed over, no account whose lock
was read before is looked up. -/
def NeverCheckedFirst (store : Store) (wiki : String) (blocks : Dict Int AccountStanding)
    (answer : StandingSync) : Prop :=
  (∃ userId ∈ namedContributorIds store wiki, (blocks.find userId).isSome = true ∧
    checkedAt store wiki userId = none ∧ userId ∉ answer.lookups) →
      ∀ other ∈ answer.lookups, checkedAt store wiki other = none

section Order

variable {settings : Settings} {store : Store} {wiki : String} {cutoff : Time} {limit : Nat}
  {chosen : List Int} {userId : Int}

theorem chosen_tracked (allowed : allowedCandidates store wiki cutoff limit chosen = true)
    (picked : userId ∈ chosen) : (standingRecord store wiki userId).isSome = true := by
  simp only [allowedCandidates, Bool.and_eq_true, decide_eq_true_eq, List.all_eq_true] at allowed
  obtain ⟨row, present, rfl⟩ := List.mem_map.mp (allowed.1.1.2 userId picked)
  obtain ⟨member, inside, _⟩ := mem_staleRows.mp present
  exact (tracked_of_row member inside).1

theorem unseen_unchecked (untracked : standingRecord store wiki userId = none) :
    checkedAt store wiki userId = none := by
  rw [checkedAt, untracked]
  rfl

/-- Behind a tracked account that was never checked the query chooses nobody but others like
it, and leaves no slot. -/
theorem passed_unchecked (allowed : allowedCandidates store wiki cutoff
      settings.standingLockChecksPerRun.toNat chosen = true)
    (tracked : (standingRecord store wiki userId).isSome = true)
    (never : checkedAt store wiki userId = none) (passed : userId ∉ chosen) :
    ∀ other ∈ dueAccounts settings (standingRecord store wiki) (namedContributorIds store wiki)
      chosen, checkedAt store wiki other = none := by
  obtain ⟨_, full, before⟩ := passed_over allowed tracked (by rw [never]; rfl) passed
  intro other selected
  have left : (settings.standingLockChecksPerRun - chosen.length).toNat = 0 := by omega
  rw [dueAccounts, left, List.take_zero, List.append_nil] at selected
  have order := (before other selected).2
  rw [never] at order
  cases date : checkedAt store wiki other with
  | none => rfl
  | some time =>
      rw [date] at order
      cases order

theorem unseen_due_iff (allowed : allowedCandidates store wiki cutoff limit chosen = true)
    (member : userId ∈ namedContributorIds store wiki)
    (untracked : standingRecord store wiki userId = none) :
    userId ∈ dueAccounts settings (standingRecord store wiki) (namedContributorIds store wiki)
      chosen ↔ userId ∉ leftOut settings store wiki chosen := by
  have unpicked : userId ∉ chosen := by
    intro picked
    have tracked := chosen_tracked allowed picked
    rw [untracked] at tracked
    cases tracked
  have unseen : userId ∈ (namedContributorIds store wiki).filter
      (fun other => (standingRecord store wiki other).isNone) :=
    List.mem_filter.mpr ⟨member, by rw [untracked]; rfl⟩
  have distinct := (namedContributorIds_nodup store wiki).filter
    (fun other => (standingRecord store wiki other).isNone)
  rw [dueAccounts, leftOut, List.mem_append]
  generalize (namedContributorIds store wiki).filter
    (fun other => (standingRecord store wiki other).isNone) = waiting at unseen distinct ⊢
  rw [← List.take_append_drop (settings.standingLockChecksPerRun - chosen.length).toNat
    waiting] at unseen distinct
  have apart := List.disjoint_of_nodup_append distinct
  constructor
  · rintro (picked | taken) left
    · exact unpicked picked
    · exact apart taken left
  · intro kept
    rcases List.mem_append.mp unseen with taken | left
    · exact Or.inr taken
    · exact absurd left kept

theorem mem_leftOut (left : userId ∈ leftOut settings store wiki chosen) :
    userId ∈ namedContributorIds store wiki ∧ standingRecord store wiki userId = none := by
  have unseen := List.mem_of_mem_drop left
  simpa using unseen

end Order

/-- Accounts whose lock was never read go first exactly where every answered account that is
not tracked yet has a slot, or the query chooses no named and answered account whose lock was
read before. -/
theorem never_checked_first_iff (settings : Settings) (answers : StandingAnswers)
    (chosen : List Int) (store : Store) (wiki : String) (now writtenAt : Time)
    (answer : StandingSync) (after : Store) (blocks : Dict Int AccountStanding)
    (ran : Standing.syncWiki settings answers chosen store wiki false now writtenAt =
      some (.ok answer, after))
    (fetched : answers.fetchStanding (namedContributorIds store wiki) = .ok blocks) :
    NeverCheckedFirst store wiki blocks answer ↔
      (∀ userId ∈ leftOut settings store wiki chosen, blocks.find userId = none) ∨
        ∀ userId ∈ chosen, userId ∈ namedContributorIds store wiki →
          (blocks.find userId).isSome = true → checkedAt store wiki userId = none := by
  obtain ⟨allowed, within, _⟩ := standingSync_returned ran fetched
  constructor
  · intro first
    by_cases every : ∀ userId ∈ leftOut settings store wiki chosen, blocks.find userId = none
    · exact Or.inl every
    · push Not at every
      obtain ⟨userId, left, answered⟩ := every
      obtain ⟨member, untracked⟩ := mem_leftOut left
      have answers := Option.isSome_iff_ne_none.mpr answered
      have passed : userId ∉ answer.lookups := by
        rw [lookedUp_iff_due ran fetched member answers, unseen_due_iff allowed member untracked]
        exact not_not.mpr left
      have unread := first ⟨userId, member, answers, unseen_unchecked untracked, passed⟩
      right
      intro other picked named replied
      apply unread
      rw [lookedUp_iff_due ran fetched named replied]
      exact List.mem_append_left _ picked
  · rintro fits ⟨userId, member, answered, never, passed⟩ other asked
    have named := within asked
    have replied := lookedUp_answered ran fetched named asked
    rw [lookedUp_iff_due ran fetched member answered] at passed
    rw [lookedUp_iff_due ran fetched named replied] at asked
    cases known : standingRecord store wiki userId with
    | some record =>
        have unpicked : userId ∉ chosen :=
          fun picked => passed (List.mem_append_left _ picked)
        exact passed_unchecked allowed (by rw [known]; rfl) never unpicked other asked
    | none =>
        have left : userId ∈ leftOut settings store wiki chosen := by
          by_contra kept
          exact passed ((unseen_due_iff allowed member known).mpr kept)
        rcases fits with every | unread
        · rw [every userId left] at answered
          cases answered
        · rcases List.mem_append.mp asked with picked | taken
          · exact unread other picked named replied
          · have untracked := List.mem_filter.mp (List.mem_of_mem_take taken)
            exact unseen_unchecked (Option.isNone_iff_eq_none.mp untracked.2)

def oneCheck : Settings := { fromEnv with standingLockChecksPerRun := 1 }

/-- A result of frwiki that names the accounts 7 and 8. The lock of 7 was read at time 0, the
account 8 is new. -/
def growingStore : Store :=
  let named := ownTokens.contributors.flatMap fun contributor =>
    [contributor, { contributor with userId := some 8 }]
  let store := saveResult .empty
    { toIdentity := articleKey 10
      title := "A"
      metric := "wikiwho-surviving-alphanumeric-tokens"
      contributors := named
      distinctContributors := 2
      countLimited := false
      countableTokens := 90
      wikiwhoRevisionId := 10
      computedAt := 0 }
  (replaceStanding store "frwiki" [⟨clearStanding 7, some 0⟩] 0).2

def growingAnswers : StandingAnswers where
  fetchStanding := fun _ => .ok (((Table.empty.put (7, clearStanding 7)).put (8, clearStanding 8)))
  globalUserInfo := fun _ _ => .ok false
  globalLockReason := fun _ _ => .ok none

theorem growing_named : namedContributorIds growingStore "frwiki" = [7, 8] := by
  have named : ((growingStore.results.rows.filter (fun result => result.wiki = "frwiki")).flatMap
      (fun result => result.contributors.filterMap positiveId)).dedup = [7, 8] := by
    decide +kernel
  rw [namedContributorIds, named]
  exact List.mergeSort_of_pairwise (by decide)

/-- Two days later the only lookup goes to the account whose lock was read before. -/
theorem stale_checked_before_unseen :
    ∃ answer after blocks,
      Standing.syncWiki oneCheck growingAnswers [7] growingStore "frwiki" false (days 2)
          (days 2) = some (.ok answer, after) ∧
        growingAnswers.fetchStanding (namedContributorIds growingStore "frwiki") =
          .ok blocks ∧
        answer.lookups = [7] ∧ checkedAt growingStore "frwiki" 7 = some 0 ∧
        8 ∈ namedContributorIds growingStore "frwiki" ∧ (blocks.find 8).isSome = true ∧
        checkedAt growingStore "frwiki" 8 = none := by
  have ran : ((Standing.syncWiki oneCheck growingAnswers [7] growingStore "frwiki" false
      (days 2) (days 2)).bind fun run => run.1.toOption.map StandingSync.lookups) =
        some [7] := by
    unfold Standing.syncWiki Standing.mergeAccounts
    rw [growing_named]
    decide +kernel
  obtain ⟨⟨outcome, after⟩, done, same⟩ := Option.bind_eq_some_iff.mp ran
  cases outcome with
  | error raised => cases same
  | ok answer =>
      exact ⟨answer, after, _, done, rfl, Option.some.inj same, by decide +kernel,
        by simp [growing_named], by decide +kernel, by decide +kernel⟩

/-- With a lookup for each of the two, the stale row does not keep the new account waiting. -/
theorem never_checked_first_growing :
    ∃ answer after blocks,
      Standing.syncWiki fromEnv growingAnswers [7] growingStore "frwiki" false (days 2)
          (days 2) = some (.ok answer, after) ∧
        answer.lookups = [7, 8] ∧ checkedAt growingStore "frwiki" 7 = some 0 ∧
        checkedAt growingStore "frwiki" 8 = none ∧
        NeverCheckedFirst growingStore "frwiki" blocks answer := by
  have ran : ((Standing.syncWiki fromEnv growingAnswers [7] growingStore "frwiki" false
      (days 2) (days 2)).bind fun run => run.1.toOption.map StandingSync.lookups) =
        some [7, 8] := by
    unfold Standing.syncWiki Standing.mergeAccounts
    rw [growing_named]
    decide +kernel
  obtain ⟨⟨outcome, after⟩, done, same⟩ := Option.bind_eq_some_iff.mp ran
  cases outcome with
  | error raised => cases same
  | ok answer =>
      have first := never_checked_first_iff fromEnv growingAnswers [7] growingStore "frwiki"
        (days 2) (days 2) answer after _ done rfl
      refine ⟨answer, after, _, done, Option.some.inj same, by decide +kernel, by decide +kernel,
        first.mpr (Or.inl ?_)⟩
      intro userId left
      have nobody : leftOut fromEnv growingStore "frwiki" [7] = [] := by
        rw [leftOut, growing_named]
        decide +kernel
      rw [nobody] at left
      cases left

end WikiPeople
