import WikiPeople.Serving

/-! Lenient presentation: a higher threshold or a later time takes no name away. -/

namespace WikiPeople

open Relational

section Nameable

variable {alphabet : Text.Alphabet} {standing : AccountStanding} {strict lenient : Int}
  {earlier later : Time}

theorem seconds_mono (raised : strict ≤ lenient) : seconds strict ≤ seconds lenient :=
  Int.mul_le_mul_of_nonneg_right raised (by decide)

/-- Only the last two checks look at the clock and the threshold, and both let more pass when
these grow. -/
theorem nameable_mono (raised : strict ≤ lenient) (passed : earlier ≤ later)
    (nameable : isNameableAccount alphabet (some standing) strict earlier = true) :
    isNameableAccount alphabet (some standing) lenient later = true := by
  cases sanction : isSanctionLock alphabet standing with
  | true => simp [isNameableAccount, sanction] at nameable
  | false =>
      cases blocked : standing.blockedAt with
      | none => simp [isNameableAccount, sanction, blocked]
      | some blockedAt =>
          cases targeted : standing.blockPartial with
          | true => simp [isNameableAccount, sanction, blocked, targeted]
          | false =>
              cases courtesy : isCourtesyBlock alphabet standing with
              | true => simp [isNameableAccount, sanction, blocked, courtesy]
              | false =>
                  cases expiry : standing.blockExpiresAt with
                  | none =>
                      simp [isNameableAccount, sanction, blocked, targeted, courtesy, expiry]
                        at nameable
                  | some expiresAt =>
                      simp only [isNameableAccount, sanction, blocked, targeted, courtesy, expiry,
                        Bool.false_eq_true, if_false] at nameable ⊢
                      split
                      · rfl
                      · rename_i running
                        have before : ¬ expiresAt ≤ earlier := fun over_ =>
                          running (over_.trans passed)
                        rw [if_neg before, decide_eq_true_eq] at nameable
                        exact decide_eq_true (nameable.trans (seconds_mono raised))

theorem locked_not_nameable (sanction : isSanctionLock alphabet standing = true)
    (threshold : Int) (now : Time) :
    isNameableAccount alphabet (some standing) threshold now = false := by
  rw [isNameableAccount, sanction]
  rfl

end Nameable

/-- The names under stricter settings and earlier are among those under more lenient ones and
later, all of them among the stored ones, each in order, and no account that is locked as a
sanction is named. -/
structure MonotoneInLeniency (runtime : Runtime) (strict lenient : Settings) (store : Store)
    (wiki : String) (pageId : Int) (earlier later : Time) (result : AttributionResult) :
    Prop where
  kept : (presentedContributors { runtime with settings := strict } store wiki pageId earlier
    result).Sublist (presentedContributors { runtime with settings := lenient } store wiki pageId
      later result)
  strictly : (presentedContributors { runtime with settings := strict } store wiki pageId earlier
    result).Sublist result.contributors
  leniently : (presentedContributors { runtime with settings := lenient } store wiki pageId later
    result).Sublist result.contributors
  locked : ∀ row ∈ store.contributorStanding.rows, row.wiki = wiki →
    isSanctionLock runtime.alphabet row.standing = true →
    ∀ settings : Settings, settings.hideSanctionedContributors = true → ∀ now,
      ∀ contributor ∈ presentedContributors { runtime with settings := settings } store wiki pageId
        now result, contributor.userId ≠ some row.userId

section Presented

variable {runtime : Runtime} {settings strict lenient : Settings} {store : Store} {wiki : String}
  {pageId : Int} {now earlier later : Time} {result : AttributionResult}

theorem presented_eq_filter (hides : settings.hideSanctionedContributors = true)
    (visible : isOptedOut store wiki pageId = false) :
    presentedContributors { runtime with settings := settings } store wiki pageId now result =
      result.contributors.filter
        (contributorNameable { runtime with settings := settings } store wiki now) := by
  rw [presentedContributors, visible, if_neg Bool.false_ne_true]
  exact nameableContributors_eq hides store wiki now result.contributors

theorem contributorNameable_mono
    (raised : maxVisibleBlockSecondsFor strict wiki ≤ maxVisibleBlockSecondsFor lenient wiki)
    (passed : earlier ≤ later) {contributor : Contributor}
    (nameable : contributorNameable { runtime with settings := strict } store wiki earlier
      contributor = true) :
    contributorNameable { runtime with settings := lenient } store wiki later contributor =
      true := by
  rw [contributorNameable] at nameable ⊢
  cases named : contributor.userId with
  | none => rfl
  | some userId =>
      rw [named, Option.all_some, accountNameable] at nameable
      rw [Option.all_some, accountNameable]
      cases known : store.contributorStanding.find (wiki, userId) with
      | none => rfl
      | some row =>
          rw [known, Option.map_some] at nameable
          exact nameable_mono raised passed nameable

/-- Whatever becomes more lenient, no name goes, no name is added and the order stays. -/
theorem presented_monotone (strictHides : strict.hideSanctionedContributors = true)
    (lenientHides : lenient.hideSanctionedContributors = true)
    (visible : isOptedOut store wiki pageId = false)
    (raised : maxVisibleBlockSecondsFor strict wiki ≤ maxVisibleBlockSecondsFor lenient wiki)
    (passed : earlier ≤ later) :
    MonotoneInLeniency runtime strict lenient store wiki pageId earlier later result := by
  refine ⟨?_, ?_, ?_, ?_⟩
  · rw [presented_eq_filter strictHides visible, presented_eq_filter lenientHides visible]
    exact List.monotone_filter_right _ (fun contributor => contributorNameable_mono raised passed)
  · rw [presented_eq_filter strictHides visible]
    exact List.filter_sublist
  · rw [presented_eq_filter lenientHides visible]
    exact List.filter_sublist
  · intro row present local_ sanction settings hides now contributor presented named
    rw [presented_eq_filter hides visible] at presented
    have nameable := (List.mem_filter.mp presented).2
    rw [contributorNameable, named, Option.all_some, accountNameable,
      Table.find_eq_some.mpr ⟨present, by rw [← local_]; rfl⟩, Option.map_some,
      locked_not_nameable sanction] at nameable
    cases nameable

end Presented

/-- A wiki that names nobody who was blocked for more than a week. -/
def oneWeek : Settings :=
  { fromEnv with maxVisibleBlockSecondsByWiki := [("frwiki", 7 * 86400)] }

def thirtyDays : ContributorStanding :=
  { bannedStanding with blockExpiresAt := some (days 30) }

def adaAndBob : AttributionResult where
  toIdentity := articleKey 10
  title := "A"
  metric := "wikiwho-surviving-alphanumeric-tokens"
  contributors := ⟨some 8, "Bob", .tokenCount 9, 1 / 10⟩ :: ownTokens.contributors
  distinctContributors := 2
  countLimited := false
  countableTokens := 90
  wikiwhoRevisionId := 10
  computedAt := 0
  id := 0

def thirtyStore : Store := { Store.empty with contributorStanding := Table.empty.put thirtyDays }

/-- The threshold of a year adds Bob. -/
theorem presented_monotone_thirtyDays :
    (presentedContributors { plainRuntime with settings := oneWeek } thirtyStore "frwiki" 1 0
      adaAndBob).map Contributor.username = ["Ada"] ∧
    (presentedContributors { plainRuntime with settings := fromEnv } thirtyStore "frwiki" 1
      (days 1) adaAndBob).map Contributor.username = ["Bob", "Ada"] ∧
    MonotoneInLeniency plainRuntime oneWeek fromEnv thirtyStore "frwiki" 1 0 (days 1) adaAndBob :=
  ⟨by decide +kernel, by decide +kernel,
    presented_monotone rfl rfl rfl (by decide) (by decide)⟩

end WikiPeople
