import WikiPeople.Standing

/-! Lock checks rotate: while few accounts keep failing, every other account whose turn it is
is looked up within a bounded number of runs. -/

namespace WikiPeople

open Relational

/-- When the global lock of an account was last read, where it was. -/
def checkedAt (store : Store) (wiki : String) (userId : Int) : Option Time :=
  (standingRecord store wiki userId).bind StandingRecord.lockCheckedAt

/-- `⌈count / size⌉`. -/
def rounds (count size : Nat) : Nat := (count + size - 1) / size

theorem le_rounds {count size : Nat} (positive : 0 < size) : count ≤ rounds count size * size := by
  have whole := Nat.div_add_mod (count + size - 1) size
  have rest := Nat.mod_lt (count + size - 1) positive
  rw [Nat.mul_comm] at whole
  unfold rounds
  omega

section Candidates

variable {store : Store} {wiki : String} {cutoff : Time} {limit : Nat} {chosen : List Int}
  {userId : Int} {row : ContributorStanding}

theorem mem_staleRows : row ∈ staleRows store wiki cutoff ↔
    row ∈ store.contributorStanding.rows ∧ row.wiki = wiki ∧
      isStale cutoff row.lockCheckedAt = true := by
  simp [staleRows]

theorem row_of_tracked (tracked : (standingRecord store wiki userId).isSome = true) :
    ∃ row ∈ store.contributorStanding.rows, row.wiki = wiki ∧ row.userId = userId ∧
      checkedAt store wiki userId = row.lockCheckedAt := by
  obtain ⟨record, known⟩ := Option.isSome_iff_exists.mp tracked
  obtain ⟨row, found, rfl⟩ := Option.map_eq_some_iff.mp known
  obtain ⟨member, same⟩ := Table.find_eq_some.mp found
  refine ⟨row, member, congrArg Prod.fst same, congrArg Prod.snd same, ?_⟩
  rw [checkedAt, known]
  rfl

theorem tracked_of_row (member : row ∈ store.contributorStanding.rows) (inside : row.wiki = wiki) :
    (standingRecord store wiki row.userId).isSome = true ∧
      checkedAt store wiki row.userId = row.lockCheckedAt := by
  have found : store.contributorStanding.find (wiki, row.userId) = some row :=
    Table.find_eq_some.mpr ⟨member, by rw [← inside]; rfl⟩
  rw [checkedAt, standingRecord, found]
  exact ⟨rfl, rfl⟩

theorem staleIds_nodup :
    ((staleRows store wiki cutoff).map ContributorStanding.userId).Nodup := by
  apply List.Nodup.of_map (fun userId => (wiki, userId))
  have keys : ((staleRows store wiki cutoff).map ContributorStanding.userId).map
      (fun userId => (wiki, userId)) =
        (staleRows store wiki cutoff).map Keyed.key := by
    rw [List.map_map]
    apply List.map_congr_left
    intro row member
    rw [Function.comp_apply, standing_key, (mem_staleRows.mp member).2.1]
  rw [keys]
  exact store.contributorStanding.unique.sublist (List.filter_sublist.map _)

/-- A stale account that is passed over stands behind a full choice. -/
theorem passed_over (allowed : allowedCandidates store wiki cutoff limit chosen = true)
    (tracked : (standingRecord store wiki userId).isSome = true)
    (stale : isStale cutoff (checkedAt store wiki userId) = true) (passed : userId ∉ chosen) :
    chosen.Nodup ∧ chosen.length = limit ∧ ∀ other ∈ chosen,
      (standingRecord store wiki other).isSome = true ∧
        notAfter (checkedAt store wiki other) (checkedAt store wiki userId) = true := by
  simp only [allowedCandidates, Bool.and_eq_true, decide_eq_true_eq, List.all_eq_true,
    Bool.or_eq_true] at allowed
  obtain ⟨⟨⟨distinct, subset⟩, size⟩, ordered⟩ := allowed
  obtain ⟨row, member, inside, rfl, date⟩ := row_of_tracked tracked
  rw [date] at stale ⊢
  have candidate := mem_staleRows.mpr ⟨member, inside, stale⟩
  refine ⟨distinct, ?_, ?_⟩
  · rcases Nat.le_total limit (staleRows store wiki cutoff).length with many | few
    · rw [size, Nat.min_eq_left many]
    · -- A choice of every stale row would contain the account.
      rw [Nat.min_eq_right few] at size
      have within : List.Subperm chosen
          ((staleRows store wiki cutoff).map ContributorStanding.userId) :=
        List.subperm_of_subset distinct subset
      have same := within.perm_of_length_le (by rw [List.length_map, size])
      exact absurd (same.mem_iff.mpr (List.mem_map.mpr ⟨row, candidate, rfl⟩)) passed
  · intro other picked
    obtain ⟨first, present, rfl⟩ := List.mem_map.mp (subset other picked)
    obtain ⟨old, sameWiki, _⟩ := mem_staleRows.mp present
    obtain ⟨known, firstDate⟩ := tracked_of_row old sameWiki
    refine ⟨known, ?_⟩
    rw [firstDate]
    rcases ordered first present with spared | before
    · exact absurd picked spared
    · exact (before row candidate).resolve_left passed

end Candidates

def StandingAnswers.Succeeds (answers : StandingAnswers) (blocks : Dict Int AccountStanding)
    (userId : Int) : Prop :=
  ∃ block, (blocks.find userId).map Prod.snd = some block ∧
    ∃ locked, answers.globalUserInfo userId block.username = .ok locked ∧
      (locked = true → ∃ reason, answers.globalLockReason userId block.username = .ok reason)

/-- Runs of the job on one wiki, one after the other. The wiki names the same accounts in all
of them, nothing else writes its rows, and the lookups of no account outside `failing` fail. -/
structure Rotation (settings : Settings) (wiki : String) (names : List Int)
    (failing : Finset Int) where
  store : Nat → Store
  now : Nat → Time
  writtenAt : Nat → Time
  answers : Nat → StandingAnswers
  chosen : Nat → List Int
  named : ∀ run, namedContributorIds (store run) wiki = names
  later : ∀ run, now run < now (run + 1)
  allowed : ∀ run, allowedCandidates (store run) wiki
    (now run - seconds settings.standingLockRecheckSeconds)
    settings.standingLockChecksPerRun.toNat (chosen run) = true
  answered : ∀ run, ∃ blocks, (answers run).fetchStanding names = .ok blocks ∧
    ∀ userId ∈ names, userId ∉ failing → (answers run).Succeeds blocks userId
  expected : ∀ run, ∀ userId ∈ failing, (answers run).Expected userId
  next : ∀ run answer after, Standing.syncWiki settings (answers run) (chosen run) (store run) wiki
    false (now run) (writtenAt run) = some (.ok answer, after) →
      ∀ userId, standingRecord (store (run + 1)) wiki userId = standingRecord after wiki userId

section Lookup

variable {answers : StandingAnswers} {now : Time} {userId : Int} {username : String}
  {previous facts : LockFacts} {checked : Bool}

theorem lockLookup_dated {locked : Bool}
    (info : answers.globalUserInfo userId username = .ok locked)
    (reason : locked = true → ∃ text, answers.globalLockReason userId username = .ok text)
    (looked : lockLookup answers now userId username previous = .ok (facts, checked)) :
    facts.lockCheckedAt = some now := by
  rw [lockLookup, info] at looked
  cases locked with
  | false =>
      cases looked
      rfl
  | true =>
      obtain ⟨text, answered⟩ := reason rfl
      rw [answered] at looked
      cases looked
      rfl

theorem mergeAccount_succeeds {due : List Int} {known : Int → Option StandingRecord}
    {blocks : Dict Int AccountStanding} (succeeds : answers.Succeeds blocks userId) :
    ∃ merged, mergeAccount answers now due known blocks userId = .ok merged := by
  obtain ⟨block, found, locked, info, reason⟩ := succeeds
  rw [mergeAccount, found]
  dsimp only
  split
  · rw [lockLookup, info]
    cases locked with
    | false => exact ⟨_, rfl⟩
    | true =>
        obtain ⟨text, answered⟩ := reason rfl
        rw [answered]
        exact ⟨_, rfl⟩
  · exact ⟨_, rfl⟩

end Lookup

namespace Rotation

variable {settings : Settings} {wiki : String} {names : List Int} {failing : Finset Int}
  (rotation : Rotation settings wiki names failing)

def due (run : Nat) : List Int :=
  dueAccounts settings (standingRecord (rotation.store run) wiki) names (rotation.chosen run)

def cutoff (run : Nat) : Time :=
  rotation.now run - seconds settings.standingLockRecheckSeconds

def LooksUp (run : Nat) (userId : Int) : Prop :=
  ∃ answer after, Standing.syncWiki settings (rotation.answers run) (rotation.chosen run)
      (rotation.store run) wiki false (rotation.now run) (rotation.writtenAt run) =
        some (.ok answer, after) ∧ userId ∈ answer.lookups

/-- A run whose first query is answered goes through its loop and returns. -/
theorem returned (run : Nat) {blocks : Dict Int AccountStanding}
    (fetched : (rotation.answers run).fetchStanding names = .ok blocks) :
    ∃ merged, Standing.mergeAccounts settings (rotation.answers run) (rotation.store run) wiki
        blocks (rotation.chosen run) (rotation.now run) = .ok merged ∧
      Standing.syncWiki settings (rotation.answers run) (rotation.chosen run)
        (rotation.store run) wiki false (rotation.now run) (rotation.writtenAt run) =
          some (.ok (Standing.conclude merged (rotation.store run) wiki false
              (rotation.writtenAt run)).1,
            (Standing.conclude merged (rotation.store run) wiki false
              (rotation.writtenAt run)).2) := by
  obtain ⟨known, answered, succeed⟩ := rotation.answered run
  obtain rfl : known = blocks := Except.ok.inj (answered.symm.trans fetched)
  obtain ⟨merged, looped⟩ := @mergeAccounts_returns settings (rotation.answers run)
    (rotation.store run) wiki known (rotation.chosen run) (rotation.now run) (by
      intro userId member
      by_cases fails : userId ∈ failing
      · exact mergeAccount_expected (rotation.expected run userId fails)
      · rw [rotation.named run] at member
        exact mergeAccount_succeeds (succeed userId member fails))
  refine ⟨merged, looped, ?_⟩
  rw [Standing.syncWiki, rotation.named run, fetched]
  simp only [rotation.allowed run, if_true, looped]

theorem ran (run : Nat) : ∃ blocks merged after,
    (∀ userId ∈ names, userId ∉ failing → (rotation.answers run).Succeeds blocks userId) ∧
    Standing.mergeAccounts settings (rotation.answers run) (rotation.store run) wiki blocks
      (rotation.chosen run) (rotation.now run) = .ok merged ∧
    after = (replaceStanding (rotation.store run) wiki (Standing.recordsOf merged)
      (rotation.writtenAt run)).2 ∧
    (∀ userId, standingRecord (rotation.store (run + 1)) wiki userId =
      standingRecord after wiki userId) ∧
    ∀ userId ∈ Standing.lookupsOf merged, rotation.LooksUp run userId := by
  obtain ⟨blocks, fetched, succeed⟩ := rotation.answered run
  obtain ⟨merged, looped, returned⟩ := rotation.returned run fetched
  refine ⟨blocks, merged, _, succeed, looped, rfl, rotation.next run _ _ returned, ?_⟩
  intro userId member
  exact ⟨_, _, returned, member⟩

/-- What a run does for an account that does not fail: it has a record, whose lock was read
now where its turn has come, and else when it was before. -/
theorem checked (run : Nat) {userId : Int} (member : userId ∈ names)
    (sound : userId ∉ failing) :
    (standingRecord (rotation.store (run + 1)) wiki userId).isSome = true ∧
      ((userId ∈ rotation.due run ∧ rotation.LooksUp run userId ∧
          checkedAt (rotation.store (run + 1)) wiki userId = some (rotation.now run)) ∨
        (userId ∉ rotation.due run ∧
          checkedAt (rotation.store (run + 1)) wiki userId =
            checkedAt (rotation.store run) wiki userId)) := by
  obtain ⟨blocks, merged, after, succeed, looped, written, next, lookedUp⟩ := rotation.ran run
  obtain ⟨named, made⟩ := mergeAccounts_entries looped
  obtain ⟨known, _⟩ := standingRecord_replaced looped written
  rw [rotation.named run] at named made
  rw [← named] at member
  obtain ⟨entry, present, rfl⟩ := List.mem_map.mp member
  rw [named] at member
  obtain ⟨block, answered, locked, info, reason⟩ := succeed entry.1 member sound
  obtain ⟨facts, record, turn⟩ := mergeAccount_answered answered (made entry present)
  have current : standingRecord (rotation.store (run + 1)) wiki entry.1 =
      some (mergedRecord entry.1 block facts) :=
    (next entry.1).trans ((known entry present).trans record)
  have date : checkedAt (rotation.store (run + 1)) wiki entry.1 = facts.lockCheckedAt := by
    rw [checkedAt, current]
    rfl
  refine ⟨by rw [current]; rfl, ?_⟩
  rcases turn with ⟨spared, _, rfl⟩ | ⟨selected, asked, looked⟩
  · refine Or.inr ⟨spared, date.trans ?_⟩
    rw [checkedAt, lockFactsOf]
    cases standingRecord (rotation.store run) wiki entry.1 <;> rfl
  · refine Or.inl ⟨selected, lookedUp _ (mem_lookups.mpr ⟨entry, present, asked, rfl⟩), ?_⟩
    exact date.trans (lockLookup_dated info reason looked)

theorem tracked_named (run : Nat) {userId : Int}
    (tracked : (standingRecord (rotation.store (run + 1)) wiki userId).isSome = true) :
    userId ∈ names := by
  obtain ⟨blocks, merged, after, _, looped, written, next, _⟩ := rotation.ran run
  by_contra unnamed
  rw [← rotation.named run] at unnamed
  rw [next, (standingRecord_replaced looped written).2 userId unnamed] at tracked
  cases tracked

/-- The account has a row whose lock is stale, and only named accounts have rows. -/
structure Waiting (run : Nat) (userId : Int) : Prop where
  tracked : (standingRecord (rotation.store run) wiki userId).isSome = true
  stale : isStale (rotation.cutoff run) (checkedAt (rotation.store run) wiki userId) = true
  named : ∀ other, (standingRecord (rotation.store run) wiki other).isSome = true → other ∈ names

/-- The accounts that do not fail and may come before this one. -/
def ahead (run : Nat) (userId : Int) : Finset Int :=
  names.toFinset.filter (fun other => other ∉ failing ∧ other ≠ userId ∧
    notAfter (checkedAt (rotation.store run) wiki other)
      (checkedAt (rotation.store run) wiki userId) = true)

theorem cutoff_later (run : Nat) : rotation.cutoff run < rotation.cutoff (run + 1) :=
  Int.sub_lt_sub_right (rotation.later run) _

theorem stale_later {run : Nat} {date : Option Time}
    (stale : isStale (rotation.cutoff run) date = true) :
    isStale (rotation.cutoff (run + 1)) date = true := by
  cases date with
  | none => rfl
  | some time =>
      have before : time < rotation.cutoff run := of_decide_eq_true stale
      exact decide_eq_true (before.trans (rotation.cutoff_later run))

theorem now_last (window : 0 ≤ settings.standingLockRecheckSeconds) {run : Nat}
    {date : Option Time} (stale : isStale (rotation.cutoff run) date = true) :
    notAfter (some (rotation.now run)) date = false := by
  cases date with
  | none => rfl
  | some time =>
      have before : time < rotation.cutoff run := of_decide_eq_true stale
      have back : 0 ≤ seconds settings.standingLockRecheckSeconds :=
        Int.mul_nonneg window (by decide)
      have past : time < rotation.now run :=
        Int.lt_of_lt_of_le before (Int.sub_le_self _ back)
      exact decide_eq_false (Int.not_le.mpr past)

section Passing

variable {run : Nat} {userId : Int} (member : userId ∈ names) (sound : userId ∉ failing)
  (passed : ¬ rotation.LooksUp run userId)
include member sound passed

theorem passed_due : userId ∉ rotation.due run ∧
    checkedAt (rotation.store (run + 1)) wiki userId =
      checkedAt (rotation.store run) wiki userId := by
  rcases (rotation.checked run member sound).2 with ⟨_, asked, _⟩ | spared
  · exact absurd asked passed
  · exact spared

theorem waiting_next
    (stale : isStale (rotation.cutoff run) (checkedAt (rotation.store run) wiki userId) = true) :
    rotation.Waiting (run + 1) userId where
  tracked := (rotation.checked run member sound).1
  stale := by
    rw [(rotation.passed_due member sound passed).2]
    exact rotation.stale_later stale
  named := fun _ => rotation.tracked_named run

/-- Such a run looks up enough accounts that were ahead, and they fall behind. -/
theorem ahead_falls (window : 0 ≤ settings.standingLockRecheckSeconds)
    (waiting : rotation.Waiting run userId) :
    (rotation.ahead (run + 1) userId).card +
        (settings.standingLockChecksPerRun.toNat - failing.card) ≤
      (rotation.ahead run userId).card := by
  obtain ⟨spared, date⟩ := rotation.passed_due member sound passed
  have unchosen : userId ∉ rotation.chosen run :=
    fun picked => spared (List.mem_append_left _ picked)
  obtain ⟨distinct, full, before⟩ :=
    passed_over (rotation.allowed run) waiting.tracked waiting.stale unchosen
  let lookedUp := (rotation.chosen run).toFinset \ failing
  have enough : settings.standingLockChecksPerRun.toNat - failing.card ≤ lookedUp.card := by
    have size := Finset.le_card_sdiff failing (rotation.chosen run).toFinset
    rwa [List.toFinset_card_of_nodup distinct, full] at size
  have wereAhead : lookedUp ⊆ rotation.ahead run userId := by
    intro other picked
    obtain ⟨chosen, fine⟩ := Finset.mem_sdiff.mp picked
    rw [List.mem_toFinset] at chosen
    obtain ⟨tracked, earlier⟩ := before other chosen
    refine Finset.mem_filter.mpr ⟨List.mem_toFinset.mpr (waiting.named other tracked), fine, ?_,
      earlier⟩
    exact fun same => unchosen (same ▸ chosen)
  have stay : rotation.ahead (run + 1) userId ⊆ rotation.ahead run userId \ lookedUp := by
    intro other still
    obtain ⟨named, fine, different, earlier⟩ := Finset.mem_filter.mp still
    rw [List.mem_toFinset] at named
    rw [date] at earlier
    rcases (rotation.checked run named fine).2 with ⟨_, _, dated⟩ | ⟨notDue, kept⟩
    · rw [dated, rotation.now_last window waiting.stale] at earlier
      cases earlier
    · rw [kept] at earlier
      refine Finset.mem_sdiff.mpr ⟨Finset.mem_filter.mpr
        ⟨List.mem_toFinset.mpr named, fine, different, earlier⟩, ?_⟩
      intro picked
      have chosen := List.mem_toFinset.mp (Finset.mem_sdiff.mp picked).1
      exact notDue (List.mem_append_left _ chosen)
  calc (rotation.ahead (run + 1) userId).card +
        (settings.standingLockChecksPerRun.toNat - failing.card)
      ≤ (rotation.ahead run userId \ lookedUp).card + lookedUp.card :=
        Nat.add_le_add (Finset.card_le_card stay) enough
    _ = (rotation.ahead run userId).card := Finset.card_sdiff_add_card_eq_card wereAhead

end Passing

/-- As long as an account is passed over, the number of accounts ahead falls. -/
theorem waiting_runs (window : 0 ≤ settings.standingLockRecheckSeconds) {first : Nat}
    {userId : Int} (member : userId ∈ names) (sound : userId ∉ failing)
    (stale : isStale (rotation.cutoff first)
      (checkedAt (rotation.store first) wiki userId) = true)
    (count : Nat) (passed : ∀ run, first ≤ run → run ≤ first + count →
      ¬ rotation.LooksUp run userId) :
    rotation.Waiting (first + count + 1) userId ∧
      (rotation.ahead (first + count + 1) userId).card +
          count * (settings.standingLockChecksPerRun.toNat - failing.card) <
        names.length := by
  induction count with
  | zero =>
      have skipped := passed first (Nat.le_refl _) (Nat.le_refl _)
      refine ⟨rotation.waiting_next member sound skipped stale, ?_⟩
      have others : rotation.ahead (first + 0 + 1) userId ⊆ names.toFinset.erase userId := by
        intro other still
        obtain ⟨named, _, different, _⟩ := Finset.mem_filter.mp still
        exact Finset.mem_erase.mpr ⟨different, named⟩
      have listed : userId ∈ names.toFinset := List.mem_toFinset.mpr member
      calc (rotation.ahead (first + 0 + 1) userId).card + 0 * _
          = (rotation.ahead (first + 0 + 1) userId).card := by rw [Nat.zero_mul, Nat.add_zero]
        _ ≤ (names.toFinset.erase userId).card := Finset.card_le_card others
        _ < names.toFinset.card := Finset.card_erase_lt_of_mem listed
        _ ≤ names.length := names.toFinset_card_le
  | succ count ih =>
      obtain ⟨waiting, bound⟩ := ih (fun run late early => passed run late (by omega))
      have skipped := passed (first + count + 1) (by omega) (by omega)
      refine ⟨rotation.waiting_next member sound skipped waiting.stale, ?_⟩
      have falls := rotation.ahead_falls member sound skipped window waiting
      rw [Nat.succ_mul]
      change (rotation.ahead (first + count + 1 + 1) userId).card + _ < _
      omega

end Rotation

section Steady

variable (settings : Settings) (answers : StandingAnswers) (wiki : String) (now : Nat → Time)
  (store : Store)

theorem notAfter_trans {first second third : Option Time} (one : notAfter first second = true)
    (two : notAfter second third = true) : notAfter first third = true := by
  cases first with
  | none => rfl
  | some early =>
      cases second with
      | none => cases one
      | some middle =>
          cases third with
          | none => cases two
          | some late =>
              exact decide_eq_true (le_trans (of_decide_eq_true one) (of_decide_eq_true two))

theorem notAfter_total (first second : Option Time) :
    (notAfter first second || notAfter second first) = true := by
  cases first with
  | none => rfl
  | some early =>
      cases second with
      | none => rfl
      | some late => simpa [notAfter] using le_total early late

def turnOrder (first second : ContributorStanding) : Bool :=
  notAfter first.lockCheckedAt second.lockCheckedAt

theorem turnOrder_trans {first second third : ContributorStanding}
    (one : turnOrder first second = true) (two : turnOrder second third = true) :
    turnOrder first third = true := notAfter_trans one two

theorem turnOrder_total (first second : ContributorStanding) :
    (turnOrder first second || turnOrder second first) = true := notAfter_total _ _

/-- The choice of a database that leaves ties in the order of its rows. -/
def firstCandidates (cutoff : Time) (limit : Nat) : List Int :=
  (((staleRows store wiki cutoff).mergeSort turnOrder).take limit).map ContributorStanding.userId

theorem firstCandidates_allowed (cutoff : Time) (limit : Nat) :
    allowedCandidates store wiki cutoff limit (firstCandidates wiki store cutoff limit) = true := by
  have sorted : ((staleRows store wiki cutoff).mergeSort turnOrder).Pairwise
      (fun first second => turnOrder first second = true) :=
    @List.pairwise_mergeSort _ turnOrder (fun _ _ _ => turnOrder_trans) turnOrder_total _
  have same := List.mergeSort_perm (staleRows store wiki cutoff) turnOrder
  have distinct := (same.map ContributorStanding.userId).nodup_iff.mpr
    (@staleIds_nodup store wiki cutoff)
  unfold allowedCandidates firstCandidates
  generalize (staleRows store wiki cutoff).mergeSort turnOrder = ordered
    at sorted same distinct ⊢
  have kept : ((ordered.take limit).map ContributorStanding.userId).Sublist
      (ordered.map ContributorStanding.userId) := (List.take_sublist limit ordered).map _
  simp only [Bool.and_eq_true, decide_eq_true_eq, List.all_eq_true, Bool.or_eq_true]
  refine ⟨⟨⟨kept.nodup distinct, ?_⟩, ?_⟩, ?_⟩
  · intro userId member
    exact (same.map _).subset (kept.subset member)
  · rw [List.length_map, List.length_take, same.length_eq]
  · intro first firstMember
    by_cases picked : first ∈ ordered.take limit
    · apply Or.inr
      intro second secondMember
      have present := same.symm.subset secondMember
      rw [← List.take_append_drop limit ordered] at present sorted
      rcases List.mem_append.mp present with also | left
      · exact Or.inl (List.mem_map_of_mem also)
      · exact Or.inr ((List.pairwise_append.mp sorted).2.2 first picked second left)
    · apply Or.inl
      intro chosen
      obtain ⟨other, taken, account⟩ := List.mem_map.mp chosen
      have equal : other = first := List.inj_on_of_nodup_map distinct
        (List.mem_of_mem_take taken) (same.symm.subset firstMember) account
      exact picked (equal ▸ taken)

def candidates (now : Time) : List Int :=
  firstCandidates wiki store (now - seconds settings.standingLockRecheckSeconds)
    settings.standingLockChecksPerRun.toNat

/-- The store before each run of the job, when nothing else writes it. -/
def stores : Nat → Store
  | 0 => store
  | run + 1 =>
      ((Standing.syncWiki settings answers (candidates settings wiki (stores run) (now run))
        (stores run) wiki false (now run) (now run)).map Prod.snd).getD (stores run)

theorem syncWiki_results {chosen : List Int} {dryRun : Bool} {at_ writtenAt : Time}
    {outcome : Except Exn StandingSync} {after : Store}
    (ran : Standing.syncWiki settings answers chosen store wiki dryRun at_ writtenAt =
      some (outcome, after)) : after.results = store.results := by
  unfold Standing.syncWiki at ran
  split at ran
  · cases ran
    rfl
  · dsimp only at ran
    split at ran
    · split at ran
      · cases ran
        rfl
      · cases ran
        rw [Standing.conclude]
        cases dryRun <;> rfl
    · cases ran

theorem stores_results (run : Nat) :
    (stores settings answers wiki now store run).results = store.results := by
  induction run with
  | zero => rfl
  | succ run ih =>
      rw [stores]
      cases ran : Standing.syncWiki settings answers
          (candidates settings wiki (stores settings answers wiki now store run) (now run))
          (stores settings answers wiki now store run) wiki false (now run) (now run) with
      | none => exact ih
      | some done => exact (syncWiki_results settings answers wiki _ ran).trans ih

variable {settings answers wiki now store}

def Rotation.steady {failing : Finset Int} (later : ∀ run, now run < now (run + 1))
    (answered : ∃ blocks, answers.fetchStanding (namedContributorIds store wiki) = .ok blocks ∧
      ∀ userId ∈ namedContributorIds store wiki, userId ∉ failing →
        answers.Succeeds blocks userId)
    (expected : ∀ userId ∈ failing, answers.Expected userId) :
    Rotation settings wiki (namedContributorIds store wiki) failing where
  store := stores settings answers wiki now store
  now := now
  writtenAt := now
  answers := fun _ => answers
  chosen := fun run =>
    candidates settings wiki (stores settings answers wiki now store run) (now run)
  named := by
    intro run
    rw [namedContributorIds, stores_results]
    rfl
  later := later
  allowed := fun run => firstCandidates_allowed wiki _ _ _
  answered := fun _ => answered
  expected := fun _ => expected
  next := by
    intro run answer after ran userId
    rw [stores, ran]
    rfl

end Steady

/-- Every account outside the failing ones whose lock is stale or was never read at some run
is looked up in that run or one of the next `⌈n / (L - f)⌉`. -/
theorem locks_rotate (settings : Settings) (wiki : String) (names : List Int)
    (failing : Finset Int) (rotation : Rotation settings wiki names failing)
    (window : 0 ≤ settings.standingLockRecheckSeconds)
    (few : (failing.card : Int) < settings.standingLockChecksPerRun) (first : Nat)
    (userId : Int) (member : userId ∈ names) (sound : userId ∉ failing)
    (stale : isStale (rotation.cutoff first)
      (checkedAt (rotation.store first) wiki userId) = true) :
    ∃ run, first ≤ run ∧
      run < first + (rounds names.length
        (settings.standingLockChecksPerRun.toNat - failing.card) + 1) ∧
      rotation.LooksUp run userId := by
  by_contra never
  have positive : 0 < settings.standingLockChecksPerRun.toNat - failing.card := by omega
  obtain ⟨_, bound⟩ := rotation.waiting_runs window member sound stale
    (rounds names.length (settings.standingLockChecksPerRun.toNat - failing.card)) (by
      intro run late early asked
      exact never ⟨run, late, by omega, asked⟩)
  have whole := @le_rounds names.length _ positive
  omega

/-- MediaWiki answers that the account is not blocked, CentralAuth that it is not locked. -/
def clearAnswers : StandingAnswers where
  fetchStanding := fun _ => .ok (Table.empty.put
    (7, { userId := 7, username := "Ada", blockedAt := none, blockExpiresAt := none
          blockPartial := false, blockReason := none, globallyLocked := false
          lockReason := none }))
  globalUserInfo := fun _ _ => .ok false
  globalLockReason := fun _ _ => .ok none

def clearStanding (userId : Int) : AccountStanding where
  userId := userId
  username := toString userId
  blockedAt := none
  blockExpiresAt := none
  blockPartial := false
  blockReason := none
  globallyLocked := false
  lockReason := none

/-- A result of frwiki that names the accounts 7, 8 and 9. The locks of 7 and 8 were read at
time 0, that of 9 never. -/
def crowdedStore : Store :=
  let store := saveResult .empty
    { toIdentity := articleKey 10
      title := "A"
      metric := "wikiwho-surviving-alphanumeric-tokens"
      contributors := ownTokens.contributors.flatMap fun contributor =>
        [contributor, { contributor with userId := some 8 },
          { contributor with userId := some 9 }]
      distinctContributors := 3
      countLimited := false
      countableTokens := 90
      wikiwhoRevisionId := 10
      computedAt := 0 }
  (replaceStanding store "frwiki"
    [⟨clearStanding 7, some 0⟩, ⟨clearStanding 8, some 0⟩, ⟨clearStanding 9, none⟩] 0).2

theorem crowded_named : namedContributorIds crowdedStore "frwiki" = [7, 8, 9] := by
  have named : ((crowdedStore.results.rows.filter (fun result => result.wiki = "frwiki")).flatMap
      (fun result => result.contributors.filterMap positiveId)).dedup = [7, 8, 9] := by
    decide +kernel
  rw [namedContributorIds, named]
  exact List.mergeSort_of_pairwise (by decide)

/-- CentralAuth never answers for the account 9. -/
def crowdedAnswers : StandingAnswers where
  fetchStanding := fun userIds => .ok (userIds.foldl
    (fun blocks userId => blocks.put (userId, clearStanding userId)) .empty)
  globalUserInfo := fun userId _ =>
    if userId = 9 then .error (.known .retryableUpstream "timeout") else .ok false
  globalLockReason := fun _ _ => .ok none

theorem crowded_sound {userId : Int}
    (member : userId ∈ namedContributorIds crowdedStore "frwiki")
    (sound : userId ∉ ({9} : Finset Int)) : userId = 7 ∨ userId = 8 := by
  rw [crowded_named] at member
  simp only [List.mem_cons, List.not_mem_nil, or_false] at member
  rcases member with seven | eight | nine
  · exact Or.inl seven
  · exact Or.inr eight
  · exact absurd (Finset.mem_singleton.mpr nine) sound

theorem crowded_answered : ∃ blocks,
    crowdedAnswers.fetchStanding (namedContributorIds crowdedStore "frwiki") = .ok blocks ∧
      ∀ userId ∈ namedContributorIds crowdedStore "frwiki", userId ∉ ({9} : Finset Int) →
        crowdedAnswers.Succeeds blocks userId := by
  refine ⟨_, rfl, ?_⟩
  intro userId member sound
  rw [crowded_named]
  rcases crowded_sound member sound with rfl | rfl
  · exact ⟨_, rfl, false, rfl, nofun⟩
  · exact ⟨_, rfl, false, rfl, nofun⟩

theorem crowded_expected (userId : Int) : crowdedAnswers.Expected userId := by
  intro username message
  refine ⟨?_, nofun⟩
  unfold crowdedAnswers
  dsimp only
  split
  · nofun
  · nofun

/-- Two lookups for each run. -/
def twoChecks : Settings := { fromEnv with standingLockChecksPerRun := 2 }

/-- A run each day, from the third on. -/
def daily (run : Nat) : Time := seconds (86400 * (run + 2))

theorem daily_later (run : Nat) : daily run < daily (run + 1) := by
  have later : 86400 * ((run : Int) + 2) < 86400 * (((run + 1 : Nat) : Int) + 2) := by omega
  exact Int.mul_lt_mul_of_pos_right later (by decide)

def crowdedRotation :
    Rotation twoChecks "frwiki" (namedContributorIds crowdedStore "frwiki") {9} :=
  @Rotation.steady twoChecks crowdedAnswers "frwiki" daily crowdedStore {9} daily_later
    crowded_answered (fun userId _ => crowded_expected userId)

/-- The account 9 comes first each day, and yet 8 has its turn. -/
theorem locks_rotate_crowded :
    namedContributorIds crowdedStore "frwiki" = [7, 8, 9] ∧
      checkedAt crowdedStore "frwiki" 8 = some 0 ∧ checkedAt crowdedStore "frwiki" 9 = none ∧
      ∃ run, 0 ≤ run ∧ run < 0 + (rounds 3 (2 - 1) + 1) ∧ crowdedRotation.LooksUp run 8 := by
  refine ⟨crowded_named, by decide +kernel, by decide +kernel, ?_⟩
  have looked := locks_rotate twoChecks "frwiki" (namedContributorIds crowdedStore "frwiki") {9}
    crowdedRotation (by decide) (by decide) 0 8 (by simp [crowded_named]) (by decide)
    (by decide +kernel)
  rw [congrArg List.length crowded_named] at looked
  exact looked

end WikiPeople
