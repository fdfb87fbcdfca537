import WikiPeople.Community
import WikiPeople.LockChecks
import WikiPeople.Serving
import WikiPeople.World

/-! The runs of the standing job catch up with what is decided: once the lock of every account
was read again, an answer withholds the names that the decisions withhold, and no others. -/

namespace WikiPeople

open Relational

/-- The facts that `lockLookup` makes of a decision. -/
def decidedFacts (decision : Bool × Option String) (now : Time) : LockFacts :=
  ⟨decision.1, decision.2, some now⟩

theorem lockLookup_told {wire : StandingWire} {wiki name : String} {spellTime : Time → String}
    {community : Community} {known : String → Prop} {now : Time} {userId : Int} {username : String}
    {previous : LockFacts}
    (documents : wire.Documents wiki name spellTime community known) (reached : known username) :
    lockLookup (wire.answers wiki) now userId username previous =
      .ok (decidedFacts (community.lockDecision username) now, true) := by
  unfold lockLookup
  rw [globalUserInfo_told documents reached]
  unfold Community.lockDecision
  cases community.locked username with
  | false => rfl
  | true =>
      have reason : (wire.answers wiki).globalLockReason userId username =
          .ok (community.lockReason username) := globalLockReason_told documents reached
      dsimp only
      rw [reason]
      rfl

theorem StandingWire.Documents.succeeds {wire : StandingWire} {wiki name : String}
    {spellTime : Time → String} {community : Community} {known : String → Prop}
    (documents : wire.Documents wiki name spellTime community known)
    {blocks : Dict Int AccountStanding} {userId : Int}
    (answered : (blocks.find userId).map Prod.snd = some (community.blockStanding userId))
    (reached : known (community.username userId)) :
    (wire.answers wiki).Succeeds blocks userId := by
  refine ⟨_, answered, _, globalUserInfo_told documents reached userId, ?_⟩
  intro _
  exact ⟨_, globalLockReason_told documents reached⟩

/-- The communities agree on names and locks, if not on blocks. -/
structure Community.SameLocks (community other : Community) : Prop where
  names : community.names = other.names
  locked : community.locked = other.locked
  lockLog : community.lockLog = other.lockLog

def Community.decided (community : Community) (userId : Int) : Bool × Option String :=
  community.lockDecision (community.username userId)

theorem Community.SameLocks.decided {community other : Community}
    (same : community.SameLocks other) (userId : Int) :
    community.decided userId = other.decided userId := by
  obtain ⟨names, locked, lockLog⟩ := same
  cases community
  cases other
  cases names
  cases locked
  cases lockLog
  rfl

/-- Each run is told the facts of its own moment. The lookups of the accounts in `failing` may
be answered in any way that `Rotation` allows. -/
structure Informed {settings : Settings} {wiki : String} {names : List Int}
    {failing : Finset Int} (rotation : Rotation settings wiki names failing)
    (community : Nat → Community) where
  name : String
  spellTime : Time → String
  wire : Nat → StandingWire
  answers : ∀ run, rotation.answers run = (wire run).answers wiki
  documents : ∀ run, (wire run).Documents wiki name spellTime (community run)
    (fun username => ∃ userId ∈ names, userId ∉ failing ∧
      username = (community run).username userId)

section Runs

variable {settings : Settings} {wiki : String} {names : List Int} {failing : Finset Int}
  {rotation : Rotation settings wiki names failing} {community : Nat → Community}
  {run first turn : Nat} {userId : Int}

theorem Rotation.recorded (member : userId ∈ names) {blocks : Dict Int AccountStanding}
    (fetched : (rotation.answers run).fetchStanding names = .ok blocks) {block : AccountStanding}
    (answered : (blocks.find userId).map Prod.snd = some block) :
    ∃ facts, standingRecord (rotation.store (run + 1)) wiki userId =
        some (mergedRecord userId block facts) ∧
      ((¬ rotation.LooksUp run userId ∧
          facts = lockFactsOf (standingRecord (rotation.store run) wiki userId)) ∨
        ∃ checked, lockLookup (rotation.answers run) (rotation.now run) userId block.username
          (lockFactsOf (standingRecord (rotation.store run) wiki userId)) =
            .ok (facts, checked)) := by
  obtain ⟨_, _, ran⟩ := rotation.returned run fetched
  obtain ⟨_, _, merges⟩ := standingSync_returned ran (by rw [rotation.named run]; exact fetched)
  obtain ⟨merged, made, record, asked⟩ := merges userId (by rw [rotation.named run]; exact member)
  obtain ⟨facts, same, turn⟩ := mergeAccount_answered answered made
  refine ⟨facts, (rotation.next run _ _ ran userId).trans (record.trans same), ?_⟩
  rcases turn with ⟨_, spared, kept⟩ | ⟨_, _, looked⟩
  · refine Or.inl ⟨?_, kept⟩
    rintro ⟨other, left, again, lookedUp⟩
    rw [ran] at again
    cases again
    rw [asked, spared] at lookedUp
    cases lookedUp
  · exact Or.inr ⟨_, looked⟩

/-- What a run leaves of a named account: its block as it is now, and its lock as it is now or as
it was before. -/
theorem Informed.recorded (informed : Informed rotation community) (run : Nat)
    (member : userId ∈ names) :
    ∃ facts, standingRecord (rotation.store (run + 1)) wiki userId =
        some (mergedRecord userId ((community run).blockStanding userId) facts) ∧
      (userId ∉ failing →
        (¬ rotation.LooksUp run userId ∧
          facts = lockFactsOf (standingRecord (rotation.store run) wiki userId)) ∨
        facts = decidedFacts ((community run).decided userId) (rotation.now run)) := by
  have documents := informed.documents run
  obtain ⟨blocks, fetched, told⟩ := fetchStanding_told documents names
  have positive : 0 < userId := by
    rw [← rotation.named 0] at member
    exact named_positive member
  have answered := told userId member positive
  obtain ⟨facts, record, turn⟩ := @Rotation.recorded _ _ _ _ rotation run userId member blocks
    (by rw [informed.answers]; exact fetched) _ answered
  refine ⟨facts, record, ?_⟩
  intro sound
  refine turn.imp_right ?_
  rintro ⟨checked, looked⟩
  rw [informed.answers] at looked
  have lookup := @lockLookup_told _ _ _ _ _ _ (rotation.now run) userId
    ((community run).username userId)
    (lockFactsOf (standingRecord (rotation.store run) wiki userId)) documents
    ⟨userId, member, sound, rfl⟩
  cases lookup.symm.trans looked
  rfl

def LockKnown (rotation : Rotation settings wiki names failing) (decision : Bool × Option String)
    (run : Nat) (userId : Int) : Prop :=
  let facts := lockFactsOf (standingRecord (rotation.store run) wiki userId)
  (facts.globallyLocked, facts.lockReason) = decision

section Settled

variable (informed : Informed rotation community)
  (settled : ∀ run, first ≤ run → (community run).SameLocks (community first))
  (member : userId ∈ names) (sound : userId ∉ failing)
include informed settled member sound

theorem looked_known (after : first ≤ run) (asked : rotation.LooksUp run userId) :
    LockKnown rotation ((community first).decided userId) (run + 1) userId := by
  obtain ⟨facts, record, turn⟩ := informed.recorded run member
  rcases turn sound with ⟨spared, _⟩ | rfl
  · exact absurd asked spared
  · rw [LockKnown, record, ← (settled run after).decided]
    rfl

/-- A lock is as decided, or as it was before the decisions were settled. -/
theorem known_or_before (after : first ≤ run) :
    LockKnown rotation ((community first).decided userId) run userId ∨
      checkedAt (rotation.store run) wiki userId =
        checkedAt (rotation.store first) wiki userId := by
  induction run, after using Nat.le_induction with
  | base => exact Or.inr rfl
  | succ run after ih =>
      obtain ⟨facts, record, turn⟩ := informed.recorded run member
      rcases turn sound with ⟨_, rfl⟩ | rfl
      · refine ih.imp ?_ ?_
        · intro known
          rw [LockKnown, record]
          exact known
        · intro same
          rw [← same, checkedAt, record, checkedAt]
          cases standingRecord (rotation.store run) wiki userId <;> rfl
      · rw [LockKnown, record, ← (settled run after).decided]
        exact Or.inl rfl

theorem known_later {reached : Nat} (after : first ≤ reached)
    (known : LockKnown rotation ((community first).decided userId) reached userId)
    (later : reached ≤ run) :
    LockKnown rotation ((community first).decided userId) run userId := by
  induction run, later using Nat.le_induction with
  | base => exact known
  | succ run later ih =>
      obtain ⟨facts, record, turn⟩ := informed.recorded run member
      rw [LockKnown, record]
      rcases turn sound with ⟨_, rfl⟩ | rfl
      · exact ih
      · rw [← (settled run (after.trans later)).decided]
        rfl

/-- The turn of every account comes. -/
theorem known_reached (window : 0 ≤ settings.standingLockRecheckSeconds)
    (few : (failing.card : Int) < settings.standingLockChecksPerRun) (after : first ≤ turn)
    (read : ∀ time, checkedAt (rotation.store first) wiki userId = some time →
      time < rotation.cutoff turn) :
    ∃ reached, first ≤ reached ∧
      reached ≤ turn + rounds names.length
        (settings.standingLockChecksPerRun.toNat - failing.card) + 1 ∧
      LockKnown rotation ((community first).decided userId) reached userId := by
  by_contra never
  have stale : isStale (rotation.cutoff turn)
      (checkedAt (rotation.store turn) wiki userId) = true := by
    rcases known_or_before informed settled member sound after with known | same
    · exact absurd ⟨turn, after, by omega, known⟩ never
    · rw [same]
      cases date : checkedAt (rotation.store first) wiki userId with
      | none => rfl
      | some time => exact decide_eq_true (read time date)
  have positive : 0 < settings.standingLockChecksPerRun.toNat - failing.card := by omega
  have whole := @le_rounds names.length _ positive
  obtain ⟨_, bound⟩ := rotation.waiting_runs window member sound stale
    (rounds names.length (settings.standingLockChecksPerRun.toNat - failing.card)) (by
      intro run late early asked
      have known := looked_known informed settled member sound (after.trans late) asked
      exact never ⟨run + 1, by omega, by omega, known⟩)
  omega

end Settled

end Runs

theorem named_of_result {store : Store} {wiki : String} {result : AttributionResult}
    {contributor : Contributor} {userId : Int} (present : result ∈ store.results.rows)
    (same : result.wiki = wiki) (listed : contributor ∈ result.contributors)
    (own : contributor.userId = some userId) (positive : 0 < userId) :
    userId ∈ namedContributorIds store wiki := by
  unfold namedContributorIds
  rw [List.mem_mergeSort, List.mem_dedup, List.mem_flatMap]
  refine ⟨result, List.mem_filter.mpr ⟨present, decide_eq_true same⟩, ?_⟩
  refine List.mem_filterMap.mpr ⟨contributor, listed, ?_⟩
  rw [positiveId, own, Option.filter_some, if_pos (decide_eq_true positive)]

/-- The table of a wiki has what is decided about each named account, and an answer names an
account exactly where the decisions allow it. The locks of the accounts in `failing` may be
others. -/
structure FollowsDecisions (wiki : String) (names : List Int) (failing : Finset Int)
    (community : Community) (store : Store) : Prop where
  blocks : ∀ userId ∈ names, ∃ record, standingRecord store wiki userId = some record ∧
    record.standing.blockFacts = (community.standing userId).blockFacts
  recorded : ∀ userId ∈ names, userId ∉ failing → ∃ record,
    standingRecord store wiki userId = some record ∧
      record.standing = community.standing userId
  named : ∀ (reader : Runtime) (now : Time) (result : AttributionResult),
    reader.settings.hideSanctionedContributors = true → result ∈ store.results.rows →
    result.wiki = wiki → isOptedOut store wiki result.pageId = false →
    ∀ contributor ∈ result.contributors,
      (∀ userId ∈ contributor.userId, 0 < userId ∧ userId ∉ failing) →
      (contributor ∈ presentedContributors reader store wiki result.pageId now result ↔
        ∀ userId ∈ contributor.userId, isNameableAccount reader.alphabet
          (some (community.standing userId)) (maxVisibleBlockSecondsFor reader.settings wiki)
          now = true)

/-- Once the records of the named accounts are as decided, so is what an answer names. -/
theorem presented_as_decided {store : Store} {wiki : String} {names : List Int}
    {failing : Finset Int} {community : Community}
    (listed : namedContributorIds store wiki = names)
    (recorded : ∀ userId ∈ names, userId ∉ failing → ∃ record,
      standingRecord store wiki userId = some record ∧
        record.standing = community.standing userId)
    {reader : Runtime} {now : Time} {result : AttributionResult}
    (hides : reader.settings.hideSanctionedContributors = true)
    (present : result ∈ store.results.rows) (same : result.wiki = wiki)
    (visible : isOptedOut store wiki result.pageId = false) {contributor : Contributor}
    (member : contributor ∈ result.contributors)
    (sound : ∀ userId ∈ contributor.userId, 0 < userId ∧ userId ∉ failing) :
    contributor ∈ presentedContributors reader store wiki result.pageId now result ↔
      ∀ userId ∈ contributor.userId, isNameableAccount reader.alphabet
        (some (community.standing userId)) (maxVisibleBlockSecondsFor reader.settings wiki)
        now = true := by
  rw [presentedContributors, visible, if_neg Bool.false_ne_true, nameableContributors_eq hides,
    List.mem_filter, contributorNameable]
  cases own : contributor.userId with
  | none => simp [member]
  | some userId =>
      obtain ⟨positive, fine⟩ := sound userId own
      have inside := listed ▸ named_of_result present same member own positive
      obtain ⟨record, known, standing⟩ := recorded userId inside fine
      obtain ⟨row, found, rfl⟩ := Option.map_eq_some_iff.mp known
      have told : (store.contributorStanding.find (wiki, userId)).map
          ContributorStanding.standing = some (community.standing userId) := by
        rw [found, ← standing]
        rfl
      rw [Option.all_some, accountNameable, told]
      simp [member]

/-- The standing job catches up with what is decided, even while the lookups of a few accounts
keep failing: names and locks that stay as they are from a run on, and blocks as they are at
the moment, have reached the table and the readers when the turn of every account has come
again. -/
theorem decisions_reach_readers (settings : Settings) (wiki : String) (names : List Int)
    (failing : Finset Int) (rotation : Rotation settings wiki names failing)
    (community : Nat → Community) (informed : Informed rotation community)
    (window : 0 ≤ settings.standingLockRecheckSeconds)
    (few : (failing.card : Int) < settings.standingLockChecksPerRun) (first turn run : Nat)
    (settled : ∀ later, first ≤ later → (community later).SameLocks (community first))
    (after : first ≤ turn)
    (read : ∀ userId ∈ names, ∀ time, checkedAt (rotation.store first) wiki userId = some time →
      time < rotation.cutoff turn)
    (late : turn + rounds names.length
      (settings.standingLockChecksPerRun.toNat - failing.card) + 1 ≤ run) :
    FollowsDecisions wiki names failing (community run) (rotation.store (run + 1)) := by
  have recorded : ∀ userId ∈ names, userId ∉ failing → ∃ record,
      standingRecord (rotation.store (run + 1)) wiki userId = some record ∧
        record.standing = (community run).standing userId := by
    intro userId member sound
    obtain ⟨reached, began, soon, known⟩ := known_reached informed settled member sound window
      few after (read userId member)
    have kept := known_later informed settled member sound began known
      (show reached ≤ run + 1 by omega)
    obtain ⟨facts, record, _⟩ := informed.recorded run member
    refine ⟨_, record, ?_⟩
    rw [LockKnown, record, ← (settled run (by omega)).decided] at kept
    change _ = { (community run).blockStanding userId with
      globallyLocked := ((community run).decided userId).1
      lockReason := ((community run).decided userId).2 }
    rw [← kept]
    rfl
  refine ⟨?_, recorded, ?_⟩
  · intro userId member
    obtain ⟨facts, record, _⟩ := informed.recorded run member
    exact ⟨_, record, rfl⟩
  · intro reader now result hides present same visible contributor member sound
    exact presented_as_decided (rotation.named (run + 1)) recorded hides present same visible
      member sound

/-! Ada is locked on all wikis for spam. CentralAuth never answers for Eve. -/

def spamCommunity : Community where
  names := fun userId =>
    if userId = 7 then some "Ada" else if userId = 8 then some "Bob"
    else if userId = 9 then some "Eve" else none
  blocks := fun _ => none
  globalGroups := fun _ => []
  locked := fun username => username = "Ada"
  lockLog := fun _ => [⟨"2026-01-01T00:00:00Z", "Cross-wiki spam"⟩]
  named := fun _ _ => rfl

def spamWire : StandingWire where
  client :=
    { languages := ["fr"]
      spell := fun _ => ""
      send := fun _ params =>
        match params.lookup "list" with
        | some "users" =>
            .ok (usersJson (((askedIds params).take 50).map
              (standingJson isoformat spamCommunity)))
        | some _ => .ok (lockLogJson (spamCommunity.lockLog ""))
        | none =>
            let username := (params.lookup "guiuser").getD ""
            if username = "Eve" then .error (.unavailable "timeout")
            else .ok (lockedUserJson username [] (spamCommunity.locked username)) }
  readers := plainReaders
  memory := fun _ => .blank

theorem spamWire_documents {known : String → Prop}
    (reached : ∀ username, known username → username ≠ "Eve") :
    spamWire.Documents "frwiki" "fr.wikipedia.org" isoformat spamCommunity known where
  covered := rfl
  dated := by
    intro userId block blocked
    cases blocked
  endless := by decide +kernel
  blocks := by
    intro userIds some_
    have asked : askedIds (payload (blockInfoParams userIds)) = userIds :=
      askedIds_payload some_
    change Except.ok (usersJson (((askedIds (payload (blockInfoParams userIds))).take 50).map
      _)) = _
    rw [asked]
  locks := by
    intro username found
    exact if_neg (reached username found)
  log := fun _ _ => rfl
  remembered := fun _ => Memo.sound_blank

theorem sound_crowded {userId : Int} (member : userId ∈ namedContributorIds crowdedStore "frwiki")
    (sound : userId ∉ ({9} : Finset Int)) : spamCommunity.username userId ≠ "Eve" := by
  rcases crowded_sound member sound with rfl | rfl <;> decide

theorem spamWire_answered : ∃ blocks,
    (spamWire.answers "frwiki").fetchStanding (namedContributorIds crowdedStore "frwiki") =
        .ok blocks ∧
      ∀ userId ∈ namedContributorIds crowdedStore "frwiki", userId ∉ ({9} : Finset Int) →
        (spamWire.answers "frwiki").Succeeds blocks userId := by
  have documents := @spamWire_documents (· ≠ "Eve") (fun _ other => other)
  obtain ⟨blocks, fetched, told⟩ := fetchStanding_told documents
    (namedContributorIds crowdedStore "frwiki")
  refine ⟨blocks, fetched, ?_⟩
  intro userId member sound
  exact documents.succeeds (told userId member (named_positive member))
    (sound_crowded member sound)

theorem spamWire_expected (userId : Int) : (spamWire.answers "frwiki").Expected userId := by
  intro username message
  have documents := @spamWire_documents (· ≠ "Eve") (fun _ other => other)
  by_cases eve : username = "Eve"
  · subst eve
    exact ⟨nofun, nofun⟩
  · rw [globalUserInfo_told documents eve]
    have reason : (spamWire.answers "frwiki").globalLockReason userId username =
        .ok (spamCommunity.lockReason username) := globalLockReason_told documents eve
    rw [reason]
    exact ⟨nofun, nofun⟩

def spamRotation :
    Rotation twoChecks "frwiki" (namedContributorIds crowdedStore "frwiki") {9} :=
  @Rotation.steady twoChecks (spamWire.answers "frwiki") "frwiki" daily crowdedStore {9}
    daily_later spamWire_answered (fun userId _ => spamWire_expected userId)

def spamInformed : Informed spamRotation (fun _ => spamCommunity) where
  name := "fr.wikipedia.org"
  spellTime := isoformat
  wire := fun _ => spamWire
  answers := fun _ => rfl
  documents := by
    intro _
    refine spamWire_documents ?_
    rintro username ⟨userId, member, sound, rfl⟩
    exact sound_crowded member sound

/-- After five days the answers name Bob and withhold Ada. -/
theorem decisions_reach_readers_spam :
    namedContributorIds crowdedStore "frwiki" = [7, 8, 9] ∧
    (isNameableAccount Text.asciiAlphabet (some (spamCommunity.standing 7)) 0 0 = false ∧
      isNameableAccount Text.asciiAlphabet (some (spamCommunity.standing 8)) 0 0 = true) ∧
    FollowsDecisions "frwiki" (namedContributorIds crowdedStore "frwiki") {9} spamCommunity
      (spamRotation.store (0 + rounds 3 (2 - 1) + 1 + 1)) := by
  refine ⟨crowded_named, ⟨by decide +kernel, by decide +kernel⟩, ?_⟩
  refine decisions_reach_readers twoChecks "frwiki" _ {9} spamRotation (fun _ => spamCommunity)
    spamInformed (by decide) (by decide) 0 0 _ (fun _ _ => ⟨rfl, rfl, rfl⟩) le_rfl ?_ ?_
  · intro userId member time date
    rw [crowded_named] at member
    have early : ∀ userId ∈ [7, 8, 9], ∀ time ∈ checkedAt crowdedStore "frwiki" userId,
        time < daily 0 - seconds 86400 := by decide +kernel
    exact early userId member time date
  · rw [crowded_named]
    decide

end WikiPeople
