import WikiPeople.Jobs
import WikiPeople.Library.Ranking

/-! The standing job: blocks for every tracked account, global locks on a rotation. -/

namespace WikiPeople

open Relational

def positiveId (contributor : Contributor) : Option Int :=
  contributor.userId.filter (fun userId => 0 < userId)

/-- Every account the stored results of the wiki would name, in order. -/
def namedContributorIds (store : Store) (wiki : String) : List Int :=
  let results := store.results.rows.filter (fun result => result.wiki = wiki)
  (results.flatMap (fun result => result.contributors.filterMap positiveId)).dedup.mergeSort
    (fun first second => first ≤ second)

def ContributorStanding.record (row : ContributorStanding) : StandingRecord where
  standing := row.standing
  lockCheckedAt := row.lockCheckedAt

/-- The entry of an account in `standing_records`. -/
def standingRecord (store : Store) (wiki : String) (userId : Int) : Option StandingRecord :=
  (store.contributorStanding.find (wiki, userId)).map ContributorStanding.record

/-- `lock_checked_at IS NULL OR lock_checked_at < cutoff`. -/
def isStale (cutoff : Time) (checkedAt : Option Time) : Bool :=
  checkedAt.all (fun time => time < cutoff)

/-- `ORDER BY lock_checked_at IS NULL DESC, lock_checked_at ASC` does not put the second
before the first. -/
def notAfter : Option Time → Option Time → Bool
  | none, _ => true
  | some _, none => false
  | some first, some second => first ≤ second

def staleRows (store : Store) (wiki : String) (cutoff : Time) : List ContributorStanding :=
  store.contributorStanding.rows.filter
    (fun row => row.wiki = wiki && isStale cutoff row.lockCheckedAt)

/-- A choice of accounts that `ORDER BY` and `LIMIT` allow the database, whatever it does
with ties. -/
def allowedCandidates (store : Store) (wiki : String) (cutoff : Time) (limit : Nat)
    (chosen : List Int) : Bool :=
  let stale := staleRows store wiki cutoff
  chosen.Nodup && chosen.all (fun userId => userId ∈ stale.map ContributorStanding.userId) &&
    chosen.length = min limit stale.length &&
    stale.all (fun first => first.userId ∉ chosen || stale.all (fun second =>
      second.userId ∈ chosen || notAfter first.lockCheckedAt second.lockCheckedAt))

/-- What MediaWiki and CentralAuth answer in one run. An account is looked up at most once,
so that each lookup may answer differently. -/
structure StandingAnswers where
  fetchStanding : List Int → Except Exn (Dict Int AccountStanding)
  globalUserInfo : (userId : Int) → (username : String) → Except Exn Bool
  globalLockReason : (userId : Int) → (username : String) → Except Exn (Option String)

/-- What is known about the global lock of an account. -/
structure LockFacts where
  globallyLocked : Bool
  lockReason : Option String
  lockCheckedAt : Option Time
  deriving DecidableEq, Repr

def unchecked : LockFacts := ⟨false, none, none⟩

def StandingRecord.lockFacts (record : StandingRecord) : LockFacts :=
  ⟨record.standing.globallyLocked, record.standing.lockReason, record.lockCheckedAt⟩

structure BlockFacts where
  username : String
  blockedAt : Option Time
  blockExpiresAt : Option Time
  blockPartial : Bool
  blockReason : Option String
  deriving DecidableEq, Repr

def AccountStanding.blockFacts (standing : AccountStanding) : BlockFacts :=
  ⟨standing.username, standing.blockedAt, standing.blockExpiresAt, standing.blockPartial,
    standing.blockReason⟩

def mergedRecord (userId : Int) (block : AccountStanding) (facts : LockFacts) :
    StandingRecord where
  standing :=
    { userId := userId
      username := block.username
      blockedAt := block.blockedAt
      blockExpiresAt := block.blockExpiresAt
      blockPartial := block.blockPartial
      blockReason := block.blockReason
      globallyLocked := facts.globallyLocked
      lockReason := facts.lockReason }
  lockCheckedAt := facts.lockCheckedAt

section Run

variable (answers : StandingAnswers) (now : Time)

/-- The lock lookup of an account, and whether it was completed. A known error keeps what was
not answered yet; any other stops the run. -/
def lockLookup (userId : Int) (username : String) (previous : LockFacts) :
    Except Exn (LockFacts × Bool) :=
  match answers.globalUserInfo userId username with
  | .ok false => .ok (⟨false, none, some now⟩, true)
  | .ok true =>
      match answers.globalLockReason userId username with
      | .ok reason => .ok (⟨true, reason, some now⟩, true)
      | .error (.known _ _) => .ok ({ previous with globallyLocked := true }, false)
      | .error (.unexpected message) => .error (.unexpected message)
  | .error (.known _ _) => .ok (previous, false)
  | .error (.unexpected message) => .error (.unexpected message)

/-- What the loop makes of one account: its record, and whether it was looked up and the
lookup completed. -/
structure Merged where
  record : Option StandingRecord
  lookedUp : Bool
  checked : Bool

def mergeAccount (due : List Int) (known : Int → Option StandingRecord)
    (blocks : Dict Int AccountStanding) (userId : Int) : Except Exn Merged :=
  match (blocks.find userId).map Prod.snd with
  | none => .ok ⟨known userId, false, false⟩
  | some block =>
      let previous := ((known userId).map StandingRecord.lockFacts).getD unchecked
      if userId ∈ due then
        (lockLookup answers now userId block.username previous).map fun (facts, checked) =>
          ⟨some (mergedRecord userId block facts), true, checked⟩
      else .ok ⟨some (mergedRecord userId block previous), false, false⟩

end Run

/-- The accounts whose lock is read: those the query chose, and accounts nobody has ever
tracked in the slots that are left. -/
def dueAccounts (settings : Settings) (known : Int → Option StandingRecord)
    (userIds chosen : List Int) : List Int :=
  let unseen := userIds.filter (fun userId => (known userId).isNone)
  chosen ++ unseen.take (settings.standingLockChecksPerRun - chosen.length).toNat

/-- What a run answers. `lookups` are the accounts CentralAuth was asked about, which the
code does not return. -/
structure StandingSync where
  tracked : Nat
  added : Nat
  removed : Nat
  locksChecked : Nat
  lookups : List Int

namespace Standing

def mergeAccounts (settings : Settings) (answers : StandingAnswers) (store : Store)
    (wiki : String) (blocks : Dict Int AccountStanding) (chosen : List Int) (now : Time) :
    Except Exn (List (Int × Merged)) :=
  let userIds := namedContributorIds store wiki
  let known := standingRecord store wiki
  let due := dueAccounts settings known userIds chosen
  userIds.mapM (fun userId =>
    (mergeAccount answers now due known blocks userId).map (fun merged => (userId, merged)))

def recordsOf (merged : List (Int × Merged)) : List StandingRecord :=
  merged.filterMap (fun entry => entry.2.record)

def lookupsOf (merged : List (Int × Merged)) : List Int :=
  (merged.filter (fun entry => entry.2.lookedUp)).map Prod.fst

def conclude (merged : List (Int × Merged)) (store : Store) (wiki : String) (dryRun : Bool)
    (writtenAt : Time) : StandingSync × Store :=
  let records := recordsOf merged
  let lookups := lookupsOf merged
  if dryRun then (⟨records.length, 0, 0, 0, lookups⟩, store)
  else
    let ((added, removed), after) := replaceStanding store wiki records writtenAt
    let checked := (merged.filter (fun entry => entry.2.checked)).length
    (⟨records.length, added, removed, checked, lookups⟩, after)

/-- What the run returned or raised, and the store it leaves; `none` where the database could
not have chosen these accounts. It reads the clock twice. -/
def syncWiki (settings : Settings) (answers : StandingAnswers) (chosen : List Int)
    (store : Store) (wiki : String) (dryRun : Bool) (now writtenAt : Time) :
    Option (Except Exn StandingSync × Store) :=
  match answers.fetchStanding (namedContributorIds store wiki) with
  | .error raised => some (.error raised, store)
  | .ok blocks =>
      let cutoff := now - seconds settings.standingLockRecheckSeconds
      let limit := settings.standingLockChecksPerRun.toNat
      if allowedCandidates store wiki cutoff limit chosen then
        match mergeAccounts settings answers store wiki blocks chosen now with
        | .error raised => some (.error raised, store)
        | .ok merged =>
            let (answer, after) := conclude merged store wiki dryRun writtenAt
            some (.ok answer, after)
      else none

end Standing

theorem namedContributorIds_nodup (store : Store) (wiki : String) :
    (namedContributorIds store wiki).Nodup := by
  unfold namedContributorIds
  exact (List.mergeSort_perm _ _).nodup_iff.mpr (List.nodup_dedup _)

theorem standingRecord_userId {store : Store} {wiki : String} {userId : Int}
    {record : StandingRecord} (known : standingRecord store wiki userId = some record) :
    record.standing.userId = userId := by
  obtain ⟨row, found, rfl⟩ := Option.map_eq_some_iff.mp known
  exact congrArg Prod.snd (Table.find_eq_some.mp found).2

section Due

variable {settings : Settings} {known : Int → Option StandingRecord} {userIds chosen : List Int}

theorem dueAccounts_length (budget : 0 ≤ settings.standingLockChecksPerRun)
    (few : chosen.length ≤ settings.standingLockChecksPerRun.toNat) :
    (dueAccounts settings known userIds chosen).length ≤
      settings.standingLockChecksPerRun.toNat := by
  rw [dueAccounts, List.length_append, List.length_take]
  omega

end Due

section Merged

variable {answers : StandingAnswers} {now : Time} {due : List Int}
  {known : Int → Option StandingRecord} {blocks : Dict Int AccountStanding} {userId : Int}
  {merged : Merged}

/-- What was known of the lock of an account; nothing is known of an untracked one. -/
def lockFactsOf (record : Option StandingRecord) : LockFacts :=
  (record.map StandingRecord.lockFacts).getD unchecked

theorem mergeAccount_unanswered (silent : blocks.find userId = none)
    (done : mergeAccount answers now due known blocks userId = .ok merged) :
    merged = ⟨known userId, false, false⟩ := by
  rw [mergeAccount, silent] at done
  cases done
  rfl

theorem mergeAccount_answered {block : AccountStanding}
    (answered : (blocks.find userId).map Prod.snd = some block)
    (done : mergeAccount answers now due known blocks userId = .ok merged) :
    ∃ facts, merged.record = some (mergedRecord userId block facts) ∧
      ((userId ∉ due ∧ merged.lookedUp = false ∧ facts = lockFactsOf (known userId)) ∨
        (userId ∈ due ∧ merged.lookedUp = true ∧
          lockLookup answers now userId block.username (lockFactsOf (known userId)) =
            .ok (facts, merged.checked))) := by
  rw [mergeAccount, answered] at done
  dsimp only at done
  split at done
  · rename_i selected
    cases looked : lockLookup answers now userId block.username
        (((known userId).map StandingRecord.lockFacts).getD unchecked) with
    | error raised =>
        rw [looked] at done
        cases done
    | ok found =>
        rw [looked] at done
        cases done
        exact ⟨found.1, rfl, Or.inr ⟨selected, rfl, looked⟩⟩
  · rename_i spared
    cases done
    exact ⟨_, rfl, Or.inl ⟨spared, rfl, rfl⟩⟩

theorem mergeAccount_isSome
    (done : mergeAccount answers now due known blocks userId = .ok merged) :
    merged.record.isSome = true ↔
      (blocks.find userId).isSome = true ∨ (known userId).isSome = true := by
  cases answered : blocks.find userId with
  | none =>
      rw [mergeAccount_unanswered answered done]
      simp
  | some pair =>
      obtain ⟨facts, same, _⟩ := mergeAccount_answered (by rw [answered]; rfl) done
      rw [same]
      simp

theorem mergeAccount_lockFacts
    (done : mergeAccount answers now due known blocks userId = .ok merged)
    (spared : merged.lookedUp = false) {record : StandingRecord}
    (made : merged.record = some record) : record.lockFacts = lockFactsOf (known userId) := by
  cases answered : (blocks.find userId).map Prod.snd with
  | none =>
      rw [mergeAccount_unanswered (Option.map_eq_none_iff.mp answered) done] at made
      have previous : known userId = some record := made
      rw [previous]
      rfl
  | some block =>
      obtain ⟨facts, same, turn⟩ := mergeAccount_answered answered done
      rw [same] at made
      cases made
      rcases turn with ⟨_, _, rfl⟩ | ⟨_, asked, _⟩
      · rfl
      · rw [asked] at spared
        cases spared

theorem mergeAccount_userId (own : ∀ record, known userId = some record →
      record.standing.userId = userId)
    (done : mergeAccount answers now due known blocks userId = .ok merged)
    {record : StandingRecord} (made : merged.record = some record) :
    record.standing.userId = userId := by
  cases answered : (blocks.find userId).map Prod.snd with
  | none =>
      rw [mergeAccount_unanswered (Option.map_eq_none_iff.mp answered) done] at made
      exact own record made
  | some block =>
      obtain ⟨facts, same, _⟩ := mergeAccount_answered answered done
      rw [same] at made
      cases made
      rfl

/-- The lookups raise nothing but a `WikiPeopleError`. -/
def StandingAnswers.Expected (answers : StandingAnswers) (userId : Int) : Prop :=
  ∀ username message, answers.globalUserInfo userId username ≠ .error (.unexpected message) ∧
    answers.globalLockReason userId username ≠ .error (.unexpected message)

theorem mergeAccount_expected (expected : answers.Expected userId) :
    ∃ merged, mergeAccount answers now due known blocks userId = .ok merged := by
  have looked : ∀ username previous,
      ∃ found, lockLookup answers now userId username previous = .ok found := by
    intro username previous
    unfold lockLookup
    split
    · exact ⟨_, rfl⟩
    · split
      · exact ⟨_, rfl⟩
      · exact ⟨_, rfl⟩
      · rename_i message raised
        exact absurd raised (expected username message).2
    · exact ⟨_, rfl⟩
    · rename_i message raised
      exact absurd raised (expected username message).1
  unfold mergeAccount
  split
  · exact ⟨_, rfl⟩
  · rename_i block answered
    dsimp only
    split
    · obtain ⟨found, same⟩ := looked block.username
        (((known userId).map StandingRecord.lockFacts).getD unchecked)
      rw [same]
      exact ⟨_, rfl⟩
    · exact ⟨_, rfl⟩

end Merged

section Loop

variable {settings : Settings} {answers : StandingAnswers} {store : Store} {wiki : String}
  {blocks : Dict Int AccountStanding} {chosen : List Int} {now writtenAt : Time}
  {merged : List (Int × Merged)}

theorem mergeAccounts_entries
    (looped : Standing.mergeAccounts settings answers store wiki blocks chosen now = .ok merged) :
    merged.map Prod.fst = namedContributorIds store wiki ∧
      ∀ entry ∈ merged, mergeAccount answers now
        (dueAccounts settings (standingRecord store wiki) (namedContributorIds store wiki) chosen)
        (standingRecord store wiki) blocks entry.1 = .ok entry.2 := by
  have each := mapM_forall₂ looped
  clear looped
  generalize dueAccounts settings (standingRecord store wiki) (namedContributorIds store wiki)
    chosen = due at each ⊢
  generalize namedContributorIds store wiki = userIds at each ⊢
  induction each with
  | nil =>
      refine ⟨rfl, ?_⟩
      intro entry member
      cases member
  | cons made rest ih =>
      obtain ⟨entry, found, rfl⟩ := map_eq_ok.mp made
      refine ⟨congrArg _ ih.1, ?_⟩
      intro other member
      rcases List.mem_cons.mp member with rfl | later
      · exact found
      · exact ih.2 other later

theorem records_distinct
    (looped : Standing.mergeAccounts settings answers store wiki blocks chosen now = .ok merged) :
    ((Standing.recordsOf merged).map (fun record => record.standing.userId)).Nodup := by
  obtain ⟨named, made⟩ := mergeAccounts_entries looped
  have distinct : (merged.map Prod.fst).Nodup := named ▸ namedContributorIds_nodup store wiki
  refine distinct.sublist (map_filterMap_sublist ?_)
  intro entry member record kept
  exact mergeAccount_userId (fun _ => standingRecord_userId) (made entry member) kept

/-- After a run each named account has the record the loop made of it, and no other account
of the wiki has one. -/
theorem standingRecord_replaced
    (looped : Standing.mergeAccounts settings answers store wiki blocks chosen now = .ok merged)
    {after : Store}
    (written : after = (replaceStanding store wiki (Standing.recordsOf merged) writtenAt).2) :
    (∀ entry ∈ merged, standingRecord after wiki entry.1 = entry.2.record) ∧
      ∀ userId ∉ namedContributorIds store wiki, standingRecord after wiki userId = none := by
  obtain ⟨named, made⟩ := mergeAccounts_entries looped
  have own : ∀ entry ∈ merged, ∀ record, entry.2.record = some record →
      record.standing.userId = entry.1 :=
    fun entry member record kept =>
      mergeAccount_userId (fun _ => standingRecord_userId) (made entry member) kept
  have rows : ∀ row : ContributorStanding, row.wiki = wiki →
      (row ∈ after.contributorStanding.rows ↔ ∃ entry ∈ merged, ∃ record,
        entry.2.record = some record ∧ row = standingRow wiki writtenAt entry.1 record) := by
    intro row inside
    rw [written, mem_replaceStanding (records_distinct looped)]
    constructor
    · rintro (⟨record, member, rfl⟩ | ⟨_, outside⟩)
      · obtain ⟨entry, present, kept⟩ := List.mem_filterMap.mp member
        rw [own entry present record kept]
        exact ⟨entry, present, record, kept, rfl⟩
      · exact absurd inside outside
    · rintro ⟨entry, present, record, kept, rfl⟩
      refine Or.inl ⟨record, List.mem_filterMap.mpr ⟨entry, present, kept⟩, ?_⟩
      rw [own entry present record kept]
  have distinct : (merged.map Prod.fst).Nodup := named ▸ namedContributorIds_nodup store wiki
  refine ⟨?_, ?_⟩
  · intro entry member
    cases kept : entry.2.record with
    | none =>
        rw [standingRecord, Option.map_eq_none_iff, Table.find_eq_none]
        intro row present same
        obtain ⟨other, otherMember, record, otherKept, rfl⟩ :=
          (rows row (congrArg Prod.fst same)).mp present
        have account : other.1 = entry.1 := congrArg Prod.snd same
        rw [List.inj_on_of_nodup_map distinct otherMember member account, kept] at otherKept
        cases otherKept
    | some record =>
        have present := (rows (standingRow wiki writtenAt entry.1 record) rfl).mpr
          ⟨entry, member, record, kept, rfl⟩
        have found : after.contributorStanding.find (wiki, entry.1) =
            some (standingRow wiki writtenAt entry.1 record) :=
          Table.find_eq_some.mpr ⟨present, rfl⟩
        rw [standingRecord, found, Option.map_some, ← own entry member record kept]
        rfl
  · intro userId unnamed
    rw [standingRecord, Option.map_eq_none_iff, Table.find_eq_none]
    intro row present same
    obtain ⟨entry, member, record, _, rfl⟩ := (rows row (congrArg Prod.fst same)).mp present
    have account : entry.1 = userId := congrArg Prod.snd same
    apply unnamed
    rw [← named, ← account]
    exact List.mem_map.mpr ⟨entry, member, rfl⟩

theorem mem_lookups {userId : Int} :
    userId ∈ Standing.lookupsOf merged ↔
      ∃ entry ∈ merged, entry.2.lookedUp = true ∧ entry.1 = userId := by
  simp [Standing.lookupsOf]

theorem lookups_rationed
    (looped : Standing.mergeAccounts settings answers store wiki blocks chosen now = .ok merged) :
    (Standing.lookupsOf merged).Nodup ∧
      Standing.lookupsOf merged ⊆ namedContributorIds store wiki ∧
      Standing.lookupsOf merged ⊆
        dueAccounts settings (standingRecord store wiki) (namedContributorIds store wiki)
          chosen := by
  obtain ⟨named, made⟩ := mergeAccounts_entries looped
  have kept : (Standing.lookupsOf merged).Sublist (namedContributorIds store wiki) := by
    rw [← named]
    exact List.filter_sublist.map Prod.fst
  refine ⟨kept.nodup (namedContributorIds_nodup store wiki), kept.subset, ?_⟩
  intro userId member
  obtain ⟨entry, present, lookedUp, rfl⟩ := mem_lookups.mp member
  cases answered : (blocks.find entry.1).map Prod.snd with
  | none =>
      have same := mergeAccount_unanswered (Option.map_eq_none_iff.mp answered)
        (made entry present)
      rw [same] at lookedUp
      cases lookedUp
  | some block =>
      obtain ⟨facts, _, ⟨_, spared, _⟩ | ⟨selected, _⟩⟩ :=
        mergeAccount_answered answered (made entry present)
      · rw [spared] at lookedUp
        cases lookedUp
      · exact selected

theorem mergeAccounts_returns
    (each : ∀ userId ∈ namedContributorIds store wiki, ∃ made, mergeAccount answers now
      (dueAccounts settings (standingRecord store wiki) (namedContributorIds store wiki) chosen)
      (standingRecord store wiki) blocks userId = .ok made) :
    ∃ merged, Standing.mergeAccounts settings answers store wiki blocks chosen now =
      .ok merged := by
  unfold Standing.mergeAccounts
  dsimp only
  generalize dueAccounts settings (standingRecord store wiki) (namedContributorIds store wiki)
    chosen = due at each ⊢
  generalize namedContributorIds store wiki = userIds at each ⊢
  induction userIds with
  | nil => exact ⟨_, rfl⟩
  | cons userId userIds ih =>
      obtain ⟨rest, looped⟩ := ih (fun other member => each other (List.mem_cons_of_mem _ member))
      obtain ⟨first, made⟩ := each userId List.mem_cons_self
      rw [List.mapM_cons, made, looped]
      exact ⟨_, rfl⟩

end Loop

structure SyncedWiki (settings : Settings) (store : Store) (wiki : String)
    (blocks : Dict Int AccountStanding) (after : Store) (answer : StandingSync) : Prop where
  accounts : ∀ userId, (standingRecord after wiki userId).isSome = true ↔
    userId ∈ namedContributorIds store wiki ∧
      ((blocks.find userId).isSome = true ∨ (standingRecord store wiki userId).isSome = true)
  fetched : ∀ userId ∈ namedContributorIds store wiki, ∀ block,
    (blocks.find userId).map Prod.snd = some block →
      ∃ record, standingRecord after wiki userId = some record ∧
        record.standing.blockFacts = block.blockFacts
  silent : ∀ userId ∈ namedContributorIds store wiki, blocks.find userId = none →
    standingRecord after wiki userId = standingRecord store wiki userId
  unselected : ∀ userId ∈ namedContributorIds store wiki, userId ∉ answer.lookups →
    ∀ record, standingRecord after wiki userId = some record →
      record.lockFacts = lockFactsOf (standingRecord store wiki userId)
  rationed : answer.lookups.Nodup ∧ answer.lookups ⊆ namedContributorIds store wiki ∧
    (answer.lookups.length : Int) ≤ settings.standingLockChecksPerRun
  others : ∀ row : ContributorStanding, row.wiki ≠ wiki →
    (row ∈ after.contributorStanding.rows ↔ row ∈ store.contributorStanding.rows)
  frame : after = { store with contributorStanding := after.contributorStanding }
  added : answer.added = (onlyIn (trackedKeys after wiki) (trackedKeys store wiki)).length
  removed : answer.removed = (onlyIn (trackedKeys store wiki) (trackedKeys after wiki)).length

section Synced

variable {settings : Settings} {answers : StandingAnswers} {store : Store} {wiki : String}
  {blocks : Dict Int AccountStanding} {chosen : List Int} {now writtenAt : Time}
  {merged : List (Int × Merged)}

theorem allowed_length {cutoff : Time} {limit : Nat}
    (allowed : allowedCandidates store wiki cutoff limit chosen = true) :
    chosen.length ≤ limit := by
  simp only [allowedCandidates, Bool.and_eq_true, decide_eq_true_eq] at allowed
  rw [allowed.1.2]
  exact Nat.min_le_left _ _

theorem concluded_synced (budget : 0 ≤ settings.standingLockChecksPerRun) {cutoff : Time}
    (allowed : allowedCandidates store wiki cutoff settings.standingLockChecksPerRun.toNat
      chosen = true)
    (looped : Standing.mergeAccounts settings answers store wiki blocks chosen now = .ok merged) :
    SyncedWiki settings store wiki blocks
      (Standing.conclude merged store wiki false writtenAt).2
      (Standing.conclude merged store wiki false writtenAt).1 := by
  obtain ⟨named, made⟩ := mergeAccounts_entries looped
  obtain ⟨known, unnamed⟩ := @standingRecord_replaced _ _ _ _ _ _ _ writtenAt _ looped
    (Standing.conclude merged store wiki false writtenAt).2 rfl
  obtain ⟨distinct, subset, due⟩ := lookups_rationed looped
  have entries : ∀ userId ∈ namedContributorIds store wiki,
      ∃ entry ∈ merged, entry.1 = userId := by
    intro userId member
    rw [← named] at member
    exact List.mem_map.mp member
  have counts := replaceStanding_counts store wiki (Standing.recordsOf merged) writtenAt
  refine
    { accounts := ?_, fetched := ?_, silent := ?_, unselected := ?_, rationed := ?_
      others := ?_, frame := rfl, added := congrArg Prod.fst counts
      removed := congrArg Prod.snd counts }
  · intro userId
    by_cases member : userId ∈ namedContributorIds store wiki
    · obtain ⟨entry, present, rfl⟩ := entries userId member
      rw [known entry present, mergeAccount_isSome (made entry present)]
      simp [member]
    · rw [unnamed userId member]
      simp [member]
  · intro userId member block answered
    obtain ⟨entry, present, rfl⟩ := entries userId member
    obtain ⟨facts, record, _⟩ := mergeAccount_answered answered (made entry present)
    exact ⟨_, (known entry present).trans record, rfl⟩
  · intro userId member silent
    obtain ⟨entry, present, rfl⟩ := entries userId member
    have same := mergeAccount_unanswered silent (made entry present)
    exact (known entry present).trans (congrArg Merged.record same)
  · intro userId member spared record found
    obtain ⟨entry, present, rfl⟩ := entries userId member
    have kept : entry.2.record = some record := (known entry present).symm.trans found
    cases asked : entry.2.lookedUp with
    | false => exact mergeAccount_lockFacts (made entry present) asked kept
    | true => exact absurd (mem_lookups.mpr ⟨entry, present, asked, rfl⟩) spared
  · refine ⟨distinct, subset, ?_⟩
    have few := (List.subperm_of_subset distinct due).length_le
    have most := @dueAccounts_length settings (standingRecord store wiki)
      (namedContributorIds store wiki) chosen budget (allowed_length allowed)
    have total : (Standing.lookupsOf merged).length ≤
        settings.standingLockChecksPerRun.toNat := few.trans most
    calc ((Standing.lookupsOf merged).length : Int)
        ≤ settings.standingLockChecksPerRun.toNat := Int.ofNat_le.mpr total
      _ = settings.standingLockChecksPerRun := Int.toNat_of_nonneg budget
  · intro row outside
    exact replaceStanding_others outside

end Synced

/-- A run that raises leaves the table as it was. One that returns has made the wiki's rows
those of the named accounts, with the blocks just fetched whatever became of the lookups; and
failed lookups alone never make it raise. -/
theorem standing_synced (settings : Settings) (answers : StandingAnswers) (chosen : List Int)
    (store : Store) (wiki : String) (now writtenAt : Time)
    (outcome : Except Exn StandingSync) (after : Store)
    (budget : 0 ≤ settings.standingLockChecksPerRun)
    (ran : Standing.syncWiki settings answers chosen store wiki false now writtenAt =
      some (outcome, after)) :
    (∀ raised, outcome = .error raised → after = store) ∧
      (∀ answer, outcome = .ok answer → ∃ blocks,
        answers.fetchStanding (namedContributorIds store wiki) = .ok blocks ∧
          SyncedWiki settings store wiki blocks after answer) ∧
      ((∀ userId ∈ namedContributorIds store wiki, answers.Expected userId) →
        (∃ blocks, answers.fetchStanding (namedContributorIds store wiki) = .ok blocks) →
          ∃ answer, outcome = .ok answer) := by
  unfold Standing.syncWiki at ran
  cases fetch : answers.fetchStanding (namedContributorIds store wiki) with
  | error raised =>
      rw [fetch] at ran
      cases ran
      refine ⟨fun _ _ => rfl, ?_, ?_⟩
      · intro answer returned
        cases returned
      · rintro _ ⟨blocks, answered⟩
        cases answered
  | ok blocks =>
      rw [fetch] at ran
      dsimp only at ran
      split at ran
      · rename_i allowed
        cases looped : Standing.mergeAccounts settings answers store wiki blocks chosen now with
        | error raised =>
            rw [looped] at ran
            cases ran
            refine ⟨fun _ _ => rfl, ?_, ?_⟩
            · intro answer returned
              cases returned
            · intro expected _
              obtain ⟨merged, whole⟩ := @mergeAccounts_returns settings answers store wiki
                blocks chosen now
                (fun userId member => mergeAccount_expected (expected userId member))
              rw [looped] at whole
              cases whole
        | ok merged =>
            rw [looped] at ran
            cases ran
            refine ⟨?_, ?_, fun _ _ => ⟨_, rfl⟩⟩
            · intro raised failed
              cases failed
            · intro answer returned
              cases returned
              exact ⟨blocks, rfl, concluded_synced budget allowed looped⟩
      · cases ran

def namingStore : Store :=
  saveResult .empty
    { toIdentity := articleKey 10
      title := "A"
      metric := "wikiwho-surviving-alphanumeric-tokens"
      contributors := ownTokens.contributors
      distinctContributors := 1
      countLimited := false
      countableTokens := 90
      wikiwhoRevisionId := 10
      computedAt := 0 }

/-- MediaWiki says that the account is blocked, CentralAuth does not answer. -/
def blockedAnswers : StandingAnswers where
  fetchStanding := fun _ => .ok (Table.empty.put
    (7, { userId := 7, username := "Ada", blockedAt := some 0, blockExpiresAt := none
          blockPartial := false, blockReason := none, globallyLocked := false
          lockReason := none }))
  globalUserInfo := fun _ _ => .error (.known .retryableUpstream "timeout")
  globalLockReason := fun _ _ => .ok none

theorem standing_synced_without_lookup :
    ∃ answer after, Standing.syncWiki fromEnv blockedAnswers [] namingStore "frwiki" false 0 0 =
        some (.ok answer, after) ∧
      ∃ blocks, SyncedWiki fromEnv namingStore "frwiki" blocks after answer := by
  have possible : (Standing.syncWiki fromEnv blockedAnswers [] namingStore "frwiki" false 0
      0).isSome = true := by decide +kernel
  obtain ⟨⟨outcome, after⟩, ran⟩ := Option.isSome_iff_exists.mp possible
  obtain ⟨_, synced, returned⟩ :=
    standing_synced fromEnv blockedAnswers [] namingStore "frwiki" 0 0 outcome after (by decide)
      ran
  have expected : ∀ userId ∈ namedContributorIds namingStore "frwiki",
      blockedAnswers.Expected userId := by
    intro userId _ username message
    exact ⟨nofun, nofun⟩
  obtain ⟨answer, rfl⟩ := returned expected ⟨_, rfl⟩
  obtain ⟨blocks, _, done⟩ := synced answer rfl
  exact ⟨answer, after, ran, blocks, done⟩

end WikiPeople
