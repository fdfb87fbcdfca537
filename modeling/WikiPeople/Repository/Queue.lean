import WikiPeople.Repository.Results
import WikiPeople.Library.Text

/-! The work queue. Every operation is one transaction; `now` stands for its calls of
`utcnow`. -/

namespace WikiPeople

open Relational

structure WorkLease extends Identity where
  id : Nat
  priority : Int
  attempts : Nat
  deriving DecidableEq, Repr

def Store.updateWork (store : Store) (condition : WorkItem → Bool) (change : Change WorkItem) :
    Store :=
  { store with work := store.work.update condition change }

def getWork (store : Store) (key : Identity) : Option WorkItem :=
  store.work.find key

def newerWorkExists (store : Store) (key : Identity) : Bool :=
  store.work.rows.any (fun item =>
    item.toPageKey = key.toPageKey && key.revisionId < item.revisionId && item.live)

def newWork (key : Identity) (priority : Int) (now : Time) : Draft WorkItem where
  make := fun id =>
    { toIdentity := key
      id := id
      priority := priority
      state := .pending
      attempts := 0
      availableAt := now
      leaseUntil := none
      workerId := none
      errorCode := none
      lastError := none
      isPermanent := false
      createdAt := now
      updatedAt := now }
  number_make := fun _ => rfl

/-- `existing.priority = max(existing.priority, priority)` on a row read as `seen`. The
UPDATE names the priority column only where the value differs from the one read. -/
def boosted (seen : WorkItem) (priority : Int) (now : Time) : Change WorkItem where
  apply := fun row =>
    { row with
      priority := if seen.priority < priority then priority else row.priority
      updatedAt := now }
  key_apply := fun _ => rfl
  number_apply := fun _ => rfl

def obsoleted (now : Time) : Change WorkItem where
  apply := fun row => { row with state := .superseded, updatedAt := now }
  key_apply := fun _ => rfl
  number_apply := fun _ => rfl

def reprioritized (priority : Int) (now : Time) : Change WorkItem where
  apply := fun row => { row with priority := priority, updatedAt := now }
  key_apply := fun _ => rfl
  number_apply := fun _ => rfl

def olderPending (key : Identity) (item : WorkItem) : Bool :=
  item.toPageKey = key.toPageKey && item.revisionId < key.revisionId && item.state = .pending

def supersedeOlder (store : Store) (key : Identity) (now : Time) : Store :=
  store.updateWork (olderPending key) (obsoleted now)

/-- What the transaction of `enqueue` writes once it has read `existing` and `newerWork`;
`none` is the unique-key violation of its INSERT. -/
def enqueueWrite (store : Store) (key : Identity) (priority : Int) (now : Time)
    (existing : Option WorkItem) (newerWork : Bool) : Option Store :=
  match existing with
  | none =>
      if newerWork then some store
      else
        (store.work.insert? (newWork key priority now)).map
          (fun grown => supersedeOlder { store with work := grown } key now)
  | some item =>
      if item.live then
        some (supersedeOlder
          (store.updateWork (fun row => row.id = item.id) (boosted item priority now)) key now)
      else some (supersedeOlder store key now)

/-- The transaction that follows a unique-key violation. -/
def enqueueRaced (store : Store) (key : Identity) (priority : Int) (now : Time) : Store :=
  store.updateWork (fun row => row.toIdentity = key) (reprioritized priority now)

/-- The call returns before it writes: the exact revision has a result. -/
def declined (store : Store) (key : Identity) (allowCachedResult : Bool) : Bool :=
  !allowCachedResult && (getResult store key).isSome

def enqueue (store : Store) (key : Identity) (priority : Int) (allowCachedResult : Bool)
    (now : Time) : Store :=
  if declined store key allowCachedResult then store
  else
    match enqueueWrite store key priority now (getWork store key) (newerWorkExists store key) with
    | some written => written
    | none => enqueueRaced store key priority now

def enqueueIfStale (store : Store) (key : Identity) (priority : Int) (freshnessSeconds : Int)
    (now : Time) : Bool × Store :=
  let cutoff := now - seconds freshnessSeconds
  let fresh := (getLatestResult store key.toPageKey).any (fun latest => cutoff ≤ latest.computedAt)
  if fresh then (false, store)
  else
    let queued := enqueue store key priority true now
    ((getWork queued key).any WorkItem.live, queued)

/-- Pending work whose time has come, or work whose lease ran out. -/
def claimable (now : Time) (item : WorkItem) : Bool :=
  (item.state = .pending && item.availableAt ≤ now) ||
    (item.state = .leased && item.leaseUntil.any (fun expiry => expiry < now))

/-- `ORDER BY priority DESC, created_at ASC`. -/
def claimOrder (item : WorkItem) : Int ×ₗ Int := toLex (item.priority, -item.createdAt)

def claimCandidates (store : Store) (now : Time) : List WorkItem :=
  let eligible := store.work.rows.filter (claimable now)
  eligible.filter (fun item => eligible.all (fun other => claimOrder other ≤ claimOrder item))

def leasing (workerId : String) (leaseSeconds : Int) (now : Time) : Change WorkItem where
  apply := fun row =>
    { row with
      state := .leased
      workerId := some workerId
      leaseUntil := some (now + seconds leaseSeconds)
      attempts := row.attempts + 1
      updatedAt := now }
  key_apply := fun _ => rfl
  number_apply := fun _ => rfl

def leaseOf (item : WorkItem) : WorkLease :=
  { toIdentity := item.toIdentity
    id := item.id
    priority := item.priority
    attempts := item.attempts + 1 }

/-- `pick` is the database's choice among the rows its order does not tell apart. -/
def claim (store : Store) (workerId : String) (leaseSeconds : Int) (pick : Nat) (now : Time) :
    Option (WorkLease × Store) :=
  let candidates := claimCandidates store now
  candidates[pick % candidates.length]?.map (fun item =>
    (leaseOf item,
      store.updateWork (fun row => row.id = item.id) (leasing workerId leaseSeconds now)))

def complete (store : Store) (workId : Nat) : Store :=
  { store with work := store.work.delete (fun row => row.id = workId) }

def refused (reason : String) (now : Time) : Change WorkItem where
  apply := fun row =>
    { row with
      state := .superseded
      leaseUntil := none
      workerId := none
      errorCode := some "revision_superseded"
      lastError := some (Text.truncate 2000 reason)
      updatedAt := now }
  key_apply := fun _ => rfl
  number_apply := fun _ => rfl

def supersede (store : Store) (workId : Nat) (reason : String) (now : Time) : Store :=
  store.updateWork (fun row => row.id = workId) (refused reason now)

/-- Seconds before a failed attempt may be repeated: doubling from thirty, at most six hours. -/
def retryDelay (attempts : Nat) : Int :=
  min (6 * 60 * 60) (30 * Int.pow 2 (attempts - 1))

def failed (code message : String) (isDead permanent : Bool) (delaySeconds : Int) (now : Time) :
    Change WorkItem where
  apply := fun row =>
    { row with
      state := if isDead then .dead else .pending
      availableAt := now + seconds delaySeconds
      leaseUntil := none
      workerId := none
      errorCode := some (Text.truncate 64 code)
      lastError := some (Text.truncate 2000 message)
      isPermanent := permanent
      updatedAt := now }
  key_apply := fun _ => rfl
  number_apply := fun _ => rfl

def fail (store : Store) (lease : WorkLease) (code message : String) (maxAttempts : Int)
    (permanent : Bool) (now : Time) : Store :=
  let isDead := permanent || maxAttempts ≤ (lease.attempts : Int)
  store.updateWork (fun row => row.id = lease.id)
    (failed code message isDead permanent (retryDelay lease.attempts) now)

def revived (priority : Int) (now : Time) : Change WorkItem where
  apply := fun row =>
    { row with
      state := .pending
      attempts := 0
      priority := priority
      availableAt := now
      errorCode := none
      lastError := none
      updatedAt := now }
  key_apply := fun _ => rfl
  number_apply := fun _ => rfl

def revive (store : Store) (workId : Nat) (priority : Int) (now : Time) : Store :=
  store.updateWork (fun row => row.id = workId && row.state = .dead) (revived priority now)

/-! What the operations leave behind, row by row. -/

@[simp] theorem updateWork_results (store : Store) (condition : WorkItem → Bool)
    (change : Change WorkItem) : (store.updateWork condition change).results = store.results := rfl

@[simp] theorem updateWork_activeWikis (store : Store) (condition : WorkItem → Bool)
    (change : Change WorkItem) :
    (store.updateWork condition change).activeWikis = store.activeWikis := rfl

@[simp] theorem updateWork_next (store : Store) (condition : WorkItem → Bool)
    (change : Change WorkItem) :
    (store.updateWork condition change).work.next = store.work.next := rfl

theorem mem_updateWork {store : Store} {condition : WorkItem → Bool} {change : Change WorkItem}
    {row : WorkItem} : row ∈ (store.updateWork condition change).work.rows ↔
      ∃ old ∈ store.work.rows, SerialTable.changed condition change old = row :=
  SerialTable.mem_update

theorem changed_of {Row Key : Type} [Keyed Row Key] [Numbered Row] {condition : Row → Bool}
    {change : Change Row} {row : Row} (applies : condition row = true) :
    SerialTable.changed condition change row = change.apply row := if_pos applies

theorem changed_not {Row Key : Type} [Keyed Row Key] [Numbered Row] {condition : Row → Bool}
    {change : Change Row} {row : Row} (skips : condition row = false) :
    SerialTable.changed condition change row = row := by
  unfold SerialTable.changed
  rw [skips]
  rfl

theorem getWork_eq_some {store : Store} {key : Identity} {item : WorkItem} :
    getWork store key = some item ↔ item ∈ store.work.rows ∧ item.toIdentity = key :=
  Table.find_eq_some

theorem getWork_eq_none {store : Store} {key : Identity} :
    getWork store key = none ↔ ∀ item ∈ store.work.rows, item.toIdentity ≠ key :=
  Table.find_eq_none

theorem newerWorkExists_iff {store : Store} {key : Identity} :
    newerWorkExists store key = true ↔ store.LiveAbove key := by
  simp [newerWorkExists, Store.LiveAbove, and_assoc]

theorem insert_missing {store : Store} {key : Identity} (priority : Int) (now : Time)
    (missing : getWork store key = none) :
    ∃ grown, store.work.insert? (newWork key priority now) = some grown := by
  cases inserted : store.work.insert? (newWork key priority now) with
  | some grown => exact ⟨grown, rfl⟩
  | none =>
      obtain ⟨taken, present, same⟩ := SerialTable.insert?_eq_none.mp inserted
      exact absurd same (getWork_eq_none.mp missing taken present)

/-- Everything a call of `enqueue` can do, with the reads that decide it. -/
inductive EnqueueOutcome (store : Store) (key : Identity) (priority : Int)
    (allowCachedResult : Bool) (now : Time) : Store → Prop
  | cached (refuses : allowCachedResult = false) (stored : (getResult store key).isSome = true) :
      EnqueueOutcome store key priority allowCachedResult now store
  | overtaken (missing : getWork store key = none) (newer : store.LiveAbove key) :
      EnqueueOutcome store key priority allowCachedResult now store
  | inserted (uncached : allowCachedResult = true ∨ getResult store key = none)
      (missing : getWork store key = none) (newest : ¬ store.LiveAbove key)
      (grown : SerialTable WorkItem)
      (added : store.work.insert? (newWork key priority now) = some grown) :
      EnqueueOutcome store key priority allowCachedResult now
        (supersedeOlder { store with work := grown } key now)
  | boosted (uncached : allowCachedResult = true ∨ getResult store key = none)
      (item : WorkItem) (found : getWork store key = some item) (live : item.live = true) :
      EnqueueOutcome store key priority allowCachedResult now
        (supersedeOlder
          (store.updateWork (fun row => row.id = item.id) (boosted item priority now)) key now)
  | left (uncached : allowCachedResult = true ∨ getResult store key = none)
      (item : WorkItem) (found : getWork store key = some item) (ended : item.live = false) :
      EnqueueOutcome store key priority allowCachedResult now (supersedeOlder store key now)

theorem enqueue_outcome (store : Store) (key : Identity) (priority : Int)
    (allowCachedResult : Bool) (now : Time) :
    EnqueueOutcome store key priority allowCachedResult now
      (enqueue store key priority allowCachedResult now) := by
  unfold enqueue
  split
  · rename_i returned
    simp only [declined, Bool.and_eq_true, Bool.not_eq_true'] at returned
    exact .cached returned.1 returned.2
  · rename_i accepted
    have uncached : allowCachedResult = true ∨ getResult store key = none := by
      cases allowCachedResult with
      | true => exact Or.inl rfl
      | false => exact Or.inr (by simpa [declined] using accepted)
    cases found : getWork store key with
    | none =>
        cases newer : newerWorkExists store key with
        | true => exact .overtaken found (newerWorkExists_iff.mp newer)
        | false =>
            have newest : ¬ store.LiveAbove key := by
              rw [← newerWorkExists_iff, newer]
              exact Bool.false_ne_true
            obtain ⟨grown, added⟩ := insert_missing priority now found
            simp only [enqueueWrite, added, Option.map_some, Bool.false_eq_true, if_false]
            exact .inserted uncached found newest grown added
    | some item =>
        cases live : item.live with
        | true =>
            simp only [enqueueWrite, live, if_true]
            exact .boosted uncached item found live
        | false =>
            simp only [enqueueWrite, live, Bool.false_eq_true, if_false]
            exact .left uncached item found live

@[simp] theorem supersedeOlder_results (store : Store) (key : Identity) (now : Time) :
    (supersedeOlder store key now).results = store.results := rfl

theorem enqueue_frame (store : Store) (key : Identity) (priority : Int)
    (allowCachedResult : Bool) (now : Time) :
    enqueue store key priority allowCachedResult now =
      { store with work := (enqueue store key priority allowCachedResult now).work } := by
  have outcome := enqueue_outcome store key priority allowCachedResult now
  generalize enqueue store key priority allowCachedResult now = after at outcome ⊢
  cases outcome <;> rfl

theorem enqueueIfStale_eq (store : Store) (key : Identity) (priority freshness : Int)
    (now : Time) :
    (enqueueIfStale store key priority freshness now).2 =
      if (getLatestResult store key.toPageKey).any
          (fun latest => now - seconds freshness ≤ latest.computedAt) then store
      else enqueue store key priority true now := by
  rw [enqueueIfStale]
  split <;> rfl

theorem enqueueIfStale_store (store : Store) (key : Identity) (priority freshness : Int)
    (now : Time) :
    (enqueueIfStale store key priority freshness now).2 = store ∨
      (enqueueIfStale store key priority freshness now).2 =
        enqueue store key priority true now := by
  rw [enqueueIfStale_eq]
  split
  · exact Or.inl rfl
  · exact Or.inr rfl

theorem obsoleted_live (key : Identity) (now : Time) (item : WorkItem) :
    (SerialTable.changed (olderPending key) (obsoleted now) item).live =
      (item.live && !olderPending key item) := by
  cases older : olderPending key item with
  | true =>
      rw [changed_of older, Bool.not_true, Bool.and_false]
      rfl
  | false => rw [changed_not older, Bool.not_false, Bool.and_true]

theorem obsoleted_identity (key : Identity) (now : Time) (item : WorkItem) :
    (SerialTable.changed (olderPending key) (obsoleted now) item).toIdentity =
      item.toIdentity :=
  SerialTable.key_changed _ _ item

theorem live_supersedeOlder (store : Store) (key : Identity) (now : Time)
    (wanted : Identity → Prop) :
    (∃ item ∈ (supersedeOlder store key now).work.rows,
        wanted item.toIdentity ∧ item.live = true) ↔
      ∃ item ∈ store.work.rows,
        wanted item.toIdentity ∧ item.live = true ∧ olderPending key item = false := by
  constructor
  · rintro ⟨row, member, matching, live⟩
    obtain ⟨old, present, rfl⟩ := mem_updateWork.mp member
    rw [obsoleted_identity] at matching
    rw [obsoleted_live, Bool.and_eq_true, Bool.not_eq_true'] at live
    exact ⟨old, present, matching, live.1, live.2⟩
  · rintro ⟨old, present, matching, live, kept⟩
    refine ⟨_, mem_updateWork.mpr ⟨old, present, rfl⟩, ?_, ?_⟩
    · rw [obsoleted_identity]
      exact matching
    · rw [obsoleted_live, live, kept]
      rfl

theorem olderPending_same (key : Identity) (item : WorkItem) (same : item.toIdentity = key) :
    olderPending key item = false := by
  have revision : item.revisionId = key.revisionId := congrArg Identity.revisionId same
  simp [olderPending, revision]

end WikiPeople
