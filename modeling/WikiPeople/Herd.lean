import WikiPeople.Liveness
import Mathlib.Data.Fintype.Basic
import Mathlib.Order.Bounds.Basic

/-! Concurrent calls of `enqueue` for one key, with their reads, writes and commits
interleaved. A write keeps the row of the key locked until its transaction commits. -/

namespace WikiPeople

open Relational Transition

structure Call where
  priority : Int
  allowCachedResult : Bool
  now : Time

inductive CallPhase where
  | called
  | begun
  | saw (existing : Option WorkItem)
  | read (existing : Option WorkItem) (newerWork : Bool)
  | written (existing : Option WorkItem) (newerWork : Bool)
  | raced
  | overwritten
  | returned
  deriving DecidableEq

structure Herd (ι : Type) where
  store : Store
  phase : ι → CallPhase
  lock : Option ι

section Machine

variable {ι : Type} [DecidableEq ι]

def Herd.move (herd : Herd ι) (call : ι) (phase : CallPhase) : Herd ι :=
  { herd with phase := Function.update herd.phase call phase }

def Herd.commit (herd : Herd ι) (call : ι) (store : Store) : Herd ι :=
  { store := store
    phase := Function.update herd.phase call .returned
    lock := if herd.lock = some call then none else herd.lock }

/-- The next step of one call; `none` where the row is locked or the call has returned. -/
def herdStep (key : Identity) (calls : ι → Call) (herd : Herd ι) (call : ι) :
    Option (Herd ι) :=
  let asked := calls call
  match herd.phase call with
  | .called =>
      if declined herd.store key asked.allowCachedResult then some (herd.move call .returned)
      else some (herd.move call .begun)
  | .begun => some (herd.move call (.saw (getWork herd.store key)))
  | .saw existing => some (herd.move call (.read existing (newerWorkExists herd.store key)))
  | .read existing newerWork =>
      if existing.isNone && newerWork then some (herd.move call .returned)
      -- An ended item is left alone: only rows of older revisions are written.
      else if existing.any (fun item => !item.live) then
        some (herd.move call (.written existing newerWork))
      else if herd.lock.isSome then none
      -- The INSERT violates the unique key, and the transaction rolls back.
      else if existing.isNone && (getWork herd.store key).isSome then
        some (herd.move call .raced)
      else some { herd.move call (.written existing newerWork) with lock := some call }
  | .written existing newerWork =>
      (enqueueWrite herd.store key asked.priority asked.now existing newerWork).map
        (herd.commit call)
  | .raced =>
      if herd.lock.isSome then none
      else some { herd.move call .overwritten with lock := some call }
  | .overwritten => some (herd.commit call (enqueueRaced herd.store key asked.priority asked.now))
  | .returned => none

def enqueueHerd (key : Identity) (calls : ι → Call) (store : Store) : Machine (Herd ι) ι where
  initial := ⟨store, fun _ => .called, none⟩
  step := herdStep key calls

def Herd.complete (herd : Herd ι) : Prop := ∀ call, herd.phase call = .returned

/-- Exactly one item has the key, it is pending, and its priority is the greatest of the one
it had at the start and all those requested. -/
def Herded (key : Identity) (calls : ι → Call) (start after : Store) : Prop :=
  ∃ item, (∀ row, row ∈ after.work.rows ∧ row.toIdentity = key ↔ row = item) ∧
    item.state = .pending ∧
      IsGreatest {priority | (∃ first, getWork start key = some first ∧
        first.priority = priority) ∨ ∃ call, (calls call).priority = priority} item.priority

end Machine

/-! What the writes do to the row of the key. -/

section Row

variable {store : Store} {key : Identity} {priority : Int} {now : Time}

theorem getWork_supersedeOlder (store : Store) (key : Identity) (now : Time) :
    getWork (supersedeOlder store key now) key = getWork store key := by
  simp only [getWork, supersedeOlder, Store.updateWork]
  rw [SerialTable.find_update]
  cases found : store.work.find key with
  | none => rfl
  | some item =>
      have same : item.toIdentity = key := (Table.find_eq_some.mp found).2
      rw [Option.map_some, changed_not (olderPending_same key item same)]

theorem getWork_updateWork (condition : WorkItem → Bool) (change : Change WorkItem) :
    getWork (store.updateWork condition change) key =
      (getWork store key).map (SerialTable.changed condition change) := by
  simp only [getWork, Store.updateWork]
  exact SerialTable.find_update _ _ _ _

theorem getWork_insert {grown : SerialTable WorkItem}
    (added : store.work.insert? (newWork key priority now) = some grown) :
    getWork { store with work := grown } key =
      some ((newWork key priority now).make store.work.next) :=
  getWork_eq_some.mpr ⟨(SerialTable.mem_insert? added).mpr (Or.inr rfl), rfl⟩

theorem enqueueWrite_insert {after : Store}
    (written : enqueueWrite store key priority now none false = some after) :
    ∃ item, getWork after key = some item ∧ item.state = .pending ∧ item.priority = priority := by
  simp only [enqueueWrite, Bool.false_eq_true, if_false] at written
  obtain ⟨grown, added, same⟩ := Option.map_eq_some_iff.mp written
  subst same
  rw [getWork_supersedeOlder, getWork_insert added]
  exact ⟨_, rfl, rfl, rfl⟩

theorem enqueueWrite_update {seen row : WorkItem} (priority : Int) (now : Time)
    (newerWork : Bool) (live : seen.live = true) (found : getWork store key = some row)
    (same : row.id = seen.id) :
    ∃ after, enqueueWrite store key priority now (some seen) newerWork = some after ∧
      ∃ item, getWork after key = some item ∧ item.id = row.id ∧ item.state = row.state ∧
        item.priority = if seen.priority < priority then priority else row.priority := by
  simp only [enqueueWrite, live, if_true]
  refine ⟨_, rfl, ?_⟩
  rw [getWork_supersedeOlder, getWork_updateWork, found, Option.map_some,
    changed_of (by simp [same])]
  exact ⟨_, rfl, rfl, rfl, rfl⟩

theorem enqueueRaced_row {row : WorkItem} (priority : Int) (now : Time)
    (found : getWork store key = some row) :
    ∃ item, getWork (enqueueRaced store key priority now) key = some item ∧ item.id = row.id ∧
      item.state = row.state ∧ item.priority = priority := by
  have same : row.toIdentity = key := (getWork_eq_some.mp found).2
  simp only [enqueueRaced]
  rw [getWork_updateWork, found, Option.map_some, changed_of (by simp [same])]
  exact ⟨_, rfl, rfl, rfl, rfl⟩

theorem enqueueRaced_liveAbove :
    (enqueueRaced store key priority now).LiveAbove key ↔ store.LiveAbove key := by
  have shape := @live_updateWork store (fun row => row.toIdentity = key)
    (reprioritized priority now) (fun _ => rfl) (fun identity =>
      identity.toPageKey = key.toPageKey ∧ key.revisionId < identity.revisionId)
  simp only [and_assoc] at shape
  exact shape

end Row

theorem enqueueWrite_frame {store after : Store} {key : Identity} {priority : Int} {now : Time}
    {existing : Option WorkItem} {newerWork : Bool}
    (written : enqueueWrite store key priority now existing newerWork = some after) :
    after.results = store.results ∧ (after.LiveAbove key ↔ store.LiveAbove key) := by
  cases existing with
  | none =>
      cases newerWork with
      | true =>
          cases written
          exact ⟨rfl, Iff.rfl⟩
      | false =>
          simp only [enqueueWrite, Bool.false_eq_true, if_false] at written
          obtain ⟨grown, added, same⟩ := Option.map_eq_some_iff.mp written
          subst same
          exact ⟨rfl, liveAbove_supersedeOlder.trans (liveAbove_insert added)⟩
  | some item =>
      simp only [enqueueWrite] at written
      split at written
      · cases written
        have shape := @live_updateWork store (fun row => row.id = item.id)
          (boosted item priority now) (fun _ => rfl) (fun identity =>
            identity.toPageKey = key.toPageKey ∧ key.revisionId < identity.revisionId)
        simp only [and_assoc] at shape
        exact ⟨rfl, liveAbove_supersedeOlder.trans shape⟩
      · cases written
        exact ⟨rfl, liveAbove_supersedeOlder⟩

/-! Every interleaving, where the priorities above the first one agree. -/

/-- The priority is above the one the item had at the start, if there was an item. -/
def Raises (key : Identity) (start : Store) (priority : Int) : Prop :=
  ∀ first, getWork start key = some first → first.priority < priority

section Invariant

variable {ι : Type} {key : Identity} {calls : ι → Call} {start : Store}

/-- An item at the start, or a call and no newer work, lets the calls leave an item; and all
priorities that would raise the first one are the same. -/
structure Agreeing (key : Identity) (calls : ι → Call) (start : Store) : Prop where
  asked : getWork start key = none → Nonempty ι
  newest : getWork start key = none → ¬ start.LiveAbove key
  same : ∀ first second, Raises key start (calls first).priority →
    Raises key start (calls second).priority → (calls first).priority = (calls second).priority

def Fair (key : Identity) (calls : ι → Call) (start : Store) (priority : Int) : Prop :=
  (∃ first, getWork start key = some first ∧ first.priority = priority) ∨
    ∃ call, Raises key start (calls call).priority ∧ (calls call).priority = priority

theorem Fair.least {priority : Int} (fair : Fair key calls start priority) {first : WorkItem}
    (found : getWork start key = some first) : first.priority ≤ priority := by
  rcases fair with ⟨other, same, rfl⟩ | ⟨call, raises, rfl⟩
  · rw [found] at same
    cases same
    exact le_refl _
  · exact le_of_lt (raises first found)

theorem Fair.le_raising (agreeing : Agreeing key calls start) {priority : Int}
    (fair : Fair key calls start priority) {call : ι}
    (raises : Raises key start (calls call).priority) : priority ≤ (calls call).priority := by
  rcases fair with ⟨first, found, rfl⟩ | ⟨other, otherRaises, rfl⟩
  · exact le_of_lt (raises first found)
  · exact le_of_eq (agreeing.same other call otherRaises raises)

/-- What a call that read `existing` relies on. -/
def Seen (key : Identity) (calls : ι → Call) (start store : Store) : Option WorkItem → Prop
  | none => getWork start key = none
  | some item => item.live = true ∧ Fair key calls start item.priority ∧
      ∃ row, getWork store key = some row ∧ row.id = item.id ∧ item.priority ≤ row.priority

def PhaseHolds (key : Identity) (calls : ι → Call) (start : Store) (herd : Herd ι) (call : ι) :
    CallPhase → Prop
  | .called | .begun => True
  | .saw existing => Seen key calls start herd.store existing
  | .read existing newerWork => Seen key calls start herd.store existing ∧
      (newerWork = true ↔ start.LiveAbove key)
  | .written existing newerWork => Seen key calls start herd.store existing ∧
      herd.lock = some call ∧
        (existing = none → newerWork = false ∧ getWork herd.store key = none)
  | .raced => getWork start key = none ∧ (getWork herd.store key).isSome = true
  | .overwritten => (getWork start key = none ∧ (getWork herd.store key).isSome = true) ∧
      herd.lock = some call
  | .returned => ∃ row, getWork herd.store key = some row ∧ (calls call).priority ≤ row.priority

def RowGrows (key : Identity) (before after : Store) : Prop :=
  ∀ row, getWork before key = some row →
    ∃ next, getWork after key = some next ∧ next.id = row.id ∧ row.priority ≤ next.priority

theorem RowGrows.refl (key : Identity) (store : Store) : RowGrows key store store :=
  fun row found => ⟨row, found, rfl, le_refl _⟩

theorem RowGrows.isSome {before after : Store} (grows : RowGrows key before after)
    (present : (getWork before key).isSome = true) : (getWork after key).isSome = true := by
  obtain ⟨row, found⟩ := Option.isSome_iff_exists.mp present
  obtain ⟨next, still, _⟩ := grows row found
  rw [still]
  rfl

theorem Seen.grow {before after : Store} {existing : Option WorkItem}
    (seen : Seen key calls start before existing) (grows : RowGrows key before after) :
    Seen key calls start after existing := by
  cases existing with
  | none => exact seen
  | some item =>
      obtain ⟨live, fair, row, found, same, bound⟩ := seen
      obtain ⟨next, still, number, more⟩ := grows row found
      exact ⟨live, fair, next, still, number.trans same, bound.trans more⟩

/-- The steps of the others keep what a call relies on: only the holder of the lock commits. -/
theorem PhaseHolds.others {before after : Herd ι} {call : ι} {phase : CallPhase}
    (holds : PhaseHolds key calls start before call phase)
    (grows : RowGrows key before.store after.store)
    (held : before.lock = some call → after.lock = some call ∧ after.store = before.store) :
    PhaseHolds key calls start after call phase := by
  cases phase with
  | called => trivial
  | begun => trivial
  | saw existing => exact Seen.grow holds grows
  | read existing newerWork => exact ⟨Seen.grow holds.1 grows, holds.2⟩
  | written existing newerWork =>
      obtain ⟨kept, same⟩ := held holds.2.1
      refine ⟨Seen.grow holds.1 grows, kept, ?_⟩
      rw [same]
      exact holds.2.2
  | raced => exact ⟨holds.1, grows.isSome holds.2⟩
  | overwritten => exact ⟨⟨holds.1.1, grows.isSome holds.1.2⟩, (held holds.2).1⟩
  | returned =>
      obtain ⟨row, found, bound⟩ := holds
      obtain ⟨next, still, _, more⟩ := grows row found
      exact ⟨next, still, bound.trans more⟩

structure HerdInvariant (key : Identity) (calls : ι → Call) (start : Store) (herd : Herd ι) :
    Prop where
  results : herd.store.results = start.results
  above : herd.store.LiveAbove key ↔ start.LiveAbove key
  row : ∀ row, getWork herd.store key = some row →
    row.state = .pending ∧ Fair key calls start row.priority
  kept : getWork herd.store key = none → getWork start key = none
  phases : ∀ call, PhaseHolds key calls start herd call (herd.phase call)

variable [DecidableEq ι]

theorem HerdInvariant.moved {herd : Herd ι} {call : ι} {phase : CallPhase} {lock : Option ι}
    (valid : HerdInvariant key calls start herd) (free : lock = herd.lock ∨ herd.lock = none)
    (next : PhaseHolds key calls start { herd.move call phase with lock := lock } call phase) :
    HerdInvariant key calls start { herd.move call phase with lock := lock } where
  results := valid.results
  above := valid.above
  row := valid.row
  kept := valid.kept
  phases := by
    intro other
    by_cases same : other = call
    · subst same
      simpa only [Herd.move, Function.update_self] using next
    · have holds := valid.phases other
      simp only [Herd.move, Function.update_of_ne same]
      refine holds.others (.refl key herd.store) ?_
      intro held
      rcases free with unchanged | none
      · exact ⟨unchanged.trans held, rfl⟩
      · rw [none] at held
        cases held

theorem HerdInvariant.committed {herd : Herd ι} {call : ι} {store : Store}
    (valid : HerdInvariant key calls start herd) (held : herd.lock = some call)
    (results : store.results = herd.store.results)
    (above : store.LiveAbove key ↔ herd.store.LiveAbove key)
    (grows : RowGrows key herd.store store)
    (settled : ∃ row, getWork store key = some row ∧ row.state = .pending ∧
      Fair key calls start row.priority ∧ (calls call).priority ≤ row.priority) :
    HerdInvariant key calls start (herd.commit call store) := by
  obtain ⟨final, found, pending, fair, bound⟩ := settled
  refine ⟨results.trans valid.results, above.trans valid.above, ?_, ?_, ?_⟩
  · intro row present
    have same : row = final := Option.some.inj (present.symm.trans found)
    rw [same]
    exact ⟨pending, fair⟩
  · intro absent
    exact absurd (absent.symm.trans found) (by simp)
  · intro other
    by_cases same : other = call
    · subst same
      simp only [Herd.commit, Function.update_self]
      exact ⟨final, found, bound⟩
    · have holds := valid.phases other
      simp only [Herd.commit, Function.update_of_ne same]
      apply holds.others grows
      intro mine
      rw [held] at mine
      exact absurd (Option.some.inj mine).symm same

theorem HerdInvariant.written {herd : Herd ι} {call : ι} {existing : Option WorkItem}
    {newerWork : Bool} {store : Store} (agreeing : Agreeing key calls start)
    (valid : HerdInvariant key calls start herd)
    (phase : herd.phase call = .written existing newerWork)
    (committed : enqueueWrite herd.store key (calls call).priority (calls call).now existing
      newerWork = some store) : HerdInvariant key calls start (herd.commit call store) := by
  have holds := valid.phases call
  rw [phase] at holds
  obtain ⟨seen, held, unread⟩ := holds
  obtain ⟨results, above⟩ := enqueueWrite_frame committed
  cases existing with
  | none =>
      obtain ⟨oldest, absent⟩ := unread rfl
      rw [oldest] at committed
      obtain ⟨item, found, pending, same⟩ := enqueueWrite_insert committed
      refine valid.committed held results above ?_ ⟨item, found, pending, ?_, le_of_eq same.symm⟩
      · intro row present
        rw [absent] at present
        cases present
      · refine Or.inr ⟨call, ?_, same.symm⟩
        intro first missing
        rw [show getWork start key = none from seen] at missing
        cases missing
  | some item =>
      obtain ⟨live, fair, row, found, same, bound⟩ := seen
      obtain ⟨pending, rowFair⟩ := valid.row row found
      obtain ⟨after, written, next, still, number, state, priority⟩ :=
        enqueueWrite_update (calls call).priority (calls call).now newerWork live found same
      rw [committed] at written
      cases written
      by_cases raised : item.priority < (calls call).priority
      · -- What was read is fair, so a priority above it is above the first one.
        rw [if_pos raised] at priority
        have raises : Raises key start (calls call).priority :=
          fun first known => (fair.least known).trans_lt raised
        refine valid.committed held results above ?_
          ⟨next, still, state.trans pending, Or.inr ⟨call, raises, priority.symm⟩,
            le_of_eq priority.symm⟩
        intro other present
        rw [found] at present
        cases present
        refine ⟨next, still, number, ?_⟩
        calc
          row.priority ≤ (calls call).priority := rowFair.le_raising agreeing raises
          _ = next.priority := priority.symm
      · rw [if_neg raised] at priority
        refine valid.committed held results above ?_ ⟨next, still, state.trans pending, ?_, ?_⟩
        · intro other present
          rw [found] at present
          cases present
          exact ⟨next, still, number, le_of_eq priority.symm⟩
        · rw [priority]
          exact rowFair
        · rw [priority]
          exact (not_lt.mp raised).trans bound

/-- The assignment after a unique-key violation: all requested priorities are the same. -/
theorem HerdInvariant.overwritten {herd : Herd ι} {call : ι}
    (agreeing : Agreeing key calls start) (valid : HerdInvariant key calls start herd)
    (phase : herd.phase call = .overwritten) :
    HerdInvariant key calls start
      (herd.commit call (enqueueRaced herd.store key (calls call).priority (calls call).now)) := by
  have holds := valid.phases call
  rw [phase] at holds
  obtain ⟨⟨unborn, present⟩, held⟩ := holds
  obtain ⟨row, found⟩ := Option.isSome_iff_exists.mp present
  obtain ⟨pending, fair⟩ := valid.row row found
  have raises : Raises key start (calls call).priority := by
    intro first known
    rw [unborn] at known
    cases known
  obtain ⟨next, still, number, state, priority⟩ :=
    enqueueRaced_row (calls call).priority (calls call).now found
  refine valid.committed held rfl enqueueRaced_liveAbove ?_
    ⟨next, still, state.trans pending, Or.inr ⟨call, raises, priority.symm⟩,
      le_of_eq priority.symm⟩
  intro other known
  rw [found] at known
  cases known
  refine ⟨next, still, number, ?_⟩
  calc
    row.priority ≤ (calls call).priority := fair.le_raising agreeing raises
    _ = next.priority := priority.symm

theorem HerdInvariant.hasRead {before after : Herd ι} {call : ι} {existing : Option WorkItem}
    {newerWork : Bool} (agreeing : Agreeing key calls start)
    (valid : HerdInvariant key calls start before)
    (phase : before.phase call = .read existing newerWork)
    (taken : herdStep key calls before call = some after) :
    HerdInvariant key calls start after := by
  have holds := valid.phases call
  rw [phase] at holds
  obtain ⟨seen, newer⟩ := holds
  simp only [herdStep, phase] at taken
  cases existing with
  | none =>
      have ahead : newerWork = false := by
        rw [← Bool.not_eq_true]
        intro isNewer
        exact agreeing.newest seen (newer.mp isNewer)
      simp only [ahead, Option.isNone_none, Bool.and_false, Bool.false_eq_true, if_false,
        Option.any_none, Bool.true_and] at taken
      split at taken
      · cases taken
      · rename_i unlocked
        have free : before.lock = none := by simpa using unlocked
        split at taken
        · rename_i present
          cases taken
          exact valid.moved (Or.inl rfl) ⟨seen, present⟩
        · rename_i absent
          cases taken
          have missing : getWork before.store key = none := by simpa using absent
          exact valid.moved (Or.inr free) ⟨seen, rfl, fun _ => ⟨rfl, missing⟩⟩
  | some item =>
      have live : item.live = true := seen.1
      simp only [Option.isNone_some, Bool.false_and, Bool.false_eq_true, if_false, Option.any_some,
        live, Bool.not_true] at taken
      split at taken
      · cases taken
      · rename_i unlocked
        have free : before.lock = none := by simpa using unlocked
        cases taken
        exact valid.moved (Or.inr free) ⟨seen, rfl, fun missing => by cases missing⟩

theorem herdInvariant_step {before after : Herd ι} {call : ι}
    (agreeing : Agreeing key calls start) (uncached : getResult start key = none)
    (valid : HerdInvariant key calls start before)
    (taken : herdStep key calls before call = some after) :
    HerdInvariant key calls start after := by
  have holds := valid.phases call
  cases phase : before.phase call with
  | called =>
      have accepted : declined before.store key (calls call).allowCachedResult = false := by
        simp only [declined, getResult, valid.results] at uncached ⊢
        rw [uncached]
        simp
      simp only [herdStep, phase, accepted, Bool.false_eq_true, if_false] at taken
      cases taken
      exact valid.moved (Or.inl rfl) trivial
  | begun =>
      simp only [herdStep, phase] at taken
      cases taken
      apply valid.moved (Or.inl rfl)
      cases found : getWork before.store key with
      | none => exact valid.kept found
      | some row =>
          obtain ⟨pending, fair⟩ := valid.row row found
          exact ⟨(live_iff row).mpr (Or.inl pending), fair, row, found, rfl, le_refl _⟩
  | saw existing =>
      simp only [herdStep, phase] at taken
      cases taken
      rw [phase] at holds
      exact valid.moved (Or.inl rfl) ⟨holds, newerWorkExists_iff.trans valid.above⟩
  | read existing newerWork => exact valid.hasRead agreeing phase taken
  | written existing newerWork =>
      simp only [herdStep, phase] at taken
      obtain ⟨store, committed, rfl⟩ := Option.map_eq_some_iff.mp taken
      exact valid.written agreeing phase committed
  | raced =>
      simp only [herdStep, phase] at taken
      rw [phase] at holds
      split at taken
      · cases taken
      · rename_i unlocked
        have free : before.lock = none := by simpa using unlocked
        cases taken
        exact valid.moved (Or.inr free) ⟨holds, rfl⟩
  | overwritten =>
      simp only [herdStep, phase] at taken
      cases taken
      exact valid.overwritten agreeing phase
  | returned =>
      simp only [herdStep, phase] at taken
      cases taken

theorem herdInvariant {final : Herd ι} (agreeing : Agreeing key calls start)
    (uncached : getResult start key = none)
    (waiting : ∀ item, getWork start key = some item → item.state = .pending)
    (reached : (enqueueHerd key calls start).Reachable final) :
    HerdInvariant key calls start final := by
  refine Machine.invariant (HerdInvariant key calls start) ?_ ?_ reached
  · refine ⟨rfl, Iff.rfl, ?_, id, fun _ => trivial⟩
    intro row found
    exact ⟨waiting row found, Or.inl ⟨row, found, rfl⟩⟩
  · intro before call after valid _ taken
    exact herdInvariant_step agreeing uncached valid taken

theorem herded_of_agreeing {final : Herd ι} (agreeing : Agreeing key calls start)
    (uncached : getResult start key = none)
    (waiting : ∀ item, getWork start key = some item → item.state = .pending)
    (reached : (enqueueHerd key calls start).Reachable final) (complete : final.complete) :
    Herded key calls start final.store := by
  have valid := herdInvariant agreeing uncached waiting reached
  have settled : ∀ call, ∃ row, getWork final.store key = some row ∧
      (calls call).priority ≤ row.priority := by
    intro call
    have holds := valid.phases call
    rw [complete call] at holds
    exact holds
  obtain ⟨item, found⟩ : ∃ item, getWork final.store key = some item := by
    cases first : getWork start key with
    | none =>
        obtain ⟨call⟩ := agreeing.asked first
        obtain ⟨row, present, _⟩ := settled call
        exact ⟨row, present⟩
    | some item =>
        apply Option.ne_none_iff_exists'.mp
        intro lost
        rw [valid.kept lost] at first
        cases first
  obtain ⟨pending, fair⟩ := valid.row item found
  refine ⟨item, ?_, pending, ?_, ?_⟩
  · intro row
    rw [← getWork_eq_some, found]
    exact ⟨fun same => (Option.some.inj same).symm, fun same => congrArg some same.symm⟩
  · rcases fair with first | ⟨call, _, same⟩
    · exact Or.inl first
    · exact Or.inr ⟨call, same⟩
  · intro priority requested
    rcases requested with ⟨first, known, rfl⟩ | ⟨call, rfl⟩
    · exact fair.least known
    · obtain ⟨row, present, bound⟩ := settled call
      rw [found] at present
      cases present
      exact bound

end Invariant

/-! Schedules. -/

section Schedule

variable {ι : Type} [DecidableEq ι] {key : Identity} {calls : ι → Call} {start : Store}

def finish (key : Identity) (call : Call) (existing : Option WorkItem) (newerWork : Bool)
    (store : Store) : Store :=
  match enqueueWrite store key call.priority call.now existing newerWork with
  | some written => written
  | none => enqueueRaced store key call.priority call.now

theorem reach_read {herd : Herd ι} {call : ι}
    (reached : (enqueueHerd key calls start).Reachable herd) (current : herd.phase call = .called)
    (accepted : declined herd.store key (calls call).allowCachedResult = false) :
    (enqueueHerd key calls start).Reachable
      (herd.move call (.read (getWork herd.store key) (newerWorkExists herd.store key))) := by
  have begin : herdStep key calls herd call = some (herd.move call .begun) := by
    simp [herdStep, current, accepted]
  have look : herdStep key calls (herd.move call .begun) call =
      some (herd.move call (.saw (getWork herd.store key))) := by
    simp [herdStep, Herd.move]
  have compare : herdStep key calls (herd.move call (.saw (getWork herd.store key))) call =
      some (herd.move call (.read (getWork herd.store key) (newerWorkExists herd.store key))) := by
    simp [herdStep, Herd.move]
  exact ((reached.next begin).next look).next compare

theorem reach_finish_ended {herd : Herd ι} {call : ι} {existing : Option WorkItem}
    {newerWork : Bool} (reached : (enqueueHerd key calls start).Reachable herd)
    (free : herd.lock = none) (current : herd.phase call = .read existing newerWork)
    (ended : existing.any (fun item => !item.live) = true) :
    (enqueueHerd key calls start).Reachable
      ⟨finish key (calls call) existing newerWork herd.store,
        Function.update herd.phase call .returned, none⟩ := by
  cases existing with
  | none => cases ended
  | some item =>
      have dropped : item.live = false := by simpa using ended
      have write : herdStep key calls herd call =
          some (herd.move call (.written (some item) newerWork)) := by
        simp [herdStep, current, dropped]
      have commit : herdStep key calls (herd.move call (.written (some item) newerWork)) call =
          some ⟨supersedeOlder herd.store key (calls call).now,
            Function.update herd.phase call .returned, none⟩ := by
        simp [herdStep, Herd.move, Herd.commit, enqueueWrite, dropped, free]
      simpa [finish, enqueueWrite, dropped] using (reached.next write).next commit

theorem reach_finish_raced {herd : Herd ι} {call : ι}
    (reached : (enqueueHerd key calls start).Reachable herd) (free : herd.lock = none)
    (current : herd.phase call = .read none false)
    (present : (getWork herd.store key).isSome = true) :
    (enqueueHerd key calls start).Reachable
      ⟨finish key (calls call) none false herd.store,
        Function.update herd.phase call .returned, none⟩ := by
  have race : herdStep key calls herd call = some (herd.move call .raced) := by
    simp [herdStep, current, free, present]
  have retry : herdStep key calls (herd.move call .raced) call =
      some { herd.move call .overwritten with lock := some call } := by
    simp [herdStep, Herd.move, free]
  have assign : herdStep key calls { herd.move call .overwritten with lock := some call } call =
      some ⟨enqueueRaced herd.store key (calls call).priority (calls call).now,
        Function.update herd.phase call .returned, none⟩ := by
    simp [herdStep, Herd.move, Herd.commit]
  have violated : enqueueWrite herd.store key (calls call).priority (calls call).now none
      false = none := by
    obtain ⟨row, found⟩ := Option.isSome_iff_exists.mp present
    obtain ⟨member, same⟩ := getWork_eq_some.mp found
    have taken : herd.store.work.insert?
        (newWork key (calls call).priority (calls call).now) = none :=
      SerialTable.insert?_eq_none.mpr ⟨row, member, same⟩
    simp [enqueueWrite, taken]
  simpa only [finish, violated] using ((reached.next race).next retry).next assign

theorem enqueueWrite_writes {store : Store} {call : Call} {existing : Option WorkItem}
    {newerWork : Bool} (usable : existing.any (fun item => !item.live) = false)
    (ahead : existing = none → newerWork = false ∧ getWork store key = none) :
    ∃ after, enqueueWrite store key call.priority call.now existing newerWork = some after := by
  cases existing with
  | none =>
      obtain ⟨older, missing⟩ := ahead rfl
      obtain ⟨grown, added⟩ := insert_missing call.priority call.now missing
      refine ⟨supersedeOlder { store with work := grown } key call.now, ?_⟩
      simp [enqueueWrite, older, added]
  | some item =>
      have live : item.live = true := by simpa using usable
      refine ⟨supersedeOlder (store.updateWork (fun row => row.id = item.id)
        (boosted item call.priority call.now)) key call.now, ?_⟩
      simp [enqueueWrite, live]

theorem reach_finish_written {herd : Herd ι} {call : ι} {existing : Option WorkItem}
    {newerWork : Bool} (reached : (enqueueHerd key calls start).Reachable herd)
    (free : herd.lock = none) (current : herd.phase call = .read existing newerWork)
    (usable : existing.any (fun item => !item.live) = false)
    (ahead : existing = none → newerWork = false ∧ getWork herd.store key = none) :
    (enqueueHerd key calls start).Reachable
      ⟨finish key (calls call) existing newerWork herd.store,
        Function.update herd.phase call .returned, none⟩ := by
  have write : herdStep key calls herd call =
      some { herd.move call (.written existing newerWork) with lock := some call } := by
    cases existing with
    | none =>
        obtain ⟨older, missing⟩ := ahead rfl
        simp [herdStep, current, free, older, missing]
    | some item => simp [herdStep, current, usable, free]
  obtain ⟨store, committed⟩ := @enqueueWrite_writes key herd.store (calls call) existing
    newerWork usable ahead
  have commit : herdStep key calls
      { herd.move call (.written existing newerWork) with lock := some call } call =
      some ⟨store, Function.update herd.phase call .returned, none⟩ := by
    simp [herdStep, Herd.move, Herd.commit, committed]
  simpa only [finish, committed] using (reached.next write).next commit

theorem reach_finish {herd : Herd ι} {call : ι} {existing : Option WorkItem} {newerWork : Bool}
    (reached : (enqueueHerd key calls start).Reachable herd) (free : herd.lock = none)
    (current : herd.phase call = .read existing newerWork) :
    (enqueueHerd key calls start).Reachable
      ⟨finish key (calls call) existing newerWork herd.store,
        Function.update herd.phase call .returned, none⟩ := by
  cases existing with
  | some item =>
      cases usable : (some item).any (fun item => !item.live) with
      | true => exact reach_finish_ended reached free current usable
      | false =>
          exact reach_finish_written reached free current usable
            (fun missing => by cases missing)
  | none =>
      cases newerWork with
      | true =>
          have leave : herdStep key calls herd call = some (herd.move call .returned) := by
            simp [herdStep, current]
          simpa [finish, enqueueWrite, Herd.move, free] using reached.next leave
      | false =>
          cases found : getWork herd.store key with
          | some row =>
              exact reach_finish_raced reached free current (Option.isSome_iff_exists.mpr
                ⟨row, found⟩)
          | none => exact reach_finish_written reached free current rfl (fun _ => ⟨rfl, found⟩)

theorem enqueue_of_accepted {call : Call}
    (accepted : declined start key call.allowCachedResult = false) :
    enqueue start key call.priority call.allowCachedResult call.now =
      finish key call (getWork start key) (newerWorkExists start key) start := by
  rw [enqueue, accepted]
  rfl

theorem reach_enqueue {herd : Herd ι} {call : ι}
    (reached : (enqueueHerd key calls start).Reachable herd) (free : herd.lock = none)
    (current : herd.phase call = .called) :
    (enqueueHerd key calls start).Reachable
      ⟨enqueue herd.store key (calls call).priority (calls call).allowCachedResult
        (calls call).now, Function.update herd.phase call .returned, none⟩ := by
  cases cached : declined herd.store key (calls call).allowCachedResult with
  | true =>
      have leave : herdStep key calls herd call = some (herd.move call .returned) := by
        simp [herdStep, current, cached]
      simpa [enqueue, cached, Herd.move, free] using reached.next leave
  | false =>
      have read := reach_read reached current cached
      have finished := reach_finish read free (Function.update_self call _ herd.phase)
      rw [enqueue_of_accepted cached]
      simpa only [Herd.move, Function.update_idem] using finished

theorem reach_all_read
    (accepted : ∀ call, declined start key (calls call).allowCachedResult = false)
    (readers : List ι) (distinct : readers.Nodup) :
    (enqueueHerd key calls start).Reachable
      ⟨start, fun call => if call ∈ readers then
        .read (getWork start key) (newerWorkExists start key) else .called, none⟩ := by
  induction readers with
  | nil =>
      simp only [List.not_mem_nil, if_false]
      exact .initial
  | cons reader readers ih =>
      rw [List.nodup_cons] at distinct
      have next := reach_read (ih distinct.2) (if_neg distinct.1) (accepted reader)
      refine Eq.mp (congrArg _ ?_) next
      simp only [Herd.move, Herd.mk.injEq, true_and, and_true]
      funext call
      by_cases same : call = reader
      · subst same
        simp
      · simp [same]

/-- The calls of the list, the last of it first, finish from what all of them read. -/
def finishAll (key : Identity) (calls : ι → Call) (start : Store) (finished : List ι) : Store :=
  finished.foldr (fun call => finish key (calls call) (getWork start key)
    (newerWorkExists start key)) start

theorem reach_finishAll
    (accepted : ∀ call, declined start key (calls call).allowCachedResult = false) (all : List ι)
    (distinct : all.Nodup) (everyone : ∀ call, call ∈ all) (finished : List ι)
    (separate : finished.Nodup) :
    (enqueueHerd key calls start).Reachable
      ⟨finishAll key calls start finished, fun call => if call ∈ finished then .returned else
        .read (getWork start key) (newerWorkExists start key), none⟩ := by
  induction finished with
  | nil =>
      have read := reach_all_read accepted all distinct
      simpa only [everyone, if_true, finishAll, List.foldr_nil, List.not_mem_nil, if_false]
        using read
  | cons call finished ih =>
      rw [List.nodup_cons] at separate
      have next := reach_finish (ih separate.2) rfl (if_neg separate.1)
      refine Eq.mp (congrArg _ ?_) next
      simp only [finishAll, List.foldr_cons, Herd.mk.injEq, true_and, and_true]
      funext other
      by_cases same : other = call
      · subst same
        simp
      · simp [same]

end Schedule

section Last

variable {ι : Type} {key : Identity} {calls : ι → Call} {start store : Store}

theorem finish_update {call : Call} {newerWork : Bool} {item row : WorkItem}
    (pending : item.state = .pending) (found : getWork store key = some row)
    (same : row.id = item.id) :
    ∃ next, getWork (finish key call (some item) newerWork store) key = some next ∧
      next.id = row.id ∧
        next.priority = if item.priority < call.priority then call.priority else row.priority := by
  obtain ⟨after, written, next, still, number, _, priority⟩ := enqueueWrite_update call.priority
    call.now newerWork ((live_iff item).mpr (Or.inl pending)) found same
  refine ⟨next, ?_, number, priority⟩
  simp only [finish, written]
  exact still

theorem finish_insert (key : Identity) (call : Call) (store : Store) :
    ∃ item, getWork (finish key call none false store) key = some item ∧
      item.priority = call.priority := by
  simp only [finish]
  split
  · rename_i after written
    obtain ⟨item, inserted, _, priority⟩ := enqueueWrite_insert written
    exact ⟨item, inserted, priority⟩
  · rename_i violated
    simp only [enqueueWrite, Bool.false_eq_true, if_false, Option.map_eq_none_iff] at violated
    obtain ⟨row, member, same⟩ := SerialTable.insert?_eq_none.mp violated
    obtain ⟨item, assigned, _, _, priority⟩ := enqueueRaced_row call.priority call.now
      (getWork_eq_some.mpr ⟨member, same⟩)
    exact ⟨item, assigned, priority⟩

theorem newerWork_of_newest (newest : getWork start key = none → ¬ start.LiveAbove key)
    (missing : getWork start key = none) : newerWorkExists start key = false := by
  rw [← Bool.not_eq_true, newerWorkExists_iff]
  exact newest missing

/-- The row of the key after the calls of the list: there is one as soon as a call has
finished, and it is the first one where there was one. -/
theorem finishAll_row
    (pending : ∀ item, getWork start key = some item → item.state = .pending)
    (newest : getWork start key = none → ¬ start.LiveAbove key) (finished : List ι)
    (present : getWork start key ≠ none ∨ finished ≠ []) :
    ∃ row, getWork (finishAll key calls start finished) key = some row ∧
      ∀ item, getWork start key = some item → row.id = item.id := by
  cases found : getWork start key with
  | none =>
      have unborn : ∀ row item : WorkItem, none = some item → row.id = item.id :=
        fun _ _ impossible => by cases impossible
      cases finished with
      | nil => exact absurd (present.resolve_left (not_not.mpr found)) (by simp)
      | cons call finished =>
          obtain ⟨row, inserted, _⟩ := finish_insert key (calls call)
            (finishAll key calls start finished)
          refine ⟨row, ?_, unborn row⟩
          simpa only [finishAll, List.foldr_cons, found, newerWork_of_newest newest found]
            using inserted
  | some item =>
      have mine : ∀ {row : WorkItem}, row.id = item.id →
          ∀ other : WorkItem, some item = some other → row.id = other.id := by
        intro row same other equal
        cases equal
        exact same
      induction finished with
      | nil => exact ⟨item, found, mine rfl⟩
      | cons call finished ih =>
          obtain ⟨row, before, same⟩ := ih (Or.inl (by simp [found]))
          obtain ⟨next, still, number, _⟩ := @finish_update key _ (calls call)
            (newerWorkExists start key) item row (pending item found) before (same item rfl)
          refine ⟨next, ?_, mine (number.trans (same item rfl))⟩
          simpa only [finishAll, List.foldr_cons, found] using still

/-- The call that finishes last, after all have read at the start, sets its own priority
wherever that is above the first one. -/
theorem finish_last
    (pending : ∀ item, getWork start key = some item → item.state = .pending)
    (newest : getWork start key = none → ¬ start.LiveAbove key) (last : ι) (others : List ι)
    (raises : Raises key start (calls last).priority) :
    ∃ row, getWork (finishAll key calls start (last :: others)) key = some row ∧
      row.priority = (calls last).priority := by
  cases found : getWork start key with
  | none =>
      obtain ⟨row, inserted, priority⟩ := finish_insert key (calls last)
        (finishAll key calls start others)
      refine ⟨row, ?_, priority⟩
      simpa only [finishAll, List.foldr_cons, found, newerWork_of_newest newest found]
        using inserted
  | some item =>
      obtain ⟨row, before, same⟩ := @finishAll_row ι key calls start pending newest others
        (Or.inl (by simp [found]))
      obtain ⟨next, still, _, priority⟩ := @finish_update key _ (calls last)
        (newerWorkExists start key) item row (pending item found) before (same item found)
      rw [if_pos (raises item found)] at priority
      refine ⟨next, ?_, priority⟩
      simpa only [finishAll, List.foldr_cons, found] using still

theorem not_herded_of_missing {after : Store} (missing : getWork after key = none) :
    ¬ Herded key calls start after := by
  intro herded
  obtain ⟨item, only, _⟩ := herded
  obtain ⟨member, same⟩ := (only item).mpr rfl
  exact getWork_eq_none.mp missing item member same

theorem finishAll_idle (missing : getWork start key = none) (above : start.LiveAbove key)
    (finished : List ι) : finishAll key calls start finished = start := by
  have newer := newerWorkExists_iff.mpr above
  induction finished with
  | nil => rfl
  | cons call finished ih =>
      simp only [finishAll, List.foldr_cons] at ih ⊢
      rw [ih, missing, newer]
      rfl

end Last

section Necessity

variable {ι : Type} [DecidableEq ι] {key : Identity} {calls : ι → Call} {start : Store}

/-- Every interleaving of the calls leaves one pending item of the greatest priority. -/
def AlwaysHerded (key : Identity) (calls : ι → Call) (start : Store) : Prop :=
  ∀ final, (enqueueHerd key calls start).Reachable final → final.complete →
    Herded key calls start final.store

theorem AlwaysHerded.finishAll (herded : AlwaysHerded key calls start)
    (uncached : getResult start key = none) {finished : List ι} (separate : finished.Nodup)
    (everyone : ∀ call, call ∈ finished) :
    Herded key calls start (finishAll key calls start finished) := by
  have accepted : ∀ call, declined start key (calls call).allowCachedResult = false := by
    intro call
    simp [declined, uncached]
  have reached := reach_finishAll accepted finished separate everyone finished separate
  apply herded _ reached
  intro call
  exact if_pos (everyone call)

theorem AlwaysHerded.asked (herded : AlwaysHerded key calls start)
    (missing : getWork start key = none) : Nonempty ι := by
  by_contra nobody
  have idle := herded _ .initial (fun call => absurd ⟨call⟩ nobody)
  exact not_herded_of_missing missing idle

variable [Fintype ι]

theorem AlwaysHerded.newest (herded : AlwaysHerded key calls start)
    (uncached : getResult start key = none) (missing : getWork start key = none) :
    ¬ start.LiveAbove key := by
  intro above
  have left := herded.finishAll uncached (Finset.nodup_toList Finset.univ)
    (fun call => Finset.mem_toList.mpr (Finset.mem_univ call))
  rw [finishAll_idle missing above] at left
  exact not_herded_of_missing missing left

/-- Any call can finish last after all have read, so none may ask for less than another. -/
theorem AlwaysHerded.not_below (herded : AlwaysHerded key calls start)
    (uncached : getResult start key = none)
    (pending : ∀ item, getWork start key = some item → item.state = .pending) {last other : ι}
    (raises : Raises key start (calls last).priority) :
    ¬ (calls last).priority < (calls other).priority := by
  intro below
  have separate : (last :: (Finset.univ.erase last).toList).Nodup :=
    List.nodup_cons.mpr ⟨by simp, Finset.nodup_toList _⟩
  have everyone : ∀ call, call ∈ last :: (Finset.univ.erase last).toList := by
    intro call
    by_cases same : call = last <;> simp [same]
  have left := herded.finishAll uncached separate everyone
  obtain ⟨row, found, priority⟩ := finish_last pending (herded.newest uncached) last
    (Finset.univ.erase last).toList raises
  obtain ⟨item, only, _, _, greatest⟩ := left
  have same := (only row).mp (getWork_eq_some.mp found)
  have bound := greatest (Or.inr ⟨other, rfl⟩)
  rw [← same, priority] at bound
  omega

/-- Every interleaving leaves the greatest priority only where the priorities above the
first one agree. -/
theorem AlwaysHerded.agreeing (herded : AlwaysHerded key calls start)
    (uncached : getResult start key = none)
    (pending : ∀ item, getWork start key = some item → item.state = .pending) :
    Agreeing key calls start := by
  refine ⟨herded.asked, herded.newest uncached, ?_⟩
  intro first second firstRaises secondRaises
  have left : ¬ (calls first).priority < (calls second).priority :=
    herded.not_below uncached pending firstRaises
  have right : ¬ (calls second).priority < (calls first).priority :=
    herded.not_below uncached pending secondRaises
  omega

end Necessity

/-- Every interleaving of the calls ends with one pending item of the greatest priority if
and only if the priorities above the first one agree. -/
theorem herd_priority_iff {ι : Type} [DecidableEq ι] [Fintype ι] (key : Identity)
    (calls : ι → Call) (start : Store) (uncached : getResult start key = none)
    (waiting : ∀ item, getWork start key = some item → item.state = .pending) :
    (∀ final, (enqueueHerd key calls start).Reachable final → final.complete →
        Herded key calls start final.store) ↔ Agreeing key calls start := by
  constructor
  · intro herded
    exact AlwaysHerded.agreeing herded uncached waiting
  · intro agreeing final reached complete
    exact herded_of_agreeing agreeing uncached waiting reached complete

theorem herd_priority_equal :
    Agreeing (articleKey 10) (fun _ : Bool => Call.mk 100 false 0) Store.empty ∧
      ∀ final, (enqueueHerd (articleKey 10) (fun _ : Bool => Call.mk 100 false 0)
          Store.empty).Reachable final → final.complete →
        Herded (articleKey 10) (fun _ : Bool => Call.mk 100 false 0) Store.empty final.store := by
  have agreeing : Agreeing (articleKey 10) (fun _ : Bool => Call.mk 100 false 0) Store.empty := by
    refine ⟨fun _ => ⟨true⟩, ?_, fun _ _ _ _ => rfl⟩
    intro _ above
    obtain ⟨item, member, _⟩ := above
    cases member
  have herded := herd_priority_iff (articleKey 10) (fun _ : Bool => Call.mk 100 false 0)
    Store.empty rfl (fun _ found => by cases found)
  exact ⟨agreeing, herded.mpr agreeing⟩

/-- A backfill that loses the race to insert lowers the priority of a reader's item. -/
theorem herd_priority_lowered :
    ¬ ∀ (ι : Type) [DecidableEq ι] [Fintype ι] [Nonempty ι] (key : Identity) (calls : ι → Call)
        (start : Store), getResult start key = none →
      (∀ item, getWork start key = some item → item.state = .pending) →
        ∀ final, (enqueueHerd key calls start).Reachable final → final.complete →
          Herded key calls start final.store := by
  intro claimed
  have lowered : ∃ final, (enqueueHerd (articleKey 10)
        (fun reader : Bool => Call.mk (if reader then 100 else 10) false 0)
        Store.empty).Reachable final ∧
      ((∀ call, final.phase call = .returned) ∧
        (getWork final.store (articleKey 10)).map WorkItem.priority = some 10) :=
    Machine.exists_of_run
      [true, true, true, false, false, false, true, true, false, false, false]
      (by decide)
  obtain ⟨final, reached, complete, row⟩ := lowered
  obtain ⟨item, found, priority⟩ := Option.map_eq_some_iff.mp row
  obtain ⟨left, only, _, greatest⟩ := claimed Bool (articleKey 10)
    (fun reader => Call.mk (if reader then 100 else 10) false 0) Store.empty rfl
    (fun _ found => by cases found) final reached complete
  have same : item = left := (only item).mp (getWork_eq_some.mp found)
  have bound := greatest.2 (Or.inr ⟨true, rfl⟩)
  rw [← same, priority] at bound
  exact absurd bound (by decide)

end WikiPeople
