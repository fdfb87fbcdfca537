import Mathlib.Logic.Function.Basic
import WikiPeople.Rows

/-! The queue without its row numbers, as a function: which item each key has. Demanding a
revision reads and changes it at the keys of the page alone. -/

namespace WikiPeople

open Relational

def WorkItem.unnumbered (item : WorkItem) : WorkItem := { item with id := 0 }

abbrev Entries := Identity → Option WorkItem

def Store.entries (store : Store) : Entries :=
  fun key => (getWork store key).map WorkItem.unnumbered

namespace Entries

def Overtaken (entries : Entries) (key : Identity) : Prop :=
  ∃ other : Identity, other.toPageKey = key.toPageKey ∧ key.revisionId < other.revisionId ∧
    ∃ item, entries other = some item ∧ item.live = true

def supersedeOlder (entries : Entries) (key : Identity) (now : Time) : Entries :=
  fun other => (entries other).map (SerialTable.changed (olderPending key) (obsoleted now))

open Classical in
/-- What `enqueue` makes of the entries when it may not rely on a stored result. -/
noncomputable def demand (entries : Entries) (key : Identity) (priority : Int) (now : Time) :
    Entries :=
  match entries key with
  | none =>
      if entries.Overtaken key then entries
      else
        supersedeOlder (Function.update entries key (some ((newWork key priority now).make 0)))
          key now
  | some item =>
      if item.live then
        supersedeOlder
          (Function.update entries key (some ((boosted item priority now).apply item))) key now
      else supersedeOlder entries key now

end Entries

section Refinement

variable {store : Store} {key : Identity} {priority : Int} {now : Time}

theorem entries_eq_some {item : WorkItem} : store.entries key = some item ↔
    ∃ row ∈ store.work.rows, row.toIdentity = key ∧ row.unnumbered = item := by
  simp only [Store.entries, Option.map_eq_some_iff, getWork_eq_some]
  exact exists_congr (fun row => and_assoc)

theorem entries_eq_none : store.entries key = none ↔ getWork store key = none :=
  Option.map_eq_none_iff

theorem entries_overtaken : store.entries.Overtaken key ↔ store.LiveAbove key := by
  constructor
  · rintro ⟨other, page, later, item, found, live⟩
    obtain ⟨row, present, rfl, rfl⟩ := entries_eq_some.mp found
    exact ⟨row, present, page, later, live⟩
  · rintro ⟨row, present, page, later, live⟩
    exact ⟨row.toIdentity, page, later, row.unnumbered,
      entries_eq_some.mpr ⟨row, present, rfl, rfl⟩, live⟩

theorem unnumbered_changed (item : WorkItem) :
    (SerialTable.changed (olderPending key) (obsoleted now) item).unnumbered =
      SerialTable.changed (olderPending key) (obsoleted now) item.unnumbered := by
  have same : olderPending key item.unnumbered = olderPending key item := rfl
  rw [SerialTable.changed, SerialTable.changed, same]
  split <;> rfl

theorem entries_supersedeOlder (store : Store) (key : Identity) (now : Time) :
    (supersedeOlder store key now).entries = store.entries.supersedeOlder key now := by
  funext other
  rw [Store.entries, getWork, supersedeOlder, Store.updateWork, SerialTable.find_update,
    Entries.supersedeOlder, Store.entries, Option.map_map, Option.map_map]
  exact congrArg (fun change => Option.map change _) (funext unnumbered_changed)

theorem entries_inserted {grown : SerialTable WorkItem}
    (added : store.work.insert? (newWork key priority now) = some grown) :
    Store.entries { store with work := grown } =
      Function.update store.entries key (some ((newWork key priority now).make 0)) := by
  have made : Keyed.key ((newWork key priority now).make store.work.next) = key := rfl
  funext other
  rw [Store.entries, getWork, SerialTable.find_insert? added, made]
  by_cases same : other = key
  · subst same
    rw [if_pos rfl, Function.update_self]
    rfl
  · rw [if_neg (fun equal => same (Eq.symm equal)), Function.update_of_ne same]
    rfl

theorem entries_boosted {item : WorkItem} (found : getWork store key = some item) :
    (store.updateWork (fun row => row.id = item.id) (boosted item priority now)).entries =
      Function.update store.entries key
        (some ((boosted item.unnumbered priority now).apply item.unnumbered)) := by
  obtain ⟨present, same⟩ := getWork_eq_some.mp found
  funext other
  rw [Store.entries, getWork, Store.updateWork, SerialTable.find_update]
  by_cases equal : other = key
  · subst equal
    rw [getWork] at found
    rw [found, Function.update_self]
    simp only [SerialTable.changed, Option.map_some, decide_true, if_true]
    rfl
  · rw [Function.update_of_ne equal, Store.entries]
    change ((getWork store other).map _).map _ = (getWork store other).map _
    cases another : getWork store other with
    | none => rfl
    | some row =>
        obtain ⟨there, key_⟩ := getWork_eq_some.mp another
        have apart : row.id ≠ item.id := by
          intro number
          have one := SerialTable.row_of_number there present number
          exact equal (key_.symm.trans ((congrArg WorkItem.toIdentity one).trans same))
        simp only [SerialTable.changed, Option.map_some, apart, decide_false, Bool.false_eq_true,
          if_false]

theorem entries_enqueue (store : Store) (key : Identity) (priority : Int) (now : Time) :
    (enqueue store key priority true now).entries = store.entries.demand key priority now := by
  have outcome := enqueue_outcome store key priority true now
  generalize enqueue store key priority true now = after at outcome ⊢
  cases outcome with
  | cached refuses stored => cases refuses
  | overtaken missing newer =>
      rw [Entries.demand, entries_eq_none.mpr missing]
      dsimp only
      rw [if_pos (entries_overtaken.mpr newer)]
  | inserted uncached missing newest grown added =>
      rw [Entries.demand, entries_eq_none.mpr missing]
      dsimp only
      rw [if_neg (entries_overtaken.not.mpr newest), entries_supersedeOlder,
        entries_inserted added]
  | boosted uncached item found live =>
      have entry : store.entries key = some item.unnumbered := by rw [Store.entries, found]; rfl
      have lively : item.unnumbered.live = true := live
      rw [Entries.demand, entry]
      dsimp only
      rw [if_pos lively, entries_supersedeOlder, entries_boosted found]
  | left uncached item found ended =>
      have entry : store.entries key = some item.unnumbered := by rw [Store.entries, found]; rfl
      have over_ : item.unnumbered.live = false := ended
      rw [Entries.demand, entry]
      dsimp only
      rw [if_neg (by rw [over_]; exact Bool.false_ne_true), entries_supersedeOlder]

end Refinement

namespace Entries

variable {entries first second : Entries} {key other : Identity} {priority : Int} {now : Time}

def Keyed (entries : Entries) : Prop :=
  ∀ key item, entries key = some item → item.toIdentity = key

theorem keyed_entries (store : Store) : store.entries.Keyed := by
  intro key item found
  obtain ⟨row, _, same, rfl⟩ := entries_eq_some.mp found
  exact same

theorem supersedeOlder_others (keyed : entries.Keyed)
    (elsewhere : other.toPageKey ≠ key.toPageKey) :
    entries.supersedeOlder key now other = entries other := by
  rw [supersedeOlder]
  cases found : entries other with
  | none => rfl
  | some item =>
      have page : item.toPageKey = other.toPageKey :=
        congrArg Identity.toPageKey (keyed other item found)
      have skipped : olderPending key item = false := by
        simp [olderPending, page, elsewhere]
      rw [Option.map_some, changed_not skipped]

theorem keyed_update (keyed : entries.Keyed) {item : WorkItem} (same : item.toIdentity = key) :
    Keyed (Function.update entries key (some item)) := by
  intro wanted row found
  by_cases equal : wanted = key
  · subst equal
    rw [Function.update_self] at found
    rw [← Option.some.inj found, same]
  · rw [Function.update_of_ne equal] at found
    exact keyed wanted row found

theorem demand_others (keyed : entries.Keyed) (elsewhere : other.toPageKey ≠ key.toPageKey) :
    entries.demand key priority now other = entries other := by
  have apart : other ≠ key := fun same => elsewhere (congrArg Identity.toPageKey same)
  cases found : entries key with
  | none =>
      simp only [demand, found]
      split
      · rfl
      · have fresh : ((newWork key priority now).make 0).toIdentity = key := rfl
        rw [supersedeOlder_others (keyed_update keyed fresh) elsewhere,
          Function.update_of_ne apart]
  | some item =>
      simp only [demand, found]
      split
      · have raised : ((boosted item priority now).apply item).toIdentity = key :=
          keyed key item found
        rw [supersedeOlder_others (keyed_update keyed raised) elsewhere,
          Function.update_of_ne apart]
      · exact supersedeOlder_others keyed elsewhere

theorem overtaken_congr
    (same : ∀ other : Identity, other.toPageKey = key.toPageKey → first other = second other) :
    first.Overtaken key ↔ second.Overtaken key := by
  refine exists_congr (fun other => and_congr_right (fun page => ?_))
  rw [same other page]

theorem demand_congr
    (same : ∀ other : Identity, other.toPageKey = key.toPageKey → first other = second other)
    (page : other.toPageKey = key.toPageKey) :
    first.demand key priority now other = second.demand key priority now other := by
  have updated : ∀ entry, Function.update first key entry other =
      Function.update second key entry other := by
    intro entry
    simp only [Function.update_apply, same other page]
  have marked : ∀ entry,
      supersedeOlder (Function.update first key entry) key now other =
        supersedeOlder (Function.update second key entry) key now other :=
    fun entry => congrArg (Option.map _) (updated entry)
  unfold demand
  rw [← same key rfl]
  cases first key with
  | none =>
      dsimp only
      by_cases newer : first.Overtaken key
      · rw [if_pos newer, if_pos ((overtaken_congr same).mp newer), same other page]
      · rw [if_neg newer, if_neg (fun newer' => newer ((overtaken_congr same).mpr newer'))]
        exact marked _
  | some item =>
      dsimp only
      cases item.live with
      | true => exact marked _
      | false => exact congrArg (Option.map _) (same other page)

end Entries

end WikiPeople
