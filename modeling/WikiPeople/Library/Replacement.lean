import WikiPeople.Library.Table
import Mathlib.Data.Finset.Card

/-! Full replacement: the rows of a scope are made to match a list, and what the reported
counts say about it. -/

namespace Relational

open Keyed

variable {Row Key : Type} [Keyed Row Key] [DecidableEq Key]

namespace Table

variable {table : Table Row} {fresh : List Row} {row : Row}

theorem mem_foldl_put (distinct : (fresh.map key).Nodup) :
    row ∈ (fresh.foldl put table).rows ↔
      row ∈ fresh ∨ (row ∈ table.rows ∧ ∀ other ∈ fresh, key row ≠ key other) := by
  induction fresh generalizing table with
  | nil => simp
  | cons first rest ih =>
      simp only [List.map_cons, List.nodup_cons, List.mem_map, not_exists, not_and] at distinct
      rw [List.foldl_cons, ih distinct.2, mem_put, List.mem_cons, List.forall_mem_cons]
      constructor
      · rintro (later | ⟨rfl | ⟨old, apart⟩, others⟩)
        · exact Or.inl (Or.inr later)
        · exact Or.inl (Or.inl rfl)
        · exact Or.inr ⟨old, apart, others⟩
      · rintro ((rfl | later) | ⟨old, apart, others⟩)
        · refine Or.inr ⟨Or.inl rfl, ?_⟩
          intro other member same
          exact distinct.1 other member same.symm
        · exact Or.inl later
        · exact Or.inr ⟨Or.inr ⟨old, apart⟩, others⟩

def keysIn (table : Table Row) (scope : Row → Bool) : List Key :=
  (table.rows.filter scope).map key

omit [DecidableEq Key] in
theorem keysIn_nodup (table : Table Row) (scope : Row → Bool) : (table.keysIn scope).Nodup :=
  table.unique.sublist (List.filter_sublist.map key)

omit [DecidableEq Key] in
theorem mem_keysIn {scope : Row → Bool} {wanted : Key} :
    wanted ∈ table.keysIn scope ↔
      ∃ row ∈ table.rows, scope row = true ∧ key row = wanted := by
  simp [keysIn, and_assoc]

end Table

theorem mem_byName {Name Value : Type} [DecidableEq Name] {name : Value → Name}
    {values : List Value} (distinct : (values.map name).Nodup) {entry : Name × Value} :
    entry ∈ (values.foldl (fun (table : Dict Name Value) value => table.put (name value, value))
        Table.empty).rows ↔ entry.2 ∈ values ∧ entry.1 = name entry.2 := by
  have named : ((values.map (fun value => (name value, value))).map key).Nodup := by
    rw [List.map_map]
    exact distinct
  have rows := @Table.mem_foldl_put _ _ _ _ (Table.empty : Dict Name Value) _ entry named
  rw [List.foldl_map] at rows
  rw [rows, List.mem_map]
  constructor
  · rintro (⟨value, member, rfl⟩ | ⟨none, _⟩)
    · exact ⟨member, rfl⟩
    · cases none
  · rintro ⟨member, same⟩
    exact Or.inl ⟨entry.2, member, Prod.ext same.symm rfl⟩

theorem length_byName {Name Value : Type} [DecidableEq Name] {name : Value → Name}
    {values : List Value} (distinct : (values.map name).Nodup) :
    (values.foldl (fun (table : Dict Name Value) value => table.put (name value, value))
        Table.empty).rows.length = values.length := by
  have keys := (values.foldl (fun (table : Dict Name Value) value =>
    table.put (name value, value)) Table.empty).unique
  have same : List.Perm
      ((values.foldl (fun (table : Dict Name Value) value => table.put (name value, value))
        Table.empty).rows.map key) (values.map name) := by
    rw [List.perm_ext_iff_of_nodup keys distinct]
    intro wanted
    simp only [List.mem_map, mem_byName distinct]
    constructor
    · rintro ⟨entry, ⟨present, same⟩, rfl⟩
      exact ⟨entry.2, present, same.symm⟩
    · rintro ⟨value, present, rfl⟩
      exact ⟨(name value, value), ⟨present, rfl⟩, rfl⟩
  simpa only [List.length_map] using same.length_eq

/-- The difference of two lists as sets, of which the first has no entry twice. -/
def onlyIn (first second : List Key) : List Key := first.filter (fun entry => entry ∉ second)

theorem length_add_onlyIn {first second : List Key} (left : first.Nodup) (right : second.Nodup) :
    first.length + (onlyIn second first).length = second.length + (onlyIn first second).length := by
  have union : ∀ {one other : List Key}, one.Nodup → other.Nodup →
      one.length + (onlyIn other one).length = (other.toFinset ∪ one.toFinset).card := by
    intro one other distinct others
    have difference : (onlyIn other one).toFinset = other.toFinset \ one.toFinset := by
      ext entry
      simp [onlyIn]
    have only : (onlyIn other one).Nodup := others.filter _
    calc one.length + (onlyIn other one).length
        = one.toFinset.card + (onlyIn other one).toFinset.card := by
          rw [List.toFinset_card_of_nodup distinct, List.toFinset_card_of_nodup only]
      _ = (other.toFinset \ one.toFinset).card + one.toFinset.card := by
          rw [difference, Nat.add_comm]
      _ = (other.toFinset ∪ one.toFinset).card := Finset.card_sdiff_add_card _ _
  rw [union left right, union right left, Finset.union_comm]

section Replace

variable {table : Table Row} {fresh : List Row} {scope unlisted : Row → Bool} {row : Row}

/-- A replacement of a scope that is a property of keys: the fresh rows have distinct keys
in it, and the rows of it that are deleted first are those that no fresh row replaces. -/
structure Replaces (table : Table Row) (fresh : List Row) (scope unlisted : Row → Bool) :
    Prop where
  byKey : ∀ first second : Row, key first = key second → scope first = scope second
  distinct : (fresh.map key).Nodup
  inside : ∀ row ∈ fresh, scope row = true
  dropped : ∀ row ∈ table.rows, unlisted row = true ↔
    scope row = true ∧ ∀ other ∈ fresh, key row ≠ key other

variable (replaces : Replaces table fresh scope unlisted)
include replaces

theorem Replaces.mem_rows :
    row ∈ (fresh.foldl Table.put (table.delete unlisted)).rows ↔
      row ∈ fresh ∨ (row ∈ table.rows ∧ scope row = false) := by
  rw [Table.mem_foldl_put replaces.distinct, Table.mem_delete]
  constructor
  · rintro (new | ⟨⟨old, kept⟩, apart⟩)
    · exact Or.inl new
    · refine Or.inr ⟨old, ?_⟩
      cases inside : scope row with
      | false => rfl
      | true =>
          rw [(replaces.dropped row old).mpr ⟨inside, apart⟩] at kept
          cases kept
  · rintro (new | ⟨old, outside⟩)
    · exact Or.inl new
    · have apart : ∀ other ∈ fresh, key row ≠ key other := by
        intro other member same
        have inside := replaces.inside other member
        rw [← replaces.byKey row other same, outside] at inside
        cases inside
      refine Or.inr ⟨⟨old, ?_⟩, apart⟩
      cases dropped : unlisted row with
      | false => rfl
      | true =>
          have inside := ((replaces.dropped row old).mp dropped).1
          rw [outside] at inside
          cases inside

theorem Replaces.mem_outside (outside : scope row = false) :
    row ∈ (fresh.foldl Table.put (table.delete unlisted)).rows ↔ row ∈ table.rows := by
  rw [replaces.mem_rows]
  constructor
  · rintro (new | ⟨old, _⟩)
    · rw [replaces.inside row new] at outside
      cases outside
    · exact old
  · intro old
    exact Or.inr ⟨old, outside⟩

theorem Replaces.perm_keys :
    ((fresh.foldl Table.put (table.delete unlisted)).keysIn scope).Perm (fresh.map key) := by
  rw [List.perm_ext_iff_of_nodup (Table.keysIn_nodup _ scope) replaces.distinct]
  intro wanted
  rw [Table.mem_keysIn, List.mem_map]
  simp only [replaces.mem_rows]
  constructor
  · rintro ⟨row, new | ⟨_, outside⟩, inside, rfl⟩
    · exact ⟨row, new, rfl⟩
    · rw [outside] at inside
      cases inside
  · rintro ⟨row, new, rfl⟩
    exact ⟨row, Or.inl new, replaces.inside row new, rfl⟩

theorem Replaces.added :
    (fresh.filter (fun row => (table.find (key row)).isNone)).length =
      (onlyIn ((fresh.foldl Table.put (table.delete unlisted)).keysIn scope)
        (table.keysIn scope)).length := by
  have unknown : ∀ row ∈ fresh,
      (table.find (key row)).isNone = decide (key row ∉ table.keysIn scope) := by
    intro row member
    rw [Bool.eq_iff_iff, Option.isNone_iff_eq_none, Table.find_eq_none, decide_eq_true_eq,
      Table.mem_keysIn]
    constructor
    · rintro absent ⟨old, present, _, same⟩
      exact absent old present same
    · intro absent old present same
      refine absent ⟨old, present, ?_, same⟩
      rw [replaces.byKey old row same]
      exact replaces.inside row member
  calc (fresh.filter (fun row => (table.find (key row)).isNone)).length
      = (fresh.filter (fun row => key row ∉ table.keysIn scope)).length := by
        rw [List.filter_congr unknown]
    _ = (onlyIn (fresh.map key) (table.keysIn scope)).length := by
        rw [onlyIn, List.filter_map, List.length_map]
        rfl
    _ = _ := (replaces.perm_keys.filter _).length_eq.symm

theorem Replaces.removed :
    (table.rows.filter unlisted).length =
      (onlyIn (table.keysIn scope)
        ((fresh.foldl Table.put (table.delete unlisted)).keysIn scope)).length := by
  have gone : ∀ row ∈ table.rows, unlisted row =
      (decide (key row ∉ (fresh.foldl Table.put (table.delete unlisted)).keysIn scope) &&
        scope row) := by
    intro row member
    rw [Bool.eq_iff_iff, replaces.dropped row member, Bool.and_eq_true, decide_eq_true_eq,
      replaces.perm_keys.mem_iff, List.mem_map]
    constructor
    · rintro ⟨inside, apart⟩
      refine ⟨?_, inside⟩
      rintro ⟨other, new, same⟩
      exact apart other new same.symm
    · rintro ⟨apart, inside⟩
      refine ⟨inside, ?_⟩
      intro other new same
      exact apart ⟨other, new, same.symm⟩
  generalize (fresh.foldl Table.put (table.delete unlisted)).keysIn scope = kept at gone ⊢
  calc (table.rows.filter unlisted).length
      = ((table.rows.filter scope).filter (fun row => key row ∉ kept)).length := by
        rw [List.filter_congr gone, ← List.filter_filter]
    _ = (onlyIn (table.keysIn scope) kept).length := by
        rw [onlyIn, Table.keysIn, List.filter_map, List.length_map]
        rfl

theorem Replaces.total :
    (table.keysIn scope).length + (fresh.filter (fun row => (table.find (key row)).isNone)).length =
      fresh.length + (table.rows.filter unlisted).length := by
  rw [replaces.added, replaces.removed, length_add_onlyIn (table.keysIn_nodup scope)
    (Table.keysIn_nodup _ scope)]
  rw [replaces.perm_keys.length_eq, List.length_map]

end Replace

theorem replaces_dict {Row Scope Name Value : Type} [Keyed Row (Scope × Name)]
    [DecidableEq Scope] [DecidableEq Name] (table : Table Row) (wanted : Dict Name Value)
    (scope : Scope) (make : Name × Value → Row)
    (own : ∀ entry ∈ wanted.rows, key (make entry) = (scope, entry.1)) :
    Replaces table (wanted.rows.map make) (fun row => (key row).1 = scope)
      (fun row => (key row).1 = scope && (wanted.find (key row).2).isNone) where
  byKey := by
    intro first second same
    rw [same]
  distinct := by
    have keys : (wanted.rows.map make).map key =
        wanted.rows.map (fun entry => (scope, entry.1)) := by
      rw [List.map_map]
      exact List.map_congr_left own
    apply List.Nodup.of_map Prod.snd
    rw [keys, List.map_map]
    exact wanted.unique
  inside := by
    intro row member
    obtain ⟨entry, present, rfl⟩ := List.mem_map.mp member
    rw [own entry present]
    exact decide_eq_true rfl
  dropped := by
    intro row _
    rw [Bool.and_eq_true, Option.isNone_iff_eq_none, Table.find_eq_none]
    apply and_congr_right
    intro inside
    have same : (key row).1 = scope := of_decide_eq_true inside
    constructor
    · intro absent other member equal
      obtain ⟨entry, present, rfl⟩ := List.mem_map.mp member
      rw [own entry present] at equal
      exact absent entry present (congrArg Prod.snd equal).symm
    · intro apart entry present equal
      refine apart _ (List.mem_map.mpr ⟨entry, present, rfl⟩) ?_
      rw [own entry present]
      exact Prod.ext same equal.symm

/-- What a replaced scope holds under a key, and what any other holds. -/
theorem find_replaced {Row Scope Name Value : Type} [Keyed Row (Scope × Name)]
    [DecidableEq Scope] [DecidableEq Name] (table : Table Row) (wanted : Dict Name Value)
    (scope : Scope) (make : Name × Value → Row)
    (own : ∀ entry ∈ wanted.rows, key (make entry) = (scope, entry.1)) (asked : Scope × Name) :
    ((wanted.rows.map make).foldl Table.put (table.delete
      (fun row => (key row).1 = scope && (wanted.find (key row).2).isNone))).find asked =
      if asked.1 = scope then (wanted.find asked.2).map make else table.find asked := by
  have rows := fun row => @Replaces.mem_rows _ _ _ _ _ _ _ _ row
    (replaces_dict table wanted scope make own)
  split
  · rename_i inside
    cases listed : wanted.find asked.2 with
    | none =>
        rw [Option.map_none, Table.find_eq_none]
        intro row member same
        rcases (rows row).mp member with new | ⟨_, outside⟩
        · obtain ⟨entry, present, rfl⟩ := List.mem_map.mp new
          rw [own entry present] at same
          exact Table.find_eq_none.mp listed entry present (congrArg Prod.snd same)
        · exact of_decide_eq_false outside (same ▸ inside)
    | some entry =>
        obtain ⟨present, name⟩ := Table.find_eq_some.mp listed
        rw [Option.map_some, Table.find_eq_some]
        refine ⟨(rows _).mpr (Or.inl (List.mem_map.mpr ⟨entry, present, rfl⟩)), ?_⟩
        rw [own entry present]
        exact Prod.ext inside.symm name
  · rename_i outside
    have apart : ∀ row : Row, key row = asked → decide ((key row).1 = scope) = false :=
      fun row same => decide_eq_false (same ▸ outside)
    cases stored : table.find asked with
    | none =>
        rw [Table.find_eq_none]
        intro row member same
        rcases (rows row).mp member with new | ⟨old, _⟩
        · obtain ⟨entry, present, rfl⟩ := List.mem_map.mp new
          rw [own entry present] at same
          exact outside (congrArg Prod.fst same).symm
        · exact Table.find_eq_none.mp stored row old same
    | some row =>
        obtain ⟨old, same⟩ := Table.find_eq_some.mp stored
        exact Table.find_eq_some.mpr ⟨(rows row).mpr (Or.inr ⟨old, apart row same⟩), same⟩

theorem find_byName {Name Value : Type} [DecidableEq Name] (name : Value → Name)
    (values : List Value) (asked : Name) :
    ((values.foldl (fun (table : Dict Name Value) value => table.put (name value, value))
        Table.empty).find asked) =
      ((values.filter (fun value => name value = asked)).getLast?).map
        (fun value => (asked, value)) := by
  induction values using List.reverseRecOn with
  | nil => rfl
  | append_singleton values value ih =>
      rw [List.foldl_append, List.foldl_cons, List.foldl_nil, Table.find_put_entry,
        List.filter_append]
      by_cases same : name value = asked
      · rw [if_pos same, List.filter_cons_of_pos (by simp [same]), List.filter_nil,
          List.getLast?_concat, Option.map_some, same]
      · rw [if_neg same, ih, List.filter_cons_of_neg (by simp [same]), List.filter_nil,
          List.append_nil]

end Relational
