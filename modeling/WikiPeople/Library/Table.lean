import Mathlib.Data.List.MinMax
import Mathlib.Data.List.Nodup

/-! Keyed tables: lists of rows that carry the proof that no key occurs twice. A plain
table is also an insertion-ordered dictionary. A serial table numbers its rows as well and
never gives out a number again. -/

namespace Relational

class Keyed (Row : Type) (Key : outParam Type) where
  key : Row → Key

class Numbered (Row : Type) where
  number : Row → Nat

open Keyed Numbered

variable {Row Key : Type}

structure Table (Row : Type) {Key : Type} [Keyed Row Key] where
  rows : List Row
  unique : (rows.map key).Nodup

namespace Table

variable [Keyed Row Key]

def empty : Table Row := ⟨[], List.nodup_nil⟩

theorem eq_of_rows {first second : Table Row} (same : first.rows = second.rows) :
    first = second := by
  cases first
  cases second
  cases same
  rfl

theorem row_of_key {table : Table Row} {first second : Row} (left : first ∈ table.rows)
    (right : second ∈ table.rows) (same : key first = key second) : first = second :=
  List.inj_on_of_nodup_map table.unique left right same

def find [DecidableEq Key] (table : Table Row) (wanted : Key) : Option Row :=
  table.rows.find? (fun row => decide (key row = wanted))

theorem find_eq_none [DecidableEq Key] {table : Table Row} {wanted : Key} :
    table.find wanted = none ↔ ∀ row ∈ table.rows, key row ≠ wanted := by
  simp [find]

theorem find_eq_some [DecidableEq Key] {table : Table Row} {wanted : Key} {row : Row} :
    table.find wanted = some row ↔ row ∈ table.rows ∧ key row = wanted := by
  constructor
  · intro found
    exact ⟨List.mem_of_find?_eq_some found, by simpa using List.find?_some found⟩
  · rintro ⟨member, same⟩
    cases search : table.find wanted with
    | none => exact absurd same (find_eq_none.mp search row member)
    | some other =>
        have present := List.mem_of_find?_eq_some search
        have sameKey : key other = wanted := by simpa using List.find?_some search
        rw [row_of_key present member (sameKey.trans same.symm)]

def delete (table : Table Row) (condition : Row → Bool) : Table Row where
  rows := table.rows.filter (fun row => !condition row)
  unique := table.unique.sublist (List.filter_sublist.map key)

@[simp] theorem mem_delete {table : Table Row} {condition : Row → Bool} {row : Row} :
    row ∈ (table.delete condition).rows ↔ row ∈ table.rows ∧ condition row = false := by
  simp [delete]

/-- Replace the row with `row`'s key where it stands, or append `row`. -/
def putRow [DecidableEq Key] (row : Row) : List Row → List Row
  | [] => [row]
  | first :: rest => if key first = key row then row :: rest else first :: putRow row rest

theorem mem_putRow [DecidableEq Key] {row other : Row} {rows : List Row}
    (unique : (rows.map key).Nodup) :
    other ∈ putRow row rows ↔ other = row ∨ (other ∈ rows ∧ key other ≠ key row) := by
  induction rows with
  | nil => simp [putRow]
  | cons first rest ih =>
      simp only [List.map_cons, List.nodup_cons, List.mem_map, not_exists, not_and] at unique
      simp only [putRow]
      split
      · rename_i same
        have others : ∀ entry ∈ rest, key entry ≠ key row :=
          fun entry member => same ▸ unique.1 entry member
        constructor
        · intro member
          rcases List.mem_cons.mp member with rfl | member
          · exact Or.inl rfl
          · exact Or.inr ⟨List.mem_cons_of_mem _ member, others _ member⟩
        · rintro (rfl | ⟨member, different⟩)
          · exact List.mem_cons_self
          · rcases List.mem_cons.mp member with rfl | member
            · exact absurd same different
            · exact List.mem_cons_of_mem _ member
      · rename_i different
        rw [List.mem_cons, ih unique.2, List.mem_cons]
        constructor
        · rintro (rfl | rfl | ⟨member, apart⟩)
          · exact Or.inr ⟨Or.inl rfl, different⟩
          · exact Or.inl rfl
          · exact Or.inr ⟨Or.inr member, apart⟩
        · rintro (rfl | ⟨rfl | member, apart⟩)
          · exact Or.inr (Or.inl rfl)
          · exact Or.inl rfl
          · exact Or.inr (Or.inr ⟨member, apart⟩)

theorem putRow_unique [DecidableEq Key] (row : Row) {rows : List Row}
    (unique : (rows.map key).Nodup) : ((putRow row rows).map key).Nodup := by
  induction rows with
  | nil => simp [putRow]
  | cons first rest ih =>
      have parts := unique
      simp only [List.map_cons, List.nodup_cons, List.mem_map, not_exists, not_and] at parts
      simp only [putRow]
      split
      · rename_i same
        simpa only [List.map_cons, same] using unique
      · rename_i different
        simp only [List.map_cons, List.nodup_cons, List.mem_map, not_exists, not_and]
        refine ⟨?_, ih parts.2⟩
        intro other member
        rcases (mem_putRow parts.2).mp member with rfl | ⟨old, _⟩
        · exact fun same => different same.symm
        · exact parts.1 other old

def put [DecidableEq Key] (table : Table Row) (row : Row) : Table Row where
  rows := putRow row table.rows
  unique := putRow_unique row table.unique

theorem mem_put [DecidableEq Key] {table : Table Row} {row other : Row} :
    other ∈ (table.put row).rows ↔ other = row ∨ (other ∈ table.rows ∧ key other ≠ key row) :=
  mem_putRow table.unique

theorem find_put [DecidableEq Key] {table : Table Row} {row : Row} {wanted : Key} :
    (table.put row).find wanted = if key row = wanted then some row else table.find wanted := by
  by_cases same : key row = wanted
  · rw [if_pos same]
    exact find_eq_some.mpr ⟨mem_put.mpr (Or.inl rfl), same⟩
  · rw [if_neg same]
    cases found : table.find wanted with
    | none =>
        rw [find_eq_none] at found ⊢
        intro other member
        rcases mem_put.mp member with rfl | ⟨old, _⟩
        · exact same
        · exact found other old
    | some other =>
        obtain ⟨old, equal⟩ := find_eq_some.mp found
        refine find_eq_some.mpr ⟨mem_put.mpr (Or.inr ⟨old, ?_⟩), equal⟩
        rw [equal]
        exact Ne.symm same

theorem find_foldl_put [DecidableEq Key] {table : Table Row} {rows : List Row} {row : Row}
    (agree : ∀ other ∈ rows, key other = key row → other = row)
    (present : row ∈ rows ∨ table.find (key row) = some row) :
    (rows.foldl put table).find (key row) = some row := by
  induction rows generalizing table with
  | nil =>
      rcases present with member | found
      · cases member
      · exact found
  | cons first rest ih =>
      refine ih (fun other member => agree other (List.mem_cons_of_mem _ member)) ?_
      rw [find_put]
      by_cases same : key first = key row
      · rw [if_pos same, agree first List.mem_cons_self same]
        exact Or.inr rfl
      · rw [if_neg same]
        rcases present with member | found
        · rcases List.mem_cons.mp member with rfl | later
          · exact absurd rfl same
          · exact Or.inl later
        · exact Or.inr found

theorem mem_of_foldl_put [DecidableEq Key] {table : Table Row} {rows : List Row} {row : Row}
    (member : row ∈ (rows.foldl put table).rows) : row ∈ rows ∨ row ∈ table.rows := by
  induction rows generalizing table with
  | nil => exact Or.inr member
  | cons first rest ih =>
      rcases ih member with later | kept
      · exact Or.inl (List.mem_cons_of_mem first later)
      · rcases mem_put.mp kept with rfl | ⟨old, _⟩
        · exact Or.inl List.mem_cons_self
        · exact Or.inr old

/-- A dictionary's `setdefault`: only an absent key is set. -/
def putDefault [DecidableEq Key] (table : Table Row) (row : Row) : Table Row :=
  match table.find (key row) with
  | none => table.put row
  | some _ => table

theorem find_putDefault [DecidableEq Key] {table : Table Row} {row : Row} {wanted : Key} :
    (table.putDefault row).find wanted =
      (table.find wanted).or (if key row = wanted then some row else none) := by
  rw [putDefault]
  cases present : table.find (key row) with
  | none =>
      dsimp only
      rw [find_put]
      by_cases same : key row = wanted
      · rw [if_pos same, ← same, present]
        simp
      · simp [same]
  | some other =>
      by_cases same : key row = wanted
      · rw [← same, present]
        rfl
      · simp [same]

theorem mem_putDefault [DecidableEq Key] {table : Table Row} {row other : Row}
    (member : other ∈ (table.putDefault row).rows) : other = row ∨ other ∈ table.rows := by
  rw [putDefault] at member
  split at member
  · exact (mem_put.mp member).imp_right And.left
  · exact Or.inr member

end Table

/-- `ORDER BY rank DESC LIMIT 1`. -/
def largest {Row Rank : Type} [LinearOrder Rank] (rank : Row → Rank) (rows : List Row) :
    Option Row :=
  rows.argmax rank

section Largest

variable {Row Rank : Type} [LinearOrder Rank] {rank : Row → Rank} {rows : List Row} {row : Row}

theorem largest_mem (found : largest rank rows = some row) : row ∈ rows :=
  List.argmax_mem found

theorem le_largest (found : largest rank rows = some row) {other : Row} (present : other ∈ rows) :
    rank other ≤ rank row :=
  List.le_of_mem_argmax present found

theorem largest_eq_none : largest rank rows = none ↔ rows = [] :=
  List.argmax_eq_none

end Largest

/-- A dictionary entry is keyed by its first component. -/
instance entryKeyed {Name Value : Type} : Keyed (Name × Value) Name := ⟨Prod.fst⟩

abbrev Dict (Name Value : Type) := Table (Name × Value)

theorem Table.find_put_entry {Name Value : Type} [DecidableEq Name] {dict : Dict Name Value}
    {name asked : Name} {value : Value} :
    (dict.put (name, value)).find asked = if name = asked then some (name, value)
      else dict.find asked :=
  Table.find_put

theorem Table.find_delete_entry {Name Value : Type} [DecidableEq Name] {dict : Dict Name Value}
    {name asked : Name} :
    (dict.delete (fun entry => entry.1 = name)).find asked =
      if asked = name then none else dict.find asked := by
  split
  · rename_i same
    rw [Table.find_eq_none]
    intro entry member (found : entry.1 = asked)
    exact of_decide_eq_false (Table.mem_delete.mp member).2 (found.trans same)
  · rename_i apart
    cases stored : dict.find asked with
    | none =>
        rw [Table.find_eq_none] at stored ⊢
        exact fun entry member => stored entry (Table.mem_delete.mp member).1
    | some entry =>
        obtain ⟨present, (name : entry.1 = asked)⟩ := Table.find_eq_some.mp stored
        refine Table.find_eq_some.mpr ⟨Table.mem_delete.mpr ⟨present, ?_⟩, name⟩
        exact decide_eq_false fun same => apart (name.symm.trans same)

theorem Table.find_put_entries {Name Value : Type} [DecidableEq Name] (value : Name → Option Value)
    (names : List Name) (asked : Name) :
    (((names.filterMap (fun name => (value name).map (Prod.mk name))).foldl Table.put
        (Table.empty : Dict Name Value)).find asked).map Prod.snd =
      if asked ∈ names then value asked else none := by
  have entries : ∀ entry : Name × Value,
      entry ∈ names.filterMap (fun name => (value name).map (Prod.mk name)) ↔
        entry.1 ∈ names ∧ value entry.1 = some entry.2 := by
    intro entry
    rw [List.mem_filterMap]
    constructor
    · rintro ⟨name, member, made⟩
      obtain ⟨found, known, rfl⟩ := Option.map_eq_some_iff.mp made
      exact ⟨member, known⟩
    · rintro ⟨member, known⟩
      exact ⟨entry.1, member, by rw [known]; rfl⟩
  cases known : if asked ∈ names then value asked else none with
  | some found =>
      obtain ⟨member, same⟩ := Option.ite_none_right_eq_some.mp known
      have put := @Table.find_foldl_put (Name × Value) Name _ _ Table.empty _ (asked, found)
        (by
          rintro ⟨name, other⟩ present equal
          obtain rfl : name = asked := equal
          have also := ((entries _).mp present).2
          rw [same] at also
          cases also
          rfl)
        (Or.inl ((entries (asked, found)).mpr ⟨member, same⟩))
      exact congrArg (Option.map Prod.snd) put
  | none =>
      rw [Option.map_eq_none_iff, Table.find_eq_none]
      rintro ⟨name, other⟩ member equal
      obtain rfl : name = asked := equal
      rcases Table.mem_of_foldl_put member with there | old
      · obtain ⟨present, same⟩ := (entries _).mp there
        rw [if_pos present, same] at known
        cases known
      · cases old

/-- What an UPDATE sets: neither the number nor the unique key of a row. -/
structure Change (Row : Type) {Key : Type} [Keyed Row Key] [Numbered Row] where
  apply : Row → Row
  key_apply : ∀ row, key (apply row) = key row
  number_apply : ∀ row, number (apply row) = number row

structure Draft (Row : Type) [Numbered Row] where
  make : Nat → Row
  number_make : ∀ given, number (make given) = given

structure SerialTable (Row : Type) {Key : Type} [Keyed Row Key] [Numbered Row]
    extends Table Row where
  next : Nat
  below : ∀ row ∈ rows, number row < next
  numbers : (rows.map number).Nodup

namespace SerialTable

variable [Keyed Row Key] [Numbered Row]

def empty : SerialTable Row where
  toTable := .empty
  next := 0
  below := by intro row member; cases member
  numbers := List.nodup_nil

theorem row_of_number {table : SerialTable Row} {first second : Row}
    (left : first ∈ table.rows) (right : second ∈ table.rows)
    (same : number first = number second) : first = second :=
  List.inj_on_of_nodup_map table.numbers left right same

theorem row_of_key {table : SerialTable Row} {first second : Row}
    (left : first ∈ table.rows) (right : second ∈ table.rows)
    (same : key first = key second) : first = second :=
  table.toTable.row_of_key left right same

def changed (condition : Row → Bool) (change : Change Row) (row : Row) : Row :=
  if condition row then change.apply row else row

@[simp] theorem key_changed (condition : Row → Bool) (change : Change Row) (row : Row) :
    key (changed condition change row) = key row := by
  unfold changed
  split
  · exact change.key_apply row
  · rfl

@[simp] theorem number_changed (condition : Row → Bool) (change : Change Row) (row : Row) :
    number (changed condition change row) = number row := by
  unfold changed
  split
  · exact change.number_apply row
  · rfl

theorem map_changed {Field : Type} (read : Row → Field) (condition : Row → Bool)
    (change : Change Row) (rows : List Row)
    (kept : ∀ row, read (changed condition change row) = read row) :
    (rows.map (changed condition change)).map read = rows.map read := by
  rw [List.map_map]
  exact List.map_congr_left (fun row _ => kept row)

def update (table : SerialTable Row) (condition : Row → Bool) (change : Change Row) :
    SerialTable Row where
  rows := table.rows.map (changed condition change)
  unique := by
    rw [map_changed key condition change _ (key_changed condition change)]
    exact table.unique
  next := table.next
  below := by
    intro row member
    obtain ⟨old, present, rfl⟩ := List.mem_map.mp member
    rw [number_changed]
    exact table.below old present
  numbers := by
    rw [map_changed number condition change _ (number_changed condition change)]
    exact table.numbers

@[simp] theorem update_next (table : SerialTable Row) (condition : Row → Bool)
    (change : Change Row) : (table.update condition change).next = table.next := rfl

theorem mem_update {table : SerialTable Row} {condition : Row → Bool} {change : Change Row}
    {row : Row} : row ∈ (table.update condition change).rows ↔
      ∃ old ∈ table.rows, changed condition change old = row :=
  List.mem_map

theorem find_update [DecidableEq Key] (table : SerialTable Row) (condition : Row → Bool)
    (change : Change Row) (wanted : Key) :
    (table.update condition change).find wanted =
      (table.find wanted).map (changed condition change) := by
  cases search : table.find wanted with
  | none =>
      apply Table.find_eq_none.mpr
      intro row member
      obtain ⟨old, present, rfl⟩ := mem_update.mp member
      rw [key_changed]
      exact Table.find_eq_none.mp search old present
  | some old =>
      obtain ⟨present, same⟩ := Table.find_eq_some.mp search
      refine Table.find_eq_some.mpr ⟨mem_update.mpr ⟨old, present, rfl⟩, ?_⟩
      rw [key_changed]
      exact same

def delete (table : SerialTable Row) (condition : Row → Bool) : SerialTable Row where
  toTable := table.toTable.delete condition
  next := table.next
  below := fun row member => table.below row (Table.mem_delete.mp member).1
  numbers := table.numbers.sublist (List.filter_sublist.map number)

@[simp] theorem delete_next (table : SerialTable Row) (condition : Row → Bool) :
    (table.delete condition).next = table.next := rfl

theorem mem_delete {table : SerialTable Row} {condition : Row → Bool} {row : Row} :
    row ∈ (table.delete condition).rows ↔ row ∈ table.rows ∧ condition row = false :=
  Table.mem_delete

/-- Append a row under the next number, or answer `none` where its key is taken. -/
def insert? [DecidableEq Key] (table : SerialTable Row) (draft : Draft Row) :
    Option (SerialTable Row) :=
  if fresh : ∀ row ∈ table.rows, key row ≠ key (draft.make table.next) then
    some
      { rows := table.rows ++ [draft.make table.next]
        unique := by
          rw [List.map_append, List.map_singleton, List.nodup_append]
          refine ⟨table.unique, List.nodup_singleton _, ?_⟩
          intro taken old other new same
          obtain ⟨row, present, rfl⟩ := List.mem_map.mp old
          rw [List.mem_singleton] at new
          exact fresh row present (same.trans new)
        next := table.next + 1
        below := by
          intro row member
          rcases List.mem_append.mp member with old | new
          · exact Nat.lt_succ_of_lt (table.below row old)
          · rw [List.mem_singleton.mp new, draft.number_make]
            exact Nat.lt_succ_self _
        numbers := by
          rw [List.map_append, List.map_singleton, List.nodup_append]
          refine ⟨table.numbers, List.nodup_singleton _, ?_⟩
          intro taken old other new same
          obtain ⟨row, present, rfl⟩ := List.mem_map.mp old
          rw [List.mem_singleton, draft.number_make] at new
          exact Nat.ne_of_lt (table.below row present) (same.trans new) }
  else none

variable [DecidableEq Key] {table grown : SerialTable Row} {draft : Draft Row}

theorem insert?_eq_none : table.insert? draft = none ↔
    ∃ row ∈ table.rows, key row = key (draft.make table.next) := by
  unfold insert?
  split
  · rename_i fresh
    simp only [reduceCtorEq, false_iff, not_exists, not_and]
    exact fresh
  · rename_i taken
    simpa only [not_forall, not_not, exists_prop, true_iff] using taken

theorem insert?_rows (inserted : table.insert? draft = some grown) :
    grown.rows = table.rows ++ [draft.make table.next] := by
  unfold insert? at inserted
  split at inserted
  · have same := Option.some.inj inserted
    subst same
    rfl
  · cases inserted

theorem insert?_next (inserted : table.insert? draft = some grown) :
    grown.next = table.next + 1 := by
  unfold insert? at inserted
  split at inserted
  · have same := Option.some.inj inserted
    subst same
    rfl
  · cases inserted

theorem mem_insert? (inserted : table.insert? draft = some grown) {row : Row} :
    row ∈ grown.rows ↔ row ∈ table.rows ∨ row = draft.make table.next := by
  rw [insert?_rows inserted, List.mem_append, List.mem_singleton]

theorem find_insert? (inserted : table.insert? draft = some grown) (wanted : Key) :
    grown.find wanted =
      if key (draft.make table.next) = wanted then some (draft.make table.next)
      else table.find wanted := by
  split
  · rename_i same
    exact Table.find_eq_some.mpr ⟨(mem_insert? inserted).mpr (Or.inr rfl), same⟩
  · rename_i other
    cases found : table.find wanted with
    | none =>
        refine Table.find_eq_none.mpr (fun row member => ?_)
        rcases (mem_insert? inserted).mp member with old | rfl
        · exact Table.find_eq_none.mp found row old
        · exact other
    | some row =>
        obtain ⟨present, same⟩ := Table.find_eq_some.mp found
        exact Table.find_eq_some.mpr ⟨(mem_insert? inserted).mpr (Or.inl present), same⟩

end SerialTable

end Relational
