import Mathlib.Data.List.Sort
import Mathlib.Data.List.Nodup

/-! Keyset pagination: `WHERE rank < bound ORDER BY rank DESC LIMIT size`, resumed after the
last row of a batch, neither skips a row nor repeats one. -/

namespace Relational

section Keyset

variable {Row Rank : Type} [LinearOrder Rank] (rank : Row → Rank)

/-- `ORDER BY rank DESC`. -/
def descending (rows : List Row) : List Row :=
  rows.mergeSort (fun first second => rank second ≤ rank first)

/-- `rank < bound`, and every row where there is no bound. -/
def below (bound : Option Rank) (row : Row) : Bool := bound.all (fun mark => rank row < mark)

def batchBelow (bound : Option Rank) (size : Nat) (rows : List Row) : List Row :=
  (descending rank (rows.filter (below rank bound))).take size

variable {rank} {rows : List Row} {bound : Option Rank} {size : Nat} {done rest : List Row}

theorem descending_perm (rows : List Row) : (descending rank rows).Perm rows :=
  List.mergeSort_perm _ _

theorem mem_descending {row : Row} : row ∈ descending rank rows ↔ row ∈ rows :=
  (descending_perm rows).mem_iff

theorem descending_pairwise (distinct : (rows.map rank).Nodup) :
    (descending rank rows).Pairwise (fun first second => rank second < rank first) := by
  have sorted : (descending rank rows).Pairwise (fun first second => rank second ≤ rank first) := by
    refine (List.pairwise_mergeSort ?_ ?_ rows).imp (fun ordered => of_decide_eq_true ordered)
    · intro first second third one two
      exact decide_eq_true (le_trans (of_decide_eq_true two) (of_decide_eq_true one))
    · intro first second
      simpa using le_total (rank second) (rank first)
  have apart : (descending rank rows).Pairwise (fun first second => rank first ≠ rank second) :=
    List.pairwise_map.mp (((descending_perm rows).map rank).nodup_iff.mpr distinct)
  exact sorted.imp₂ (fun _ _ ordered different => lt_of_le_of_ne ordered different.symm) apart

theorem descending_filter (distinct : (rows.map rank).Nodup) (keep : Row → Bool) :
    descending rank (rows.filter keep) = (descending rank rows).filter keep := by
  have kept : ((rows.filter keep).map rank).Nodup := distinct.sublist (List.filter_sublist.map _)
  refine List.Perm.eq_of_pairwise ?_ (descending_pairwise kept)
    ((descending_pairwise distinct).filter keep)
    ((descending_perm _).trans ((descending_perm rows).filter keep).symm)
  intro first second _ _ one two
  exact absurd one (not_lt_of_gt two)

theorem batchBelow_eq (distinct : (rows.map rank).Nodup)
    (left : (descending rank rows).filter (below rank bound) = rest) :
    batchBelow rank bound size rows = rest.take size := by
  rw [batchBelow, descending_filter distinct, left]

theorem below_row (distinct : (rows.map rank).Nodup) {last : Row}
    (split : descending rank rows = done ++ last :: rest) :
    (descending rank rows).filter (below rank (some (rank last))) = rest := by
  have ordered := descending_pairwise distinct
  rw [split, List.pairwise_append, List.pairwise_cons] at ordered
  obtain ⟨_, ⟨after, _⟩, before⟩ := ordered
  rw [split, List.filter_append, List.filter_cons]
  have passed : done.filter (below rank (some (rank last))) = [] := by
    rw [List.filter_eq_nil_iff]
    intro row member
    have higher : rank last < rank row := before row member last List.mem_cons_self
    simpa [below] using le_of_lt higher
  have self : below rank (some (rank last)) last = false := by simp [below]
  have ahead : rest.filter (below rank (some (rank last))) = rest := by
    rw [List.filter_eq_self]
    intro row member
    simpa [below] using after row member
  rw [passed, self, ahead]
  rfl

theorem below_last (distinct : (rows.map rank).Nodup)
    (split : descending rank rows = done ++ rest) {last : Row}
    (taken : (rest.take size).getLast? = some last) :
    (descending rank rows).filter (below rank (some (rank last))) = rest.drop size := by
  obtain ⟨first, same⟩ := List.getLast?_eq_some_iff.mp taken
  apply @below_row _ _ _ _ _ (done ++ first) _ distinct last
  calc descending rank rows = done ++ (rest.take size ++ rest.drop size) := by
        rw [List.take_append_drop, split]
    _ = done ++ first ++ last :: rest.drop size := by
        rw [same]
        simp

theorem drop_of_short (short : (rest.take size).length < size) : rest.drop size = [] := by
  rw [List.length_take] at short
  exact List.drop_of_length_le (by omega)

end Keyset

end Relational
