import Mathlib.Data.List.Nodup
import Mathlib.Order.Lattice
import Mathlib.Tactic.Common

/-! A sweep through what changes while it is swept. Each batch lists what is there between the
place it starts from and the next one; what is there all the while is listed once. -/

namespace Sweep

inductive Place (Rank : Type) where
  | start
  | upTo (mark : Rank)
  | finished

variable {Row Name Rank : Type} [LinearOrder Rank] [DecidableEq Name]

def Place.passes : Place Rank → Rank → Prop
  | .start, _ => False
  | .upTo mark, rank => rank < mark
  | .finished, _ => True

/-- The batch holds, each once and in any order, the rows between the two places. -/
structure Lists (rank : Row → Rank) (rows : List Row) (place next : Place Rank)
    (batch : List Row) : Prop where
  listed : ∀ row, row ∈ batch ↔
    row ∈ rows ∧ ¬ place.passes (rank row) ∧ next.passes (rank row)
  once : batch.Nodup
  onward : ∀ mark, place.passes mark → next.passes mark

/-- Of the names that are steady, each under one rank, those that were left behind were swept
once, and the others not at all. -/
def Swept (name : Row → Name) (steady : Name → Rank → Prop) (place : Place Rank)
    (swept : List Row) : Prop :=
  ∀ known mark, steady known mark →
    (place.passes mark → (swept.map name).count known = 1) ∧
      (¬ place.passes mark → (swept.map name).count known = 0)

structure Brings (name : Row → Name) (steady : Name → Rank → Prop) (place next : Place Rank)
    (batch : List Row) : Prop where
  inside : ∀ known mark, steady known mark → ¬ place.passes mark → next.passes mark →
    (batch.map name).count known = 1
  outside : ∀ known mark, steady known mark → place.passes mark ∨ ¬ next.passes mark →
    (batch.map name).count known = 0
  onward : ∀ mark, place.passes mark → next.passes mark

section Rules

variable {rank : Row → Rank} {name : Row → Name} {rows batch swept : List Row}
  {steady held : Name → Rank → Prop} {place later : Place Rank}

theorem Swept.restrict (all : Swept name steady place swept)
    (sub : ∀ known mark, held known mark → steady known mark) :
    Swept name held place swept := fun known mark still => all known mark (sub known mark still)

theorem Brings.restrict (brings : Brings name steady place later batch)
    (sub : ∀ known mark, held known mark → steady known mark) :
    Brings name held place later batch where
  inside := fun known mark still => brings.inside known mark (sub known mark still)
  outside := fun known mark still => brings.outside known mark (sub known mark still)
  onward := brings.onward

theorem Brings.count_le_one (brings : Brings name steady place later batch) {known : Name}
    {mark : Rank} (still : steady known mark) : (batch.map name).count known ≤ 1 := by
  by_cases earlier : place.passes mark
  · rw [brings.outside known mark still (Or.inl earlier)]
    exact Nat.zero_le 1
  · by_cases passed : later.passes mark
    · exact Nat.le_of_eq (brings.inside known mark still earlier passed)
    · rw [brings.outside known mark still (Or.inr passed)]
      exact Nat.zero_le 1

theorem Swept.advance (all : Swept name steady place swept)
    (brings : Brings name steady place later batch) :
    Swept name steady later (swept ++ batch) := by
  intro known mark still
  obtain ⟨left, ahead⟩ := all known mark still
  rw [List.map_append, List.count_append]
  constructor
  · intro passed
    by_cases earlier : place.passes mark
    · rw [left earlier, brings.outside known mark still (Or.inl earlier)]
    · rw [ahead earlier, brings.inside known mark still earlier passed]
  · intro open_
    have before := mt (brings.onward mark) open_
    rw [ahead before, brings.outside known mark still (Or.inr open_)]

theorem Lists.brings (lists : Lists rank rows place later batch)
    (distinct : (rows.map name).Nodup)
    (there : ∀ known mark, steady known mark →
      ∃ row ∈ rows, name row = known ∧ rank row = mark) :
    Brings name steady place later batch := by
  have inRows : ∀ row ∈ batch, row ∈ rows := fun row member => ((lists.listed row).mp member).1
  have names : (batch.map name).Nodup := by
    refine List.Nodup.map_on ?_ lists.once
    intro first one second two same
    exact List.inj_on_of_nodup_map distinct (inRows first one) (inRows second two) same
  refine ⟨?_, ?_, lists.onward⟩
  · intro known mark still ahead passed
    obtain ⟨row, member, rfl, rfl⟩ := there known mark still
    have listed := (lists.listed row).mpr ⟨member, ahead, passed⟩
    exact List.count_eq_one_of_mem names (List.mem_map_of_mem listed)
  · intro known mark still out
    obtain ⟨row, member, rfl, rfl⟩ := there known mark still
    refine List.count_eq_zero.mpr ?_
    intro named
    obtain ⟨other, listed, same⟩ := List.mem_map.mp named
    obtain ⟨present, ahead, passed⟩ := (lists.listed other).mp listed
    have equal := List.inj_on_of_nodup_map distinct present member same
    rw [equal] at ahead passed
    exact out.elim ahead (fun open_ => open_ passed)

end Rules

end Sweep
