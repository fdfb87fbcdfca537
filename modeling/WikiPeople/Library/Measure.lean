import Mathlib.Algebra.Order.BigOperators.Group.List
import Mathlib.Algebra.Order.Ring.Nat
import WikiPeople.Library.Machine
import WikiPeople.Library.Table

/-! What is left to do: the weight of the rows of a table, and runs that a falling rank bounds. -/

namespace Relational

open Keyed Numbered

section Weight

variable {Row Key : Type} [Keyed Row Key] [Numbered Row] {table : SerialTable Row}
  {change : Change Row} {row : Row} {weight : Row → Nat}

def weigh (weight : Row → Nat) (table : SerialTable Row) : Nat := (table.rows.map weight).sum

theorem weigh_eq_zero : weigh weight table = 0 ↔ ∀ row ∈ table.rows, weight row = 0 := by
  rw [weigh, List.sum_eq_zero_iff_forall_eq_nat, List.forall_mem_map]

theorem weigh_update_le {condition : Row → Bool}
    (lighter : ∀ row ∈ table.rows, weight (SerialTable.changed condition change row) ≤ weight row) :
    weigh weight (table.update condition change) ≤ weigh weight table := by
  change ((table.rows.map (SerialTable.changed condition change)).map weight).sum ≤ _
  rw [List.map_map]
  exact List.sum_le_sum lighter

theorem rows_around (present : row ∈ table.rows) :
    ∃ before after, table.rows = before ++ row :: after ∧
      ∀ other ∈ before ++ after, number other ≠ number row := by
  obtain ⟨before, after, split_⟩ := List.append_of_mem present
  refine ⟨before, after, split_, ?_⟩
  have numbers := table.numbers
  rw [split_, List.map_append, List.map_cons] at numbers
  have apart := (List.nodup_middle.mp numbers).notMem
  rw [← List.map_append] at apart
  intro other member same
  exact apart (same ▸ List.mem_map_of_mem member)

theorem weigh_update (weight : Row → Nat) (change : Change Row) (present : row ∈ table.rows) :
    weigh weight (table.update (fun other => number other = number row) change) + weight row =
      weigh weight table + weight (change.apply row) := by
  obtain ⟨before, after, split_, apart⟩ := rows_around present
  have kept : ∀ others : List Row, (∀ other ∈ others, other ∈ before ++ after) →
      others.map (SerialTable.changed (fun other => number other = number row) change) =
        others := by
    intro others within
    refine (List.map_congr_left (fun other member => ?_)).trans (List.map_id others)
    exact if_neg (by simpa using apart other (within other member))
  have rows : (table.update (fun other => number other = number row) change).rows =
      before ++ change.apply row :: after := by
    change table.rows.map _ = _
    rw [split_, List.map_append, List.map_cons, kept before (fun _ => List.mem_append_left after),
      kept after (fun _ => List.mem_append_right before), SerialTable.changed, if_pos (by simp)]
  rw [weigh, weigh, rows, split_]
  simp only [List.map_append, List.map_cons, List.sum_append, List.sum_cons]
  omega

theorem weigh_delete (weight : Row → Nat) (present : row ∈ table.rows) :
    weigh weight (table.delete (fun other => number other = number row)) + weight row =
      weigh weight table := by
  obtain ⟨before, after, split_, apart⟩ := rows_around present
  have kept : ∀ others : List Row, (∀ other ∈ others, other ∈ before ++ after) →
      others.filter (fun other => !decide (number other = number row)) = others := by
    intro others within
    refine List.filter_eq_self.mpr (fun other member => ?_)
    simpa using apart other (within other member)
  have rows : (table.delete (fun other => number other = number row)).rows = before ++ after := by
    change table.rows.filter _ = _
    rw [split_, List.filter_append, List.filter_cons_of_neg (by simp),
      kept before (fun _ => List.mem_append_left after),
      kept after (fun _ => List.mem_append_right before)]
  rw [weigh, weigh, rows, split_]
  simp only [List.map_append, List.map_cons, List.sum_append, List.sum_cons]
  omega

theorem weigh_insert [DecidableEq Key] (weight : Row → Nat) {grown : SerialTable Row}
    {draft : Draft Row}
    (inserted : table.insert? draft = some grown) :
    weigh weight grown = weigh weight table + weight (draft.make table.next) := by
  rw [weigh, weigh, SerialTable.insert?_rows inserted]
  simp

end Weight

end Relational

namespace Transition.Machine

variable {State Event : Type} {machine : Machine State Event} {meets : Event → Prop}
  {before after : State} {events : List Event}

theorem run_cons {event : Event} :
    machine.run before (event :: events) = some after ↔
      ∃ next, machine.step before event = some next ∧ machine.run next events = some after := by
  simp [run, runWhere, Option.bind_eq_some_iff]

theorem run_keeps (holds : State → Prop)
    (kept : ∀ before event after, meets event → holds before →
      machine.step before event = some after → holds after)
    (all : ∀ event ∈ events, meets event) (start : holds before)
    (ran : machine.run before events = some after) : holds after := by
  induction events generalizing before with
  | nil =>
      cases ran
      exact start
  | cons event events ih =>
      obtain ⟨next, taken, rest⟩ := run_cons.mp ran
      rw [List.forall_mem_cons] at all
      exact ih all.2 (kept before event next all.1 start taken) rest

theorem length_le_rank (holds : State → Prop) (rank : State → Nat)
    (kept : ∀ before event after, meets event → holds before →
      machine.step before event = some after → holds after)
    (falls : ∀ before event after, meets event → holds before →
      machine.step before event = some after → rank after < rank before)
    (all : ∀ event ∈ events, meets event) (start : holds before)
    (ran : machine.run before events = some after) : events.length + rank after ≤ rank before := by
  induction events generalizing before with
  | nil =>
      cases ran
      exact Nat.le_of_eq (Nat.zero_add _)
  | cons event events ih =>
      obtain ⟨next, taken, rest⟩ := run_cons.mp ran
      rw [List.forall_mem_cons] at all
      have later := ih all.2 (kept before event next all.1 start taken) rest
      have fell := falls before event next all.1 start taken
      rw [List.length_cons]
      omega

end Transition.Machine
