import WikiPeople.Library.Paging
import WikiPeople.Library.Ranking

/-! Which faults a program may raise, from those its parts may. -/

namespace Raising

open Paging Relational

section Rules

variable {Fault Item State Result Next : Type} {allowed : Fault → Prop}

def Only (allowed : Fault → Prop) (program : Except Fault Result) : Prop :=
  ∀ fault, program = .error fault → allowed fault

theorem only_ok (value : Result) : Only allowed (.ok value) := by
  intro fault raised
  cases raised

theorem only_error {fault : Fault} (permitted : allowed fault) :
    Only allowed (.error fault : Except Fault Result) := by
  intro other raised
  cases raised
  exact permitted

theorem only_bind {program : Except Fault Result} {next : Result → Except Fault Next}
    (first : Only allowed program) (rest : ∀ value, Only allowed (next value)) :
    Only allowed (program >>= next) := by
  cases program with
  | error fault => exact only_error (first fault rfl)
  | ok value => exact rest value

theorem only_map {program : Except Fault Result} (change : Result → Next)
    (first : Only allowed program) : Only allowed (program.map change) := by
  cases program with
  | error fault => exact only_error (first fault rfl)
  | ok value => exact only_ok _

theorem only_ite {condition : Prop} [Decidable condition] {first second : Except Fault Result}
    (left : Only allowed first) (right : Only allowed second) :
    Only allowed (if condition then first else second) := by
  split
  · exact left
  · exact right

theorem only_mapError {Other : Type} {program : Except Other Result} {report : Other → Fault}
    (reported : ∀ fault, allowed (report fault)) : Only allowed (program.mapError report) := by
  cases program with
  | error fault => exact only_error (reported fault)
  | ok value => exact only_ok value

theorem only_foldlM {step : State → Item → Except Fault State} {items : List Item}
    (steps : ∀ state item, Only allowed (step state item)) (state : State) :
    Only allowed (items.foldlM step state) := by
  induction items generalizing state with
  | nil => exact only_ok state
  | cons item items ih =>
      rw [List.foldlM_cons]
      exact only_bind (steps state item) ih

theorem only_mapM {act : Item → Except Fault Result} {items : List Item}
    (acts : ∀ item, Only allowed (act item)) : Only allowed (items.mapM act) := by
  induction items with
  | nil => exact only_ok []
  | cons item items ih =>
      rw [List.mapM_cons]
      exact only_bind (acts item) (fun value => only_bind ih (fun values => only_ok _))

theorem only_collect {limit : Nat} {entry : Item → Except Fault (Option Result)}
    {items : List Item} (entries : ∀ item, Only allowed (entry item)) (chosen : List Result) :
    Only allowed (collect limit entry chosen items) := by
  induction items generalizing chosen with
  | nil => exact only_ok chosen
  | cons item items ih =>
      rw [collect]
      cases entered : entry item with
      | error fault => exact only_error (entries item fault entered)
      | ok made =>
          cases made with
          | none => exact ih chosen
          | some found => exact only_ite (only_ok _) (ih _)

theorem only_run {step : Nat → State → Step State (Except Fault Result)}
    {outcome : Except Fault Result} {passes asked : Nat} {state : State}
    (steps : ∀ asked state result, step asked state = .done result → Only allowed result)
    (returned : run step passes asked state = some outcome) : Only allowed outcome := by
  induction passes generalizing asked state with
  | zero => cases returned
  | succ passes ih =>
      rw [run] at returned
      cases taken : step asked state with
      | ask next =>
          rw [taken] at returned
          exact ih returned
      | done result =>
          rw [taken] at returned
          cases returned
          exact steps asked state outcome taken

end Rules

end Raising
