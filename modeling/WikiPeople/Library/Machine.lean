import Mathlib.Data.Option.Basic

/-! Partial machines, runs whose steps meet a condition, and histories kept beside a run. -/

namespace Transition

section Log

variable {Entry Field : Type} {entries : List Entry} {entry last old : Entry} {index place : Nat}

theorem getElem?_appended : (entries ++ [last])[place]? = some entry ↔
    entries[place]? = some entry ∨ (place = entries.length ∧ entry = last) := by
  rcases Nat.lt_trichotomy place entries.length with inside | rfl | outside
  · rw [List.getElem?_append_left inside]
    simp [Nat.ne_of_lt inside]
  · simp [eq_comm]
  · rw [List.getElem?_append_right (Nat.le_of_lt outside)]
    have past : place - entries.length ≠ 0 := Nat.sub_ne_zero_of_lt outside
    simp [Nat.ne_of_gt outside, List.getElem?_eq_none (Nat.le_of_lt outside), past]

theorem getElem?_replaced (present : entries[index]? = some old) :
    (entries.set index last)[place]? = some entry ↔
      (place = index ∧ entry = last) ∨ (place ≠ index ∧ entries[place]? = some entry) := by
  obtain ⟨inside, _⟩ := List.getElem?_eq_some_iff.mp present
  by_cases same : place = index
  · subst same
    simp [inside, eq_comm]
  · rw [List.getElem?_set_ne (Ne.symm same)]
    simp [same]

theorem map_replaced {read : Entry → Field} (present : entries[index]? = some old)
    (kept : read last = read old) : (entries.set index last).map read = entries.map read := by
  obtain ⟨inside, same⟩ := List.getElem?_eq_some_iff.mp present
  rw [List.map_set, kept, ← same, ← List.map_set, List.set_getElem_self]

end Log

/-- `step` answers `none` where the event cannot happen. -/
structure Machine (State Event : Type) where
  initial : State
  step : State → Event → Option State

namespace Machine

variable {State Event : Type}

/-- The states reached by steps that each meet `allowed` in the state they leave. -/
inductive ReachableWhere (machine : Machine State Event) (allowed : State → Event → Prop) :
    State → Prop
  | initial : ReachableWhere machine allowed machine.initial
  | step {before after : State} {event : Event} (reached : ReachableWhere machine allowed before)
      (meets : allowed before event) (taken : machine.step before event = some after) :
      ReachableWhere machine allowed after

def Reachable (machine : Machine State Event) (state : State) : Prop :=
  machine.ReachableWhere (fun _ _ => True) state

variable {machine : Machine State Event} {allowed : State → Event → Prop}

/-- The induction over a run, said once: what holds at the start and survives every allowed
step out of a reached state holds in every state reached. -/
theorem invariant_of_reached (holds : State → Prop) (start : holds machine.initial)
    (kept : ∀ before event after, machine.ReachableWhere allowed before → holds before →
      allowed before event → machine.step before event = some after → holds after)
    {state : State} (reached : machine.ReachableWhere allowed state) : holds state := by
  induction reached with
  | initial => exact start
  | step earlier meets taken ih => exact kept _ _ _ earlier ih meets taken

theorem invariant (holds : State → Prop) (start : holds machine.initial)
    (kept : ∀ before event after, holds before → allowed before event →
      machine.step before event = some after → holds after)
    {state : State} (reached : machine.ReachableWhere allowed state) : holds state :=
  invariant_of_reached holds start (fun before event after _ => kept before event after) reached

theorem ReachableWhere.mono {weaker : State → Event → Prop} {state : State}
    (reached : machine.ReachableWhere allowed state)
    (implied : ∀ before event, allowed before event → weaker before event) :
    machine.ReachableWhere weaker state := by
  induction reached with
  | initial => exact .initial
  | step _ meets taken ih => exact .step ih (implied _ _ meets) taken

theorem ReachableWhere.reachable {state : State}
    (reached : machine.ReachableWhere allowed state) : machine.Reachable state :=
  reached.mono (fun _ _ _ => trivial)

theorem Reachable.next {before after : State} {event : Event}
    (reached : machine.Reachable before) (taken : machine.step before event = some after) :
    machine.Reachable after :=
  .step reached trivial taken

/-- Replay a list of events; `guard` must accept each of them where it happens. -/
def runWhere (machine : Machine State Event) (guard : State → Event → Bool) :
    State → List Event → Option State
  | state, [] => some state
  | state, event :: events =>
      if guard state event then
        (machine.step state event).bind (fun next => machine.runWhere guard next events)
      else none

def run (machine : Machine State Event) (state : State) (events : List Event) : Option State :=
  machine.runWhere (fun _ _ => true) state events

/-- The states reached by steps that the check `guard` accepts. -/
abbrev ReachableChecked (machine : Machine State Event) (guard : State → Event → Bool)
    (state : State) : Prop :=
  machine.ReachableWhere (fun before event => guard before event = true) state

theorem ReachableWhere.run {guard : State → Event → Bool} {before after : State}
    {events : List Event} (reached : machine.ReachableChecked guard before)
    (replayed : machine.runWhere guard before events = some after) :
    machine.ReachableChecked guard after := by
  induction events generalizing before with
  | nil =>
      have same : before = after := Option.some.inj replayed
      exact same ▸ reached
  | cons event events ih =>
      simp only [runWhere] at replayed
      split at replayed
      · rename_i accepted
        obtain ⟨next, taken, rest⟩ := Option.bind_eq_some_iff.mp replayed
        exact ih (.step reached accepted taken) rest
      · cases replayed

/-- A replay that ends in a state with a checkable property is a run to such a state. -/
theorem exists_of_runWhere {guard : State → Event → Bool} {holds : State → Prop}
    [DecidablePred holds] (events : List Event)
    (replayed : (machine.runWhere guard machine.initial events).any
      (fun state => decide (holds state)) = true) :
    ∃ state, machine.ReachableChecked guard state ∧ holds state := by
  obtain ⟨state, ended, checked⟩ := (Option.any_eq_true _ _).mp replayed
  exact ⟨state, ReachableWhere.run .initial ended, of_decide_eq_true checked⟩

theorem exists_of_run {holds : State → Prop} [DecidablePred holds] (events : List Event)
    (replayed : (machine.run machine.initial events).any (fun state => decide (holds state)) =
      true) : ∃ state, machine.Reachable state ∧ holds state := by
  obtain ⟨state, reached, checked⟩ := exists_of_runWhere events replayed
  exact ⟨state, reached.reachable, checked⟩

section History

variable {History : Type}

/-- The machine with a history beside its state. The history is computed from the steps
taken and nothing in the machine reads it. -/
def withHistory (machine : Machine State Event) (empty : History)
    (observe : History → State → Event → State → History) : Machine (State × History) Event where
  initial := (machine.initial, empty)
  step := fun (state, history) event =>
    (machine.step state event).map (fun next => (next, observe history state event next))

variable {empty : History} {observe : History → State → Event → State → History}

theorem withHistory_step {before after : State × History} {event : Event}
    (taken : (machine.withHistory empty observe).step before event = some after) :
    machine.step before.1 event = some after.1 ∧
      after.2 = observe before.2 before.1 event after.1 := by
  obtain ⟨next, moved, same⟩ := Option.map_eq_some_iff.mp taken
  subst same
  exact ⟨moved, rfl⟩

theorem reachable_of_withHistory {watched : State × History → Event → Prop}
    {state : State × History}
    (reached : (machine.withHistory empty observe).ReachableWhere watched state) :
    machine.Reachable state.1 := by
  induction reached with
  | initial => exact .initial
  | step _ _ taken ih => exact ih.next (withHistory_step taken).1

end History

end Machine

end Transition
