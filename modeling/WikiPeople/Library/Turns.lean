import Mathlib.Data.List.Pairwise
import Mathlib.Algebra.GroupWithZero.Nat

/-! Loops over turns in which an expected fault costs one turn only, and turns of which each
keeps to a scope of its own. -/

namespace Turns

variable {State Turn Fault Scope : Type}

structure Round (State Turn Fault : Type) where
  state : State
  total : Nat
  taken : List Turn
  escaped : Option Fault

def Round.start (state : State) : Round State Turn Fault := ⟨state, 0, [], none⟩

section Loop

variable (step : State → Turn → Except Fault Nat × State) (expected : Fault → Bool)

/-- A turn that raises may have changed the state as well. -/
def take (round : Round State Turn Fault) (turn : Turn) : Round State Turn Fault :=
  let made := step round.state turn
  match made.1 with
  | .ok count =>
      { round with
        state := made.2
        total := round.total + count
        taken := round.taken ++ [turn] }
  | .error fault =>
      if expected fault then { round with state := made.2, taken := round.taken ++ [turn] }
      else { round with state := made.2, escaped := some fault }

def run : Round State Turn Fault → List Turn → Round State Turn Fault
  | round, [] => round
  | round, turn :: turns =>
      let next := take step expected round turn
      if next.escaped.isSome then next else run next turns

end Loop

def escapes (expected : Fault → Bool) : Except Fault Nat → Bool
  | .error fault => !expected fault
  | .ok _ => false

def counted : Except Fault Nat → Nat
  | .ok count => count
  | .error _ => 0

/-- A turn does in its own scope what the state there makes it do, and nothing elsewhere. -/
structure Separate (alike : Scope → State → State → Prop) (scope : Turn → Scope)
    (step : State → Turn → Except Fault Nat × State) : Prop where
  refl : ∀ scope state, alike scope state state
  trans : ∀ {scope first second third},
    alike scope first second → alike scope second third → alike scope first third
  own : ∀ {turn first second}, alike (scope turn) first second →
    (step first turn).1 = (step second turn).1 ∧
      alike (scope turn) (step first turn).2 (step second turn).2
  others : ∀ {turn other} state, scope turn ≠ other → alike other (step state turn).2 state

section Take

variable {step : State → Turn → Except Fault Nat × State} {expected : Fault → Bool}
  {round : Round State Turn Fault} {turn : Turn}

@[simp] theorem take_state : (take step expected round turn).state = (step round.state turn).2 := by
  simp only [take]
  split
  · rfl
  · split <;> rfl

theorem take_expected (returns : escapes expected (step round.state turn).1 = false) :
    (take step expected round turn).escaped = round.escaped ∧
      (take step expected round turn).taken = round.taken ++ [turn] ∧
      (take step expected round turn).total =
        round.total + counted (step round.state turn).1 := by
  simp only [take]
  cases outcome : (step round.state turn).1 with
  | ok count => exact ⟨rfl, rfl, rfl⟩
  | error fault =>
      rw [outcome, escapes, Bool.not_eq_false'] at returns
      dsimp only
      rw [if_pos returns]
      exact ⟨rfl, rfl, rfl⟩

theorem take_escapes (raised : escapes expected (step round.state turn).1 = true) :
    (take step expected round turn).escaped.isSome = true := by
  simp only [take]
  cases outcome : (step round.state turn).1 with
  | ok count =>
      rw [outcome] at raised
      cases raised
  | error fault =>
      rw [outcome, escapes, Bool.not_eq_true'] at raised
      dsimp only
      rw [raised]
      rfl

theorem run_keeps {keeps : State → Prop}
    (kept : ∀ state turn, keeps state → keeps (step state turn).2)
    {turns : List Turn} (holds : keeps round.state) :
    keeps (run step expected round turns).state := by
  induction turns generalizing round with
  | nil => exact holds
  | cons turn turns ih =>
      have next : keeps (take step expected round turn).state := by
        rw [take_state]
        exact kept round.state turn holds
      rw [run]
      split
      · exact next
      · exact ih next

end Take

section Separation

variable {alike : Scope → State → State → Prop} {scope : Turn → Scope}
  {step : State → Turn → Except Fault Nat × State} {expected : Fault → Bool}

theorem Separate.run_others (separate : Separate alike scope step) {other : Scope}
    {turns : List Turn} (elsewhere : ∀ turn ∈ turns, scope turn ≠ other)
    (round : Round State Turn Fault) :
    alike other (run step expected round turns).state round.state := by
  induction turns generalizing round with
  | nil => exact separate.refl other round.state
  | cons turn turns ih =>
      have here : alike other (take step expected round turn).state round.state := by
        rw [take_state]
        exact separate.others round.state (elsewhere turn List.mem_cons_self)
      rw [run]
      split
      · exact here
      · exact separate.trans
          (ih (fun later member => elsewhere later (List.mem_cons_of_mem turn member)) _) here

variable {start : State} {turns : List Turn} {round : Round State Turn Fault}

/-- What the other turns leave to the later ones is what those would find without them. -/
theorem Separate.unprepared (separate : Separate alike scope step) {turn : Turn}
    (apart : ∀ later ∈ turns, scope turn ≠ scope later)
    (same : ∀ later ∈ turns, alike (scope later) round.state start) :
    ∀ later ∈ turns, alike (scope later) (take step expected round turn).state start := by
  intro later member
  rw [take_state]
  exact separate.trans (separate.others round.state (apart later member)) (same later member)

/-- The loop comes to its end exactly where no turn, taken alone, escapes. -/
theorem Separate.run_escaped (separate : Separate alike scope step)
    (distinct : turns.Pairwise (fun first second => scope first ≠ scope second))
    (running : round.escaped = none)
    (same : ∀ turn ∈ turns, alike (scope turn) round.state start) :
    (run step expected round turns).escaped = none ↔
      ∀ turn ∈ turns, escapes expected (step start turn).1 = false := by
  induction turns generalizing round with
  | nil => simp [run, running]
  | cons turn turns ih =>
      obtain ⟨apart, distinct⟩ := List.pairwise_cons.mp distinct
      obtain ⟨first, same⟩ := List.forall_mem_cons.mp same
      have outcome := (separate.own first).1
      rw [run, List.forall_mem_cons, ← outcome]
      cases raised : escapes expected (step round.state turn).1 with
      | true =>
          have stopped := take_escapes raised
          rw [if_pos stopped, ← Option.not_isSome_iff_eq_none, stopped]
          simp
      | false =>
          obtain ⟨kept, _, _⟩ := take_expected raised
          rw [kept, running]
          simpa using ih distinct (kept.trans running) (separate.unprepared apart same)

theorem Separate.run_taken (separate : Separate alike scope step)
    (distinct : turns.Pairwise (fun first second => scope first ≠ scope second))
    (running : round.escaped = none)
    (same : ∀ turn ∈ turns, alike (scope turn) round.state start)
    (returns : ∀ turn ∈ turns, escapes expected (step start turn).1 = false) :
    (run step expected round turns).taken = round.taken ++ turns ∧
      (run step expected round turns).total =
        round.total + (turns.map (fun turn => counted (step start turn).1)).sum := by
  induction turns generalizing round with
  | nil =>
      rw [run]
      exact ⟨(List.append_nil _).symm, rfl⟩
  | cons turn turns ih =>
      obtain ⟨apart, distinct⟩ := List.pairwise_cons.mp distinct
      obtain ⟨first, same⟩ := List.forall_mem_cons.mp same
      obtain ⟨returned, returns⟩ := List.forall_mem_cons.mp returns
      have outcome := (separate.own first).1
      rw [← outcome] at returned
      obtain ⟨kept, taken, total⟩ := take_expected returned
      obtain ⟨rest, sum⟩ :=
        ih distinct (kept.trans running) (separate.unprepared apart same) returns
      rw [run, kept, running]
      simp only [Option.isSome_none, Bool.false_eq_true, if_false]
      rw [rest, sum, taken, total, outcome, List.map_cons, List.sum_cons, List.append_assoc]
      exact ⟨rfl, Nat.add_assoc _ _ _⟩

theorem Separate.run_own (separate : Separate alike scope step)
    (distinct : turns.Pairwise (fun first second => scope first ≠ scope second))
    (running : round.escaped = none)
    (same : ∀ turn ∈ turns, alike (scope turn) round.state start)
    (returns : ∀ turn ∈ turns, escapes expected (step start turn).1 = false) :
    ∀ turn ∈ turns,
      alike (scope turn) (run step expected round turns).state (step start turn).2 := by
  induction turns generalizing round with
  | nil =>
      intro turn member
      cases member
  | cons turn turns ih =>
      obtain ⟨apart, distinct⟩ := List.pairwise_cons.mp distinct
      obtain ⟨first, same⟩ := List.forall_mem_cons.mp same
      obtain ⟨returned, returns⟩ := List.forall_mem_cons.mp returns
      rw [← (separate.own first).1] at returned
      obtain ⟨kept, _, _⟩ := take_expected returned
      have later := ih distinct (kept.trans running) (separate.unprepared apart same) returns
      rw [run, kept, running]
      simp only [Option.isSome_none, Bool.false_eq_true, if_false]
      rw [List.forall_mem_cons]
      refine ⟨?_, later⟩
      have after := @Separate.run_others _ _ _ _ _ _ _ expected separate (scope turn) turns
        (fun other member => (apart other member).symm) (take step expected round turn)
      rw [take_state] at after
      exact separate.trans after (separate.own first).2

end Separation

end Turns
