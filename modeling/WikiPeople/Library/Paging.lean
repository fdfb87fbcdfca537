import Mathlib.Data.List.Defs
import Mathlib.Tactic.Common

/-! Loops that ask for one part of something after another until an answer ends them. Nothing
says that one of them ends, so what a loop returns is a relation; the number of passes that
are allowed makes it a function. -/

namespace Paging

inductive Step (State Result : Type) where
  | ask (next : State)
  | done (result : Result)

variable {State Result : Type}

/-- At most `passes` passes from one that had `asked` passes before it. -/
def run (step : Nat → State → Step State Result) : (passes asked : Nat) → State → Option Result
  | 0, _, _ => none
  | passes + 1, asked, state =>
      match step asked state with
      | .ask next => run step passes (asked + 1) next
      | .done result => some result

def Returns (step : Nat → State → Step State Result) (asked : Nat) (state : State)
    (result : Result) : Prop :=
  ∃ passes, run step passes asked state = some result

def Ends (step : Nat → State → Step State Result) (asked : Nat) (state : State) : Prop :=
  ∃ result, Returns step asked state result

section Rules

variable {step : Nat → State → Step State Result} {asked : Nat} {state next : State}
  {result other : Result}

theorem run_more {passes : Nat} (returned : run step passes asked state = some result)
    (more : Nat) : run step (passes + more) asked state = some result := by
  induction passes generalizing asked state with
  | zero => cases returned
  | succ passes ih =>
      rw [Nat.add_right_comm, run]
      rw [run] at returned
      cases taken : step asked state with
      | ask next =>
          rw [taken] at returned
          exact ih returned
      | done value =>
          rw [taken] at returned
          exact returned

theorem Returns.unique (first : Returns step asked state result)
    (second : Returns step asked state other) : result = other := by
  obtain ⟨passes, returned⟩ := first
  obtain ⟨others, also⟩ := second
  have left := run_more returned others
  have right := run_more also passes
  rw [Nat.add_comm, right] at left
  exact (Option.some.inj left).symm

theorem returns_done (taken : step asked state = .done result) :
    Returns step asked state other ↔ other = result := by
  constructor
  · rintro ⟨passes, returned⟩
    cases passes with
    | zero => cases returned
    | succ passes =>
        rw [run, taken] at returned
        exact (Option.some.inj returned).symm
  · rintro rfl
    exact ⟨1, by rw [run, taken]⟩

theorem returns_ask (taken : step asked state = .ask next) :
    Returns step asked state result ↔ Returns step (asked + 1) next result := by
  constructor
  · rintro ⟨passes, returned⟩
    cases passes with
    | zero => cases returned
    | succ passes =>
        rw [run, taken] at returned
        exact ⟨passes, returned⟩
  · rintro ⟨passes, returned⟩
    exact ⟨passes + 1, by rw [run, taken]; exact returned⟩

theorem ends_done (taken : step asked state = .done result) : Ends step asked state :=
  ⟨result, (returns_done taken).mpr rfl⟩

theorem ends_ask (taken : step asked state = .ask next) :
    Ends step asked state ↔ Ends step (asked + 1) next :=
  exists_congr (fun _ => returns_ask taken)

theorem ends_of_bound {bound : Nat}
    (bounded : ∀ asked state, bound ≤ asked → ∃ result, step asked state = .done result)
    (asked : Nat) (state : State) : Ends step asked state := by
  induction left : bound - asked generalizing asked state with
  | zero =>
      obtain ⟨result, taken⟩ := bounded asked state (Nat.le_of_sub_eq_zero left)
      exact ends_done taken
  | succ left ih =>
      cases taken : step asked state with
      | done result => exact ends_done taken
      | ask next => exact (ends_ask taken).mpr (ih (asked + 1) next (by omega))

/-- A loop whose passes keep an invariant and go on wherever they need not stop ends exactly
where it comes to a pass at which it stops. -/
theorem ends_iff {stops : Nat → Prop} {holds : Nat → State → Prop}
    (goes : ∀ asked state, holds asked state → ¬ stops asked →
      ∃ next, step asked state = .ask next ∧ holds (asked + 1) next)
    (stopped : ∀ asked state, holds asked state → stops asked → Ends step asked state)
    (start : holds asked state) : Ends step asked state ↔ ∃ more, stops (asked + more) := by
  constructor
  · rintro ⟨result, passes, returned⟩
    induction passes generalizing asked state with
    | zero => cases returned
    | succ passes ih =>
        by_cases here : stops asked
        · exact ⟨0, here⟩
        · obtain ⟨next, taken, kept⟩ := goes asked state start here
          rw [run, taken] at returned
          obtain ⟨more, later⟩ := ih kept returned
          exact ⟨more + 1, by rwa [Nat.add_comm more 1, ← Nat.add_assoc]⟩
  · rintro ⟨more, later⟩
    induction more generalizing asked state with
    | zero => exact stopped asked state start later
    | succ more ih =>
        by_cases here : stops asked
        · exact stopped asked state start here
        · obtain ⟨next, taken, kept⟩ := goes asked state start here
          refine (ends_ask taken).mpr (ih kept ?_)
          rwa [Nat.add_assoc, Nat.add_comm 1 more]

/-- A loop that gathers something in every pass, and goes on only within a limit, returns before
it could gather more than the limit. -/
theorem run_within {size : State → Nat} {limit : Nat}
    (grows : ∀ asked state next, step asked state = .ask next →
      size state < size next ∧ size next ≤ limit)
    {passes : Nat} (enough : limit - size state < passes) :
    ∃ result, run step passes asked state = some result := by
  induction passes generalizing asked state with
  | zero => exact absurd enough (Nat.not_lt_zero _)
  | succ passes ih =>
      rw [run]
      cases taken : step asked state with
      | done result => exact ⟨result, rfl⟩
      | ask next =>
          obtain ⟨more, bounded⟩ := grows asked state next taken
          exact ih (by omega)

end Rules

theorem flatten_go {Item : Type} (size : Nat) (items : List Item) (open_ : Array Item)
    (full : Array (List Item)) :
    (List.toChunks.go size items open_ full).flatten =
      full.toList.flatten ++ open_.toList ++ items := by
  fun_induction List.toChunks.go size items open_ full with
  | case1 open_ full => simp
  | case2 open_ full item items filled ih =>
      rw [ih]
      simp
  | case3 open_ full item items filled ih =>
      rw [ih]
      simp

theorem flatten_toChunks {Item : Type} (size : Nat) (items : List Item) :
    (items.toChunks size).flatten = items := by
  cases items with
  | nil => cases size <;> rfl
  | cons item items =>
      cases size with
      | zero => simp [List.toChunks]
      | succ size =>
          rw [List.toChunks, flatten_go]
          · simp
          · simp

theorem filled_go {Item : Type} (size : Nat) (items : List Item) (open_ : Array Item)
    (full : Array (List Item)) (started : open_.toList ≠ [])
    (filled : ∀ batch ∈ full.toList, batch ≠ []) :
    ∀ batch ∈ List.toChunks.go size items open_ full, batch ≠ [] := by
  fun_induction List.toChunks.go size items open_ full with
  | case1 open_ full =>
      intro batch member
      rw [Array.toList_push, List.mem_append, List.mem_singleton] at member
      rcases member with member | rfl
      · exact filled batch member
      · exact started
  | case2 open_ full item items complete ih =>
      refine ih (by simp) ?_
      intro batch member
      rw [Array.toList_push, List.mem_append, List.mem_singleton] at member
      rcases member with member | rfl
      · exact filled batch member
      · exact started
  | case3 open_ full item items incomplete ih => exact ih (by simp) filled

theorem filled_toChunks {Item : Type} {size : Nat} {items : List Item} :
    ∀ batch ∈ items.toChunks (size + 1), batch ≠ [] := by
  cases items with
  | nil =>
      intro batch member
      cases member
  | cons item items => exact filled_go size.succ items #[item] #[] (by simp) (by simp)

theorem short_go {Item : Type} (size : Nat) (items : List Item) (open_ : Array Item)
    (full : Array (List Item)) (room : open_.toList.length ≤ size)
    (short : ∀ batch ∈ full.toList, batch.length ≤ size) (some_ : 0 < size) :
    ∀ batch ∈ List.toChunks.go size items open_ full, batch.length ≤ size := by
  fun_induction List.toChunks.go size items open_ full with
  | case1 open_ full =>
      intro batch member
      rw [Array.toList_push, List.mem_append, List.mem_singleton] at member
      rcases member with member | rfl
      · exact short batch member
      · exact room
  | case2 item items open_ full complete ih =>
      refine ih ?_ ?_
      · exact some_
      · intro batch member
        rw [Array.toList_push, List.mem_append, List.mem_singleton] at member
        rcases member with member | rfl
        · exact short batch member
        · exact room
  | case3 item items open_ full incomplete ih =>
      refine ih ?_ short
      have other : open_.size ≠ size := by simpa using incomplete
      rw [Array.toList_push, List.length_append, List.length_singleton]
      rw [Array.length_toList] at room ⊢
      omega

theorem short_toChunks {Item : Type} {size : Nat} {items : List Item} :
    ∀ batch ∈ items.toChunks (size + 1), batch.length ≤ size + 1 := by
  cases items with
  | nil =>
      intro batch member
      cases member
  | cons item items =>
      exact short_go size.succ items #[item] #[] (by simp) (by simp) (Nat.succ_pos size)

end Paging
