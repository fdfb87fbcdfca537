import WikiPeople.Library.Table

/-! Programs that look things up behind a bounded memory of earlier answers. The memory is
emptied when it is full; a program that uses it computes what it computes without. -/

namespace Memo

open Relational

variable {Key Value Fault : Type} [DecidableEq Key]

/-- The memory, with the keys of all lookups that were answered from outside and how often the
memory was emptied. -/
structure Memory (Key Value : Type) where
  known : Dict Key Value
  answered : List Key
  emptied : Nat

def Memory.blank : Memory Key Value := ⟨.empty, [], 0⟩

/-- A computation that may fail and keeps what its lookups have changed when it does. -/
abbrev Recalling (Key Value Fault : Type) := ExceptT Fault (StateM (Memory Key Value))

def Memory.learn (capacity : Nat) (memory : Memory Key Value) (key : Key) (value : Value) :
    Memory Key Value :=
  if capacity ≤ memory.known.rows.length then
    { known := Table.empty.put (key, value)
      answered := memory.answered ++ [key]
      emptied := memory.emptied + 1 }
  else
    { memory with
      known := memory.known.put (key, value), answered := memory.answered ++ [key] }

/-- `ask` is what the outside answers; a failure is not remembered. -/
def look (capacity : Nat) (ask : Except Fault Value) (key : Key) :
    Recalling Key Value Fault Value :=
  fun memory =>
    match (memory.known.find key).map Prod.snd with
    | some value => (.ok value, memory)
    | none =>
        match ask with
        | .error fault => (.error fault, memory)
        | .ok value => (.ok value, memory.learn capacity key value)

/-- What is remembered is true, and fits. Every answer was remembered until the memory was next
emptied, which it was only when full. -/
structure Sound (capacity : Nat) (truth : Key → Except Fault Value)
    (memory : Memory Key Value) : Prop where
  known : ∀ entry ∈ memory.known.rows, truth entry.1 = .ok entry.2
  room : memory.known.rows.length ≤ capacity
  total : memory.answered.length = capacity * memory.emptied + memory.known.rows.length
  once : ∀ key, memory.answered.count key ≤
    memory.emptied + if (memory.known.find key).isSome then 1 else 0

/-- The program computes the same as the plain one from every sound memory, and leaves one. -/
def Agrees (capacity : Nat) (truth : Key → Except Fault Value) {Result : Type}
    (program : Recalling Key Value Fault Result) (plain : Except Fault Result) : Prop :=
  ∀ memory, Sound capacity truth memory →
    (program.run.run memory).1 = plain ∧ Sound capacity truth (program.run.run memory).2

section Lookup

variable {capacity : Nat} {truth : Key → Except Fault Value} {memory : Memory Key Value}

theorem sound_blank : Sound capacity truth (.blank : Memory Key Value) where
  known := nofun
  room := Nat.zero_le capacity
  total := by simp [Memory.blank, Table.empty]
  once := fun _ => Nat.zero_le _

theorem Sound.count_le (sound : Sound capacity truth memory) (key : Key) :
    memory.answered.count key ≤ memory.emptied + 1 := by
  have once := sound.once key
  split at once <;> omega

theorem length_putRow {Row Name : Type} [Keyed Row Name] [DecidableEq Name] {row : Row}
    {rows : List Row} (absent : ∀ other ∈ rows, Keyed.key other ≠ Keyed.key row) :
    (Table.putRow row rows).length = rows.length + 1 := by
  induction rows with
  | nil => rfl
  | cons first rest ih =>
      rw [Table.putRow, if_neg (absent first List.mem_cons_self), List.length_cons,
        ih fun other member => absent other (List.mem_cons_of_mem _ member), List.length_cons]

theorem Sound.learn (sound : Sound capacity truth memory) (space : 0 < capacity) {key : Key}
    {value : Value} (absent : memory.known.find key = none) (answer : truth key = .ok value) :
    Sound capacity truth (memory.learn capacity key value) := by
  have before := sound.once key
  rw [absent] at before
  simp only [Option.isSome_none, Bool.false_eq_true, if_false, Nat.add_zero] at before
  rw [Memory.learn]
  split
  · rename_i full
    have size : memory.known.rows.length = capacity := Nat.le_antisymm sound.room full
    refine ⟨?_, ?_, ?_, ?_⟩
    · intro entry member
      rw [List.mem_singleton.mp (show entry ∈ [(key, value)] from member)]
      exact answer
    · exact space
    · have total := sound.total
      rw [size] at total
      rw [List.length_append, total, List.length_singleton, Nat.mul_succ]
      rfl
    · intro other
      have earlier := sound.once other
      rw [List.count_append, List.count_singleton, Table.find_put_entry]
      by_cases same : key = other
      · subst same
        rw [if_pos (beq_self_eq_true key), if_pos rfl]
        simp only [Option.isSome_some, if_true]
        omega
      · rw [if_neg (by simpa using same), if_neg same]
        dsimp only
        split at earlier <;> omega
  · rename_i fits
    have missing : ∀ other ∈ memory.known.rows, Keyed.key other ≠ Keyed.key (key, value) :=
      Table.find_eq_none.mp absent
    have longer := length_putRow missing
    refine ⟨?_, ?_, ?_, ?_⟩
    · intro entry member
      rcases Table.mem_put.mp member with rfl | ⟨old, _⟩
      · exact answer
      · exact sound.known entry old
    · exact (le_of_eq longer).trans (Nat.not_le.mp fits)
    · rw [List.length_append, sound.total, List.length_singleton, Nat.add_assoc]
      exact congrArg _ longer.symm
    · intro other
      have earlier := sound.once other
      rw [List.count_append, List.count_singleton, Table.find_put_entry]
      by_cases same : key = other
      · subst same
        rw [if_pos (beq_self_eq_true key), if_pos rfl]
        simp only [Option.isSome_some, if_true]
        omega
      · rw [if_neg (by simpa using same), if_neg same]
        exact earlier

/-- A lookup is answered as the outside would. -/
theorem agrees_look (space : 0 < capacity) (key : Key) :
    Agrees capacity truth (look capacity (truth key) key) (truth key) := by
  intro memory sound
  simp only [look, ExceptT.run, StateT.run]
  cases recalled : memory.known.find key with
  | some entry =>
      obtain ⟨present, same⟩ := Table.find_eq_some.mp recalled
      have told := sound.known entry present
      rw [show entry.1 = key from same] at told
      exact ⟨told.symm, sound⟩
  | none =>
      cases answer : truth key with
      | error fault => exact ⟨rfl, sound⟩
      | ok value => exact ⟨rfl, sound.learn space recalled answer⟩

end Lookup

section Programs

variable {capacity : Nat} {truth : Key → Except Fault Value} {Result Next : Type}

theorem agrees_pure (result : Result) :
    Agrees capacity truth (pure result : Recalling Key Value Fault Result) (.ok result) :=
  fun _ sound => ⟨rfl, sound⟩

theorem agrees_throw (fault : Fault) :
    Agrees capacity truth (throw fault : Recalling Key Value Fault Result) (.error fault) :=
  fun _ sound => ⟨rfl, sound⟩

theorem agrees_lift (result : Except Fault Result) :
    Agrees capacity truth (ExceptT.mk (pure result) : Recalling Key Value Fault Result) result :=
  fun _ sound => ⟨rfl, sound⟩

theorem agrees_bind {program : Recalling Key Value Fault Result} {plain : Except Fault Result}
    {next : Result → Recalling Key Value Fault Next} {plainNext : Result → Except Fault Next}
    (first : Agrees capacity truth program plain)
    (rest : ∀ result, Agrees capacity truth (next result) (plainNext result)) :
    Agrees capacity truth (program >>= next) (plain >>= plainNext) := by
  intro memory sound
  obtain ⟨same, left⟩ := first memory sound
  rcases ran : program.run.run memory with ⟨outcome, after⟩
  rw [ran] at same left
  have through : (program >>= next).run.run memory =
      match outcome with
      | .ok result => (next result).run.run after
      | .error fault => (.error fault, after) := by
    simp only [ExceptT.run_bind, StateT.run_bind, ran]
    cases outcome <;> rfl
  rw [through]
  dsimp only at same
  subst same
  cases outcome with
  | error fault => exact ⟨rfl, left⟩
  | ok result => exact rest result after left

theorem agrees_map {program : Recalling Key Value Fault Result} {plain : Except Fault Result}
    (change : Result → Next) (first : Agrees capacity truth program plain) :
    Agrees capacity truth (program >>= fun result => pure (change result))
      (plain.map change) := by
  have whole := agrees_bind first (fun result => agrees_pure (change result))
  cases plain <;> exact whole

/-- What the lookups of a failed program have changed is kept where its failure is caught. -/
theorem agrees_catch {program : Recalling Key Value Fault Result} {plain : Except Fault Result}
    {handler : Fault → Recalling Key Value Fault Result}
    {plainHandler : Fault → Except Fault Result} (first : Agrees capacity truth program plain)
    (rest : ∀ fault, Agrees capacity truth (handler fault) (plainHandler fault)) :
    Agrees capacity truth (tryCatch program handler) (tryCatch plain plainHandler) := by
  intro memory sound
  obtain ⟨same, left⟩ := first memory sound
  rcases ran : program.run.run memory with ⟨outcome, after⟩
  rw [ran] at same left
  have through : (tryCatch program handler).run.run memory =
      match outcome with
      | .ok result => (.ok result, after)
      | .error fault => (handler fault).run.run after := by
    simp only [tryCatch, tryCatchThe, MonadExceptOf.tryCatch, ExceptT.tryCatch, ExceptT.run_mk,
      StateT.run_bind]
    rw [show StateT.run program memory = (outcome, after) from ran]
    cases outcome <;> rfl
  rw [through]
  dsimp only at same
  subst same
  cases outcome with
  | error fault => exact rest fault after left
  | ok result => exact ⟨rfl, left⟩

end Programs

end Memo
