import Mathlib.Logic.Function.Basic
import WikiPeople.Config
import WikiPeople.Library.Paging
import WikiPeople.Library.Ranking

/-! Copying every table of one database into another, in one transaction of the target. -/

namespace WikiPeople

open Relational Paging

inductive SchemaTable where
  | activeWikis
  | appState
  | attributionResults
  | contributorStanding
  | pageOptout
  | workQueue
  deriving DecidableEq, Repr

def SchemaTable.name : SchemaTable → String
  | .activeWikis => "active_wikis"
  | .appState => "app_state"
  | .attributionResults => "attribution_results"
  | .contributorStanding => "contributor_standing"
  | .pageOptout => "page_optout"
  | .workQueue => "work_queue"

/-- `Base.metadata.sorted_tables`: no table refers to another, so the order is by name. -/
def sortedTables : List SchemaTable :=
  [.activeWikis, .appState, .attributionResults, .contributorStanding, .pageOptout, .workQueue]

theorem mem_sortedTables (table : SchemaTable) : table ∈ sortedTables := by
  cases table <;> decide

/-- What a migration asks of the two databases. Each of it happens once at most. -/
inductive Statement where
  | create (table : SchemaTable)
  | connectSource
  | beginTarget
  | countOccupied (table : SchemaTable)
  | delete (table : SchemaTable)
  | countSource (table : SchemaTable)
  | select (table : SchemaTable)
  | fetch (table : SchemaTable) (batch : Nat)
  | insert (table : SchemaTable) (batch : Nat)
  | countTarget (table : SchemaTable)
  | commit
  deriving DecidableEq, Repr

/-- The statements that fail, and with what. -/
abbrev Faults := Statement → Option Exn

inductive MigrationError where
  | systemExit (message : String)
  | raised (reason : Exn)
  deriving DecidableEq, Repr

/-- Every column of every row, as `SELECT` hands it over. -/
abbrev Tables (Row : SchemaTable → Type) := (table : SchemaTable) → List (Row table)

/-- A database whose tables may not have been created. -/
abbrev Schema (Row : SchemaTable → Type) := (table : SchemaTable) → Option (List (Row table))

def batchRows : Nat := 500

structure TableOutcome where
  name : String
  sourceRows : Nat
  copiedRows : Nat
  targetRows : Nat
  deriving DecidableEq, Repr

def TableOutcome.complete (outcome : TableOutcome) : Bool :=
  outcome.sourceRows = outcome.copiedRows && outcome.copiedRows = outcome.targetRows

section Migration

variable {Row : SchemaTable → Type} (faults : Faults)

def attempt {Value : Type} (statement : Statement) (value : Value) :
    Except MigrationError Value :=
  match faults statement with
  | some reason => .error (.raised reason)
  | none => .ok value

/-- The rows of every table: none of a table that is not there. -/
def rowsOf (schema : Schema Row) : Tables Row := fun table => (schema table).getD []

/-- `create_all`: a table that is not there is created empty, and stays if a later one fails. -/
def createAll : List SchemaTable → Schema Row → Except MigrationError Unit × Schema Row
  | [], schema => (.ok (), schema)
  | table :: tables, schema =>
      match attempt faults (.create table) () with
      | .error reason => (.error reason, schema)
      | .ok _ => createAll tables (Function.update schema table (some (rowsOf schema table)))

/-- The loop of `copy_table` over the batches: the rows of the target, and how many were
copied. -/
def copyBatches {table : SchemaTable} : (batch : Nat) → List (List (Row table)) →
    (target : List (Row table)) → (copied : Nat) →
    Except MigrationError (List (Row table) × Nat)
  | batch, [], target, copied => attempt faults (.fetch table batch) (target, copied)
  | batch, rows :: rest, target, copied => do
      let rows ← attempt faults (.fetch table batch) rows
      let target ← attempt faults (.insert table batch) (target ++ rows)
      copyBatches (batch + 1) rest target (copied + rows.length)

def copyTable (source target : Tables Row) (table : SchemaTable) :
    Except MigrationError (Tables Row × TableOutcome) := do
  let sourceRows ← attempt faults (.countSource table) (source table).length
  let batches ← attempt faults (.select table) ((source table).toChunks batchRows)
  let (rows, copied) ← copyBatches faults 0 batches (target table) 0
  let targetRows ← attempt faults (.countTarget table) rows.length
  .ok (Function.update target table rows, ⟨table.name, sourceRows, copied, targetRows⟩)

def copyTables (source : Tables Row) :
    List SchemaTable → Tables Row → Except MigrationError (Tables Row × List TableOutcome)
  | [], target => .ok (target, [])
  | table :: tables, target => do
      let (target, outcome) ← copyTable faults source target table
      let (target, outcomes) ← copyTables source tables target
      .ok (target, outcome :: outcomes)

def occupiedTables (target : Tables Row) : Except MigrationError (List String) := do
  let counts ← sortedTables.mapM (fun table =>
    (attempt faults (.countOccupied table) (target table).length).map (fun rows =>
      (table.name, rows)))
  .ok ((counts.filter (fun count => 0 < count.2)).map Prod.fst)

def deleteTables : List SchemaTable → Tables Row → Except MigrationError (Tables Row)
  | [], target => .ok target
  | table :: tables, target => do
      let target ← attempt faults (.delete table) (Function.update target table [])
      deleteTables tables target

/-- The tables are emptied only where one of them has rows, the last one first. -/
def emptyTarget (occupied : List String) (target : Tables Row) :
    Except MigrationError (Tables Row) :=
  if occupied.isEmpty then .ok target else deleteTables faults sortedTables.reverse target

def refusalText (occupied : List String) : String :=
  "target is not empty: " ++ ", ".intercalate occupied ++
    " -- pass --force-empty to replace its contents"

/-- What happens inside the transaction of the target. -/
def migrateRows (source target : Tables Row) (forceEmpty : Bool) :
    Except MigrationError (Tables Row × List TableOutcome) := do
  let _ ← attempt faults .connectSource ()
  let _ ← attempt faults .beginTarget ()
  let occupied ← occupiedTables faults target
  if !occupied.isEmpty && !forceEmpty then .error (.systemExit (refusalText occupied))
  else
    let target ← emptyTarget faults occupied target
    let (target, outcomes) ← copyTables faults source sortedTables target
    attempt faults .commit (target, outcomes)

/-- `migrate`, and the target after it: what raises inside the transaction undoes it. -/
def migrate (source : Tables Row) (target : Schema Row) (forceEmpty : Bool) :
    Except MigrationError (List TableOutcome) × Schema Row :=
  match createAll faults sortedTables target with
  | (.error reason, created) => (.error reason, created)
  | (.ok _, created) =>
      match migrateRows faults source (rowsOf created) forceEmpty with
      | .error reason => (.error reason, created)
      | .ok (rows, outcomes) => (.ok outcomes, fun table => some (rows table))

end Migration

/-- A migration raises and leaves the rows of the target, or makes them those of the source.
It raises when the target has rows that it may not replace, and when a batch fails. -/
structure ExactOrNothing {Row : SchemaTable → Type} (faults : Faults) (source : Tables Row)
    (target : Schema Row) (forceEmpty : Bool)
    (result : Except MigrationError (List TableOutcome) × Schema Row) : Prop where
  raised : ∀ reason, result.1 = .error reason → rowsOf result.2 = rowsOf target
  returned : ∀ outcomes, result.1 = .ok outcomes → rowsOf result.2 = source ∧
    outcomes.map TableOutcome.name = sortedTables.map SchemaTable.name ∧
    ∀ outcome ∈ outcomes, outcome.complete = true
  refused : forceEmpty = false → ∀ table, rowsOf target table ≠ [] →
    ∃ reason, result.1 = .error reason
  failed : ∀ table batch, batch < ((source table).toChunks batchRows).length →
    faults (.fetch table batch) ≠ none ∨ faults (.insert table batch) ≠ none →
    ∃ reason, result.1 = .error reason

section Exact

variable {Row : SchemaTable → Type} {faults : Faults} {source target after : Tables Row}

theorem attempt_eq_ok {Value : Type} {statement : Statement} {value result : Value} :
    attempt faults statement value = .ok result ↔ faults statement = none ∧ value = result := by
  unfold attempt
  cases faults statement <;> simp

theorem rowsOf_createAll (tables : List SchemaTable) (schema : Schema Row) :
    rowsOf (createAll faults tables schema).2 = rowsOf schema := by
  induction tables generalizing schema with
  | nil => rfl
  | cons table tables ih =>
      rw [createAll]
      cases attempt faults (.create table) () with
      | error reason => rfl
      | ok _ =>
          refine (ih _).trans (funext fun other => ?_)
          by_cases same : other = table
          · subst same
            simp [rowsOf]
          · simp [rowsOf, Function.update_of_ne same]

def Sound (faults : Faults) (table : SchemaTable) (batch count : Nat) : Prop :=
  ∀ place < count, faults (.fetch table (batch + place)) = none ∧
    faults (.insert table (batch + place)) = none

theorem copyBatches_eq_ok {table : SchemaTable} {batch copied count : Nat}
    {batches : List (List (Row table))} {rows result : List (Row table)}
    (returned : copyBatches faults batch batches rows copied = .ok (result, count)) :
    result = rows ++ batches.flatten ∧ count = copied + batches.flatten.length ∧
      Sound faults table batch batches.length := by
  induction batches generalizing batch rows copied with
  | nil =>
      obtain ⟨-, same⟩ := attempt_eq_ok.mp returned
      cases same
      refine ⟨by simp, by simp, fun place below => ?_⟩
      cases below
  | cons first rest ih =>
      obtain ⟨fetched, read, returned⟩ := bind_eq_ok.mp returned
      obtain ⟨received, rfl⟩ := attempt_eq_ok.mp read
      obtain ⟨grown, written, returned⟩ := bind_eq_ok.mp returned
      obtain ⟨inserted, rfl⟩ := attempt_eq_ok.mp written
      obtain ⟨same, total, sound⟩ := ih returned
      refine ⟨by simp [same], by simp [total, Nat.add_assoc], fun place below => ?_⟩
      cases place with
      | zero => exact ⟨received, inserted⟩
      | succ place =>
          have later := sound place (Nat.lt_of_succ_lt_succ below)
          rwa [Nat.add_right_comm, Nat.add_assoc] at later

/-- What is said of a table whose rows all arrived in an empty one. -/
def copiedOutcome (source : Tables Row) (table : SchemaTable) : TableOutcome :=
  ⟨table.name, (source table).length, (source table).length, (source table).length⟩

theorem copyTable_eq_ok {table : SchemaTable} {outcome : TableOutcome}
    (clear : target table = [])
    (returned : copyTable faults source target table = .ok (after, outcome)) :
    after = Function.update target table (source table) ∧
      outcome = copiedOutcome source table ∧
      Sound faults table 0 ((source table).toChunks batchRows).length := by
  obtain ⟨sourceRows, counted, returned⟩ := bind_eq_ok.mp returned
  obtain ⟨-, rfl⟩ := attempt_eq_ok.mp counted
  obtain ⟨batches, selected, returned⟩ := bind_eq_ok.mp returned
  obtain ⟨-, rfl⟩ := attempt_eq_ok.mp selected
  obtain ⟨⟨rows, copied⟩, looped, returned⟩ := bind_eq_ok.mp returned
  obtain ⟨same, total, sound⟩ := copyBatches_eq_ok looped
  obtain ⟨targetRows, recounted, returned⟩ := bind_eq_ok.mp returned
  obtain ⟨-, rfl⟩ := attempt_eq_ok.mp recounted
  rw [clear, List.nil_append, flatten_toChunks] at same
  rw [flatten_toChunks, Nat.zero_add] at total
  subst same total
  cases returned
  exact ⟨rfl, rfl, sound⟩

theorem copyTables_eq_ok {tables : List SchemaTable} {outcomes : List TableOutcome}
    (once : tables.Nodup) (clear : ∀ table ∈ tables, target table = [])
    (returned : copyTables faults source tables target = .ok (after, outcomes)) :
    (∀ table, after table = if table ∈ tables then source table else target table) ∧
      outcomes = tables.map (copiedOutcome source) ∧
      ∀ table ∈ tables, Sound faults table 0 ((source table).toChunks batchRows).length := by
  induction tables generalizing target outcomes with
  | nil =>
      cases returned
      exact ⟨fun _ => rfl, rfl, by simp⟩
  | cons table tables ih =>
      obtain ⟨fresh, once⟩ := List.nodup_cons.mp once
      obtain ⟨⟨next, outcome⟩, copied, returned⟩ := bind_eq_ok.mp returned
      obtain ⟨rfl, rfl, sound⟩ := copyTable_eq_ok (clear table List.mem_cons_self) copied
      obtain ⟨⟨last, rest⟩, others, returned⟩ := bind_eq_ok.mp returned
      cases returned
      have clear : ∀ other ∈ tables, Function.update target table (source table) other = [] := by
        intro other member
        have differ : other ≠ table := fun same => fresh (same ▸ member)
        rw [Function.update_of_ne differ]
        exact clear other (List.mem_cons_of_mem _ member)
      obtain ⟨rows, rfl, rest_sound⟩ := ih once clear others
      refine ⟨fun other => ?_, rfl, ?_⟩
      · rw [rows]
        by_cases same : other = table
        · subst same
          simp [fresh]
        · simp [same]
      · intro other member
        rcases List.mem_cons.mp member with rfl | later
        · exact sound
        · exact rest_sound other later

theorem deleteTables_eq_ok {tables : List SchemaTable}
    (returned : deleteTables faults tables target = .ok after) :
    ∀ table, after table = if table ∈ tables then [] else target table := by
  induction tables generalizing target with
  | nil =>
      cases returned
      exact fun _ => rfl
  | cons table tables ih =>
      obtain ⟨emptied, deleted, returned⟩ := bind_eq_ok.mp returned
      obtain ⟨-, rfl⟩ := attempt_eq_ok.mp deleted
      intro other
      rw [ih returned other]
      by_cases same : other = table
      · subst same
        simp
      · simp [same]

theorem occupiedTables_eq_ok {occupied : List String}
    (returned : occupiedTables faults target = .ok occupied) :
    occupied = (sortedTables.filter (fun table => 0 < (target table).length)).map
      SchemaTable.name := by
  obtain ⟨counts, counted, returned⟩ := bind_eq_ok.mp returned
  cases returned
  have each := mapM_forall₂ counted
  clear counted returned
  generalize sortedTables = tables at each ⊢
  induction each with
  | nil => rfl
  | cons head _ ih =>
      obtain ⟨rows, found, rfl⟩ := map_eq_ok.mp head
      obtain ⟨-, rfl⟩ := attempt_eq_ok.mp found
      rw [List.filter_cons, List.filter_cons]
      split
      · rw [List.map_cons, List.map_cons, ih]
      · exact ih

theorem occupied_isEmpty {occupied : List String}
    (returned : occupiedTables faults target = .ok occupied) :
    occupied.isEmpty = true ↔ ∀ table, target table = [] := by
  rw [occupiedTables_eq_ok returned, List.isEmpty_iff, List.map_eq_nil_iff,
    List.filter_eq_nil_iff]
  simp only [decide_eq_true_eq, not_lt, Nat.le_zero, List.length_eq_zero_iff]
  exact ⟨fun clear table => clear table (mem_sortedTables table), fun clear table _ => clear table⟩

theorem migrateRows_eq_ok {forceEmpty : Bool} {outcomes : List TableOutcome}
    (returned : migrateRows faults source target forceEmpty = .ok (after, outcomes)) :
    after = source ∧ outcomes = sortedTables.map (copiedOutcome source) ∧
      (forceEmpty = true ∨ ∀ table, target table = []) ∧
      ∀ table, Sound faults table 0 ((source table).toChunks batchRows).length := by
  obtain ⟨_, -, returned⟩ := bind_eq_ok.mp returned
  obtain ⟨_, -, returned⟩ := bind_eq_ok.mp returned
  obtain ⟨occupied, counted, returned⟩ := bind_eq_ok.mp returned
  split at returned
  · cases returned
  · rename_i allowed
    obtain ⟨emptied, deleted, returned⟩ := bind_eq_ok.mp returned
    obtain ⟨⟨rows, done⟩, copied, returned⟩ := bind_eq_ok.mp returned
    obtain ⟨-, same⟩ := attempt_eq_ok.mp returned
    cases same
    have clear : ∀ table, emptied table = [] := by
      intro table
      rw [emptyTarget] at deleted
      split at deleted
      · rename_i free
        cases deleted
        exact (occupied_isEmpty counted).mp free table
      · rw [deleteTables_eq_ok deleted, if_pos]
        exact List.mem_reverse.mpr (mem_sortedTables table)
    obtain ⟨rows, rfl, sound⟩ := copyTables_eq_ok (by decide) (fun table _ => clear table) copied
    refine ⟨funext fun table => ?_, rfl, ?_, fun table => sound table (mem_sortedTables table)⟩
    · rw [rows, if_pos (mem_sortedTables table)]
    · cases forceEmpty with
      | true => exact Or.inl rfl
      | false => exact Or.inr ((occupied_isEmpty counted).mp (by simpa using allowed))

section Fine

variable (fine : ∀ statement, faults statement = none)
include fine

theorem attempt_fine {Value : Type} (statement : Statement) (value : Value) :
    attempt faults statement value = .ok value :=
  attempt_eq_ok.mpr ⟨fine statement, rfl⟩

theorem createAll_fine (tables : List SchemaTable) (schema : Schema Row) :
    (createAll faults tables schema).1 = .ok () := by
  induction tables generalizing schema with
  | nil => rfl
  | cons table tables ih =>
      rw [createAll, attempt_fine fine]
      exact ih _

theorem copyBatches_fine {table : SchemaTable} (batch copied : Nat)
    (batches : List (List (Row table))) (rows : List (Row table)) :
    ∃ result, copyBatches faults batch batches rows copied = .ok result := by
  induction batches generalizing batch rows copied with
  | nil => exact ⟨_, attempt_fine fine _ _⟩
  | cons first rest ih =>
      rw [copyBatches, attempt_fine fine]
      change ∃ result, (attempt faults _ _).bind _ = _
      rw [attempt_fine fine]
      exact ih _ _ _

theorem copyTable_fine (source target : Tables Row) (table : SchemaTable) :
    ∃ result, copyTable faults source target table = .ok result := by
  obtain ⟨⟨rows, copied⟩, looped⟩ := copyBatches_fine fine 0 0
    ((source table).toChunks batchRows) (target table)
  refine ⟨(Function.update target table rows,
    ⟨table.name, (source table).length, copied, rows.length⟩), ?_⟩
  simp only [copyTable, attempt_fine fine]
  change (copyBatches faults 0 _ _ 0).bind _ = _
  rw [looped]
  rfl

theorem copyTables_fine (source : Tables Row) (tables : List SchemaTable) (target : Tables Row) :
    ∃ result, copyTables faults source tables target = .ok result := by
  induction tables generalizing target with
  | nil => exact ⟨_, rfl⟩
  | cons table tables ih =>
      obtain ⟨⟨next, outcome⟩, copied⟩ := copyTable_fine fine source target table
      obtain ⟨⟨last, outcomes⟩, others⟩ := ih next
      refine ⟨(last, outcome :: outcomes), bind_eq_ok.mpr ⟨_, copied, ?_⟩⟩
      exact bind_eq_ok.mpr ⟨_, others, rfl⟩

theorem deleteTables_fine (tables : List SchemaTable) (target : Tables Row) :
    ∃ after, deleteTables faults tables target = .ok after := by
  induction tables generalizing target with
  | nil => exact ⟨_, rfl⟩
  | cons table tables ih =>
      rw [deleteTables, attempt_fine fine]
      exact ih _

theorem occupiedTables_fine (target : Tables Row) :
    ∃ occupied, occupiedTables faults target = .ok occupied := by
  have counted : sortedTables.mapM (fun table =>
      (attempt faults (.countOccupied table) (target table).length).map (fun rows =>
        (table.name, rows))) =
          .ok (sortedTables.map fun table => (table.name, (target table).length)) := by
    refine mapM_ok fun table _ => ?_
    rw [attempt_fine fine]
    rfl
  rw [occupiedTables, counted]
  exact ⟨_, rfl⟩

theorem migrateRows_fine (source target : Tables Row) {forceEmpty : Bool}
    (free : forceEmpty = true ∨ ∀ table, target table = []) :
    migrateRows faults source target forceEmpty =
      .ok (source, sortedTables.map (copiedOutcome source)) := by
  obtain ⟨occupied, counted⟩ := occupiedTables_fine fine target
  have allowed : (!occupied.isEmpty && !forceEmpty) = false := by
    rcases free with rfl | clear
    · exact Bool.and_false _
    · rw [(occupied_isEmpty counted).mpr clear]
      rfl
  have emptied : ∃ cleared, emptyTarget faults occupied target = .ok cleared := by
    rw [emptyTarget]
    split
    · exact ⟨target, rfl⟩
    · exact deleteTables_fine fine _ _
  obtain ⟨cleared, deleted⟩ := emptied
  obtain ⟨⟨rows, outcomes⟩, copied⟩ := copyTables_fine fine source sortedTables cleared
  have returned : migrateRows faults source target forceEmpty = .ok (rows, outcomes) := by
    unfold migrateRows
    rw [counted]
    simp only [attempt_fine fine]
    change (if (!occupied.isEmpty && !forceEmpty) = true then _ else _) = _
    rw [allowed, if_neg Bool.false_ne_true, deleted]
    change (copyTables faults source sortedTables cleared).bind _ = _
    rw [copied]
    rfl
  obtain ⟨rfl, rfl, -⟩ := migrateRows_eq_ok returned
  exact returned

/-- A migration returns where no statement fails and the target is empty or may be emptied. -/
theorem migrate_returns (source : Tables Row) (target : Schema Row) {forceEmpty : Bool}
    (free : forceEmpty = true ∨ ∀ table, rowsOf target table = []) :
    (migrate faults source target forceEmpty).1 =
        .ok (sortedTables.map (copiedOutcome source)) ∧
      rowsOf (migrate faults source target forceEmpty).2 = source := by
  have made := createAll_fine fine sortedTables target
  have kept := @rowsOf_createAll Row faults sortedTables target
  rw [migrate]
  cases created : createAll faults sortedTables target with
  | mk answer schema =>
      rw [created] at made kept
      dsimp only at made kept
      subst made
      dsimp only
      rw [kept, migrateRows_fine fine source (rowsOf target) free]
      exact ⟨rfl, rfl⟩

end Fine

theorem migrate_returns_forced :
    let source : Tables (fun _ => Nat) := fun table => if table = .appState then [7, 8] else []
    let target : Schema (fun _ => Nat) := fun table =>
      if table = .pageOptout then some [1] else none
    let result := migrate (fun _ => none) source target true
    result.1 = .ok (sortedTables.map (copiedOutcome source)) ∧ rowsOf result.2 = source :=
  migrate_returns (fun _ => rfl) _ _ (Or.inl rfl)

/-- The migration is exact or does nothing. -/
theorem migrate_exactOrNothing (faults : Faults) (source : Tables Row) (target : Schema Row)
    (forceEmpty : Bool) :
    ExactOrNothing faults source target forceEmpty
      (migrate faults source target forceEmpty) := by
  have kept := @rowsOf_createAll Row faults sortedTables target
  rw [migrate]
  cases created : createAll faults sortedTables target with
  | mk answer schema =>
      rw [created] at kept
      change rowsOf schema = rowsOf target at kept
      cases answer with
      | error reason =>
          exact ⟨fun _ _ => kept, fun _ same => (by cases same), fun _ _ _ => ⟨reason, rfl⟩,
            fun _ _ _ _ => ⟨reason, rfl⟩⟩
      | ok _ =>
          dsimp only
          cases ran : migrateRows faults source (rowsOf schema) forceEmpty with
          | error reason =>
              exact ⟨fun _ _ => kept, fun _ same => (by cases same), fun _ _ _ => ⟨reason, rfl⟩,
                fun _ _ _ _ => ⟨reason, rfl⟩⟩
          | ok result =>
              obtain ⟨rows, outcomes⟩ := result
              obtain ⟨rfl, rfl, allowed, sound⟩ := migrateRows_eq_ok ran
              refine ⟨fun _ same => (by cases same), ?_, ?_, ?_⟩
              · rintro outcomes same
                cases same
                refine ⟨rfl, rfl, ?_⟩
                intro outcome member
                obtain ⟨table, -, rfl⟩ := List.mem_map.mp member
                simp [copiedOutcome, TableOutcome.complete]
              · rintro unforced table occupied
                rcases allowed with forced | clear
                · rw [forced] at unforced
                  cases unforced
                · rw [← kept] at occupied
                  exact absurd (clear table) occupied
              · intro table batch below fails
                obtain ⟨fetched, inserted⟩ := sound table batch below
                rw [Nat.zero_add] at fetched inserted
                exact absurd fails (by simp [fetched, inserted])

end Exact

end WikiPeople
