import WikiPeople.Replica
import WikiPeople.System

/-! The backfill job: batches of the length walk are passed to `enqueue_if_stale`, and the
cursor is saved after each. -/

namespace WikiPeople

open Relational Transition

/-- `COMPLETE`. -/
def completeMark : String := "__COMPLETE__"

def lengthCursorKey (wiki : String) : String := s!"backfill:{wiki}:length-cursor"

/-- What a backfill job reads and writes: the queue, and the rows of `app_state`. -/
structure BackfillTables where
  store : Store
  appState : Dict String String

namespace BackfillTables

def getState (database : BackfillTables) (key : String) : Option String :=
  (database.appState.find key).map Prod.snd

def setState (database : BackfillTables) (key value : String) : BackfillTables :=
  { database with appState := database.appState.put (key, value) }

theorem getState_setState (database : BackfillTables) (key value : String) :
    (database.setState key value).getState key = some value := by
  rw [getState, setState, Table.find_put]
  change (if key = key then some (key, value) else _ : Option _).map _ = _
  rw [if_pos rfl]
  rfl

end BackfillTables

def cursorText (next : Option LengthCursor) : String := next.elim completeMark LengthCursor.encode

theorem encode_ne_complete (cursor : LengthCursor) : cursor.encode ≠ completeMark := by
  intro same
  have colon : ':' ∈ cursor.encode.toList := by simp [LengthCursor.encode, toString]
  rw [same] at colon
  exact absurd colon (by decide)

section Job

variable (settings : Settings) (unicode : Text.Unicode) (pages : Table PageRow) (wiki : String)

def pageKey (page : ReplicaPage) : Identity :=
  { wiki := wiki, pageId := page.pageId, algorithmVersion := settings.algorithmVersion
    revisionId := page.revisionId }

def enqueuePage (store : Store) (page : ReplicaPage) (now : Time) : Bool × Store :=
  enqueueIfStale store (pageKey settings wiki page) 10 settings.pageFreshnessSeconds now

/-- How many pages were queued. `clock` is when each page is passed on. -/
def enqueuePages (clock : ReplicaPage → Time) : Store → List ReplicaPage → Nat × Store
  | store, [] => (0, store)
  | store, page :: todo =>
      let (queued, next) := enqueuePage settings wiki store page (clock page)
      let (count, after) := enqueuePages clock next todo
      ((if queued then count + 1 else count), after)

/-- What a job returned or raised, the pages it passed to `enqueue_if_stale`, in order, and
the database it leaves. -/
structure Backfilled where
  outcome : Except Exn Nat
  passed : List ReplicaPage
  after : BackfillTables

def backfillBatches (clock : ReplicaPage → Time) :
    Nat → Option LengthCursor → Nat → List ReplicaPage → BackfillTables → Backfilled
  | 0, _, queued, passed, database => ⟨.ok queued, passed, database⟩
  | left + 1, cursor, queued, passed, database =>
      match pagesByDescendingLength pages cursor settings.backfillBatchSize.toNat with
      | .error raised => ⟨.error raised, passed, database⟩
      | .ok (found, next) =>
          let (count, store) := enqueuePages settings wiki clock database.store found
          let saved := { database with store := store }.setState (lengthCursorKey wiki)
            (cursorText next)
          match next with
          | none => ⟨.ok (queued + count), passed ++ found, saved⟩
          | some cursor =>
              backfillBatches clock left (some cursor) (queued + count) (passed ++ found) saved

def backfillByLength (clock : ReplicaPage → Time) (batches : Int) (database : BackfillTables) :
    Backfilled :=
  let raw := database.getState (lengthCursorKey wiki)
  if raw = some completeMark then ⟨.ok 0, [], database⟩
  else
    match LengthCursor.decode unicode raw with
    | .error raised => ⟨.error raised, [], database⟩
    | .ok cursor =>
        backfillBatches settings pages wiki clock (max 1 batches).toNat cursor 0 [] database

/-- One run of the job: the store it finds, its clock and how many batches it was given. -/
structure BackfillRun where
  store : Store
  clock : ReplicaPage → Time
  batches : Int

/-- Where a run of the job is. `left` batches follow the one at hand. -/
inductive Stage where
  | idle
  | querying (cursor : Option LengthCursor) (left : Nat)
  | enqueueing (todo : List ReplicaPage) (next : Option LengthCursor) (left : Nat)

structure Walk where
  database : BackfillTables
  stage : Stage

def afterSave : Option LengthCursor → Nat → Stage
  | some cursor, left + 1 => .querying (some cursor) left
  | _, _ => .idle

/-- What the steps have passed on: every page in order; of these, the pages of batches whose
cursor was saved, those of the batch at hand and, for each batch that was interrupted, those
it had come to. -/
structure Passed where
  passed : List ReplicaPage
  saved : List ReplicaPage
  batch : List ReplicaPage
  interrupted : List (List ReplicaPage)
  batches : Nat

def Passed.empty : Passed := ⟨[], [], [], [], 0⟩

end Job

section Passing

variable {Page : Type} {passed saved batch : List Page} {interrupted : List (List Page)}
  (all : passed.Perm (saved ++ batch ++ interrupted.flatten))
include all

theorem perm_enqueued (page : Page) :
    (passed ++ [page]).Perm (saved ++ (batch ++ [page]) ++ interrupted.flatten) := by
  apply (all.append_right [page]).trans
  rw [List.append_assoc, ← List.append_assoc saved batch [page],
    List.append_assoc (saved ++ batch)]
  exact List.perm_append_comm.append_left _

end Passing

theorem enqueuePage_step (runtime : Runtime) (system : System) (wiki : String)
    (page : ReplicaPage) :
    step runtime system (.enqueueIfStale (pageKey runtime.settings wiki page) 10
        runtime.settings.pageFreshnessSeconds) =
      some { system with
        store := (enqueuePage runtime.settings wiki system.store page system.now).2 } := rfl

end WikiPeople
