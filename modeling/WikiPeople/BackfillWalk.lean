import WikiPeople.Backfill
import WikiPeople.Library.Ranking

/-! The length walk covers every article: what is saved is a prefix of the order of the walk,
whatever is killed and started again. -/

namespace WikiPeople

open Relational Transition

section Invariant

variable (settings : Settings) (unicode : Text.Unicode) (pages : Table PageRow) (wiki : String)

/-- What the text in `app_state` leaves of the walk. -/
inductive Stored : Option String → List ReplicaPage → Prop
  | complete : Stored (some completeMark) []
  | resuming (raw : Option String) (cursor : Option LengthCursor)
      (unfinished : raw ≠ some completeMark)
      (read : LengthCursor.decode unicode raw = .ok cursor) :
      Stored raw (remaining pages cursor)

/-- Where a run is, with the pages of the batch at hand that it has come to. -/
def Staged (raw : Option String) (batch : List ReplicaPage) : Stage → Prop
  | .idle => batch = []
  | .querying cursor _ =>
      batch = [] ∧ raw ≠ some completeMark ∧ LengthCursor.decode unicode raw = .ok cursor
  | .enqueueing todo next _ =>
      raw ≠ some completeMark ∧ ∃ cursor, LengthCursor.decode unicode raw = .ok cursor ∧
        pagesByDescendingLength pages cursor settings.backfillBatchSize.toNat =
          .ok (batch ++ todo, next)

/-- The saved pages are the walk up to the stored cursor, and only interrupted batches make
the pages that were passed on differ from them and the batch at hand. -/
structure Walked (walk : Walk) (history : Passed) : Prop where
  split : ∃ rest, walkOrder pages = history.saved ++ rest ∧
    Stored unicode pages (walk.database.getState (lengthCursorKey wiki)) rest
  staged : Staged settings unicode pages (walk.database.getState (lengthCursorKey wiki))
    history.batch walk.stage
  passed : history.passed.Perm
    (history.saved ++ history.batch ++ history.interrupted.flatten)
  calm : history.interrupted = [] → history.passed = history.saved ++ history.batch
  parts : ∀ part ∈ history.interrupted, part.Sublist (walkOrder pages)
  pace : walk.database.getState (lengthCursorKey wiki) ≠ some completeMark →
    history.batches * settings.backfillBatchSize.toNat ≤ history.saved.length

end Invariant

section Steps

variable {settings : Settings} {unicode : Text.Unicode} {pages : Table PageRow} {wiki : String}
  {database : BackfillTables} {store : Store} {history : Passed} {stage : Stage}
  {raw : Option String} {cursor next : Option LengthCursor} {page : ReplicaPage}
  {todo batch rest : List ReplicaPage} {left : Nat}

theorem Stored.eq_remaining (stored : Stored unicode pages raw rest)
    (unfinished : raw ≠ some completeMark)
    (read : LengthCursor.decode unicode raw = .ok cursor) : remaining pages cursor = rest := by
  cases stored with
  | complete => exact absurd rfl unfinished
  | resuming _ other _ same =>
      rw [read] at same
      cases same
      rfl

theorem Walked.serve (walked : Walked settings unicode pages wiki ⟨database, stage⟩ history) :
    Walked settings unicode pages wiki ⟨{ database with store := store }, stage⟩ history where
  split := walked.split
  staged := walked.staged
  passed := walked.passed
  calm := walked.calm
  parts := walked.parts
  pace := walked.pace

section Positive

variable (positive : 0 < settings.backfillBatchSize.toNat)
include positive

theorem Walked.queried (walked : Walked settings unicode pages wiki ⟨database, stage⟩ history)
    (unfinished : database.getState (lengthCursorKey wiki) ≠ some completeMark)
    (read : LengthCursor.decode unicode (database.getState (lengthCursorKey wiki)) =
      .ok cursor) :
    ∃ rest next, walkOrder pages = history.saved ++ rest ∧
      pagesByDescendingLength pages cursor settings.backfillBatchSize.toNat =
        .ok (rest.take settings.backfillBatchSize.toNat, next) ∧
      ((next = none ∧ rest.drop settings.backfillBatchSize.toNat = []) ∨
        ∃ last, next = some last ∧ (last.pageId < 2 ^ 32 ∧ last.length < 2 ^ 32) ∧
          (rest.take settings.backfillBatchSize.toNat).length =
            settings.backfillBatchSize.toNat ∧
          remaining pages (some last) = rest.drop settings.backfillBatchSize.toNat) := by
  obtain ⟨rest, split, stored⟩ := walked.split
  obtain ⟨next, found, resumes⟩ :=
    pagesByDescendingLength_spec positive split (stored.eq_remaining unfinished read)
  exact ⟨rest, next, split, found, resumes⟩

theorem Walked.ahead (walked : Walked settings unicode pages wiki ⟨database, stage⟩ history) :
    history.saved ++ history.batch <+: walkOrder pages := by
  obtain ⟨rest, split, _⟩ := walked.split
  cases stage with
  | idle =>
      have none_ : history.batch = [] := walked.staged
      exact ⟨rest, by rw [split, none_, List.append_nil]⟩
  | querying cursor left =>
      have none_ : history.batch = [] := walked.staged.1
      exact ⟨rest, by rw [split, none_, List.append_nil]⟩
  | enqueueing todo next left =>
      obtain ⟨unfinished, cursor, read, found⟩ := walked.staged
      obtain ⟨rest, other, order, answered, _⟩ := walked.queried positive unfinished read
      rw [found, Except.ok.injEq, Prod.mk.injEq] at answered
      refine ⟨todo ++ rest.drop settings.backfillBatchSize.toNat, ?_⟩
      calc history.saved ++ history.batch ++
            (todo ++ rest.drop settings.backfillBatchSize.toNat)
          = history.saved ++
              (history.batch ++ todo ++ rest.drop settings.backfillBatchSize.toNat) := by
            simp only [List.append_assoc]
        _ = walkOrder pages := by rw [answered.1, List.take_append_drop, order]

theorem Walked.save
    (walked : Walked settings unicode pages wiki ⟨database, .enqueueing [] next left⟩ history) :
    Walked settings unicode pages wiki
      ⟨database.setState (lengthCursorKey wiki) (cursorText next), afterSave next left⟩
      { history with
        saved := history.saved ++ history.batch, batch := [], batches := history.batches + 1 } := by
  obtain ⟨unfinished, cursor, read, found⟩ := walked.staged
  obtain ⟨rest, other, order, answered, resumes⟩ := walked.queried positive unfinished read
  rw [found, Except.ok.injEq, Prod.mk.injEq, List.append_nil] at answered
  obtain ⟨taken, rfl⟩ := answered
  have grown : walkOrder pages = history.saved ++ history.batch ++
      rest.drop settings.backfillBatchSize.toNat := by
    rw [order, taken, List.append_assoc, List.take_append_drop]
  have passed : history.passed.Perm
      (history.saved ++ history.batch ++ [] ++ history.interrupted.flatten) := by
    rw [List.append_nil]
    exact walked.passed
  have calm : history.interrupted = [] →
      history.passed = history.saved ++ history.batch ++ [] := by
    rw [List.append_nil]
    exact walked.calm
  rcases resumes with ⟨rfl, nothing⟩ | ⟨last, rfl, narrow, full, left_⟩
  · -- The batch came back short: all pages have been passed on.
    have written : (database.setState (lengthCursorKey wiki) (cursorText none)).getState
        (lengthCursorKey wiki) = some completeMark := BackfillTables.getState_setState _ _ _
    refine ⟨⟨_, grown, ?_⟩, ?_, passed, calm, walked.parts, ?_⟩
    · rw [written, nothing]
      exact .complete
    · cases left <;> exact rfl
    · exact fun open_ => absurd written open_
  · have written : (database.setState (lengthCursorKey wiki) (cursorText (some last))).getState
        (lengthCursorKey wiki) = some last.encode := BackfillTables.getState_setState _ _ _
    have resumable : some last.encode ≠ some completeMark := by
      intro same
      exact encode_ne_complete last (Option.some.inj same)
    have again : LengthCursor.decode unicode (some last.encode) = .ok (some last) :=
      LengthCursor.decode_encode (narrow_printable narrow.2) (narrow_printable narrow.1)
    refine ⟨⟨_, grown, ?_⟩, ?_, passed, calm, walked.parts, ?_⟩
    · rw [written, ← left_]
      exact .resuming _ _ resumable again
    · cases left with
      | zero => exact rfl
      | succ left =>
          refine ⟨rfl, ?_⟩
          dsimp only
          rw [written]
          exact ⟨resumable, again⟩
    · intro _
      have pace := walked.pace unfinished
      dsimp only at pace ⊢
      rw [List.length_append, taken, full, Nat.succ_mul]
      exact Nat.add_le_add_right pace _

end Positive

theorem Walked.enqueue
    (walked : Walked settings unicode pages wiki ⟨database, .enqueueing (page :: todo) next left⟩
      history) :
    Walked settings unicode pages wiki
      ⟨{ database with store := store }, .enqueueing todo next left⟩
      { history with
        passed := history.passed ++ [page], batch := history.batch ++ [page] } where
  split := walked.split
  staged := by
    obtain ⟨unfinished, cursor, read, found⟩ := walked.staged
    refine ⟨unfinished, cursor, read, ?_⟩
    rwa [List.append_assoc]
  passed := perm_enqueued walked.passed page
  calm := by
    intro quiet
    dsimp only at quiet ⊢
    rw [walked.calm quiet, List.append_assoc]
  parts := walked.parts
  pace := walked.pace

end Steps

section Runs

variable {settings : Settings} {unicode : Text.Unicode} {pages : Table PageRow} {wiki : String}
  {start database : BackfillTables} {history : Passed} {clock : ReplicaPage → Time}

def BackfillRun.asked (run : BackfillRun) : Nat := (max 1 run.batches).toNat

end Runs

/-- What holds whatever was killed: no page is lost, and only what interrupted batches had
passed on is passed on again. -/
structure Resumable (unicode : Text.Unicode) (pages : Table PageRow) (wiki : String)
    (walk : Walk) (history : Passed) : Prop where
  whole : walk.database.getState (lengthCursorKey wiki) = some completeMark →
    ∀ page ∈ articles pages, page ∈ history.passed
  unskipped : ∀ cursor,
    LengthCursor.decode unicode (walk.database.getState (lengthCursorKey wiki)) = .ok cursor →
      walk.database.getState (lengthCursorKey wiki) ≠ some completeMark →
        ∀ page ∈ articles pages, page ∈ history.passed ∨
          below ReplicaPage.position (cursor.map LengthCursor.position) page = true
  main : ∀ page ∈ history.passed, page ∈ articles pages
  repeats : ∀ page, history.passed.count page ≤
    1 + (history.interrupted.filter (fun part => page ∈ part)).length

section Covers

variable {settings : Settings} {unicode : Text.Unicode} {pages : Table PageRow} {wiki : String}
  {walk : Walk} {history : Passed}

theorem Walked.all_saved (walked : Walked settings unicode pages wiki walk history)
    (finished : walk.database.getState (lengthCursorKey wiki) = some completeMark) :
    walkOrder pages = history.saved := by
  obtain ⟨rest, split, stored⟩ := walked.split
  rw [finished] at stored
  cases stored with
  | complete => rw [split, List.append_nil]
  | resuming _ _ unfinished _ => exact absurd rfl unfinished

theorem Walked.resumable (positive : 0 < settings.backfillBatchSize.toNat)
    (walked : Walked settings unicode pages wiki walk history) :
    Resumable unicode pages wiki walk history := by
  have ahead := walked.ahead positive
  have saved : ∀ page ∈ history.saved, page ∈ history.passed := by
    intro page member
    exact walked.passed.mem_iff.mpr (by simp [member])
  refine ⟨?_, ?_, ?_, ?_⟩
  · intro finished page member
    apply saved page
    rw [← walked.all_saved finished]
    exact mem_descending.mpr member
  · intro cursor read unfinished page member
    obtain ⟨rest, split, stored⟩ := walked.split
    have present : page ∈ walkOrder pages := mem_descending.mpr member
    rw [split] at present
    rcases List.mem_append.mp present with before | left
    · exact Or.inl (saved page before)
    · rw [← stored.eq_remaining unfinished read] at left
      exact Or.inr (List.mem_filter.mp left).2
  · intro page member
    rw [walked.passed.mem_iff, List.mem_append, List.mem_flatten] at member
    rcases member with own | ⟨part, interrupted, again⟩
    · exact mem_descending.mp (ahead.subset own)
    · exact mem_descending.mp ((walked.parts part interrupted).subset again)
  · intro page
    have once : (history.saved ++ history.batch).count page ≤ 1 :=
      List.nodup_iff_count_le_one.mp (walkOrder_nodup.sublist ahead.sublist) page
    have again := count_flatten_le
      (fun part member => walkOrder_nodup.sublist (walked.parts part member)) page
    rw [walked.passed.count_eq, List.count_append]
    omega

end Covers

end WikiPeople
