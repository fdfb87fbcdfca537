import WikiPeople.Backfill

/-! The backfill of a list of wikis: down the lengths of the replica where there are
credentials for it, else in title order through the Action API. -/

namespace WikiPeople

open Relational

/-- What `ReplicaClient` is given to connect with. -/
structure Credentials where
  user : String
  password : String

def Credentials.available (credentials : Credentials) : Bool :=
  !credentials.user.isEmpty && !credentials.password.isEmpty

def titleCursorKey (wiki : String) : String := s!"backfill:{wiki}:cursor"

/-- The turn of one wiki: what its replica and the Action API answer to each batch, where the
connection or the query may fail, and when each page is passed on. -/
structure WikiTurn where
  wiki : String
  replica : (batch : Nat) → Option LengthCursor → (limit : Nat) →
    Except Exn (List ReplicaPage × Option LengthCursor)
  allPages : (batch : Nat) → Option String → Except Exn (List PageMetadata × Option String)
  clock : Int × Int → Time

section Turn

variable (settings : Settings) (unicode : Text.Unicode) (batches : Int)

/-- `enqueue_pages`, over page and revision ids. -/
def enqueuePairs (turn : WikiTurn) : Store → List (Int × Int) → Nat × Store
  | store, [] => (0, store)
  | store, pair :: todo =>
      let identity : Identity :=
        { wiki := turn.wiki, pageId := pair.1, algorithmVersion := settings.algorithmVersion
          revisionId := pair.2 }
      let (queued, next) := enqueueIfStale store identity 10 settings.pageFreshnessSeconds
        (turn.clock pair)
      let (count, after) := enqueuePairs turn next todo
      ((if queued then count + 1 else count), after)

def replicaPair (page : ReplicaPage) : Int × Int := (page.pageId, page.revisionId)

/-- The loop down the lengths, with the number of the batch and what was queued so far. -/
def lengthBatches (turn : WikiTurn) :
    Nat → Nat → Option LengthCursor → Nat → BackfillTables → Except Exn Nat × BackfillTables
  | 0, _, _, queued, database => (.ok queued, database)
  | left + 1, batch, cursor, queued, database =>
      match turn.replica batch cursor settings.backfillBatchSize.toNat with
      | .error raised => (.error raised, database)
      | .ok (found, next) =>
          let (count, store) := enqueuePairs settings turn database.store (found.map replicaPair)
          let saved := { database with store := store }.setState (lengthCursorKey turn.wiki)
            (cursorText next)
          match next with
          | none => (.ok (queued + count), saved)
          | some cursor =>
              lengthBatches turn left (batch + 1) (some cursor) (queued + count) saved

def walkByLength (turn : WikiTurn) (database : BackfillTables) :
    Except Exn Nat × BackfillTables :=
  let raw := database.getState (lengthCursorKey turn.wiki)
  if raw = some completeMark then (.ok 0, database)
  else
    match LengthCursor.decode unicode raw with
    | .error raised => (.error raised, database)
    | .ok cursor => lengthBatches settings turn (max 1 batches).toNat 0 cursor 0 database

/-- `text or None`. -/
def presentText (text : Option String) : Option String := text.filter (fun text => !text.isEmpty)

def titleBatches (turn : WikiTurn) :
    Nat → Nat → Option String → Nat → BackfillTables → Except Exn Nat × BackfillTables
  | 0, _, _, queued, database => (.ok queued, database)
  | left + 1, batch, cursor, queued, database =>
      match turn.allPages batch (presentText cursor) with
      | .error raised => (.error raised, database)
      | .ok (found, next) =>
          let (count, store) := enqueuePairs settings turn database.store
            (found.map (fun page => (page.pageId, page.revisionId)))
          let saved := { database with store := store }.setState (titleCursorKey turn.wiki)
            ((presentText next).getD completeMark)
          match next with
          | none => (.ok (queued + count), saved)
          | some cursor =>
              titleBatches turn left (batch + 1) (some cursor) (queued + count) saved

def walkByTitle (turn : WikiTurn) (database : BackfillTables) : Except Exn Nat × BackfillTables :=
  let cursor := database.getState (titleCursorKey turn.wiki)
  if cursor = some completeMark then (.ok 0, database)
  else titleBatches settings turn (max 1 batches).toNat 0 cursor 0 database

structure TurnRecord where
  turn : WikiTurn
  before : BackfillTables
  byTitle : Bool
  outcome : Except Exn Nat
  after : BackfillTables

variable (credentials : Credentials)

/-- `backfill_wiki`. -/
def backfillWiki (database : BackfillTables) (turn : WikiTurn) : TurnRecord :=
  if credentials.available then
    let (outcome, after) := walkByLength settings unicode batches turn database
    ⟨turn, database, false, outcome, after⟩
  else
    let (outcome, after) := walkByTitle settings batches turn database
    ⟨turn, database, true, outcome, after⟩

/-- The turns that `main` takes. The first that raises ends the job. -/
def backfillJob : BackfillTables → List WikiTurn → List TurnRecord
  | _, [] => []
  | database, turn :: turns =>
      let record := backfillWiki settings unicode batches credentials database turn
      match record.outcome with
      | .error _ => [record]
      | .ok _ => record :: backfillJob record.after turns

end Turn

/-! The length walk over a page table is the one of a single wiki. -/

section Table

variable {settings : Settings} {unicode : Text.Unicode} {turn : WikiTurn} {pages : Table PageRow}

theorem enqueuePairs_replica (store : Store) (found : List ReplicaPage) :
    enqueuePairs settings turn store (found.map replicaPair) =
      enqueuePages settings turn.wiki (fun page => turn.clock (replicaPair page)) store found := by
  induction found generalizing store with
  | nil => rfl
  | cons page todo ih =>
      rw [List.map_cons, enqueuePairs, enqueuePages]
      simp only [ih]
      rfl

theorem lengthBatches_table (answers : ∀ batch cursor limit,
      turn.replica batch cursor limit = pagesByDescendingLength pages cursor limit)
    (left batch : Nat) (cursor : Option LengthCursor) (queued : Nat) (passed : List ReplicaPage)
    (database : BackfillTables) :
    lengthBatches settings turn left batch cursor queued database =
      let walked := backfillBatches settings pages turn.wiki
        (fun page => turn.clock (replicaPair page)) left cursor queued passed database
      (walked.outcome, walked.after) := by
  induction left generalizing batch cursor queued passed database with
  | zero => rfl
  | succ left ih =>
      rw [lengthBatches, backfillBatches, answers]
      cases found : pagesByDescendingLength pages cursor settings.backfillBatchSize.toNat with
      | error raised => rfl
      | ok answer =>
          obtain ⟨batchPages, next⟩ := answer
          simp only [enqueuePairs_replica]
          cases next with
          | none => rfl
          | some next => exact ih _ _ _ _ _

theorem walkByLength_table {batches : Int} (answers : ∀ batch cursor limit,
      turn.replica batch cursor limit = pagesByDescendingLength pages cursor limit)
    (database : BackfillTables) :
    walkByLength settings unicode batches turn database =
      let walked := backfillByLength settings unicode pages turn.wiki
        (fun page => turn.clock (replicaPair page)) batches database
      (walked.outcome, walked.after) := by
  unfold walkByLength backfillByLength
  dsimp only
  split
  · rfl
  · cases LengthCursor.decode unicode (database.getState (lengthCursorKey turn.wiki)) with
    | error raised => rfl
    | ok cursor => exact lengthBatches_table answers _ _ _ _ _ _

end Table

section Fails

variable (settings : Settings) (unicode : Text.Unicode) (batches : Int)

/-- One of the queries of the walk fails, counted from a batch on. -/
def queryFails (turn : WikiTurn) : Nat → Nat → Option LengthCursor → Bool
  | 0, _, _ => false
  | left + 1, batch, cursor =>
      match turn.replica batch cursor settings.backfillBatchSize.toNat with
      | .error _ => true
      | .ok (_, none) => false
      | .ok (_, some next) => queryFails turn left (batch + 1) (some next)

def legibleCursor (raw : Option String) : Bool :=
  raw = some completeMark || (LengthCursor.decode unicode raw).isOk

/-- The replica fails the wiki, given the cursor it has stored. -/
def replicaFails (raw : Option String) (turn : WikiTurn) : Bool :=
  raw ≠ some completeMark &&
    match LengthCursor.decode unicode raw with
    | .error _ => false
    | .ok cursor => queryFails settings turn (max 1 batches).toNat 0 cursor

/-- In every turn the stored cursor can be read and the replica does not fail. -/
def NoneFails : BackfillTables → List WikiTurn → Prop
  | _, [] => True
  | before, turn :: turns =>
      let raw := before.getState (lengthCursorKey turn.wiki)
      legibleCursor unicode raw = true ∧ replicaFails settings unicode batches raw turn = false ∧
        NoneFails (walkByLength settings unicode batches turn before).2 turns

/-- Every wiki has its turn. One whose replica fails is walked in title order and its length
cursor left alone, and every other one comes to its end. -/
structure FallsBack (turns : List WikiTurn) (records : List TurnRecord) : Prop where
  processed : records.map TurnRecord.turn = turns
  fallen : ∀ record ∈ records,
    replicaFails settings unicode batches
        (record.before.getState (lengthCursorKey record.turn.wiki)) record.turn = true →
      record.byTitle = true ∧ (record.outcome, record.after) =
          walkByTitle settings batches record.turn record.before ∧
        record.after.getState (lengthCursorKey record.turn.wiki) =
          record.before.getState (lengthCursorKey record.turn.wiki)
  others : ∀ record ∈ records,
    replicaFails settings unicode batches
        (record.before.getState (lengthCursorKey record.turn.wiki)) record.turn = false →
      ∃ queued, record.outcome = .ok queued

end Fails

section Runs

variable {settings : Settings} {unicode : Text.Unicode} {batches : Int}
  {credentials : Credentials} {turn : WikiTurn} {turns : List WikiTurn}

/-- The loop raises exactly where one of its queries fails. -/
theorem lengthBatches_fails (left batch : Nat) (cursor : Option LengthCursor) (queued : Nat)
    (database : BackfillTables) :
    queryFails settings turn left batch cursor = true ↔
      ∃ raised, (lengthBatches settings turn left batch cursor queued database).1 =
        .error raised := by
  induction left generalizing batch cursor queued database with
  | zero => simp [queryFails, lengthBatches]
  | succ left ih =>
      rw [queryFails, lengthBatches]
      cases turn.replica batch cursor settings.backfillBatchSize.toNat with
      | error raised => simp
      | ok answer =>
          obtain ⟨found, next⟩ := answer
          cases next with
          | none => simp
          | some next => exact ih _ _ _ _

/-- A walk down the lengths returns exactly where its cursor can be read and no query fails. -/
theorem walkByLength_returns (database : BackfillTables) :
    (∃ queued, (walkByLength settings unicode batches turn database).1 = .ok queued) ↔
      legibleCursor unicode (database.getState (lengthCursorKey turn.wiki)) = true ∧
        replicaFails settings unicode batches (database.getState (lengthCursorKey turn.wiki))
          turn = false := by
  unfold walkByLength legibleCursor replicaFails
  dsimp only
  by_cases complete : database.getState (lengthCursorKey turn.wiki) = some completeMark
  · simp [complete]
  · cases read : LengthCursor.decode unicode (database.getState (lengthCursorKey turn.wiki)) with
    | error raised => simp [complete, Except.isOk, Except.toBool]
    | ok cursor =>
        have fails := @lengthBatches_fails settings turn (max 1 batches).toNat 0 cursor 0 database
        cases walked : (lengthBatches settings turn (max 1 batches).toNat 0 cursor 0
            database).1 with
        | error raised =>
            rw [walked] at fails
            simp [complete, walked, fails.mpr ⟨raised, rfl⟩]
        | ok queued =>
            have fine : queryFails settings turn (max 1 batches).toNat 0 cursor = false := by
              by_contra failed
              obtain ⟨raised, same⟩ := fails.mp (by simpa using failed)
              rw [walked] at same
              cases same
            simp [complete, walked, fine, Except.isOk, Except.toBool]

theorem backfillWiki_available (configured : credentials.available = true)
    (database : BackfillTables) :
    backfillWiki settings unicode batches credentials database turn =
      ⟨turn, database, false, (walkByLength settings unicode batches turn database).1,
        (walkByLength settings unicode batches turn database).2⟩ := by
  rw [backfillWiki, if_pos configured]

def TurnRecord.Falls (settings : Settings) (unicode : Text.Unicode) (batches : Int)
    (record : TurnRecord) : Prop :=
  (replicaFails settings unicode batches
      (record.before.getState (lengthCursorKey record.turn.wiki)) record.turn = true →
    record.byTitle = true ∧ (record.outcome, record.after) =
        walkByTitle settings batches record.turn record.before ∧
      record.after.getState (lengthCursorKey record.turn.wiki) =
        record.before.getState (lengthCursorKey record.turn.wiki)) ∧
    (replicaFails settings unicode batches
        (record.before.getState (lengthCursorKey record.turn.wiki)) record.turn = false →
      ∃ queued, record.outcome = .ok queued)

theorem fallsBack_iff {records : List TurnRecord} :
    FallsBack settings unicode batches turns records ↔ records.map TurnRecord.turn = turns ∧
      ∀ record ∈ records, record.Falls settings unicode batches := by
  constructor
  · intro held
    exact ⟨held.processed, fun record member => ⟨held.fallen record member,
      held.others record member⟩⟩
  · rintro ⟨processed, each⟩
    exact ⟨processed, fun record member => (each record member).1,
      fun record member => (each record member).2⟩

theorem fallsBack_cons {record : TurnRecord} {records : List TurnRecord} :
    FallsBack settings unicode batches (turn :: turns) (record :: records) ↔
      (record.turn = turn ∧ record.Falls settings unicode batches) ∧
        FallsBack settings unicode batches turns records := by
  rw [fallsBack_iff, fallsBack_iff, List.map_cons, List.cons.injEq, List.forall_mem_cons]
  exact and_and_and_comm

theorem falls_walkByLength (database : BackfillTables) :
    TurnRecord.Falls settings unicode batches
        ⟨turn, database, false, (walkByLength settings unicode batches turn database).1,
          (walkByLength settings unicode batches turn database).2⟩ ↔
      legibleCursor unicode (database.getState (lengthCursorKey turn.wiki)) = true ∧
        replicaFails settings unicode batches (database.getState (lengthCursorKey turn.wiki))
          turn = false := by
  rw [← walkByLength_returns database]
  constructor
  · rintro ⟨fallen, others⟩
    cases fails : replicaFails settings unicode batches
        (database.getState (lengthCursorKey turn.wiki)) turn with
    | true => cases (fallen fails).1
    | false => exact others fails
  · intro returned
    have fine := ((walkByLength_returns database).mp returned).2
    refine ⟨fun fails => ?_, fun _ => returned⟩
    cases fine.symm.trans fails

end Runs

/-- With credentials configured, wikis fall back and harm nobody else exactly where there is
nothing to fall back from. -/
theorem falls_back_iff (settings : Settings) (unicode : Text.Unicode) (batches : Int)
    (credentials : Credentials) (database : BackfillTables) (turns : List WikiTurn)
    (configured : credentials.available = true) :
    FallsBack settings unicode batches turns
        (backfillJob settings unicode batches credentials database turns) ↔
      NoneFails settings unicode batches database turns := by
  induction turns generalizing database with
  | nil => simp [fallsBack_iff, backfillJob, NoneFails]
  | cons turn turns ih =>
      have returns := @walkByLength_returns settings unicode batches turn database
      have falls := @falls_walkByLength settings unicode batches turn database
      rw [backfillJob, backfillWiki_available configured]
      dsimp only
      cases walked : (walkByLength settings unicode batches turn database).1 with
      | error raised =>
          rw [walked] at returns falls
          have fails : ¬ ∃ queued, (.error raised : Except Exn Nat) = .ok queued := by
            rintro ⟨queued, same⟩
            cases same
          rw [returns] at fails
          refine iff_of_false ?_ (fun healthy => fails ⟨healthy.1, healthy.2.1⟩)
          rw [fallsBack_cons, falls]
          exact fun held => fails held.1.2
      | ok queued =>
          rw [walked] at falls
          dsimp only
          rw [fallsBack_cons, falls, ih, NoneFails]
          simp only [true_and, and_assoc]

/-! Without credentials the fallback is taken, for every wiki. -/

section Title

variable {settings : Settings} {unicode : Text.Unicode} {batches : Int}
  {credentials : Credentials} {turn : WikiTurn} {turns : List WikiTurn}

theorem cursorKeys_differ (wiki : String) : titleCursorKey wiki ≠ lengthCursorKey wiki := by
  intro same
  have lengths := congrArg String.length same
  simp only [titleCursorKey, lengthCursorKey, String.length_append, Nat.add_left_cancel_iff]
    at lengths
  exact absurd lengths (by decide)

theorem getState_other {database : BackfillTables} {key other value : String}
    (different : key ≠ other) :
    (database.setState key value).getState other = database.getState other := by
  rw [BackfillTables.getState, BackfillTables.setState, Table.find_put]
  change ((if key = other then some (key, value) else _ : Option _)).map _ = _
  rw [if_neg different]
  rfl

theorem titleBatches_keeps (left batch : Nat) (cursor : Option String) (queued : Nat)
    (database : BackfillTables) :
    (titleBatches settings turn left batch cursor queued database).2.getState
        (lengthCursorKey turn.wiki) = database.getState (lengthCursorKey turn.wiki) := by
  induction left generalizing batch cursor queued database with
  | zero => rfl
  | succ left ih =>
      rw [titleBatches]
      cases turn.allPages batch (presentText cursor) with
      | error raised => rfl
      | ok answer =>
          obtain ⟨found, next⟩ := answer
          dsimp only
          cases next with
          | none => exact getState_other (cursorKeys_differ turn.wiki)
          | some next => exact (ih _ _ _ _).trans (getState_other (cursorKeys_differ turn.wiki))

theorem walkByTitle_keeps (database : BackfillTables) :
    (walkByTitle settings batches turn database).2.getState (lengthCursorKey turn.wiki) =
      database.getState (lengthCursorKey turn.wiki) := by
  unfold walkByTitle
  dsimp only
  split
  · rfl
  · exact titleBatches_keeps _ _ _ _ _

theorem title_without_credentials (missing : credentials.available = false)
    (database : BackfillTables) :
    ∀ record ∈ backfillJob settings unicode batches credentials database turns,
      record.byTitle = true ∧
        record.after.getState (lengthCursorKey record.turn.wiki) =
          record.before.getState (lengthCursorKey record.turn.wiki) := by
  have one : ∀ turn before, (backfillWiki settings unicode batches credentials before turn) =
      ⟨turn, before, true, (walkByTitle settings batches turn before).1,
        (walkByTitle settings batches turn before).2⟩ := by
    intro turn before
    rw [backfillWiki, if_neg (by simp [missing])]
  induction turns generalizing database with
  | nil =>
      intro record member
      cases member
  | cons turn turns ih =>
      rw [backfillJob, one]
      dsimp only
      intro record member
      cases walked : (walkByTitle settings batches turn database).1 with
      | error raised =>
          rw [walked] at member
          rw [List.mem_singleton] at member
          subst member
          exact ⟨rfl, walkByTitle_keeps database⟩
      | ok queued =>
          rw [walked] at member
          rcases List.mem_cons.mp member with rfl | later
          · exact ⟨rfl, walkByTitle_keeps database⟩
          · exact ih _ record later

end Title

def toolCredentials : Credentials := ⟨"s51", "secret"⟩

def refusedTurn : WikiTurn where
  wiki := "frwiki"
  replica := fun _ _ _ => .error (.unexpected "OperationalError")
  allPages := fun _ _ => .ok ([], none)
  clock := fun _ => 0

def emptyTurn : WikiTurn where
  wiki := "dewiki"
  replica := fun _ _ _ => .ok ([], none)
  allPages := fun _ _ => .ok ([], none)
  clock := fun _ => 0

def freshTables : BackfillTables := ⟨.empty, Table.empty⟩

/-- The refused connection ends the job: frwiki is not walked in title order, and dewiki has
no turn. -/
theorem refused_replica_stops :
    (backfillJob fromEnv Text.asciiUnicode 1 toolCredentials freshTables
        [refusedTurn, emptyTurn]).map
      (fun record => (record.turn.wiki, record.byTitle, record.outcome.isOk)) =
        [("frwiki", false, false)] ∧
      ¬ FallsBack fromEnv Text.asciiUnicode 1 [refusedTurn, emptyTurn]
        (backfillJob fromEnv Text.asciiUnicode 1 toolCredentials freshTables
          [refusedTurn, emptyTurn]) := by
  have ran : (backfillJob fromEnv Text.asciiUnicode 1 toolCredentials freshTables
      [refusedTurn, emptyTurn]).map
        (fun record => (record.turn.wiki, record.byTitle, record.outcome.isOk)) =
          [("frwiki", false, false)] := by decide +kernel
  refine ⟨ran, ?_⟩
  intro held
  have lengths := congrArg List.length held.processed
  rw [List.length_map, ← List.length_map (fun record : TurnRecord =>
    (record.turn.wiki, record.byTitle, record.outcome.isOk)), ran] at lengths
  cases lengths

/-- Two replicas that answer: frwiki has two articles, dewiki has one. -/
def answeredTurns : List WikiTurn :=
  [{ emptyTurn with
      wiki := "frwiki"
      replica := fun _ _ _ => .ok ([⟨2, 20, 900⟩, ⟨1, 10, 500⟩], none) },
    { emptyTurn with replica := fun _ _ _ => .ok ([⟨3, 30, 700⟩], none) }]

theorem falls_back_answered :
    (backfillJob fromEnv Text.asciiUnicode 1 toolCredentials freshTables answeredTurns).map
        (fun record => (record.turn.wiki, record.outcome.toOption)) =
          [("frwiki", some 2), ("dewiki", some 1)] ∧
      FallsBack fromEnv Text.asciiUnicode 1 answeredTurns
        (backfillJob fromEnv Text.asciiUnicode 1 toolCredentials freshTables answeredTurns) :=
  ⟨by decide +kernel,
    (falls_back_iff fromEnv Text.asciiUnicode 1 toolCredentials freshTables answeredTurns
      (by decide +kernel)).mpr
        ⟨by decide +kernel, by decide +kernel, by decide +kernel, by decide +kernel, trivial⟩⟩

end WikiPeople
