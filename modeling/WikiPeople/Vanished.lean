import WikiPeople.LockChecks
import WikiPeople.Titles

/-! Accounts MediaWiki does not know: what `list=users` says of them, and what the standing
job makes of it. -/

namespace WikiPeople

open Relational

def blockInfoParams (userIds : List Int) : Params :=
  [("action", "query"), ("list", "users"),
    ("ususerids", String.intercalate "|" (userIds.map toString)), ("usprop", "blockinfo")]

/-- What MediaWiki says in place of a date when a block does not end. -/
def indefiniteExpiries : List String := ["infinite", "infinity", "indefinite", "never"]

/-- The character database and the library functions that read numbers and dates. A text that
is no timestamp has no time; one whose time in UTC is out of range raises. -/
structure Readers where
  unicode : Text.Unicode
  readText : String → Option Int
  fromisoformat : String → Except Exn (Option Time)

def parseTimestamp (readers : Readers) : Json → Except Exn (Option Time)
  | .str text => if text.isEmpty then .ok none else readers.fromisoformat text
  | _ => .ok none

/-- `str(value or "")`. -/
def textOf (spell : Json → String) (value : Json) : String :=
  if value.truthy then value.toStr spell else ""

/-- `text or None`. -/
def filled (text : String) : Option String := if text.isEmpty then none else some text

/-- `none` is a block without end; it is only read where there is a block. -/
def blockEnd (readers : Readers) (expiry : String) : Except Exn (Option Time) :=
  if readers.unicode.lower expiry ∈ indefiniteExpiries then .ok none
  else parseTimestamp readers (.str expiry)

/-- What the loop makes of one item; `none` where it goes on to the next. -/
def readStanding (readers : Readers) (spell : Json → String) (item : Json) :
    Except Exn (Option (Int × AccountStanding)) := do
  let number ← (item.get "userid" (.int 0)).mapError raised
  let userId ← asInt readers.readText number
  if userId ≤ 0 then .ok none
  else
    let expires ← (item.get "blockexpiry" .null).mapError raised
    let name ← (item.get "name" (.str (toString userId))).mapError raised
    let since ← (item.get "blockedtimestamp" .null).mapError raised
    let blockPartial ← (item.get "blockpartial" .null).mapError raised
    let reason ← (item.get "blockreason" .null).mapError raised
    let blockedAt ← parseTimestamp readers since
    let blockExpiresAt ← blockEnd readers (textOf spell expires)
    .ok (some (userId,
      { userId := userId
        username := name.toStr spell
        blockedAt := blockedAt
        blockExpiresAt := blockExpiresAt
        blockPartial := blockPartial.truthy
        blockReason := filled (String.ofList (Text.strip (textOf spell reason).toList))
        globallyLocked := false
        lockReason := none }))

def Client.usersItems (client : Client) (wiki : String) (userIds : List Int) :
    Except Exn (List Json) := do
  let data ← client.action wiki (blockInfoParams userIds)
  let users ← (data.getPath ["query", "users"] (.arr [])).mapError raised
  users.items.mapError raised

def Client.standingBatch (client : Client) (readers : Readers) (wiki : String)
    (userIds : List Int) : Except Exn (List (Option (Int × AccountStanding))) := do
  let items ← client.usersItems wiki userIds
  items.mapM (readStanding readers client.spell)

/-- Fifty accounts for each request. Of two items with one id the later one counts. -/
def Client.fetchStanding (client : Client) (readers : Readers) (wiki : String)
    (userIds : List Int) : Except Exn (Dict Int AccountStanding) :=
  ((userIds.toChunks 50).mapM (client.standingBatch readers wiki)).map fun batches =>
    (batches.flatten.filterMap id).foldl Table.put Table.empty

def Client.Returned (client : Client) (wiki : String) (userIds : List Int) (item : Json) : Prop :=
  ∃ batch ∈ userIds.toChunks 50, ∃ items, client.usersItems wiki batch = .ok items ∧ item ∈ items

def itemUserId (readers : Readers) (item : Json) : Option Int :=
  (item.field "userid").bind (fun number => (asInt readers.readText number).toOption)

/-- MediaWiki echoes the id of an account it does not know with a flag and no more. -/
structure Vanished (userId : Int) (item : Json) : Prop where
  object : item.isObject = true
  echoed : item.field "userid" = some (.int userId)
  flag : flagged "missing" item = true ∨ flagged "invalid" item = true
  bare : ∀ name ∈ ["name", "blockedtimestamp", "blockexpiry", "blockpartial", "blockreason"],
    item.field name = none

/-- What is made of such an item: an account named by its id, without a block. -/
def nameless (userId : Int) : AccountStanding where
  userId := userId
  username := toString userId
  blockedAt := none
  blockExpiresAt := none
  blockPartial := false
  blockReason := none
  globallyLocked := false
  lockReason := none

section Read

variable {readers : Readers} {spell : Json → String} {userId : Int} {item : Json}

theorem readStanding_vanished (positive : 0 < userId) (vanished : Vanished userId item) :
    readStanding readers spell item = .ok (some (userId, nameless userId)) := by
  obtain ⟨object, echoed, _, bare⟩ := vanished
  simp only [readStanding, get_field object, echoed, Option.getD_some, asInt,
    bare "name" (by decide), bare "blockedtimestamp" (by decide), bare "blockexpiry" (by decide),
    bare "blockpartial" (by decide), bare "blockreason" (by decide), Option.getD_none]
  have unended : blockEnd readers "" = .ok none := ite_self _
  simp [bind, Except.bind, Int.not_le.mpr positive, textOf, Json.truthy, parseTimestamp, unended,
    filled, nameless, Json.toStr, Text.strip]

theorem readStanding_userId {entry : Int × AccountStanding}
    (read : readStanding readers spell item = .ok (some entry)) :
    itemUserId readers item = some entry.1 := by
  obtain ⟨number, got, read⟩ := bind_eq_ok.mp read
  obtain ⟨userId, whole, read⟩ := bind_eq_ok.mp read
  cases object : item.isObject with
  | false =>
      rw [Json.get_eq, object] at got
      cases got
  | true =>
      rw [get_field object] at got
      split at read
      · cases read
      · rename_i positive
        simp only [get_field object] at read
        obtain ⟨expires, -, read⟩ := bind_eq_ok.mp read
        obtain ⟨name, -, read⟩ := bind_eq_ok.mp read
        obtain ⟨since, -, read⟩ := bind_eq_ok.mp read
        obtain ⟨sitewide, -, read⟩ := bind_eq_ok.mp read
        obtain ⟨reason, -, read⟩ := bind_eq_ok.mp read
        obtain ⟨started, -, read⟩ := bind_eq_ok.mp read
        obtain ⟨ends, -, read⟩ := bind_eq_ok.mp read
        cases read
        cases found : item.field "userid" with
        | none =>
            rw [found] at got
            cases got
            cases whole
            exact absurd (Int.le_refl 0) positive
        | some value =>
            rw [found] at got
            cases got
            rw [Option.getD_some] at whole
            rw [itemUserId, found, Option.bind_some, whole]
            rfl

end Read

section Fetched

variable {client : Client} {readers : Readers} {wiki : String} {userIds : List Int}
  {blocks : Dict Int AccountStanding} {userId : Int}

theorem fetchStanding_entries
    (fetched : client.fetchStanding readers wiki userIds = .ok blocks) :
    ∃ entries : List (Int × AccountStanding),
      blocks = entries.foldl Table.put Table.empty ∧
        (∀ entry ∈ entries, ∃ item, client.Returned wiki userIds item ∧
          readStanding readers client.spell item = .ok (some entry)) ∧
        ∀ item, client.Returned wiki userIds item → ∃ entry,
          readStanding readers client.spell item = .ok entry ∧ ∀ made ∈ entry, made ∈ entries := by
  obtain ⟨batches, read, rfl⟩ := map_eq_ok.mp fetched
  refine ⟨batches.flatten.filterMap id, rfl, ?_, ?_⟩
  · intro entry member
    obtain ⟨made, inside, rfl⟩ := List.mem_filterMap.mp member
    obtain ⟨results, there, within⟩ := List.mem_flatten.mp inside
    obtain ⟨batch, asked, answered⟩ := (mem_mapM read).mp there
    obtain ⟨items, returned, done⟩ := bind_eq_ok.mp answered
    obtain ⟨item, present, same⟩ := (mem_mapM done).mp within
    exact ⟨item, ⟨batch, asked, items, returned, present⟩, same⟩
  · rintro item ⟨batch, asked, items, returned, present⟩
    obtain ⟨results, answered⟩ := mapM_each read asked
    obtain ⟨items', returned', done⟩ := bind_eq_ok.mp answered
    rw [returned] at returned'
    cases returned'
    obtain ⟨entry, same⟩ := mapM_each done present
    refine ⟨entry, same, ?_⟩
    intro made isMade
    have within := (mem_mapM done).mpr ⟨item, present, same⟩
    have there := (mem_mapM read).mpr ⟨batch, asked, answered⟩
    exact List.mem_filterMap.mpr ⟨entry, List.mem_flatten.mpr ⟨results, there, within⟩, isMade⟩

theorem fetchStanding_vanished
    (fetched : client.fetchStanding readers wiki userIds = .ok blocks) (positive : 0 < userId)
    (echoed : ∃ item, client.Returned wiki userIds item ∧ itemUserId readers item = some userId)
    (vanished : ∀ item, client.Returned wiki userIds item →
      itemUserId readers item = some userId → Vanished userId item) :
    blocks.find userId = some (userId, nameless userId) := by
  obtain ⟨entries, rfl, sources, complete⟩ := fetchStanding_entries fetched
  have found : (entries.foldl Table.put (Table.empty : Dict Int AccountStanding)).find
      (Keyed.key (userId, nameless userId)) = some (userId, nameless userId) := by
    apply Table.find_foldl_put
    · intro entry member same
      obtain ⟨item, returned, read⟩ := sources entry member
      have account : itemUserId readers item = some userId :=
        (readStanding_userId read).trans (congrArg some same)
      rw [readStanding_vanished positive (vanished item returned account)] at read
      cases read
      rfl
    · obtain ⟨item, returned, account⟩ := echoed
      obtain ⟨entry, read, kept⟩ := complete item returned
      rw [readStanding_vanished positive (vanished item returned account)] at read
      cases read
      exact Or.inl (kept _ rfl)
  exact found

end Fetched

/-- A lock check at this time would change none of the three facts. -/
def StandingAnswers.LockUnmoved (answers : StandingAnswers) (now : Time) (userId : Int)
    (username : String) (facts : LockFacts) : Prop :=
  FailsKnown (answers.globalUserInfo userId username) ∨
    (answers.globalUserInfo userId username = .ok false ∧ facts = ⟨false, none, some now⟩) ∨
    (answers.globalUserInfo userId username = .ok true ∧
      ((FailsKnown (answers.globalLockReason userId username) ∧ facts.globallyLocked = true) ∨
        ∃ reason, answers.globalLockReason userId username = .ok reason ∧
          facts = ⟨true, reason, some now⟩))

section Kept

variable {answers : StandingAnswers} {now : Time} {userId : Int} {username : String}
  {previous facts : LockFacts} {checked : Bool}

theorem lockLookup_unmoved_iff
    (looked : lockLookup answers now userId username previous = .ok (facts, checked)) :
    facts = previous ↔ answers.LockUnmoved now userId username previous := by
  unfold lockLookup at looked
  unfold StandingAnswers.LockUnmoved
  cases info : answers.globalUserInfo userId username with
  | error failure =>
      rw [info] at looked
      cases failure with
      | known failure message =>
          cases looked
          simp [FailsKnown]
      | unexpected message => cases looked
  | ok locked =>
      rw [info] at looked
      cases locked with
      | false =>
          cases looked
          simpa [FailsKnown] using eq_comm
      | true =>
          cases reason : answers.globalLockReason userId username with
          | error failure =>
              rw [reason] at looked
              cases failure with
              | known failure message =>
                  cases looked
                  obtain ⟨locked, text, time⟩ := previous
                  simp [FailsKnown, eq_comm]
              | unexpected message => cases looked
          | ok text =>
              rw [reason] at looked
              cases looked
              simpa [FailsKnown] using eq_comm

theorem mergedRecord_eq_iff {block : AccountStanding} {record : StandingRecord}
    (own : record.standing.userId = userId) :
    mergedRecord userId block facts = record ↔
      record.standing.blockFacts = block.blockFacts ∧ facts = record.lockFacts := by
  obtain ⟨⟨id, username, since, ends, part, reason, locked, lockReason⟩, time⟩ := record
  subst own
  obtain ⟨locked', lockReason', time'⟩ := facts
  simp only [mergedRecord, AccountStanding.blockFacts, StandingRecord.lockFacts,
    StandingRecord.mk.injEq, AccountStanding.mk.injEq, BlockFacts.mk.injEq, LockFacts.mk.injEq]
  constructor
  · rintro ⟨⟨_, rfl, rfl, rfl, rfl, rfl, rfl, rfl⟩, rfl⟩
    simp
  · rintro ⟨⟨rfl, rfl, rfl, rfl, rfl⟩, rfl, rfl, rfl⟩
    simp

end Kept

theorem named_positive {store : Store} {wiki : String} {userId : Int}
    (member : userId ∈ namedContributorIds store wiki) : 0 < userId := by
  unfold namedContributorIds at member
  rw [List.mem_mergeSort, List.mem_dedup, List.mem_flatMap] at member
  obtain ⟨result, _, named⟩ := member
  obtain ⟨contributor, _, found⟩ := List.mem_filterMap.mp named
  exact of_decide_eq_true (Option.filter_eq_some_iff.mp found).2

/-- The account has a row that already carries its id for a name and no block, and no lock
check moves its lock facts. -/
def NothingToLose (settings : Settings) (answers : StandingAnswers) (chosen : List Int)
    (store : Store) (wiki : String) (now : Time) (userId : Int) : Prop :=
  ∃ record, standingRecord store wiki userId = some record ∧
    record.standing.blockFacts = (nameless userId).blockFacts ∧
    (userId ∈ dueAccounts settings (standingRecord store wiki)
        (namedContributorIds store wiki) chosen →
      answers.LockUnmoved now userId (toString userId) record.lockFacts)

/-- The row of an account MediaWiki does not know stays as it was exactly where there was
nothing to lose. A run that raises leaves every row as it was. -/
theorem vanished_keeps_iff (settings : Settings) (answers : StandingAnswers) (client : Client)
    (readers : Readers) (chosen : List Int) (store : Store) (wiki : String)
    (now writtenAt : Time) (outcome : Except Exn StandingSync) (after : Store) (userId : Int)
    (asks : answers.fetchStanding = client.fetchStanding readers wiki)
    (ran : Standing.syncWiki settings answers chosen store wiki false now writtenAt =
      some (outcome, after))
    (member : userId ∈ namedContributorIds store wiki)
    (echoed : ∃ item, client.Returned wiki (namedContributorIds store wiki) item ∧
      itemUserId readers item = some userId)
    (vanished : ∀ item, client.Returned wiki (namedContributorIds store wiki) item →
      itemUserId readers item = some userId → Vanished userId item) :
    (∀ raised, outcome = .error raised → after = store) ∧
      ∀ answer, outcome = .ok answer →
        (standingRecord after wiki userId = standingRecord store wiki userId ↔
          NothingToLose settings answers chosen store wiki now userId) := by
  constructor
  · rintro raised rfl
    exact standingSync_raised ran
  · rintro answer rfl
    have positive := named_positive member
    cases fetched : client.fetchStanding readers wiki (namedContributorIds store wiki) with
    | error raised =>
        rw [Standing.syncWiki, asks, fetched] at ran
        cases ran
    | ok blocks =>
        have found := fetchStanding_vanished fetched positive echoed vanished
        obtain ⟨_, _, merges⟩ := standingSync_returned ran (by rw [asks, fetched])
        obtain ⟨merged, made, record, _⟩ := merges userId member
        obtain ⟨facts, kept, turn⟩ := mergeAccount_answered (by rw [found]; rfl) made
        rw [record, kept, NothingToLose]
        cases known : standingRecord store wiki userId with
        | none => simp
        | some previous =>
            rw [known] at turn
            simp only [Option.some.injEq, exists_eq_left',
              mergedRecord_eq_iff (standingRecord_userId known)]
            refine and_congr_right fun _ => ?_
            rcases turn with ⟨spared, _, rfl⟩ | ⟨selected, _, looked⟩
            · simp [spared, lockFactsOf]
            · simp only [selected, true_imp_iff]
              exact lockLookup_unmoved_iff looked

def echoingClient : Client where
  languages := ["fr"]
  spell := fun _ => ""
  send := fun _ _ => .ok (.obj [("query", .obj [("users", .arr
    [.obj [("userid", .int 7), ("missing", .bool true)]])])])

def plainReaders : Readers where
  unicode := Text.asciiUnicode
  readText := fun _ => none
  fromisoformat := fun _ => .ok none

def echoingAnswers : StandingAnswers where
  fetchStanding := echoingClient.fetchStanding plainReaders "frwiki"
  globalUserInfo := fun _ _ => .ok false
  globalLockReason := fun _ _ => .ok none

/-- The account 7 is banned without end, and its lock has just been read. -/
def bannedRecord : StandingRecord where
  standing :=
    { userId := 7, username := "Ada", blockedAt := some 0, blockExpiresAt := none
      blockPartial := false, blockReason := some "vandalism", globallyLocked := false
      lockReason := none }
  lockCheckedAt := some 0

def bannedStore : Store := (replaceStanding namingStore "frwiki" [bannedRecord] 0).2

theorem echoing_items (userIds : List Int) {items : List Json}
    (answered : echoingClient.usersItems "frwiki" userIds = .ok items) :
    items = [.obj [("userid", .int 7), ("missing", .bool true)]] := by
  have same : echoingClient.usersItems "frwiki" userIds =
      .ok [.obj [("userid", .int 7), ("missing", .bool true)]] := rfl
  rw [same] at answered
  exact (Except.ok.inj answered).symm

theorem echoing_vanished {item : Json} {userIds : List Int}
    (returned : echoingClient.Returned "frwiki" userIds item) : Vanished 7 item := by
  obtain ⟨batch, _, items, answered, member⟩ := returned
  rw [echoing_items batch answered, List.mem_singleton] at member
  subst member
  refine ⟨rfl, rfl, Or.inl rfl, ?_⟩
  decide

theorem echoing_returned : echoingClient.Returned "frwiki" [7]
    (.obj [("userid", .int 7), ("missing", .bool true)]) :=
  ⟨[7], List.mem_singleton.mpr rfl, _, rfl, List.mem_singleton.mpr rfl⟩

/-- The ban of the account is lifted, its name lost and, were it not tracked yet, a row
created for it. -/
theorem vanished_given_clean_slate :
    ∃ answer after, Standing.syncWiki fromEnv echoingAnswers [] bannedStore "frwiki" false 0 0 =
        some (.ok answer, after) ∧
      namedContributorIds bannedStore "frwiki" = [7] ∧
      (∃ item, echoingClient.Returned "frwiki" [7] item) ∧
      (∀ item, echoingClient.Returned "frwiki" (namedContributorIds bannedStore "frwiki") item →
        Vanished 7 item) ∧
      standingRecord bannedStore "frwiki" 7 = some bannedRecord ∧
      standingRecord after "frwiki" 7 = some ⟨nameless 7, some 0⟩ := by
  have ran : ((Standing.syncWiki fromEnv echoingAnswers [] bannedStore "frwiki" false 0
      0).map fun run => (run.1.isOk, standingRecord run.2 "frwiki" 7)) =
        some (true, some ⟨nameless 7, some 0⟩) := by decide +kernel
  obtain ⟨⟨outcome, after⟩, done, same⟩ := Option.map_eq_some_iff.mp ran
  cases outcome with
  | error raised => cases congrArg Prod.fst same
  | ok answer =>
      exact ⟨answer, after, done, by decide +kernel, ⟨_, echoing_returned⟩,
        fun _ => echoing_vanished, by decide +kernel, congrArg Prod.snd same⟩

def namelessStore : Store := (replaceStanding namingStore "frwiki" [⟨nameless 7, some 0⟩] 0).2

theorem vanished_keeps_nameless :
    ∃ answer after, Standing.syncWiki fromEnv echoingAnswers [] namelessStore "frwiki" false 0 0 =
        some (.ok answer, after) ∧
      standingRecord after "frwiki" 7 = standingRecord namelessStore "frwiki" 7 := by
  have ran : ((Standing.syncWiki fromEnv echoingAnswers [] namelessStore "frwiki" false 0
      0).map fun run => run.1.isOk) = some true := by decide +kernel
  obtain ⟨⟨outcome, after⟩, done, same⟩ := Option.map_eq_some_iff.mp ran
  cases outcome with
  | error raised => cases same
  | ok answer =>
      have named : namedContributorIds namelessStore "frwiki" = [7] := by decide +kernel
      have kept := (vanished_keeps_iff fromEnv echoingAnswers echoingClient plainReaders []
        namelessStore "frwiki" 0 0 (.ok answer) after 7 rfl done (by decide +kernel)
        (by rw [named]; exact ⟨_, echoing_returned, rfl⟩)
        (fun _ returned _ => echoing_vanished returned)).2 answer rfl
      refine ⟨answer, after, done, kept.mpr ⟨⟨nameless 7, some 0⟩, by decide +kernel, rfl, ?_⟩⟩
      intro due
      exact absurd due (by decide +kernel)

end WikiPeople
