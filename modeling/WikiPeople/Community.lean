import WikiPeople.Accounts
import WikiPeople.Expiry

/-! What a wiki and CentralAuth have decided about accounts, as their APIs tell of it, and what
the client of the standing job learns from them. -/

namespace WikiPeople

open Relational Paging Memo

/-- The wiki that keeps the log of global accounts. -/
def globalAccountLogHost : String := "meta.wikimedia.org"

def lockLogParams (username : String) : Params :=
  [("action", "query"), ("list", "logevents"), ("letype", "globalauth"),
    ("letitle", s!"User:{username}@global"), ("leprop", "comment|timestamp"), ("lelimit", "1")]

/-- `text.strip() or None`. -/
def strippedText (text : String) : Option String := filled (String.ofList (Text.strip text.toList))

def readLockReason (spell : Json → String) (data : Json) : Except Exn (Option String) := do
  let events ← (data.getPath ["query", "logevents"] (.arr [])).mapError raised
  if !events.truthy then .ok none
  else
    let event ← events.getFirst.mapError raised
    let comment ← (event.get "comment" .null).mapError raised
    .ok (strippedText (textOf spell comment))

/-- The log is read from another wiki than the one that is served. -/
def Client.globalLockReason (client : Client) (username : String) :
    Except Exn (Option String) := do
  let data ← client.request globalAccountLogHost (lockLogParams username)
  readLockReason client.spell data

/-- The client of a run. `memory` is what it remembers of CentralAuth when the turn of an
account comes. -/
structure StandingWire where
  client : Client
  readers : Readers
  memory : Int → Memory String GlobalUserInfo

def StandingWire.answers (wire : StandingWire) (wiki : String) : StandingAnswers where
  fetchStanding := wire.client.fetchStanding wire.readers wiki
  globalUserInfo := fun userId username =>
    (((wire.client.globalUserInfo wiki username).run.run (wire.memory userId)).1).map
      GlobalUserInfo.locked
  globalLockReason := fun _ username => wire.client.globalLockReason username

structure Block where
  since : Time
  expires : Option Time
  blockPartial : Bool
  reason : String

structure LogEvent where
  timestamp : String
  comment : String

/-- The facts about accounts. The events of a log are those about one name, the newest first. -/
structure Community where
  names : Int → Option String
  blocks : Int → Option Block
  globalGroups : String → List String
  locked : String → Bool
  lockLog : String → List LogEvent
  named : ∀ userId, names userId = none → blocks userId = none

namespace Community

variable (community : Community)

/-- An id without an account is its own name, so that it gets the lock of the account that its
digits name, if there is one. -/
def username (userId : Int) : String := (community.names userId).getD (toString userId)

def lockReason (username : String) : Option String :=
  (community.lockLog username).head?.bind fun event => strippedText event.comment

def blockStanding (userId : Int) : AccountStanding where
  userId := userId
  username := community.username userId
  blockedAt := (community.blocks userId).map Block.since
  blockExpiresAt := (community.blocks userId).bind Block.expires
  blockPartial := (community.blocks userId).any Block.blockPartial
  blockReason := (community.blocks userId).bind fun block => strippedText block.reason
  globallyLocked := false
  lockReason := none

def lockDecision (username : String) : Bool × Option String :=
  (community.locked username,
    if community.locked username then community.lockReason username else none)

/-- What is decided about an account. -/
def standing (userId : Int) : AccountStanding :=
  let decision := community.lockDecision (community.username userId)
  { community.blockStanding userId with
    globallyLocked := decision.1, lockReason := decision.2 }

end Community

/-! How the facts are told. `spellTime` is how MediaWiki writes a moment. -/

def blockFields (spellTime : Time → String) (block : Block) : List (String × Json) :=
  [("blockreason", .str block.reason), ("blockedtimestamp", .str (spellTime block.since)),
    ("blockexpiry", .str (block.expires.elim "infinity" spellTime))] ++
      if block.blockPartial then [("blockpartial", .bool true)] else []

def standingJson (spellTime : Time → String) (community : Community) (userId : Int) : Json :=
  match community.names userId with
  | none => .obj [("userid", .int userId), ("missing", .bool true)]
  | some name =>
      .obj (("userid", .int userId) :: ("name", .str name) ::
        ((community.blocks userId).map (blockFields spellTime)).getD [])

/-- The flag of a lock stands in an answer only where it is set. -/
def lockedUserJson (username : String) (groups : List String) (locked : Bool) : Json :=
  .obj [("batchcomplete", .bool true), ("query", .obj [("globaluserinfo", .obj
    ([("home", .str "metawiki"), ("name", .str username),
      ("groups", .arr (groups.map Json.str))] ++
        if locked then [("locked", .bool true)] else []))])]

def logEventJson (event : LogEvent) : Json :=
  .obj [("timestamp", .str event.timestamp), ("comment", .str event.comment)]

/-- The newest event alone is asked for. -/
def lockLogJson (events : List LogEvent) : Json :=
  .obj [("batchcomplete", .bool true),
    ("query", .obj [("logevents", .arr ((events.take 1).map logEventJson))])]

/-- The moment is written as a timestamp that can be read again. -/
structure Dated (readers : Readers) (spellTime : Time → String) (time : Time) : Prop where
  filled : (spellTime time).isEmpty = false
  read : readers.fromisoformat (spellTime time) = .ok (some time)
  ends : readers.unicode.lower (spellTime time) ∉ indefiniteExpiries

/-- What is heard on a wire are the facts of the community; of global locks, only where the name
is one of those that can be looked up. -/
structure StandingWire.Documents (wire : StandingWire) (wiki name : String)
    (spellTime : Time → String) (community : Community) (known : String → Prop) : Prop where
  covered : host wire.client.languages wiki = .ok name
  dated : ∀ userId block, community.blocks userId = some block →
    Dated wire.readers spellTime block.since ∧
      ∀ time ∈ block.expires, Dated wire.readers spellTime time
  endless : wire.readers.unicode.lower "infinity" ∈ indefiniteExpiries
  blocks : ∀ userIds, userIds ≠ [] →
    wire.client.send name (payload (blockInfoParams userIds)) =
      .ok (usersJson ((userIds.take 50).map (standingJson spellTime community)))
  locks : ∀ username, known username →
    wire.client.send name (payload (globalUserParams username)) =
      .ok (lockedUserJson username (community.globalGroups username) (community.locked username))
  log : ∀ username, known username →
    wire.client.send globalAccountLogHost (payload (lockLogParams username)) =
      .ok (lockLogJson (community.lockLog username))
  remembered : ∀ userId, Memo.Sound globalGroupCacheSize (wire.client.requestGlobalUserInfo wiki)
    (wire.memory userId)

section Told

variable {wire : StandingWire} {wiki name : String} {spellTime : Time → String}
  {community : Community} {known : String → Prop}

theorem parseTimestamp_dated {readers : Readers} {time : Time}
    (dated : Dated readers spellTime time) :
    parseTimestamp readers (.str (spellTime time)) = .ok (some time) := by
  rw [parseTimestamp, dated.filled, if_neg Bool.false_ne_true, dated.read]

theorem blockEnd_told {readers : Readers} {expires : Option Time}
    (dated : ∀ time ∈ expires, Dated readers spellTime time)
    (endless : readers.unicode.lower "infinity" ∈ indefiniteExpiries) :
    blockEnd readers (expires.elim "infinity" spellTime) = .ok expires := by
  cases expires with
  | none => exact if_pos endless
  | some time =>
      have known := dated time rfl
      rw [Option.elim_some, blockEnd, if_neg known.ends, parseTimestamp_dated known]

theorem readStanding_unknown (spell : Json → String) {userId : Int} (positive : 0 < userId)
    (missing : community.names userId = none) :
    readStanding wire.readers spell (standingJson spellTime community userId) =
      .ok (some (userId, community.blockStanding userId)) := by
  have clear := community.named userId missing
  have nobody : community.blockStanding userId = nameless userId := by
    simp only [Community.blockStanding, Community.username, missing, clear]
    rfl
  have item : standingJson spellTime community userId =
      .obj [("userid", .int userId), ("missing", .bool true)] := by
    rw [standingJson, missing]
  rw [nobody, item]
  refine readStanding_vanished positive ⟨rfl, rfl, Or.inl rfl, ?_⟩
  intro field member
  simp only [List.mem_cons, List.not_mem_nil, or_false] at member
  rcases member with rfl | rfl | rfl | rfl | rfl <;> rfl

theorem readStanding_unblocked (spell : Json → String) {userId : Int} (positive : 0 < userId)
    {username : String} (found : community.names userId = some username)
    (clear : community.blocks userId = none) :
    readStanding wire.readers spell (standingJson spellTime community userId) =
      .ok (some (userId, community.blockStanding userId)) := by
  have unended : blockEnd wire.readers "" = .ok none := ite_self _
  unfold standingJson Community.blockStanding Community.username
  rw [found, clear]
  change (if userId ≤ 0 then _ else _) = _
  rw [if_neg (not_le.mpr positive)]
  change (blockEnd wire.readers "").bind _ = _
  rw [unended]
  rfl

theorem readStanding_block (documents : wire.Documents wiki name spellTime community known)
    {userId : Int} (positive : 0 < userId) {username : String}
    (found : community.names userId = some username) {block : Block}
    (blocked : community.blocks userId = some block) :
    readStanding wire.readers wire.client.spell (standingJson spellTime community userId) =
      .ok (some (userId, community.blockStanding userId)) := by
  obtain ⟨started, ended⟩ := documents.dated userId block blocked
  obtain ⟨since, expires, blockPartial, reason⟩ := block
  have ends := blockEnd_told ended documents.endless
  unfold standingJson Community.blockStanding Community.username
  rw [found, blocked]
  simp only [Option.map_some, Option.bind_some, Option.any_some, Option.getD_some]
  cases blockPartial <;>
  · change (if userId ≤ 0 then _ else _) = _
    rw [if_neg (not_le.mpr positive)]
    change (parseTimestamp wire.readers (.str (spellTime since))).bind _ = _
    rw [parseTimestamp_dated started]
    change (blockEnd wire.readers (textOf wire.client.spell
      (.str (expires.elim "infinity" spellTime)))).bind _ = _
    rw [textOf_str, ends]
    change Except.ok (some (userId, AccountStanding.mk _ _ _ _ _
      (strippedText (textOf wire.client.spell (.str reason))) _ _)) = _
    rw [textOf_str]
    rfl

theorem readStanding_told (documents : wire.Documents wiki name spellTime community known)
    (userId : Int) :
    readStanding wire.readers wire.client.spell (standingJson spellTime community userId) =
      .ok (if 0 < userId then some (userId, community.blockStanding userId) else none) := by
  by_cases positive : 0 < userId
  · rw [if_pos positive]
    cases found : community.names userId with
    | none => exact readStanding_unknown wire.client.spell positive found
    | some username =>
        cases blocked : community.blocks userId with
        | none => exact readStanding_unblocked wire.client.spell positive found blocked
        | some block => exact readStanding_block documents positive found blocked
  · rw [if_neg positive]
    unfold standingJson
    cases community.names userId with
    | none => exact if_pos (not_lt.mp positive)
    | some username => exact if_pos (not_lt.mp positive)

theorem standingBatch_told (documents : wire.Documents wiki name spellTime community known)
    {batch : List Int} (filled : batch ≠ []) (short : batch.length ≤ 50) :
    wire.client.standingBatch wire.readers wiki batch = .ok (batch.map fun userId =>
      if 0 < userId then some (userId, community.blockStanding userId) else none) := by
  have sent := documents.blocks batch filled
  rw [List.take_of_length_le short] at sent
  unfold Client.standingBatch Client.usersItems
  rw [action_told documents.covered sent rfl rfl]
  change (batch.map (standingJson spellTime community)).mapM
    (readStanding wire.readers wire.client.spell) = _
  rw [List.mapM_map]
  exact mapM_ok fun userId _ => readStanding_told documents userId

theorem fetchStanding_told (documents : wire.Documents wiki name spellTime community known)
    (userIds : List Int) :
    ∃ blocks, wire.client.fetchStanding wire.readers wiki userIds = .ok blocks ∧
      ∀ userId ∈ userIds, 0 < userId →
        (blocks.find userId).map Prod.snd = some (community.blockStanding userId) := by
  have batches : (userIds.toChunks 50).mapM (wire.client.standingBatch wire.readers wiki) =
      .ok ((userIds.toChunks 50).map fun batch => batch.map fun userId =>
        if 0 < userId then some (userId, community.blockStanding userId) else none) :=
    mapM_ok fun batch member =>
      standingBatch_told documents (filled_toChunks batch member) (short_toChunks batch member)
  have flat : (((userIds.toChunks 50).map fun batch => batch.map fun userId =>
      if 0 < userId then some (userId, community.blockStanding userId)
      else none).flatten).filterMap id =
        userIds.filterMap (fun userId =>
          (if 0 < userId then some (community.blockStanding userId) else none).map
            (Prod.mk userId)) := by
    rw [← List.map_flatten, flatten_toChunks, List.filterMap_map]
    refine List.filterMap_congr fun userId _ => ?_
    dsimp only [Function.comp_apply, id]
    split <;> rfl
  refine ⟨_, congrArg _ batches, ?_⟩
  intro userId member positive
  dsimp only
  rw [flat, Table.find_put_entries, if_pos member, if_pos positive]

theorem globalUserInfo_told (documents : wire.Documents wiki name spellTime community known)
    {username : String} (reached : known username) (userId : Int) :
    (wire.answers wiki).globalUserInfo userId username = .ok (community.locked username) := by
  have told : wire.client.requestGlobalUserInfo wiki username =
      .ok ⟨community.globalGroups username, community.locked username⟩ := by
    unfold Client.requestGlobalUserInfo
    rw [action_told documents.covered (documents.locks username reached) rfl rfl]
    change readGlobalUserInfo (lockedUserJson username (community.globalGroups username)
      (community.locked username)) = _
    generalize community.globalGroups username = groups
    cases community.locked username <;> cases groups with
    | nil => rfl
    | cons group groups =>
        change (((group :: groups).map Json.str).mapM groupName).bind _ = _
        rw [groupNames]
        rfl
  have looked := @agrees_look String GlobalUserInfo Exn _ globalGroupCacheSize
    (wire.client.requestGlobalUserInfo wiki) (by decide) username (wire.memory userId)
    (documents.remembered userId)
  change (((wire.client.globalUserInfo wiki username).run.run (wire.memory userId)).1).map _ = _
  unfold Client.globalUserInfo
  rw [looked.1, told]
  rfl

theorem globalLockReason_told (documents : wire.Documents wiki name spellTime community known)
    {username : String} (reached : known username) :
    wire.client.globalLockReason username = .ok (community.lockReason username) := by
  have sent := documents.log username reached
  unfold Client.globalLockReason Client.request Community.lockReason
  rw [sent]
  change (checkError wire.client.spell (lockLogJson (community.lockLog username))).bind
    (readLockReason wire.client.spell) = _
  cases community.lockLog username with
  | nil => rfl
  | cons event older =>
      change Except.ok (strippedText (textOf wire.client.spell (.str event.comment))) = _
      rw [textOf_str, List.head?_cons, Option.bind_some]

end Told

end WikiPeople
