import WikiPeople.CandidatePool
import WikiPeople.PageRequests

/-! The accounts of a wiki as the Action API tells of them, fifty at most for each request, and
what the client learns of the accounts it asks about. -/

namespace WikiPeople

open Relational Paging

structure Account where
  name : String
  groups : List String

/-- The item about an id; an id without an account is echoed with a flag. -/
def accountJson (accounts : Int → Option Account) (userId : Int) : Json :=
  match accounts userId with
  | some account =>
      .obj [("userid", .int userId), ("name", .str account.name),
        ("groups", .arr (account.groups.map Json.str))]
  | none => .obj [("userid", .int userId), ("missing", .bool true)]

def usersJson (items : List Json) : Json :=
  .obj [("batchcomplete", .bool true), ("query", .obj [("users", .arr items)])]

/-- A host tells of the first fifty accounts that a request names, and of no more. -/
def TellsAccounts (send : String → Params → Except SendError Json) (name : String)
    (accounts : Int → Option Account) : Prop :=
  ∀ userIds, userIds ≠ [] → send name (payload (userParams userIds)) =
    .ok (usersJson ((userIds.take 50).map (accountJson accounts)))

def accountRecord (accounts : Int → Option Account) (userId : Int) : ResolvedUser :=
  match accounts userId with
  | some account => ⟨userId, account.name, account.groups, false⟩
  | none => ⟨userId, toString userId, [], true⟩

/-- Only positive ids are kept. -/
def accountOf (accounts : Int → Option Account) (userId : Int) : Option ResolvedUser :=
  if 0 < userId then some (accountRecord accounts userId) else none

def globalUserJson (username : String) (groups : List String) : Json :=
  .obj [("batchcomplete", .bool true), ("query", .obj [("globaluserinfo", .obj
    [("home", .str "metawiki"), ("name", .str username),
      ("groups", .arr (groups.map Json.str))])])]

def TellsGroups (send : String → Params → Except SendError Json) (name : String)
    (globalGroups : String → List String) : Prop :=
  ∀ username, send name (payload (globalUserParams username)) =
    .ok (globalUserJson username (globalGroups username))

section Told

variable {client : Client} {readText : String → Option Int} {wiki name : String}
  {accounts : Int → Option Account} {globalGroups : String → List String} {data : Json}

theorem groupNames (groups : List String) :
    (groups.map Json.str).mapM groupName = .ok groups := by
  rw [List.mapM_map]
  have read := @mapM_ok Exn _ _ (fun group => groupName (.str group)) id groups
    (fun group _ => rfl)
  rwa [List.map_id] at read

theorem readUser_account (spell : Json → String) (readText : String → Option Int)
    (accounts : Int → Option Account) (userId : Int) :
    readUser spell readText (accountJson accounts userId) =
      .ok (accountOf accounts userId) := by
  unfold accountOf
  by_cases positive : 0 < userId
  · rw [if_pos positive]
    have kept : ¬ userId ≤ 0 := not_le.mpr positive
    unfold accountJson accountRecord
    cases accounts userId with
    | none =>
        change (if userId ≤ 0 then _ else _) = _
        rw [if_neg kept]
        rfl
    | some account =>
        change (if userId ≤ 0 then _ else _) = _
        rw [if_neg kept]
        change ((account.groups.map Json.str).mapM groupName).bind _ = _
        rw [groupNames]
        rfl
  · rw [if_neg positive]
    unfold accountJson
    cases accounts userId with
    | none => exact if_pos (not_lt.mp positive)
    | some account => exact if_pos (not_lt.mp positive)

theorem action_told {params : Params} (known : host client.languages wiki = .ok name)
    (sent : client.send name (payload params) = .ok data) (object : data.isObject = true)
    (clear : (data.field "error").isNone = true) : client.action wiki params = .ok data :=
  (action_eq_ok known).mpr ⟨sent, (checkError_object object).mpr clear⟩

theorem userBatch_told (known : host client.languages wiki = .ok name)
    (told : TellsAccounts client.send name accounts) {batch : List Int} (filled : batch ≠ [])
    (short : batch.length ≤ 50) :
    client.userBatch readText wiki batch = .ok (batch.map (accountOf accounts)) := by
  have sent := told batch filled
  rw [List.take_of_length_le short] at sent
  unfold Client.userBatch
  rw [action_told known sent rfl rfl]
  change (batch.map (accountJson accounts)).mapM (readUser client.spell readText) = _
  rw [List.mapM_map]
  exact mapM_ok fun userId _ => readUser_account _ _ _ userId

theorem accountOf_own {userId : Int} {user : ResolvedUser}
    (known : accountOf accounts userId = some user) : user.userId = userId := by
  unfold accountOf accountRecord at known
  split at known
  · cases known
    split <;> rfl
  · cases known

theorem userOf_put (accounts : Int → Option Account) (userIds : List Int) (userId : Int) :
    userOf (((userIds.filterMap (accountOf accounts)).map
        (fun user => (user.userId, user))).foldl Table.put Table.empty) userId =
      if userId ∈ userIds then accountOf accounts userId else none := by
  have own : ∀ userId, (accountOf accounts userId).map (fun user => (user.userId, user)) =
      (accountOf accounts userId).map (Prod.mk userId) := by
    intro userId
    cases known : accountOf accounts userId with
    | none => rfl
    | some user => rw [Option.map_some, Option.map_some, accountOf_own known]
  rw [List.map_filterMap]
  simp only [own]
  exact Table.find_put_entries (accountOf accounts) userIds userId

theorem resolveUsers_told (known : host client.languages wiki = .ok name)
    (told : TellsAccounts client.send name accounts) (userIds : List Int) :
    ∃ users, client.resolveUsers readText wiki userIds = .ok users ∧
      ∀ userId, userOf users userId =
        if userId ∈ userIds then accountOf accounts userId else none := by
  have batches : (userIds.toChunks 50).mapM (client.userBatch readText wiki) =
      .ok ((userIds.toChunks 50).map (fun batch => batch.map (accountOf accounts))) :=
    mapM_ok fun batch member =>
      userBatch_told known told (filled_toChunks batch member) (short_toChunks batch member)
  have flat : (((userIds.toChunks 50).map
      (fun batch => batch.map (accountOf accounts))).flatten).filterMap id =
        userIds.filterMap (accountOf accounts) := by
    rw [← List.map_flatten, flatten_toChunks, List.filterMap_map]
    rfl
  refine ⟨_, congrArg _ batches, ?_⟩
  intro userId
  dsimp only
  rw [flat]
  exact userOf_put accounts userIds userId

theorem globalGroups_told (known : host client.languages wiki = .ok name)
    (told : TellsGroups client.send name globalGroups) (username : String) :
    (client.requestGlobalUserInfo wiki username).map GlobalUserInfo.groups =
      .ok (globalGroups username) := by
  unfold Client.requestGlobalUserInfo
  rw [action_told known (told username) rfl rfl]
  change (readGlobalUserInfo (globalUserJson username (globalGroups username))).map _ = _
  generalize globalGroups username = groups
  cases groups with
  | nil => rfl
  | cons group groups =>
      change ((((group :: groups).map Json.str).mapM groupName).bind _).map _ = _
      rw [groupNames]
      rfl

end Told

end WikiPeople
