import WikiPeople.Vanished

/-! What becomes of a block whose end cannot be read: the client, the table and the policy have
one value for it and for a block without end. -/

namespace WikiPeople

open Relational

/-- The expiry is one of the words for a block without end, in any case. -/
def isIndefinite (readers : Readers) (expiry : String) : Bool :=
  readers.unicode.lower expiry ∈ indefiniteExpiries

/-- The expiry as the loop reads it; the empty text where there is none. -/
def itemExpiry (spell : Json → String) (item : Json) : String :=
  textOf spell ((item.field "blockexpiry").getD .null)

def itemReason (spell : Json → String) (item : Json) : Option String :=
  filled (String.ofList (Text.strip
    (textOf spell ((item.field "blockreason").getD .null)).toList))

/-- The item describes a block of the whole site that is active since a readable time. -/
structure BlockedItem (readers : Readers) (item : Json) (userId : Int) (since : Time) : Prop where
  object : item.isObject = true
  account : itemUserId readers item = some userId
  positive : 0 < userId
  started : parseTimestamp readers ((item.field "blockedtimestamp").getD .null) = .ok (some since)
  sitewide : ((item.field "blockpartial").getD .null).truthy = false

def blockedStanding (spell : Json → String) (item : Json) (userId : Int) (since : Time)
    (ends : Option Time) : AccountStanding where
  userId := userId
  username := ((item.field "name").getD (.str (toString userId))).toStr spell
  blockedAt := some since
  blockExpiresAt := ends
  blockPartial := false
  blockReason := itemReason spell item
  globallyLocked := false
  lockReason := none

def courtesyReason (alphabet : Text.Alphabet) (reason : Option String) : Bool :=
  isCourtesyBlock alphabet { nameless 0 with blockReason := reason }

/-- The account is withheld as one whose block does not end. -/
def WithheldAsIndefinite (alphabet : Text.Alphabet) (standing : AccountStanding)
    (threshold : Int) (now : Time) : Prop :=
  isNameableAccount alphabet (some standing) threshold now = false ∧
    standing.blockExpiresAt = none

/-- Only the words mean that a block does not end, and an expiry that is neither one of them
nor a time withholds no name. -/
structure ExpiryObeyed (alphabet : Text.Alphabet) (readers : Readers) (expiry : String)
    (standing : AccountStanding) : Prop where
  indefinite : ∀ threshold now, WithheldAsIndefinite alphabet standing threshold now →
    isIndefinite readers expiry = true
  unread : isIndefinite readers expiry = false →
    parseTimestamp readers (.str expiry) = .ok none →
    ∀ threshold now, isNameableAccount alphabet (some standing) threshold now = true

section Expiry

variable {alphabet : Text.Alphabet} {readers : Readers} {spell : Json → String} {item : Json}
  {userId : Int} {since : Time}

theorem readStanding_blocked (blocked : BlockedItem readers item userId since) :
    readStanding readers spell item = (blockEnd readers (itemExpiry spell item)).map
      (fun ends => some (userId, blockedStanding spell item userId since ends)) := by
  obtain ⟨object, account, positive, started, sitewide⟩ := blocked
  obtain ⟨number, found, read⟩ := Option.bind_eq_some_iff.mp account
  have whole : asInt readers.readText number = .ok userId := by
    cases same : asInt readers.readText number with
    | error raised => rw [same] at read; cases read
    | ok other => rw [same] at read; cases read; rfl
  simp only [readStanding, get_field object, found, Option.getD_some, bind, Except.bind, whole,
    if_neg (Int.not_le.mpr positive), started, sitewide]
  rw [itemExpiry]
  cases blockEnd readers (textOf spell ((item.field "blockexpiry").getD .null)) with
  | error raised => rfl
  | ok ends => rfl

theorem isCourtesyBlock_congr {first second : AccountStanding}
    (same : first.blockReason = second.blockReason) :
    isCourtesyBlock alphabet first = isCourtesyBlock alphabet second := by
  rw [isCourtesyBlock, isCourtesyBlock, same]

theorem blockedStanding_nameable (threshold : Int) (now : Time) :
    isNameableAccount alphabet (some (blockedStanding spell item userId since none)) threshold
      now = courtesyReason alphabet (itemReason spell item) := by
  have unlocked : isSanctionLock alphabet (blockedStanding spell item userId since none) =
    false := rfl
  have courtesy : isCourtesyBlock alphabet (blockedStanding spell item userId since none) =
    courtesyReason alphabet (itemReason spell item) := isCourtesyBlock_congr rfl
  rw [isNameableAccount, unlocked]
  simp only [blockedStanding, Bool.false_eq_true, if_false]
  change (if isCourtesyBlock alphabet (blockedStanding spell item userId since none) then _
    else _) = _
  rw [courtesy]
  cases courtesyReason alphabet (itemReason spell item) <;> rfl

theorem blockEnd_eq {expiry : String} {ends : Option Time}
    (read : blockEnd readers expiry = .ok ends) :
    (isIndefinite readers expiry = true ∧ ends = none) ∨
      isIndefinite readers expiry = false ∧ parseTimestamp readers (.str expiry) = .ok ends := by
  rw [blockEnd] at read
  split at read
  · rename_i word
    cases read
    exact Or.inl ⟨decide_eq_true word, rfl⟩
  · rename_i other
    exact Or.inr ⟨decide_eq_false other, read⟩

theorem expiryObeyed_iff {ends : Option Time}
    (read : blockEnd readers (itemExpiry spell item) = .ok ends) :
    ExpiryObeyed alphabet readers (itemExpiry spell item)
        (blockedStanding spell item userId since ends) ↔
      isIndefinite readers (itemExpiry spell item) = true ∨
        (∃ time, parseTimestamp readers (.str (itemExpiry spell item)) = .ok (some time)) ∨
        courtesyReason alphabet (itemReason spell item) = true := by
  rcases blockEnd_eq read with ⟨word, rfl⟩ | ⟨other, parsed⟩
  · refine ⟨fun _ => Or.inl word, fun _ => ⟨fun _ _ _ => word, fun other => ?_⟩⟩
    rw [word] at other
    cases other
  · cases ends with
    | some time =>
        refine ⟨fun _ => Or.inr (Or.inl ⟨time, parsed⟩), fun _ => ⟨?_, ?_⟩⟩
        · rintro threshold now ⟨-, unended⟩
          cases unended
        · intro _ unread
          rw [parsed] at unread
          cases unread
    | none =>
        constructor
        · intro obeyed
          have shown := obeyed.unread other parsed 0 0
          rw [blockedStanding_nameable] at shown
          exact Or.inr (Or.inr shown)
        · rintro (word | ⟨time, found⟩ | courtesy)
          · rw [word] at other
            cases other
          · rw [parsed] at found
            cases found
          · refine ⟨?_, ?_⟩
            · rintro threshold now ⟨hidden, -⟩
              rw [blockedStanding_nameable, courtesy] at hidden
              cases hidden
            · intro _ _ threshold now
              rw [blockedStanding_nameable, courtesy]

/-- Of the items about an account the last one counts. -/
theorem fetchStanding_blocked {client : Client} {wiki : String} {userIds : List Int}
    {blocks : Dict Int AccountStanding}
    (fetched : client.fetchStanding readers wiki userIds = .ok blocks)
    (returned : client.Returned wiki userIds item)
    (only : ∀ other, client.Returned wiki userIds other →
      itemUserId readers other = some userId → other = item)
    (blocked : BlockedItem readers item userId since) :
    ∃ ends, blockEnd readers (itemExpiry client.spell item) = .ok ends ∧
      blocks.find userId =
        some (userId, blockedStanding client.spell item userId since ends) := by
  obtain ⟨entries, rfl, sources, complete⟩ := fetchStanding_entries fetched
  obtain ⟨entry, read, kept⟩ := complete item returned
  rw [readStanding_blocked blocked] at read
  obtain ⟨ends, ended, rfl⟩ := map_eq_ok.mp read
  refine ⟨ends, ended, ?_⟩
  have found : (entries.foldl Table.put (Table.empty : Dict Int AccountStanding)).find
      (Keyed.key (userId, blockedStanding client.spell item userId since ends)) =
        some (userId, blockedStanding client.spell item userId since ends) := by
    apply Table.find_foldl_put
    · intro other member same
      obtain ⟨source, listed, made⟩ := sources other member
      have account : itemUserId readers source = some userId :=
        (readStanding_userId made).trans (congrArg some same)
      rw [only source listed account, readStanding_blocked blocked, ended] at made
      cases made
      rfl
    · exact Or.inl (kept _ rfl)
  exact found

end Expiry

/-- The client makes of a block that ends at no time it can read one without end. -/
theorem unread_expiry_iff (alphabet : Text.Alphabet) (client : Client) (readers : Readers)
    (wiki : String) (userIds : List Int) (blocks : Dict Int AccountStanding) (item : Json)
    (userId : Int) (since : Time)
    (fetched : client.fetchStanding readers wiki userIds = .ok blocks)
    (returned : client.Returned wiki userIds item)
    (only : ∀ other, client.Returned wiki userIds other →
      itemUserId readers other = some userId → other = item)
    (blocked : BlockedItem readers item userId since) :
    ∃ standing, blocks.find userId = some (userId, standing) ∧
      (ExpiryObeyed alphabet readers (itemExpiry client.spell item) standing ↔
        isIndefinite readers (itemExpiry client.spell item) = true ∨
          (∃ time, parseTimestamp readers (.str (itemExpiry client.spell item)) =
            .ok (some time)) ∨
          courtesyReason alphabet (itemReason client.spell item) = true) := by
  obtain ⟨ends, read, found⟩ := fetchStanding_blocked fetched returned only blocked
  exact ⟨_, found, expiryObeyed_iff read⟩

/-- What the wiki says of Ada: a block since the first of August with this expiry. -/
def adaBlock (expiry : String) : Json :=
  .obj [("userid", .int 7), ("name", .str "Ada"),
    ("blockedtimestamp", .str "2026-08-01T00:00:00Z"), ("blockexpiry", .str expiry)]

def blockingClient (expiry : String) : Client where
  languages := ["fr"]
  spell := fun _ => ""
  send := fun _ _ => .ok (.obj [("query", .obj [("users", .arr [adaBlock expiry])])])

def augustReaders : Readers where
  unicode :=
    { Text.asciiUnicode with lower := fun text => String.ofList (text.toList.map Char.toLower) }
  readText := fun _ => none
  fromisoformat := fun text =>
    .ok (if text = "2026-08-01T00:00:00Z" then some 0
      else if text = "2026-08-08T00:00:00Z" then some (days 7) else none)

theorem textOf_str (spell : Json → String) (text : String) : textOf spell (.str text) = text := by
  rw [textOf]
  split
  · rfl
  · rename_i empty
    have nothing : text.toList = [] := by simpa [Json.truthy] using empty
    exact (String.toList_eq_nil_iff.mp nothing).symm

theorem adaBlock_expiry (spell : Json → String) (expiry : String) :
    itemExpiry spell (adaBlock expiry) = expiry := by
  have found : (adaBlock expiry).field "blockexpiry" = some (.str expiry) := rfl
  rw [itemExpiry, found, Option.getD_some, textOf_str]

theorem blockingClient_items (expiry : String) (userIds : List Int) :
    (blockingClient expiry).usersItems "frwiki" userIds = .ok [adaBlock expiry] := rfl

theorem blockingClient_returned {expiry : String} {item : Json} :
    (blockingClient expiry).Returned "frwiki" [7] item ↔ item = adaBlock expiry := by
  constructor
  · rintro ⟨batch, _, items, answered, member⟩
    rw [blockingClient_items] at answered
    cases answered
    exact List.mem_singleton.mp member
  · rintro rfl
    exact ⟨[7], List.mem_singleton.mpr rfl, _, blockingClient_items expiry [7],
      List.mem_singleton.mpr rfl⟩

theorem adaBlock_blocked (expiry : String) : BlockedItem augustReaders (adaBlock expiry) 7 0 :=
  ⟨rfl, rfl, by decide, rfl, rfl⟩

theorem blockingClient_fetched {expiry : String} {ends : Option Time}
    (read : blockEnd augustReaders expiry = .ok ends) :
    (blockingClient expiry).fetchStanding augustReaders "frwiki" [7] =
      .ok (Table.empty.put (7, blockedStanding (fun _ => "") (adaBlock expiry) 7 0 ends)) := by
  have made := @readStanding_blocked _ (fun _ => "") _ _ _ (adaBlock_blocked expiry)
  rw [adaBlock_expiry, read] at made
  have batch : (blockingClient expiry).standingBatch augustReaders "frwiki" [7] =
      .ok [some (7, blockedStanding (fun _ => "") (adaBlock expiry) 7 0 ends)] := by
    rw [Client.standingBatch, blockingClient_items]
    simp only [bind, Except.bind, List.mapM_cons, List.mapM_nil, blockingClient, made]
    rfl
  rw [Client.fetchStanding, show ([7] : List Int).toChunks 50 = [[7]] from rfl, List.mapM_cons,
    batch]
  rfl

/-- A block of one week is read as such. -/
theorem unread_expiry_iff_week :
    ∃ standing, ExpiryObeyed Text.asciiAlphabet augustReaders "2026-08-08T00:00:00Z" standing ∧
      standing.blockExpiresAt = some (days 7) := by
  have read : blockEnd augustReaders "2026-08-08T00:00:00Z" = .ok (some (days 7)) :=
    if_neg (by decide)
  obtain ⟨standing, found, obeys⟩ := unread_expiry_iff Text.asciiAlphabet
    (blockingClient "2026-08-08T00:00:00Z") augustReaders "frwiki" [7] _
    (adaBlock "2026-08-08T00:00:00Z") 7 0 (blockingClient_fetched read)
    (blockingClient_returned.mpr rfl) (fun _ returned _ => blockingClient_returned.mp returned)
    (adaBlock_blocked _)
  rw [adaBlock_expiry] at obeys
  cases found
  exact ⟨_, obeys.mpr (Or.inr (Or.inl ⟨days 7, rfl⟩)), rfl⟩

/-- An expiry that is neither a word nor a time withholds the name for good. -/
theorem unread_expiry_withholds :
    ∃ standing, (blockingClient "2026-02-30 00:00:00").fetchStanding augustReaders "frwiki" [7] =
        .ok (Table.empty.put (7, standing)) ∧
      isIndefinite augustReaders "2026-02-30 00:00:00" = false ∧
      parseTimestamp augustReaders (.str "2026-02-30 00:00:00") = .ok none ∧
      isNameableAccount Text.asciiAlphabet (some standing) (90 * 86400) (days 400) = false ∧
      ¬ ExpiryObeyed Text.asciiAlphabet augustReaders "2026-02-30 00:00:00" standing := by
  have word : isIndefinite augustReaders "2026-02-30 00:00:00" = false := by decide
  have parsed : parseTimestamp augustReaders (.str "2026-02-30 00:00:00") = .ok none := rfl
  have read : blockEnd augustReaders "2026-02-30 00:00:00" = .ok none :=
    (if_neg (of_decide_eq_false word)).trans parsed
  have hidden : ∀ threshold now, isNameableAccount Text.asciiAlphabet
      (some (blockedStanding (fun _ => "") (adaBlock "2026-02-30 00:00:00") 7 0 none))
      threshold now = false := by
    intro threshold now
    rw [blockedStanding_nameable]
    rfl
  refine ⟨_, blockingClient_fetched read, word, parsed, hidden _ _, fun obeyed => ?_⟩
  have shown := obeyed.unread word parsed 0 0
  rw [hidden] at shown
  cases shown

end WikiPeople
