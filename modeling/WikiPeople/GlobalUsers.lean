import WikiPeople.Clients
import WikiPeople.Ladder
import WikiPeople.Library.Memo

/-! The CentralAuth cache of a client: what a worker process finds out about accounts over its
whole life, and that its rankings are those of a process that asks anew each time. -/

namespace WikiPeople

open Relational Memo

structure GlobalUserInfo where
  groups : List String
  locked : Bool
  deriving DecidableEq, Repr

def globalUserParams (username : String) : Params :=
  [("action", "query"), ("meta", "globaluserinfo"), ("guiuser", username),
    ("guiprop", "groups")]

/-- A group is a text; the source raises for another value only where it is compared. -/
def groupName : Json → Except Exn String
  | .str name => .ok name
  | _ => .error (.unexpected "TypeError")

def readGlobalUserInfo (data : Json) : Except Exn GlobalUserInfo := do
  let info ← (data.getPath ["query", "globaluserinfo"] (.obj [])).mapError raised
  let groups ← (info.get "groups" .null).mapError raised
  let items ← (if groups.truthy then groups.items else .ok []).mapError raised
  let names ← items.mapM groupName
  let locked ← (info.get "locked" .null).mapError raised
  .ok ⟨names, locked.truthy⟩

/-- The request of `global_user_info`, where the cache has no answer. -/
def Client.requestGlobalUserInfo (client : Client) (wiki username : String) :
    Except Exn GlobalUserInfo := do
  let data ← client.action wiki (globalUserParams username)
  readGlobalUserInfo data

def globalGroupCacheSize : Nat := 4096

abbrev Calls := Recalling String GlobalUserInfo Exn

/-- The cache knows accounts by name alone, whichever wiki is asked. -/
def Client.globalUserInfo (client : Client) (wiki username : String) : Calls GlobalUserInfo :=
  look globalGroupCacheSize (client.requestGlobalUserInfo wiki username) username

def Client.globalGroups (client : Client) (wiki username : String) : Calls (List String) := do
  let info ← client.globalUserInfo wiki username
  pure info.groups

/-- What asks nothing of CentralAuth. -/
def apart {Result : Type} (result : Except Exn Result) : Calls Result := ExceptT.mk (pure result)

/-! The rankings again, with their lookups going through the cache. -/

namespace Cached

variable (interpreter : Interpreter) (settings : Settings) (users : Users)
  (globalGroups : String → Calls (List String))

def shouldHighlightContributor (unicode : Text.Unicode) (alphabet : Text.Alphabet)
    (user : ResolvedUser) : Calls Bool :=
  if user.missing || "~".toList.isPrefixOf user.username.toList then pure false
  else if user.groups.any (isBotGroup unicode) then pure false
  else if hasBotName alphabet user.username then pure false
  else do
    let groups ← globalGroups user.username
    pure (!groups.any (isBotGroup unicode))

def collect {Item Chosen : Type} (limit : Nat) (entry : Item → Calls (Option Chosen)) :
    List Chosen → List Item → Calls (List Chosen)
  | chosen, [] => pure chosen
  | chosen, item :: items => do
      match ← entry item with
      | none => collect limit entry chosen items
      | some found =>
          if chosen.length + 1 = limit then pure (chosen ++ [found])
          else collect limit entry (chosen ++ [found]) items

def topEditor (totalRevisions : Int) (entry : Int × Nat) : Calls (Option Contributor) :=
  match userOf users entry.1 with
  | none => pure none
  | some user => do
      if ← shouldHighlightContributor globalGroups interpreter.unicode interpreter.alphabet
          user then
        let share ← apart (quotient interpreter entry.2 totalRevisions)
        pure (some (namedAs interpreter user (.editCount entry.2) share))
      else pure none

def selectTopEditors (counts : Counter Int) (totalRevisions : Int) (limit : Nat) :
    Calls (List Contributor) :=
  if totalRevisions ≤ 0 then pure []
  else collect limit (topEditor interpreter users globalGroups totalRevisions) []
    counts.mostCommon

def tokenContributor (totalTokens : Int) (entry : String × Nat) :
    Calls (Option Contributor) := do
  if ← apart (isRegisteredEditor interpreter.unicode entry.1) then
    let share ← apart (quotient interpreter entry.2 totalTokens)
    if (entry.2 : Int) < settings.minimumTokens ∨ share < settings.minimumShare then pure none
    else
      let userId ← apart (editorNumber interpreter.unicode entry.1)
      match userOf users userId with
      | none => pure none
      | some user =>
          if ← shouldHighlightContributor globalGroups interpreter.unicode interpreter.alphabet
              user then
            pure (some (namedAs interpreter user (.tokenCount entry.2) share))
          else pure none
  else pure none

def selectContributors (counts : Counter String) (totalTokens : Int) (limit : Nat) :
    Calls (List Contributor) :=
  if totalTokens ≤ 0 then pure []
  else collect limit (tokenContributor interpreter settings users globalGroups totalTokens) []
    counts.mostCommon

end Cached

/-- `except PermanentDataError`; the cache keeps what was learnt before it. -/
def Cached.caught (ranked : Calls (List Contributor)) : Calls (List Contributor) :=
  tryCatch ranked fun raised => if raised.isPermanentData then pure [] else throw raised

section Ladder

variable (interpreter : Interpreter) (settings : Settings) (upstream : Upstream)
  (client : Client) (lease : WorkLease)

/-- The rung of surviving tokens, and the total it had counted. -/
def Cached.rankTokens : Calls (List Contributor) × Int :=
  match upstream.fetchRevision lease.wiki lease.revisionId with
  | .error raised => (throw raised, 0)
  | .ok tokens =>
      let (counts, totalTokens) := countTokens interpreter.unicode tokens
      let ranked : Calls (List Contributor) := do
        let candidates ←
          apart (candidateUserIds interpreter.unicode counts settings.candidatePoolSize)
        let users ← apart (upstream.resolveUsers .tokens lease.wiki candidates)
        Cached.selectContributors interpreter settings users (client.globalGroups lease.wiki)
          counts totalTokens nameLimit
      (ranked, totalTokens)

def Cached.rankEdits : Calls (List Contributor) := do
  let history ← apart
    (upstream.getEditorHistory lease.wiki lease.pageId settings.topEditorMaxRevisions)
  if history.complete then
    let candidates := history.counts.mostCommon.take settings.candidatePoolSize.toNat
    let users ← apart (upstream.resolveUsers .edits lease.wiki (candidates.map Prod.fst))
    Cached.selectTopEditors interpreter users (client.globalGroups lease.wiki) history.counts
      history.revisions nameLimit
  else pure []

def Cached.workerAttribute : Calls (List Contributor × Int × String) := do
  let (ranked, totalTokens) :=
    Cached.rankTokens interpreter settings upstream client lease
  let contributors ← Cached.caught ranked
  if contributors.isEmpty then
    let editors ← Cached.rankEdits interpreter settings upstream client lease
    pure (editors, totalTokens, metricEdits)
  else pure (contributors, totalTokens, metricTokens)

def Cached.attributePage (page : PageMetadata) : Calls Attributed := do
  let (contributors, totalTokens, metric) ←
    Cached.workerAttribute interpreter settings upstream client lease
  let editorCount ← apart (upstream.getEditorCount lease.wiki page.title)
  let botCount ← apart (upstream.getBotContributorCount lease.wiki lease.pageId)
  pure
    { contributors := contributors
      countableTokens := totalTokens
      metric := metric
      editorCount := editorCount
      botCount := botCount }

end Ladder

/-- A page that a worker process attributes, with what it is answered meanwhile. -/
structure PageTurn where
  upstream : Upstream
  lease : WorkLease
  page : PageMetadata

/-- One process attributes page after page; what one raises does not keep it from the next. -/
def Cached.attributePages (interpreter : Interpreter) (settings : Settings) (client : Client) :
    List PageTurn → StateM (Memory String GlobalUserInfo) (List (Except Exn Attributed))
  | [] => pure []
  | turn :: turns => do
      let attributed ←
        (Cached.attributePage interpreter settings turn.upstream client turn.lease turn.page).run
      let others ← Cached.attributePages interpreter settings client turns
      pure (attributed :: others)

def Upstream.uncached (upstream : Upstream) (client : Client) : Upstream :=
  { upstream with
    globalGroups := fun _ wiki username =>
      (client.requestGlobalUserInfo wiki username).map GlobalUserInfo.groups }

section Agreement

variable {truth : String → Except Exn GlobalUserInfo} {interpreter : Interpreter}
  {settings : Settings} {users : Users} {globalGroups : String → Calls (List String)}
  {plainGroups : GlobalGroupLookup}

theorem agrees_apart {Result : Type} (result : Except Exn Result) :
    Agrees globalGroupCacheSize truth (apart result) result := agrees_lift result

theorem agrees_globalGroups {client : Client} {wiki : String}
    (alike : ∀ username, client.requestGlobalUserInfo wiki username = truth username)
    (username : String) :
    Agrees globalGroupCacheSize truth (client.globalGroups wiki username)
      ((client.requestGlobalUserInfo wiki username).map GlobalUserInfo.groups) := by
  have looked : Agrees globalGroupCacheSize truth (client.globalUserInfo wiki username)
      (truth username) := by
    rw [Client.globalUserInfo, alike]
    exact agrees_look (by decide) username
  rw [alike]
  exact agrees_map GlobalUserInfo.groups looked

theorem agrees_shouldHighlight
    (lookups : ∀ username, Agrees globalGroupCacheSize truth (globalGroups username)
      (plainGroups username)) (user : ResolvedUser) :
    Agrees globalGroupCacheSize truth
      (Cached.shouldHighlightContributor globalGroups interpreter.unicode interpreter.alphabet
        user)
      (shouldHighlightContributor interpreter.unicode interpreter.alphabet user
        (some plainGroups)) := by
  unfold Cached.shouldHighlightContributor shouldHighlightContributor
  split
  · exact agrees_pure false
  · split
    · exact agrees_pure false
    · split
      · exact agrees_pure false
      · exact agrees_map _ (lookups user.username)

theorem agrees_collect {Item Chosen : Type} {limit : Nat}
    {entry : Item → Calls (Option Chosen)} {plainEntry : Item → Except Exn (Option Chosen)}
    (each : ∀ item, Agrees globalGroupCacheSize truth (entry item) (plainEntry item))
    (chosen : List Chosen) (items : List Item) :
    Agrees globalGroupCacheSize truth (Cached.collect limit entry chosen items)
      (collect limit plainEntry chosen items) := by
  induction items generalizing chosen with
  | nil => exact agrees_pure chosen
  | cons item items ih =>
      rw [Cached.collect]
      have rest : ∀ found : Option Chosen, Agrees globalGroupCacheSize truth
          (match found with
          | none => Cached.collect limit entry chosen items
          | some found =>
              if chosen.length + 1 = limit then pure (chosen ++ [found])
              else Cached.collect limit entry (chosen ++ [found]) items)
          (match found with
          | none => collect limit plainEntry chosen items
          | some found =>
              if chosen.length + 1 = limit then .ok (chosen ++ [found])
              else collect limit plainEntry (chosen ++ [found]) items) := by
        intro found
        cases found with
        | none => exact ih chosen
        | some found =>
            dsimp only
            split
            · exact agrees_pure _
            · exact ih (chosen ++ [found])
      have whole := agrees_bind (each item) rest
      refine cast (congrArg _ ?_) whole
      rw [collect]
      cases plainEntry item with
      | error raised => rfl
      | ok found => cases found <;> rfl

theorem agrees_topEditor
    (lookups : ∀ username, Agrees globalGroupCacheSize truth (globalGroups username)
      (plainGroups username)) (totalRevisions : Int) (entry : Int × Nat) :
    Agrees globalGroupCacheSize truth
      (Cached.topEditor interpreter users globalGroups totalRevisions entry)
      (topEditor interpreter totalRevisions users (some plainGroups) entry) := by
  rw [Cached.topEditor, topEditor]
  cases userOf users entry.1 with
  | none => exact agrees_pure none
  | some user =>
      refine agrees_bind (agrees_shouldHighlight lookups user) fun highlighted => ?_
      cases highlighted with
      | false => exact agrees_pure none
      | true => exact agrees_bind (agrees_apart _) fun share => agrees_pure _

theorem agrees_tokenContributor
    (lookups : ∀ username, Agrees globalGroupCacheSize truth (globalGroups username)
      (plainGroups username)) (totalTokens : Int) (entry : String × Nat) :
    Agrees globalGroupCacheSize truth
      (Cached.tokenContributor interpreter settings users globalGroups totalTokens entry)
      (tokenContributor interpreter settings totalTokens users (some plainGroups) entry) := by
  unfold Cached.tokenContributor tokenContributor
  refine agrees_bind (agrees_apart _) fun registers => ?_
  cases registers with
  | false => exact agrees_pure none
  | true =>
      refine agrees_bind (agrees_apart _) fun share => ?_
      by_cases insignificant :
          (entry.2 : Int) < settings.minimumTokens ∨ share < settings.minimumShare
      · rw [if_pos insignificant, if_pos insignificant]
        exact agrees_pure none
      · rw [if_neg insignificant, if_neg insignificant]
        refine agrees_bind (agrees_apart _) fun userId => ?_
        cases userOf users userId with
        | none => exact agrees_pure none
        | some user =>
            refine agrees_bind (agrees_shouldHighlight lookups user) fun highlighted => ?_
            cases highlighted <;> exact agrees_pure _

variable {upstream : Upstream} {client : Client} {lease : WorkLease}
  (alike : ∀ username, client.requestGlobalUserInfo lease.wiki username = truth username)
include alike

theorem agrees_rankTokens :
    Agrees globalGroupCacheSize truth
        (Cached.rankTokens interpreter settings upstream client lease).1
        (rankTokens interpreter settings (upstream.uncached client) lease).1 ∧
      (Cached.rankTokens interpreter settings upstream client lease).2 =
        (rankTokens interpreter settings (upstream.uncached client) lease).2 := by
  rw [Cached.rankTokens, rankTokens, show (upstream.uncached client).fetchRevision =
    upstream.fetchRevision from rfl]
  cases upstream.fetchRevision lease.wiki lease.revisionId with
  | error raised => exact ⟨agrees_throw raised, rfl⟩
  | ok tokens =>
      refine ⟨?_, rfl⟩
      refine agrees_bind (agrees_apart _) fun candidates => ?_
      refine agrees_bind (agrees_apart _) fun users => ?_
      unfold Cached.selectContributors selectContributors
      split
      · exact agrees_pure []
      · exact agrees_collect
          (fun entry => agrees_tokenContributor (agrees_globalGroups alike) _ entry) _ _

theorem agrees_rankEdits :
    Agrees globalGroupCacheSize truth
      (Cached.rankEdits interpreter settings upstream client lease)
      (rankEdits interpreter settings (upstream.uncached client) lease) := by
  refine agrees_bind (agrees_apart _) fun history => ?_
  cases history.complete with
  | false => exact agrees_pure []
  | true =>
      refine agrees_bind (agrees_apart _) fun users => ?_
      unfold Cached.selectTopEditors selectTopEditors
      split
      · exact agrees_pure []
      · exact agrees_collect
          (fun entry => agrees_topEditor (agrees_globalGroups alike) _ entry) _ _

omit alike in
theorem agrees_caught {ranked : Calls (List Contributor)}
    {plain : Except Exn (List Contributor)}
    (same : Agrees globalGroupCacheSize truth ranked plain) :
    Agrees globalGroupCacheSize truth (Cached.caught ranked) (caught plain) := by
  have handled : ∀ raised : Exn, Agrees globalGroupCacheSize truth
      (if raised.isPermanentData then pure [] else throw raised : Calls (List Contributor))
      (if raised.isPermanentData then .ok [] else .error raised) := by
    intro raised
    split
    · exact agrees_pure []
    · exact agrees_throw raised
  have whole := agrees_catch same handled
  refine cast (congrArg _ ?_) whole
  cases plain <;> rfl

theorem agrees_workerAttribute :
    Agrees globalGroupCacheSize truth
      (Cached.workerAttribute interpreter settings upstream client lease)
      (workerAttribute interpreter settings (upstream.uncached client) lease) := by
  obtain ⟨same, total⟩ := @agrees_rankTokens truth interpreter settings upstream client lease
    alike
  rw [Cached.workerAttribute, workerAttribute]
  generalize Cached.rankTokens interpreter settings upstream client lease = ranked at same total
  generalize rankTokens interpreter settings (upstream.uncached client) lease = plain
    at same total
  obtain ⟨ranked, totalTokens⟩ := ranked
  obtain ⟨plain, plainTotal⟩ := plain
  dsimp only at same total ⊢
  subst total
  have rest : ∀ contributors : List Contributor, Agrees globalGroupCacheSize truth
      (if contributors.isEmpty then do
        let editors ← Cached.rankEdits interpreter settings upstream client lease
        pure (editors, totalTokens, metricEdits)
      else pure (contributors, totalTokens, metricTokens))
      (if contributors.isEmpty then
        (rankEdits interpreter settings (upstream.uncached client) lease).map
          (fun editors => (editors, totalTokens, metricEdits))
      else .ok (contributors, totalTokens, metricTokens)) := by
    intro contributors
    split
    · exact agrees_map _ (agrees_rankEdits alike)
    · exact agrees_pure _
  have whole := agrees_bind (agrees_caught same) rest
  refine cast (congrArg _ ?_) whole
  cases caught plain <;> rfl

theorem agrees_attributePage (page : PageMetadata) :
    Agrees globalGroupCacheSize truth
      (Cached.attributePage interpreter settings upstream client lease page)
      (attributePage interpreter settings (upstream.uncached client) lease page) :=
  agrees_bind (agrees_workerAttribute alike) fun _ =>
    agrees_bind (agrees_apart _) fun _ => agrees_bind (agrees_apart _) fun _ => agrees_pure _

end Agreement

section Process

variable {truth : String → Except Exn GlobalUserInfo} {interpreter : Interpreter}
  {settings : Settings} {client : Client} {turns : List PageTurn}

theorem attributePages_agrees
    (alike : ∀ turn ∈ turns, ∀ username,
      client.requestGlobalUserInfo turn.lease.wiki username = truth username)
    (memory : Memory String GlobalUserInfo)
    (sound : Memo.Sound globalGroupCacheSize truth memory) :
    ((Cached.attributePages interpreter settings client turns).run memory).1 =
        turns.map (fun turn => attributePage interpreter settings
          (turn.upstream.uncached client) turn.lease turn.page) ∧
      Memo.Sound globalGroupCacheSize truth
        ((Cached.attributePages interpreter settings client turns).run memory).2 := by
  induction turns generalizing memory with
  | nil => exact ⟨rfl, sound⟩
  | cons turn turns ih =>
      obtain ⟨same, left⟩ := @agrees_attributePage truth interpreter settings turn.upstream
        client turn.lease (alike turn List.mem_cons_self) turn.page memory sound
      obtain ⟨others, kept⟩ := ih (fun other member => alike other (List.mem_cons_of_mem _ member))
        _ left
      exact ⟨by rw [List.map_cons, ← same, ← others]; rfl, kept⟩

end Process

/-- What a worker process stores for its pages is what it would store without the cache, where
CentralAuth says the same of an account all the time and to every wiki. The cache stays within
its bound, and an account is asked about again only after the cache was full and emptied. -/
theorem cached_attribution_transparent (interpreter : Interpreter) (settings : Settings)
    (client : Client) (turns : List PageTurn) (truth : String → Except Exn GlobalUserInfo)
    (alike : ∀ turn ∈ turns, ∀ username,
      client.requestGlobalUserInfo turn.lease.wiki username = truth username) :
    let (attributed, memory) :=
      (Cached.attributePages interpreter settings client turns).run .blank
    attributed = turns.map (fun turn => attributePage interpreter settings
        (turn.upstream.uncached client) turn.lease turn.page) ∧
      memory.known.rows.length ≤ globalGroupCacheSize ∧
      memory.answered.length =
        globalGroupCacheSize * memory.emptied + memory.known.rows.length ∧
      ∀ username, memory.answered.count username ≤ memory.emptied + 1 := by
  obtain ⟨same, sound⟩ := attributePages_agrees alike .blank sound_blank
  exact ⟨same, sound.room, sound.total, sound.count_le⟩

def unknownAccounts : Client where
  languages := ["fr", "en"]
  spell := fun _ => ""
  send := fun _ _ => .ok (.obj [("query", .obj [("globaluserinfo", .obj [])])])

def twoTurns : List PageTurn :=
  [⟨ownUpstream, ⟨articleKey 10, 0, 0, 1⟩, articlePage 10⟩,
    ⟨ownUpstream, ⟨articleKey 10, 1, 0, 1⟩, articlePage 10⟩]

theorem cached_attribution_transparent_twice :
    let (attributed, memory) :=
      (Cached.attributePages plainInterpreter fromEnv unknownAccounts twoTurns).run .blank
    attributed = twoTurns.map (fun turn => attributePage plainInterpreter fromEnv
        (turn.upstream.uncached unknownAccounts) turn.lease turn.page) ∧
      memory.known.rows.length ≤ globalGroupCacheSize ∧
      memory.answered.length =
        globalGroupCacheSize * memory.emptied + memory.known.rows.length ∧
      ∀ username, memory.answered.count username ≤ memory.emptied + 1 := by
  refine cached_attribution_transparent plainInterpreter fromEnv unknownAccounts twoTurns
    (fun _ => .ok ⟨[], false⟩) ?_
  intro turn member username
  simp only [twoTurns, List.mem_cons, List.not_mem_nil, or_false] at member
  rcases member with rfl | rfl <;> rfl

end WikiPeople
