import WikiPeople.Accounts
import WikiPeople.EditHistory
import WikiPeople.Wire

/-! What a job stores about a page, told by the facts about the page alone: who wrote its text,
who edited it, and what is known of the accounts. Nothing is left of requests, streams,
batches and continuations. -/

namespace WikiPeople

open Relational Paging Text

/-- The facts about a page. WikiWho may decline its revision; its edits are the newest first. -/
structure World where
  page : PageMetadata
  tokens : Option (List (String × String))
  edits : List Edit
  accounts : Int → Option Account
  globalGroups : String → List String
  editorCount : EditorCount
  bots : List (Int × String)

/-- The positive id that an editor spells. -/
def spelledId (unicode : Unicode) (editor : String) : Option Int :=
  madeOf (candidateUserId unicode) (editor, 0)

/-- How often each name occurs, in the order in which they first occur. -/
def occurrences {Name : Type} [DecidableEq Name] (names : List Name) : Counter Name :=
  names.foldl Counter.tally .empty

def accountMetric (account : Int → Option ResolvedUser) : Metric Int :=
  { editMetric .empty with account := account }

namespace World

variable (interpreter : Interpreter) (settings : Settings) (world : World)

def writers : List String :=
  (world.tokens.getD []).filterMap (fun token =>
    if isCountableToken interpreter.unicode token.1 then some token.2 else none)

def writerPool : List Int :=
  upTo settings.candidatePoolSize
    ((occurrences (world.writers interpreter)).mostCommon.filterMap
      (fun entry => spelledId interpreter.unicode entry.1))

def editorPool : List Int :=
  ((occurrences (accountsOf world.edits)).mostCommon.take
    settings.candidatePoolSize.toNat).map Prod.fst

/-- The three accounts of the pool with the most words that may be named. -/
def topWriters : List Contributor :=
  let known := within (world.writerPool interpreter settings) (accountOf world.accounts)
  let total := (world.writers interpreter).length
  specified interpreter (some world.globalGroups)
    (tokenMetric interpreter total settings
      (fun editor => (spelledId interpreter.unicode editor).bind known)) total
    (occurrences (world.writers interpreter)).rows

/-- The same for edits, where all of them are within the budget. -/
def topEditors : List Contributor :=
  if 0 < settings.topEditorMaxRevisions ∧
      (world.edits.length : Int) ≤ settings.topEditorMaxRevisions then
    specified interpreter (some world.globalGroups)
      (accountMetric (within (world.editorPool settings) (accountOf world.accounts)))
      world.edits.length (occurrences (accountsOf world.edits)).rows
  else []

def attribution : Attributed where
  contributors :=
    if (world.topWriters interpreter settings).isEmpty then world.topEditors interpreter settings
    else world.topWriters interpreter settings
  countableTokens := (world.writers interpreter).length
  metric :=
    if (world.topWriters interpreter settings).isEmpty then metricEdits else metricTokens
  editorCount := world.editorCount
  botCount := world.bots.length

end World

/-! How the facts are told. -/

/-- A flag of the Action API stands in an answer only where it is set. -/
def pageJson (page : PageMetadata) : Json :=
  .obj (("pageid", .int page.pageId) :: ("ns", .int page.pageNamespace) ::
    ("title", .str page.title) ::
    ("revisions", .arr [.obj [("revid", .int page.revisionId), ("parentid", .int 0)]]) ::
    if page.isRedirect then [("redirect", .bool true)] else [])

def tokenJson (token : String × String) : Json :=
  .obj [("str", .str token.1), ("editor", .str token.2)]

def botJson (bot : Int × String) : Json :=
  .obj [("userid", .int bot.1), ("name", .str bot.2)]

def botQuery (pageId : Int) (batch : List (Int × String)) : Json :=
  .obj [("pages", .arr [.obj (("pageid", .int pageId) ::
    if batch.isEmpty then [] else [("contributors", .arr (batch.map botJson))])])]

def editorCountJson (count : EditorCount) : Json :=
  .obj [("count", .int count.count), ("limit", .bool count.limited)]

/-- What WikiWho answers about the revision: a body with its tokens that is within the budget,
or that it does not serve the revision. -/
def WikiWhoClient.Tells (client : WikiWhoClient) (wiki : String) (revisionId : Int)
    (tokens : Option (List (String × String))) : Prop :=
  ∃ response, client.Answered wiki revisionId response ∧
    match tokens with
    | none => response.status = 400
    | some tokens => isSuccess response.status = true ∧ ∃ body data,
        Delivers response.arrivals body ∧ body.length ≤ client.budget ∧
        client.parse body = .value data ∧ Carries data revisionId (tokens.map tokenJson)

/-- What is heard on a wire are the facts of the world, cut into whatever parts; the edits into
those of the division. -/
structure JobWire.Documents (wire : JobWire) (unicode : Unicode) (world : World)
    (lease : WorkLease) (name : String) (division : List (List Edit)) : Prop where
  covered : host wire.languages lease.wiki = .ok name
  page : wire.pages name (payload (pageParams lease.pageId)) =
    .ok (listingJson (.obj [("pages", .arr [pageJson world.page])]) none)
  revision : wire.wikiwho.Tells lease.wiki lease.revisionId world.tokens
  readable : ∀ token ∈ world.tokens.getD [], isCountableToken unicode token.1 = true →
    ReadableEditor unicode token.2
  users : ∀ rung, TellsAccounts (wire.users rung) name world.accounts
  groups : ∀ rung, TellsGroups (wire.groups rung) name world.globalGroups
  divides : Divides division world.edits
  history : ∃ continuations, (wire.session wire.history).Serves name (historyParams lease.pageId)
    continuations ((answeredBatches division).map (historyQuery lease.pageId))
  editors : wire.counts (editorCountUrl name world.page.title) =
    .ok (editorCountJson world.editorCount)
  bots : ∃ continuations parts, parts ≠ [] ∧ parts.length ≤ botPageLimit ∧
    parts.flatten = world.bots ∧
    (wire.session wire.bots).Serves name (botParams lease.pageId) continuations
      (parts.map (botQuery lease.pageId))

/-- The last part does not pass the budget within it: a history that it does would be ranked or
not as it is divided. -/
def KeepsBudget (budget : Int) (division : List (List Edit)) : Prop :=
  (division.flatten.length : Int) ≤ budget ∨ budget ≤ (division.dropLast.flatten.length : Int)

section Told

variable {client : Client} {session : Session} {readText : String → Option Int}
  {wiki name : String} {pageId : Int} {continuations : Nat → List (String × String)}
  {parts rest : List (List (Int × String))} {part : List (Int × String)}

theorem getPage_told (known : host client.languages wiki = .ok name) {page : PageMetadata}
    (told : client.send name (payload (pageParams pageId)) =
      .ok (listingJson (.obj [("pages", .arr [pageJson page])]) none)) :
    client.getPage readText wiki pageId = .ok page := by
  unfold Client.getPage
  rw [action_told known told rfl rfl]
  obtain ⟨number, revision, title, space, redirect⟩ := page
  cases redirect <;> rfl

theorem getEditorCount_told {languages : List String} {fetch : String → Except SendError Json}
    (known : host languages wiki = .ok name) {title : String} {count : EditorCount}
    (told : fetch (editorCountUrl name title) = .ok (editorCountJson count)) :
    getEditorCount languages fetch wiki title = .ok count := by
  simp only [getEditorCount, known, bind, Except.bind, told]
  rfl

theorem readBots_part (part : List (Int × String))
    (continuation : Option (List (String × String))) :
    readBots (listingJson (botQuery pageId part) continuation) = .ok part.length := by
  cases part with
  | nil => cases continuation <;> rfl
  | cons bot part =>
      have size : ((bot :: part).map botJson).length = (bot :: part).length :=
        List.length_map botJson
      rw [← size]
      cases continuation <;> rfl

theorem botStep_served
    (served : session.Serves name (botParams pageId) continuations
      (parts.map (botQuery pageId)))
    (known : host session.languages wiki = .ok name) {place before : Nat}
    (present : parts[place]? = some part) (few : place < botPageLimit) :
    botStep session wiki pageId place (before, continuationAt continuations place) =
      if place + 1 < parts.length then
        .ask (before + part.length, continuationAt continuations (place + 1))
      else .done (.ok (before + part.length)) := by
  have query : (parts.map (botQuery pageId))[place]? = some (botQuery pageId part) := by
    rw [List.getElem?_map, present, Option.map_some]
  have answer := ask_served served known query
  rw [List.length_map] at answer
  rw [botStep, if_neg (not_le.mpr few)]
  simp only [answer, readBots_part, Except.mapError, bind, Except.bind, continuationOf_listing]
  split
  · rw [Option.elim_some, if_pos (continuationJson_truthy (served.filled place))]
    rfl
  · rfl

theorem botStep_returns
    (served : session.Serves name (botParams pageId) continuations
      (parts.map (botQuery pageId)))
    (known : host session.languages wiki = .ok name) (few : parts.length ≤ botPageLimit)
    {before : List (List (Int × String))} (split : parts = before ++ part :: rest) :
    Returns (botStep session wiki pageId) before.length
      (before.flatten.length, continuationAt continuations before.length)
      (.ok parts.flatten.length) := by
  have present : parts[before.length]? = some part := by simp [split]
  have early : before.length < botPageLimit := by
    rw [split, List.length_append, List.length_cons] at few
    omega
  have pass := @botStep_served session wiki name pageId continuations parts part served known
    before.length before.flatten.length present early
  induction rest generalizing before part with
  | nil =>
      have last : ¬ before.length + 1 < parts.length := by simp [split]
      have all : parts.flatten.length = before.flatten.length + part.length := by simp [split]
      rw [if_neg last] at pass
      rw [returns_done pass, all]
  | cons next rest ih =>
      have more : before.length + 1 < parts.length := by simp [split]
      have moved : parts = (before ++ [part]) ++ next :: rest := by simp [split]
      have size : before.length + 1 = (before ++ [part]).length := by simp
      have flat : before.flatten.length + part.length = (before ++ [part]).flatten.length := by
        simp
      have later : parts[(before ++ [part]).length]? = some next := by simp [moved]
      have soon : (before ++ [part]).length < botPageLimit := by
        rw [moved, List.length_append, List.length_cons] at few
        omega
      rw [if_pos more, flat, size] at pass
      rw [returns_ask pass, size]
      exact ih moved later soon (botStep_served served known later soon)

end Told

def tokenOf (token : String × String) : Token := ⟨some token.1, some token.2⟩

section Job

variable {interpreter : Interpreter} {settings : Settings} {wire : JobWire} {lease : WorkLease}
  {upstream : Upstream} {world : World} {name : String} {division : List (List Edit)}

theorem readToken_told (tokens : List (String × String)) :
    (tokens.map tokenJson).mapM readToken = .ok (tokens.map tokenOf) := by
  rw [List.mapM_map]
  exact mapM_ok fun token _ => rfl

theorem fetchRevision_told (answers : wire.Answers settings lease upstream)
    {tokens : List (String × String)}
    (told : wire.wikiwho.Tells lease.wiki lease.revisionId (some tokens)) :
    upstream.fetchRevision lease.wiki lease.revisionId = .ok (tokens.map tokenOf) := by
  obtain ⟨turns, outcome, returned, same⟩ := answers.revision
  obtain ⟨response, answered, success, body, data, delivered, fits, parsed, carried⟩ := told
  have reads := WikiWhoClient.fetchRevision_reads returned
  have read := (reads.exact_ _).mpr
    ⟨response, body, data, answered, success, delivered, fits, parsed, carried⟩
  rw [same, read]
  exact readToken_told tokens

theorem fetchRevision_declined (answers : wire.Answers settings lease upstream)
    (told : wire.wikiwho.Tells lease.wiki lease.revisionId none) :
    ∃ message, upstream.fetchRevision lease.wiki lease.revisionId =
      .error (.known .permanentData message) := by
  obtain ⟨turns, outcome, returned, same⟩ := answers.revision
  obtain ⟨response, answered, declined⟩ := told
  have reads := WikiWhoClient.fetchRevision_reads returned
  obtain ⟨message, failed⟩ := reads.permanent.mpr (Or.inr ⟨response, answered, declined⟩)
  refine ⟨message, ?_⟩
  rw [same, failed]
  rfl

theorem globalGroups_pure (documents : wire.Documents interpreter.unicode world lease name division)
    (answers : wire.Answers settings lease upstream) (rung : Rung) :
    upstream.globalGroups rung lease.wiki = pureLookup world.globalGroups := by
  funext username
  rw [answers.groups]
  exact globalGroups_told documents.covered (documents.groups rung) username

theorem resolveUsers_pool (documents : wire.Documents interpreter.unicode world lease name division)
    (answers : wire.Answers settings lease upstream) (rung : Rung) (pool : List Int) :
    ∃ users, upstream.resolveUsers rung lease.wiki pool = .ok users ∧
      userOf users = within pool (accountOf world.accounts) := by
  rw [answers.users]
  obtain ⟨users, resolved, known⟩ :=
    @resolveUsers_told (wire.client (wire.users rung)) wire.readText lease.wiki name
      world.accounts documents.covered (documents.users rung) pool
  exact ⟨users, resolved, funext known⟩

theorem countTokens_world (tokens : List (String × String))
    (served : world.tokens = some tokens) :
    countTokens interpreter.unicode (tokens.map tokenOf) =
      (occurrences (world.writers interpreter), (world.writers interpreter).length) := by
  have same : (tokens.map tokenOf).filterMap (countedEditor interpreter.unicode) =
      world.writers interpreter := by
    unfold World.writers
    rw [served, List.filterMap_map]
    rfl
  rw [countTokens_eq, same]
  rfl

theorem occurrences_counts {Name : Type} [DecidableEq Name] (names : List Name) :
    (occurrences names).Counts names := by
  have counts := Counter.counts_foldl Counter.counts_empty names
  rwa [List.nil_append] at counts

theorem occurrences_total {Name : Type} [DecidableEq Name] (names : List Name) :
    (occurrences names).total = names.length := by
  unfold occurrences
  rw [Counter.total_foldl]
  exact Nat.zero_add _

theorem occurrences_positive {Name : Type} [DecidableEq Name] {names : List Name} :
    ∀ entry ∈ (occurrences names).rows, 0 < entry.2 :=
  fun entry member => ((occurrences_counts names entry.1 entry.2).mp member).1

theorem mem_of_occurrences {Name : Type} [DecidableEq Name] {names : List Name} :
    ∀ entry ∈ (occurrences names).rows, entry.1 ∈ names := by
  intro entry member
  obtain ⟨positive, same⟩ := (occurrences_counts names entry.1 entry.2).mp member
  exact List.count_pos_iff.mp (same ▸ positive)

theorem writers_readable (documents : wire.Documents interpreter.unicode world lease name division) :
    ∀ entry ∈ (occurrences (world.writers interpreter)).rows,
      ReadableEditor interpreter.unicode entry.1 := by
  intro entry member
  obtain ⟨token, listed, found⟩ := List.mem_filterMap.mp (mem_of_occurrences entry member)
  obtain ⟨countable, same⟩ := Option.ite_none_right_eq_some.mp found
  exact Option.some.inj same ▸ documents.readable token listed countable

theorem candidateUserIds_world
    (documents : wire.Documents interpreter.unicode world lease name division) :
    candidateUserIds interpreter.unicode (occurrences (world.writers interpreter))
      settings.candidatePoolSize = .ok (world.writerPool interpreter settings) := by
  have readable := writers_readable documents
  have each : ∀ entry ∈ (occurrences (world.writers interpreter)).mostCommon,
      candidateUserId interpreter.unicode entry =
        .ok (spelledId interpreter.unicode entry.1) := by
    intro entry member
    obtain ⟨made, read⟩ :=
      candidateUserId_returns.mpr (readable entry (Counter.mem_mostCommon.mp member))
    have spelled : candidateUserId interpreter.unicode (entry.1, 0) = .ok made := read
    rw [read, spelledId, madeOf, spelled]
    rfl
  unfold candidateUserIds
  rw [filterMapM_ok each]
  rfl

theorem topWriters_none (declined : world.tokens = none) :
    world.topWriters interpreter settings = [] ∧ world.writers interpreter = [] := by
  have nobody : world.writers interpreter = [] := by
    rw [World.writers, declined]
    rfl
  refine ⟨?_, nobody⟩
  rw [World.topWriters, nobody, specified_eq, byWeight]
  change ((List.mergeSort [] _).filterMap _).take _ = _
  rw [List.mergeSort_nil]
  rfl

theorem rankTokens_world (measures : interpreter.Measures)
    (documents : wire.Documents interpreter.unicode world lease name division)
    (answers : wire.Answers settings lease upstream) :
    caught (rankTokens interpreter settings upstream lease).1 =
        .ok (world.topWriters interpreter settings) ∧
      (rankTokens interpreter settings upstream lease).2 =
        (world.writers interpreter).length := by
  have told := documents.revision
  cases served : world.tokens with
  | none =>
      rw [served] at told
      obtain ⟨message, failed⟩ := fetchRevision_declined answers told
      obtain ⟨nobody, wordless⟩ := @topWriters_none interpreter settings world served
      rw [nobody, wordless, rankTokens, failed]
      exact ⟨rfl, rfl⟩
  | some tokens =>
      rw [served] at told
      obtain ⟨users, resolved, known⟩ := resolveUsers_pool documents answers .tokens
        (world.writerPool interpreter settings)
      have ranked := @selectContributors_specified interpreter settings users
        (some world.globalGroups) measures (occurrences (world.writers interpreter))
        (world.writers interpreter).length occurrences_positive (occurrences_total _)
        (writers_readable documents)
      have denoted : denotedAccount interpreter.unicode users = fun editor =>
          (spelledId interpreter.unicode editor).bind
            (within (world.writerPool interpreter settings) (accountOf world.accounts)) := by
        funext editor
        rw [denotedAccount, known]
        rfl
      rw [denoted] at ranked
      rw [rankTokens, fetchRevision_told answers told]
      dsimp only
      rw [countTokens_world tokens served]
      dsimp only
      rw [candidateUserIds_world documents, globalGroups_pure documents answers]
      refine ⟨?_, rfl⟩
      change caught ((upstream.resolveUsers .tokens lease.wiki
        (world.writerPool interpreter settings)).bind _) = _
      rw [resolved]
      change caught (selectContributors _ _ _ _ _ _ _) = _
      rw [show some (pureLookup world.globalGroups) =
        (some world.globalGroups).map pureLookup from rfl, ranked]
      rfl

/-- The history is read whole exactly where the parts before the last leave something of the
budget. -/
theorem getEditorHistory_told (documents : wire.Documents interpreter.unicode world lease name division)
    (answers : wire.Answers settings lease upstream) :
    ∃ history, upstream.getEditorHistory lease.wiki lease.pageId
        settings.topEditorMaxRevisions = .ok history ∧
      (history.complete = true ↔
        (division.dropLast.flatten.length : Int) < settings.topEditorMaxRevisions) ∧
      (history.complete = true → history =
        ⟨occurrences (accountsOf world.edits), world.edits.length, true⟩) := by
  obtain ⟨passes, returned⟩ := answers.history
  obtain ⟨continuations, served⟩ := documents.history
  have returns : Returns (historyStep (wire.session wire.history) wire.readText lease.wiki
      lease.pageId settings.topEditorMaxRevisions) 0 .start
        (upstream.getEditorHistory lease.wiki lease.pageId settings.topEditorMaxRevisions) :=
    ⟨passes, returned⟩
  have whole : (answeredBatches division).flatten = world.edits ∧
      (answeredBatches division).dropLast = division.dropLast := by
    rw [← documents.divides.whole]
    cases division <;> exact ⟨rfl, rfl⟩
  by_cases spent : settings.topEditorMaxRevisions ≤ 0
  · have short := @historyStep_spent (wire.session wire.history) wire.readText lease.wiki
      lease.pageId settings.topEditorMaxRevisions 0 .start spent
    refine ⟨_, (returns_done short).mp returns, ?_, ?_⟩
    · refine iff_of_false (by simp) ?_
      omega
    · intro complete
      cases complete
  · obtain ⟨batch, rest, answered⟩ : ∃ batch rest,
        answeredBatches division = batch :: rest := by
      cases division with
      | nil => exact ⟨[], [], rfl⟩
      | cons batch rest => exact ⟨batch, rest, rfl⟩
    obtain ⟨history, walked, complete, counted⟩ := @historyStep_returns
      (wire.session wire.history) wire.readText lease.wiki name lease.pageId
      settings.topEditorMaxRevisions continuations (answeredBatches division) rest batch
      served documents.covered [] answered (not_le.mp spent)
    rw [whole.1] at counted
    rw [whole.2] at complete
    exact ⟨history, returns.unique walked, complete, counted⟩

theorem keepsBudget_iff (divides : Divides division world.edits)
    (keeps : KeepsBudget settings.topEditorMaxRevisions division) :
    (division.dropLast.flatten.length : Int) < settings.topEditorMaxRevisions ↔
      0 < settings.topEditorMaxRevisions ∧
        (world.edits.length : Int) ≤ settings.topEditorMaxRevisions := by
  rw [← divides.whole]
  constructor
  · intro left
    exact ⟨(Int.natCast_nonneg _).trans_lt left, keeps.resolve_right (not_le.mpr left)⟩
  · rintro ⟨positive, within⟩
    exact before_last_lt divides.filled positive within

theorem rankEdits_world (measures : interpreter.Measures)
    (documents : wire.Documents interpreter.unicode world lease name division)
    (keeps : KeepsBudget settings.topEditorMaxRevisions division)
    (answers : wire.Answers settings lease upstream) :
    rankEdits interpreter settings upstream lease =
      .ok (world.topEditors interpreter settings) := by
  obtain ⟨history, read, complete, counted⟩ := getEditorHistory_told documents answers
  rw [keepsBudget_iff documents.divides keeps] at complete
  unfold rankEdits World.topEditors
  rw [read]
  change (if history.complete then _ else _) = _
  by_cases whole : history.complete = true
  · rw [if_pos whole, if_pos (complete.mp whole), counted whole]
    obtain ⟨users, resolved, known⟩ := resolveUsers_pool documents answers .edits
      (world.editorPool settings)
    change (upstream.resolveUsers .edits lease.wiki (world.editorPool settings)).bind _ = _
    rw [resolved, globalGroups_pure documents answers]
    have fits : (((occurrences (accountsOf world.edits)).rows.map Prod.snd).sum : Int) ≤
        world.edits.length := by
      have short : (accountsOf world.edits).length ≤ world.edits.length :=
        List.length_filterMap_le Edit.account world.edits
      rw [← occurrences_total (accountsOf world.edits)] at short
      exact_mod_cast short
    have ranked := @selectTopEditors_judged interpreter users measures
      (occurrences (accountsOf world.edits)) world.edits.length occurrences_positive fits
      ((some world.globalGroups).map pureLookup)
    have metric : editMetric users =
        accountMetric (within (world.editorPool settings) (accountOf world.accounts)) := by
      rw [← known]
      rfl
    rw [collect_judged, metric] at ranked
    exact ranked
  · rw [if_neg whole, if_neg (mt complete.mpr whole)]

theorem getBotContributorCount_told
    (documents : wire.Documents interpreter.unicode world lease name division)
    (answers : wire.Answers settings lease upstream) :
    upstream.getBotContributorCount lease.wiki lease.pageId = .ok world.bots.length := by
  obtain ⟨passes, counted, returned, same⟩ := answers.bots
  obtain ⟨continuations, parts, filled, few, whole, served⟩ := documents.bots
  cases parts with
  | nil => exact absurd rfl filled
  | cons part rest =>
      have walked := @botStep_returns (wire.session wire.bots) lease.wiki name lease.pageId
        continuations (part :: rest) rest part served documents.covered few [] rfl
      have returns : Returns (botStep (wire.session wire.bots) lease.wiki lease.pageId) 0
          (0, .obj []) counted := ⟨passes, returned⟩
      rw [same, returns.unique walked, whole]
      rfl

/-- What is computed is the attribution of the world. -/
theorem attributePage_world (measures : interpreter.Measures)
    (documents : wire.Documents interpreter.unicode world lease name division)
    (keeps : KeepsBudget settings.topEditorMaxRevisions division)
    (answers : wire.Answers settings lease upstream) :
    attributePage interpreter settings upstream lease world.page =
      .ok (world.attribution interpreter settings) := by
  obtain ⟨ranked, total⟩ := rankTokens_world measures documents answers
  have counted := getEditorCount_told documents.covered documents.editors
  unfold attributePage workerAttribute World.attribution
  rw [answers.editors, counted, getBotContributorCount_told documents answers]
  dsimp only
  rw [ranked, total, rankEdits_world measures documents keeps answers]
  dsimp only
  cases (world.topWriters interpreter settings).isEmpty <;> rfl

theorem process_stored {store : Store} {page : PageMetadata} {attributed : Attributed}
    {attribution : PageMetadata → Except Exn Attributed} {clock : Nat → Time}
    (article : page.pageNamespace = 0) (direct : page.isRedirect = false)
    (current : page.revisionId = lease.revisionId)
    (answered : attribution page = .ok attributed) :
    process store lease (.ok page) attribution clock =
      .ok (registerActiveWiki (complete (saveResult store
        (resultValues lease page attributed (clock 0))) lease.id) lease.wiki (clock 1)).2 := by
  unfold process
  dsimp only
  rw [if_neg (not_not.mpr article), direct, if_neg Bool.false_ne_true,
    if_neg (not_not.mpr current), answered]

theorem getPage_world (documents : wire.Documents interpreter.unicode world lease name division)
    (answers : wire.Answers settings lease upstream) :
    upstream.getPage lease.wiki lease.pageId = .ok world.page := by
  rw [answers.page]
  exact getPage_told documents.covered documents.page

/-- A run that computes an attribution of a current revision stores it. -/
theorem runOnce_stored {store claimed : Store} {workerId : String} {pick : Nat}
    {clock : Nat → Time} {page : PageMetadata} {attributed : Attributed}
    (taken : claim store workerId settings.workerLeaseSeconds pick (clock 0) =
      some (lease, claimed))
    (reported : upstream.getPage lease.wiki lease.pageId = .ok page)
    (article : page.pageNamespace = 0) (direct : page.isRedirect = false)
    (current : page.revisionId = lease.revisionId)
    (answered : attributePage interpreter settings upstream lease page = .ok attributed) :
    StoredResult interpreter settings upstream lease store
      (runOnce interpreter settings upstream store workerId pick clock).2 (clock 1) page
      attributed := by
  obtain ⟨results, -⟩ := claim_leased taken
  have stored := @store_result interpreter settings upstream lease store claimed (clock 1) results
    page attributed (clock 2) reported article direct current answered
  have done := @process_stored lease claimed page attributed
    (attributePage interpreter settings upstream lease) (fun call => clock (call + 1)) article
    direct current answered
  simp only [runOnce, taken, reported, done]
  exact stored

end Job

/-- A job that is run to its end stores the attribution of the world under its own key, takes
the item off the queue and changes no other result, however MediaWiki and WikiWho cut what they
tell of the world. -/
theorem job_stores_world (interpreter : Interpreter) (settings : Settings) (wire : JobWire)
    (upstream : Upstream) (world : World) (store claimed : Store) (workerId name : String)
    (pick : Nat) (clock : Nat → Time) (lease : WorkLease) (division : List (List Edit))
    (measures : interpreter.Measures)
    (taken : claim store workerId settings.workerLeaseSeconds pick (clock 0) =
      some (lease, claimed))
    (answers : wire.Answers settings lease upstream)
    (documents : wire.Documents interpreter.unicode world lease name division)
    (keeps : KeepsBudget settings.topEditorMaxRevisions division)
    (article : world.page.pageNamespace = 0) (direct : world.page.isRedirect = false)
    (current : world.page.revisionId = lease.revisionId) :
    StoredResult interpreter settings upstream lease store
      (runOnce interpreter settings upstream store workerId pick clock).2 (clock 1) world.page
      (world.attribution interpreter settings) := by
  have reported := getPage_world documents answers
  have answered := attributePage_world measures documents keeps answers
  exact runOnce_stored taken reported article direct current answered

/-! Ada wrote the text "mot" and made two of its three revisions, a bot the third. -/

/-- The id that a text spells, with its sign. -/
def readId : List Char → Int
  | '-' :: digits => -((asciiUnicode.int? digits).getD 0 : Nat)
  | digits => ((asciiUnicode.int? digits).getD 0 : Nat)

def askedIds (params : Params) : List Int :=
  (((params.lookup "ususerids").getD "").toList.splitOn '|').map readId

theorem toDigits_plain (number : Nat) (char : Char) (member : char ∈ Nat.toDigits 10 number) :
    char.isDigit = true := Nat.isDigit_of_mem_toDigits (by decide) (by decide) member

theorem readId_toString (userId : Int) : readId (toString userId).toList = userId := by
  cases userId with
  | ofNat number =>
      change readId (toString number).toList = _
      rw [natural_toList]
      unfold readId
      split
      · rename_i digits same
        have sign := toDigits_plain number '-' (by rw [same]; exact List.mem_cons_self)
        cases sign
      · rw [Unicode.int?_toDigits]
        rfl
  | negSucc number =>
      change readId ("-" ++ toString (number + 1)).toList = _
      rw [String.toList_append, natural_toList]
      change -(((asciiUnicode.int? (Nat.toDigits 10 (number + 1))).getD 0 : Nat) : Int) = _
      rw [Unicode.int?_toDigits]
      rfl

theorem toString_plain (userId : Int) : '|' ∉ (toString userId).toList := by
  cases userId with
  | ofNat number =>
      change '|' ∉ (toString number).toList
      rw [natural_toList]
      intro member
      cases toDigits_plain number '|' member
  | negSucc number =>
      change '|' ∉ ("-" ++ toString (number + 1)).toList
      rw [String.toList_append, natural_toList]
      intro member
      rcases List.mem_append.mp member with sign | digit
      · exact absurd sign (by decide)
      · cases toDigits_plain (number + 1) '|' digit

theorem askedIds_payload {userIds : List Int} (some_ : userIds ≠ []) :
    askedIds (payload (userParams userIds)) = userIds := by
  change ((String.intercalate "|" (userIds.map toString)).toList.splitOn '|').map readId = _
  rw [String.toList_intercalate, List.map_map]
  change ((['|'].intercalate (userIds.map (String.toList ∘ toString))).splitOn '|').map readId = _
  rw [List.splitOn_intercalate, List.map_map]
  · refine (List.map_congr_left fun userId _ => ?_).trans (List.map_id userIds)
    exact readId_toString userId
  · intro text member
    obtain ⟨userId, _, rfl⟩ := List.mem_map.mp member
    exact toString_plain userId
  · simpa using some_

def adaWorld : World where
  page := articlePage 10
  tokens := some [("mot", "7")]
  edits := threeEdits
  accounts := fun userId => if userId = 7 then some ⟨"Ada", ["user"]⟩ else none
  globalGroups := fun _ => []
  editorCount := ⟨2, false⟩
  bots := [(9, "Automate")]

def adaText : String :=
  "\x7b\"success\": true, \"revisions\": [\x7b\"10\": \x7b\"tokens\": " ++
    "[\x7b\"str\": \"mot\", \"editor\": \"7\"\x7d]\x7d\x7d]\x7d"

def adaBody : List UInt8 := adaText.toList.map (fun char => char.toNat.toUInt8)

def adaData : Json :=
  .obj [("success", .bool true), ("revisions", .arr [.obj [("10", .obj
    [("tokens", .arr [tokenJson ("mot", "7")])])]])]

def adaArrivals (arrived : Nat) : Arrival :=
  match arrived, adaBody with
  | 0, first :: others => .part first others
  | _, _ => .ended

def adaWikiWho : WikiWhoClient where
  languages := ["fr"]
  baseUrl := "https://wikiwho.example"
  maxResponseBytes := 1000
  spell := fun _ => ""
  statusText := fun _ => ""
  parse := fun body => if body = adaBody then .value adaData else .malformed "Expecting value"
  send := fun _ _ => .ok ⟨200, adaArrivals⟩

def adaWire : JobWire where
  languages := ["fr"]
  spell := fun _ => ""
  readText := fun _ => none
  pages := fun _ _ => .ok (listingJson (.obj [("pages", .arr [pageJson (articlePage 10)])]) none)
  users := fun _ _ params => .ok (usersJson (((askedIds params).take 50).map
    (accountJson adaWorld.accounts)))
  groups := fun _ _ params => .ok (globalUserJson ((params.lookup "guiuser").getD "") [])
  history := (servedInOrder (editBatches.map (historyQuery 1))).send
  bots := (servedInOrder [botQuery 1 [(9, "Automate")]]).send
  counts := fun _ => .ok (editorCountJson ⟨2, false⟩)
  wikiwho := adaWikiWho
  shared := rfl

theorem adaWire_documents (lease : WorkLease) (page : lease.toIdentity = articleKey 10) :
    adaWire.Documents asciiUnicode adaWorld lease "fr.wikipedia.org" editBatches where
  covered := by rw [page]; rfl
  page := rfl
  revision := by
    rw [page]
    refine ⟨⟨200, adaArrivals⟩, ⟨"fr", by decide, rfl⟩, rfl, adaBody, adaData, ?_, by decide, ?_,
      ?_⟩
    · exact ⟨1, .next .start rfl, rfl⟩
    · simp only [adaWire, adaWikiWho, if_true]
    · exact ⟨rfl, _, rfl, [], _, [], rfl, by simp, rfl⟩
  readable := by
    intro token member _ _
    rw [List.mem_singleton.mp member]
    exact ⟨7, rfl⟩
  users := by
    intro rung userIds some_
    change Except.ok (usersJson (((askedIds (payload (userParams userIds))).take 50).map _)) = _
    rw [askedIds_payload some_]
  groups := fun _ _ => rfl
  divides := ⟨by decide, by decide⟩
  history := by
    rw [page]
    exact ⟨_, servedInOrder_serves _ _ _⟩
  editors := rfl
  bots := by
    rw [page]
    exact ⟨_, [[(9, "Automate")]], by decide, by decide, rfl, servedInOrder_serves _ _ _⟩

def oneToken : Settings := { fromEnv with minimumTokens := 1 }

theorem job_stores_world_ada :
    let store := enqueue .empty (articleKey 10) 100 false 0
    (adaWorld.attribution plainInterpreter oneToken).metric = metricTokens ∧
      ∃ lease claimed, claim store "a" 300 0 0 = some (lease, claimed) ∧
      StoredResult plainInterpreter oneToken (adaWire.within 5) lease store
        (runOnce plainInterpreter oneToken (adaWire.within 5) store "a" 0 (fun _ => 0)).2 0
        adaWorld.page (adaWorld.attribution plainInterpreter oneToken) := by
  refine ⟨by decide +kernel, _, _, rfl, ?_⟩
  refine job_stores_world plainInterpreter oneToken adaWire (adaWire.within 5) adaWorld _ _ "a"
    "fr.wikipedia.org" 0 (fun _ => 0) _ editBatches plainInterpreter_measures rfl ?_
    (adaWire_documents _ rfl) (Or.inl (by decide)) rfl rfl rfl
  exact JobWire.answers_within (by decide) (by decide) (by decide)

end WikiPeople
