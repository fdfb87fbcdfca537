import WikiPeople.Ladder

/-! The candidate pool: only the accounts at the head of a ranking are resolved, and what
that does to the names. -/

namespace WikiPeople

open Relational

abbrev Directory := Rung → Int → Option ResolvedUser

/-- `list=users` answers from the directory about each account it is asked about and no
other, under the account's own id. -/
structure Upstream.Resolves (upstream : Upstream) (wiki : String) (directory : Directory) :
    Prop where
  resolved : ∀ rung userIds, ∃ users, upstream.resolveUsers rung wiki userIds = .ok users ∧
    ∀ userId, userOf users userId = if userId ∈ userIds then directory rung userId else none
  own : ∀ rung userId user, directory rung userId = some user → user.userId = userId

def within (pool : List Int) (known : Int → Option ResolvedUser) (userId : Int) :
    Option ResolvedUser :=
  if userId ∈ pool then known userId else none

section Nameable

variable (interpreter : Interpreter) (settings : Settings)
  (known : Int → Option ResolvedUser) (globalGroups : GlobalGroupLookup)

/-- The entry of an account that has enough tokens and that the exclusion rule lets pass. -/
def nameableToken (totalTokens : Int) (entry : String × Nat) : Option Contributor := do
  let userId ← madeOf (candidateUserId interpreter.unicode) entry
  let user ← known userId
  let share ← interpreter.divide entry.2 totalTokens
  if 0 < totalTokens ∧ settings.minimumTokens ≤ entry.2 ∧ settings.minimumShare ≤ share ∧
      shouldHighlightContributor interpreter.unicode interpreter.alphabet user
        (some globalGroups) = .ok true then
    some (namedAs interpreter user (.tokenCount entry.2) share)
  else none

def nameableEditor (totalRevisions : Int) (entry : Int × Nat) : Option Contributor := do
  let user ← known entry.1
  let share ← interpreter.divide entry.2 totalRevisions
  if 0 < totalRevisions ∧
      shouldHighlightContributor interpreter.unicode interpreter.alphabet user
        (some globalGroups) = .ok true then
    some (namedAs interpreter user (.editCount entry.2) share)
  else none

end Nameable

def resolvingAll (settings : Settings) (entries : Nat) : Settings :=
  { settings with candidatePoolSize := entries }

section Selections

variable {interpreter : Interpreter} {settings : Settings} {users : Users}
  {known : Int → Option ResolvedUser} {globalGroups : GlobalGroupLookup}
  {contributor : Contributor} {named : List Contributor}

theorem nameableToken_eq_some {totalTokens : Int} {entry : String × Nat} :
    nameableToken interpreter settings known globalGroups totalTokens entry =
        some contributor ↔
      0 < totalTokens ∧ ∃ userId user share,
        candidateUserId interpreter.unicode entry = .ok (some userId) ∧
        known userId = some user ∧
        interpreter.divide entry.2 totalTokens = some share ∧
        settings.minimumTokens ≤ entry.2 ∧ settings.minimumShare ≤ share ∧
        shouldHighlightContributor interpreter.unicode interpreter.alphabet user
          (some globalGroups) = .ok true ∧
        contributor = namedAs interpreter user (.tokenCount entry.2) share := by
  simp only [nameableToken, Option.bind_eq_bind, Option.bind_eq_some_iff, madeOf_eq_some,
    Option.ite_none_right_eq_some, Option.some.injEq]
  constructor
  · rintro ⟨userId, candidate, user, resolved, share, measured, ⟨positive, enough, significant,
      judged⟩, rfl⟩
    exact ⟨positive, userId, user, share, candidate, resolved, measured, enough, significant,
      judged, rfl⟩
  · rintro ⟨positive, userId, user, share, candidate, resolved, measured, enough, significant,
      judged, rfl⟩
    exact ⟨userId, candidate, user, resolved, share, measured, ⟨positive, enough, significant,
      judged⟩, rfl⟩

theorem nameableEditor_eq_some {totalRevisions : Int} {entry : Int × Nat} :
    nameableEditor interpreter known globalGroups totalRevisions entry = some contributor ↔
      0 < totalRevisions ∧ ∃ user share, known entry.1 = some user ∧
        interpreter.divide entry.2 totalRevisions = some share ∧
        shouldHighlightContributor interpreter.unicode interpreter.alphabet user
          (some globalGroups) = .ok true ∧
        contributor = namedAs interpreter user (.editCount entry.2) share := by
  simp only [nameableEditor, Option.bind_eq_bind, Option.bind_eq_some_iff,
    Option.ite_none_right_eq_some, Option.some.injEq]
  constructor
  · rintro ⟨user, resolved, share, measured, ⟨positive, judged⟩, rfl⟩
    exact ⟨positive, user, share, resolved, measured, judged, rfl⟩
  · rintro ⟨positive, user, share, resolved, measured, judged, rfl⟩
    exact ⟨user, resolved, share, measured, ⟨positive, judged⟩, rfl⟩

theorem selectContributors_eq_take {counts : Counter String} {totalTokens : Int}
    (same : ∀ entry ∈ counts.mostCommon, ∀ userId,
      candidateUserId interpreter.unicode entry = .ok (some userId) →
        userOf users userId = known userId)
    (ranked : selectContributors interpreter settings counts totalTokens users
      (some globalGroups) nameLimit = .ok named) :
    named = (counts.mostCommon.filterMap
      (nameableToken interpreter settings known globalGroups totalTokens)).take nameLimit := by
  refine collect_eq_filterMap (by decide) ranked ?_
  intro entry member contributor
  rw [tokenContributor_eq_some, nameableToken_eq_some]
  refine and_congr_right fun _ => ?_
  constructor
  · rintro ⟨userId, user, share, candidate, resolved, rest⟩
    exact ⟨userId, user, share, candidate, (same entry member userId candidate).trans resolved,
      rest⟩
  · rintro ⟨userId, user, share, candidate, resolved, rest⟩
    exact ⟨userId, user, share, candidate, (same entry member userId candidate) ▸ resolved, rest⟩

theorem selectTopEditors_eq_take {counts : Counter Int} {totalRevisions : Int}
    (same : ∀ entry ∈ counts.mostCommon, userOf users entry.1 = known entry.1)
    (ranked : selectTopEditors interpreter counts totalRevisions users (some globalGroups)
      nameLimit = .ok named) :
    named = (counts.mostCommon.filterMap
      (nameableEditor interpreter known globalGroups totalRevisions)).take nameLimit := by
  refine collect_eq_filterMap (by decide) ranked ?_
  intro entry member contributor
  rw [topEditor_eq_some, nameableEditor_eq_some, same entry member]

theorem selectContributors_follow {counts : Counter String} {totalTokens : Int} {fewer : Users}
    (fewer_users : ∀ userId, userOf fewer userId = userOf users userId ∨
      userOf fewer userId = none)
    (kept : ∀ contributor ∈ named, ∃ userId, contributor.userId = some userId ∧
      userOf fewer userId = userOf users userId)
    (own : ∀ userId user, userOf users userId = some user → user.userId = userId)
    (ranked : selectContributors interpreter settings counts totalTokens users
      (some globalGroups) nameLimit = .ok named) :
    selectContributors interpreter settings counts totalTokens fewer (some globalGroups)
      nameLimit = .ok named := by
  unfold selectContributors at ranked ⊢
  split at ranked
  · rename_i empty
    rw [if_pos empty]
    exact ranked
  · rename_i filled
    rw [if_neg filled]
    refine collect_follow (by decide) ranked ?_ ?_
    · intro entry _ skipped
      exact tokenContributor_skipped (fun userId _ => fewer_users userId) skipped
    · intro entry _ contributor member made
      rw [tokenContributor_eq_some] at made ⊢
      obtain ⟨userId, user, share, candidate, resolved, measured, enough, significant, judged,
        rfl⟩ := made
      obtain ⟨account, isAccount, same⟩ := kept _ member
      have account_eq : userId = account :=
        (own userId user resolved).symm.trans (Option.some.inj isAccount)
      subst account_eq
      exact ⟨userId, user, share, candidate, same.trans resolved, measured, enough, significant,
        judged, rfl⟩

theorem selectTopEditors_follow {counts : Counter Int} {totalRevisions : Int} {fewer : Users}
    (fewer_users : ∀ userId, userOf fewer userId = userOf users userId ∨
      userOf fewer userId = none)
    (kept : ∀ contributor ∈ named, ∃ userId, contributor.userId = some userId ∧
      userOf fewer userId = userOf users userId)
    (own : ∀ userId user, userOf users userId = some user → user.userId = userId)
    (ranked : selectTopEditors interpreter counts totalRevisions users (some globalGroups)
      nameLimit = .ok named) :
    selectTopEditors interpreter counts totalRevisions fewer (some globalGroups) nameLimit =
      .ok named := by
  unfold selectTopEditors at ranked ⊢
  split at ranked
  · rename_i empty
    rw [if_pos empty]
    exact ranked
  · rename_i filled
    rw [if_neg filled]
    refine collect_follow (by decide) ranked ?_ ?_
    · intro entry _ skipped
      exact topEditor_skipped (fewer_users entry.1) skipped
    · intro entry _ contributor member made
      rw [topEditor_eq_some] at made ⊢
      obtain ⟨user, share, resolved, measured, judged, rfl⟩ := made
      obtain ⟨account, isAccount, same⟩ := kept _ member
      have account_eq : entry.1 = account :=
        (own entry.1 user resolved).symm.trans (Option.some.inj isAccount)
      subst account_eq
      exact ⟨user, share, same.trans resolved, measured, judged, rfl⟩

end Selections

/-- What a pool does to a ranking: it names the first it may name of the pool, where without
a pool it would name the first of all, and these are the same exactly where the pool holds
each account it would name. -/
structure PoolCut (pooled whole : Except Exn (List Contributor)) (pool : List Int)
    (inPool everywhere : List Contributor) : Prop where
  first_inPool : ∀ named, pooled = .ok named → named = inPool.take nameLimit
  first_everywhere : ∀ named, whole = .ok named → named = everywhere.take nameLimit
  same_iff : ∀ named, whole = .ok named →
    (pooled = .ok named ↔ ∀ contributor ∈ named, ∃ userId ∈ pool,
      contributor.userId = some userId)

section Cut

variable {interpreter : Interpreter} {settings : Settings} {upstream : Upstream}
  {lease : WorkLease} {directory : Directory} {pool every : List Int} {users everyone : Users}

theorem upTo_sublist {Item : Type} (limit : Int) (items : List Item) :
    (upTo limit items).Sublist items := by
  unfold upTo
  split <;> exact List.take_sublist _ _

theorem candidateUserIds_ok {counts : Counter String} {limit : Int}
    (cut : candidateUserIds interpreter.unicode counts limit = .ok pool) :
    ∃ every, candidateUserIds interpreter.unicode counts counts.rows.length = .ok every ∧
      pool ⊆ every ∧ ∀ userId, userId ∈ every ↔ ∃ entry ∈ counts.mostCommon,
        candidateUserId interpreter.unicode entry = .ok (some userId) := by
  obtain ⟨every, listed, rfl⟩ := map_eq_ok.mp cut
  obtain ⟨short, members⟩ := mem_filterMapM listed
  refine ⟨every, ?_, (upTo_sublist limit every).subset, members⟩
  have size : every.length ≤ counts.rows.length := by
    rwa [Counter.mostCommon, List.length_mergeSort] at short
  rw [candidateUserIds, listed]
  simp only [Except.map, upTo_nonneg (Int.natCast_nonneg _), Int.toNat_natCast,
    List.take_of_length_le size]

theorem pool_users {rung : Rung} (subset : pool ⊆ every)
    (inPool : ∀ userId, userOf users userId =
      if userId ∈ pool then directory rung userId else none)
    (everywhere : ∀ userId, userOf everyone userId =
      if userId ∈ every then directory rung userId else none) (userId : Int) :
    (userOf users userId = userOf everyone userId ∨ userOf users userId = none) ∧
      (userId ∈ pool → userOf users userId = userOf everyone userId) := by
  rw [inPool, everywhere]
  by_cases member : userId ∈ pool
  · simp [member, subset member]
  · simp [member]

theorem own_user {rung : Rung} (answers : upstream.Resolves lease.wiki directory)
    (known : ∀ userId, userOf users userId =
      if userId ∈ pool then directory rung userId else none)
    {userId : Int} {user : ResolvedUser} (resolved : userOf users userId = some user) :
    userId ∈ pool ∧ user.userId = userId := by
  rw [known] at resolved
  split at resolved
  · rename_i member
    exact ⟨member, answers.own rung userId user resolved⟩
  · cases resolved

/-- What a pool does to a selection that only names accounts it knows, and that names the same
from fewer accounts as long as those it names are among them. -/
theorem poolCut_of {rung : Rung} (select : Users → Except Exn (List Contributor))
    {inPoolNames everywhereNames : List Contributor}
    (answers : upstream.Resolves lease.wiki directory) (subset : pool ⊆ every)
    (inPool : ∀ userId, userOf users userId =
      if userId ∈ pool then directory rung userId else none)
    (everywhere : ∀ userId, userOf everyone userId =
      if userId ∈ every then directory rung userId else none)
    (first_inPool : ∀ named, select users = .ok named → named = inPoolNames.take nameLimit)
    (first_everywhere : ∀ named, select everyone = .ok named →
      named = everywhereNames.take nameLimit)
    (known : ∀ named, select users = .ok named → ∀ contributor ∈ named,
      ∃ userId user, userOf users userId = some user ∧ contributor.userId = some user.userId)
    (follows : ∀ named, (∀ userId, userOf users userId = userOf everyone userId ∨
        userOf users userId = none) →
      (∀ contributor ∈ named, ∃ userId, contributor.userId = some userId ∧
        userOf users userId = userOf everyone userId) →
      (∀ userId user, userOf everyone userId = some user → user.userId = userId) →
      select everyone = .ok named → select users = .ok named) :
    PoolCut (select users) (select everyone) pool inPoolNames everywhereNames := by
  have compared := @pool_users directory pool every users everyone rung subset inPool everywhere
  refine ⟨first_inPool, first_everywhere, ?_⟩
  intro named ranked
  constructor
  · intro same contributor member
    obtain ⟨userId, user, resolved, account⟩ := known named same contributor member
    obtain ⟨inside, own⟩ := own_user answers inPool resolved
    exact ⟨userId, inside, by rw [account, own]⟩
  · intro held
    refine follows named (fun userId => (compared userId).1) ?_ ?_ ranked
    · intro contributor member
      obtain ⟨userId, inside, account⟩ := held contributor member
      exact ⟨userId, account, (compared userId).2 inside⟩
    · intro userId user resolved
      exact (own_user answers everywhere resolved).2

theorem tokens_cut (answers : upstream.Resolves lease.wiki directory) {tokens : List Token}
    (fetched : upstream.fetchRevision lease.wiki lease.revisionId = .ok tokens)
    {counts : Counter String} {totalTokens : Nat}
    (counted : countTokens interpreter.unicode tokens = (counts, totalTokens))
    (cut : candidateUserIds interpreter.unicode counts settings.candidatePoolSize = .ok pool) :
    PoolCut (rankTokens interpreter settings upstream lease).1
      (rankTokens interpreter (resolvingAll settings counts.rows.length) upstream lease).1 pool
      (counts.mostCommon.filterMap (nameableToken interpreter settings
        (within pool (directory .tokens)) (upstream.globalGroups .tokens lease.wiki) totalTokens))
      (counts.mostCommon.filterMap (nameableToken interpreter settings (directory .tokens)
        (upstream.globalGroups .tokens lease.wiki) totalTokens)) := by
  obtain ⟨every, listed, subset, members⟩ := candidateUserIds_ok cut
  obtain ⟨users, asked, inPool⟩ := answers.resolved .tokens pool
  obtain ⟨everyone, askedAll, everywhere⟩ := answers.resolved .tokens every
  have pooled : (rankTokens interpreter settings upstream lease).1 =
      selectContributors interpreter settings counts totalTokens users
        (some (upstream.globalGroups .tokens lease.wiki)) nameLimit := by
    simp only [rankTokens, fetched, counted, cut, asked, bind, Except.bind]
  have whole : (rankTokens interpreter (resolvingAll settings counts.rows.length) upstream
      lease).1 = selectContributors interpreter settings counts totalTokens everyone
        (some (upstream.globalGroups .tokens lease.wiki)) nameLimit := by
    have size : (resolvingAll settings counts.rows.length).candidatePoolSize =
        counts.rows.length := rfl
    simp only [rankTokens, fetched, counted, size, listed, askedAll, bind, Except.bind]
    rfl
  rw [pooled, whole]
  apply poolCut_of (fun known => selectContributors interpreter settings counts totalTokens known
    (some (upstream.globalGroups .tokens lease.wiki)) nameLimit) answers subset inPool everywhere
  · intro named ranked
    exact selectContributors_eq_take (fun _ _ userId _ => inPool userId) ranked
  · intro named ranked
    refine selectContributors_eq_take ?_ ranked
    intro entry member userId candidate
    rw [everywhere, if_pos ((members userId).mpr ⟨entry, member, candidate⟩)]
  · intro named same contributor member
    obtain ⟨user, _, _, _, chosen⟩ := mem_selectContributors same member
    obtain ⟨userId, _, resolved⟩ := chosen.resolved
    exact ⟨userId, user, resolved, by rw [chosen.named]; rfl⟩
  · intro named fewer kept own ranked
    exact selectContributors_follow fewer kept own ranked

theorem edits_cut (answers : upstream.Resolves lease.wiki directory) {history : EditorHistory}
    (read : upstream.getEditorHistory lease.wiki lease.pageId settings.topEditorMaxRevisions =
      .ok history) (complete : history.complete = true)
    (cut : pool = (history.counts.mostCommon.take settings.candidatePoolSize.toNat).map
      Prod.fst) :
    PoolCut (rankEdits interpreter settings upstream lease)
      (rankEdits interpreter (resolvingAll settings history.counts.rows.length) upstream lease)
      pool
      (history.counts.mostCommon.filterMap (nameableEditor interpreter
        (within pool (directory .edits)) (upstream.globalGroups .edits lease.wiki)
        history.revisions))
      (history.counts.mostCommon.filterMap (nameableEditor interpreter (directory .edits)
        (upstream.globalGroups .edits lease.wiki) history.revisions)) := by
  obtain ⟨users, asked, inPool⟩ := answers.resolved .edits pool
  obtain ⟨everyone, askedAll, everywhere⟩ :=
    answers.resolved .edits (history.counts.mostCommon.map Prod.fst)
  have subset : pool ⊆ history.counts.mostCommon.map Prod.fst := by
    rw [cut]
    exact ((List.take_sublist _ _).map _).subset
  have pooled : rankEdits interpreter settings upstream lease =
      selectTopEditors interpreter history.counts history.revisions users
        (some (upstream.globalGroups .edits lease.wiki)) nameLimit := by
    simp only [rankEdits, read, complete, ← cut, asked, bind, Except.bind, if_true]
  have whole : rankEdits interpreter (resolvingAll settings history.counts.rows.length) upstream
      lease = selectTopEditors interpreter history.counts history.revisions everyone
        (some (upstream.globalGroups .edits lease.wiki)) nameLimit := by
    have budget : (resolvingAll settings history.counts.rows.length).topEditorMaxRevisions =
        settings.topEditorMaxRevisions := rfl
    have size : (resolvingAll settings history.counts.rows.length).candidatePoolSize.toNat =
        history.counts.mostCommon.length := by
      rw [Counter.mostCommon, List.length_mergeSort]
      rfl
    simp only [rankEdits, budget, read, complete, size, List.take_length, askedAll, bind,
      Except.bind, if_true]
  rw [pooled, whole]
  apply poolCut_of (fun known => selectTopEditors interpreter history.counts history.revisions
    known (some (upstream.globalGroups .edits lease.wiki)) nameLimit) answers subset inPool
    everywhere
  · intro named ranked
    exact selectTopEditors_eq_take (fun entry _ => inPool entry.1) ranked
  · intro named ranked
    refine selectTopEditors_eq_take ?_ ranked
    intro entry member
    rw [everywhere, if_pos (List.mem_map_of_mem member)]
  · intro named same contributor member
    obtain ⟨user, userId, _, _, chosen⟩ := mem_selectTopEditors same member
    exact ⟨userId, user, chosen.resolved, by rw [chosen.named]; rfl⟩
  · intro named fewer kept own ranked
    exact selectTopEditors_follow fewer kept own ranked

end Cut

/-- On both rungs the worker names the first accounts it may name of the pool. They are those
it would name if every registered editor were resolved exactly where the pool holds each of
these. -/
theorem pool_names (interpreter : Interpreter) (settings : Settings) (upstream : Upstream)
    (lease : WorkLease) (directory : Directory)
    (answers : upstream.Resolves lease.wiki directory) :
    (∀ tokens counts totalTokens pool,
      upstream.fetchRevision lease.wiki lease.revisionId = .ok tokens →
      countTokens interpreter.unicode tokens = (counts, totalTokens) →
      candidateUserIds interpreter.unicode counts settings.candidatePoolSize = .ok pool →
        PoolCut (rankTokens interpreter settings upstream lease).1
          (rankTokens interpreter (resolvingAll settings counts.rows.length) upstream lease).1
          pool
          (counts.mostCommon.filterMap (nameableToken interpreter settings
            (within pool (directory .tokens)) (upstream.globalGroups .tokens lease.wiki)
            totalTokens))
          (counts.mostCommon.filterMap (nameableToken interpreter settings (directory .tokens)
            (upstream.globalGroups .tokens lease.wiki) totalTokens))) ∧
      ∀ history pool,
        upstream.getEditorHistory lease.wiki lease.pageId settings.topEditorMaxRevisions =
          .ok history →
        history.complete = true →
        pool = (history.counts.mostCommon.take settings.candidatePoolSize.toNat).map Prod.fst →
          PoolCut (rankEdits interpreter settings upstream lease)
            (rankEdits interpreter (resolvingAll settings history.counts.rows.length) upstream
              lease) pool
            (history.counts.mostCommon.filterMap (nameableEditor interpreter
              (within pool (directory .edits)) (upstream.globalGroups .edits lease.wiki)
              history.revisions))
            (history.counts.mostCommon.filterMap (nameableEditor interpreter (directory .edits)
              (upstream.globalGroups .edits lease.wiki) history.revisions)) := by
  constructor
  · intro tokens counts totalTokens pool fetched counted cut
    exact tokens_cut answers fetched counted cut
  · intro history pool read complete cut
    exact edits_cut answers read complete cut

def stubHistory : EditorHistory where
  counts := (((Table.empty.put (1, 5)).put (2, 4)).put (3, 3)).put (4, 2)
  revisions := 14
  complete := true

def stubUser (userId : Int) : ResolvedUser where
  userId := userId
  username := if userId < 4 then "Interwiki" else "Ada"
  groups := if userId < 4 then ["bot"] else []
  missing := false

def stubUsers (userIds : List Int) : Users :=
  userIds.foldl (fun users userId => users.put (userId, stubUser userId)) Table.empty

def stubUpstream : Upstream where
  getPage := fun _ _ => .ok (articlePage 10)
  fetchRevision := fun _ _ => .error (.known .permanentData "no tokens")
  resolveUsers := fun _ _ userIds => .ok (stubUsers userIds)
  globalGroups := fun _ _ _ => .ok []
  getEditorHistory := fun _ _ _ => .ok stubHistory
  getEditorCount := fun _ _ => .ok ⟨4, false⟩
  getBotContributorCount := fun _ _ => .ok 3

def stubLease : WorkLease where
  toIdentity := articleKey 10
  id := 1
  priority := 0
  attempts := 1

def poolOfThree : Settings := { fromEnv with candidatePoolSize := 3 }

theorem userOf_stubUsers (userIds : List Int) (userId : Int) :
    userOf (stubUsers userIds) userId =
      if userId ∈ userIds then some (stubUser userId) else none := by
  have found : ∀ users : Users,
      userOf (userIds.foldl (fun users other => users.put (other, stubUser other)) users) userId =
        if userId ∈ userIds then some (stubUser userId) else userOf users userId := by
    induction userIds with
    | nil => intro users; rfl
    | cons first rest ih =>
        intro users
        rw [List.foldl_cons, ih]
        by_cases later : userId ∈ rest
        · simp [later]
        · by_cases same : first = userId
          · subst same
            simp [later, userOf, Table.find_put, Keyed.key]
          · simp [later, userOf, Table.find_put, Keyed.key, same, Ne.symm same]
  exact found Table.empty

theorem stub_resolves :
    stubUpstream.Resolves stubLease.wiki (fun _ userId => some (stubUser userId)) := by
  refine ⟨?_, ?_⟩
  · intro rung userIds
    exact ⟨stubUsers userIds, rfl, userOf_stubUsers userIds⟩
  · intro rung userId user known
    cases known
    rfl

theorem stub_rankEdits (settings : Settings) :
    rankEdits plainInterpreter settings stubUpstream stubLease =
      collect nameLimit (topEditor plainInterpreter 14
        (stubUsers (([1, 2, 3, 4] : List Int).take settings.candidatePoolSize.toNat))
        (some fun _ => .ok [])) []
        [(1, 5), (2, 4), (3, 3), (4, 2)] := by
  have sorted : stubHistory.counts.mostCommon = [(1, 5), (2, 4), (3, 3), (4, 2)] :=
    List.mergeSort_of_pairwise (by decide)
  have read : stubUpstream.getEditorHistory stubLease.wiki stubLease.pageId
      settings.topEditorMaxRevisions = .ok stubHistory := rfl
  simp only [rankEdits, read, selectTopEditors, sorted, bind, Except.bind, List.map_take]
  rfl

/-- The bots fill a pool of three and nobody is named; of all the editors Ada is. -/
theorem pool_hides_editor :
    (rankEdits plainInterpreter poolOfThree stubUpstream stubLease).toOption.map
        (fun named => named.map Contributor.userId) = some [] ∧
      (rankEdits plainInterpreter (resolvingAll poolOfThree stubHistory.counts.rows.length)
        stubUpstream stubLease).toOption.map (fun named => named.map Contributor.userId) =
          some [some 4] := by
  rw [stub_rankEdits, stub_rankEdits]
  decide +kernel

theorem pool_names_stub :
    PoolCut (rankEdits plainInterpreter poolOfThree stubUpstream stubLease)
      (rankEdits plainInterpreter (resolvingAll poolOfThree stubHistory.counts.rows.length)
        stubUpstream stubLease)
      ((stubHistory.counts.mostCommon.take 3).map Prod.fst)
      (stubHistory.counts.mostCommon.filterMap (nameableEditor plainInterpreter
        (within ((stubHistory.counts.mostCommon.take 3).map Prod.fst)
          (fun userId => some (stubUser userId))) (fun _ => .ok []) 14))
      (stubHistory.counts.mostCommon.filterMap (nameableEditor plainInterpreter
        (fun userId => some (stubUser userId)) (fun _ => .ok []) 14)) :=
  (pool_names plainInterpreter poolOfThree stubUpstream stubLease _ stub_resolves).2
    stubHistory _ rfl rfl rfl

end WikiPeople
