import WikiPeople.CategoryListing

/-! A page's history as it is counted: its flag says that it was read whole, which is not that
it fits the budget. -/

namespace WikiPeople

open Relational Paging

/-- A revision; one of an unregistered or suppressed author names no account. -/
structure Edit where
  revisionId : Int
  userId : Option Int
  deriving DecidableEq, Repr

def Edit.account (edit : Edit) : Option Int := edit.userId.filter (fun userId => 0 < userId)

def editJson (edit : Edit) : Json :=
  .obj (("revid", .int edit.revisionId) ::
    (edit.userId.map (fun userId => ("userid", Json.int userId))).toList)

/-- A page without revisions in an answer has no such field. -/
def historyQuery (pageId : Int) (batch : List Edit) : Json :=
  .obj [("pages", .arr [.obj (("pageid", .int pageId) ::
    if batch.isEmpty then [] else [("revisions", .arr (batch.map editJson))])])]

structure Divides (batches : List (List Edit)) (edits : List Edit) : Prop where
  whole : batches.flatten = edits
  filled : ∀ batch ∈ batches, batch ≠ []

/-- A history without revisions is answered all the same. -/
def answeredBatches : List (List Edit) → List (List Edit)
  | [] => [[]]
  | batches => batches

def accountsOf (edits : List Edit) : List Int := edits.filterMap Edit.account

/-- The history is counted whole, and each account exactly as often as it edited. -/
structure CountedWhole (edits : List Edit) (history : EditorHistory) : Prop where
  revisions : history.revisions = edits.length
  counts : ∀ userId count, (userId, count) ∈ history.counts.rows ↔ 0 < count ∧
    count = (edits.filter (fun edit => edit.account = some userId)).length

structure RankedOnlyWithin (edits : List Edit) (maxRevisions : Int) (history : EditorHistory) :
    Prop where
  fits : history.complete = true ↔ (edits.length : Int) ≤ maxRevisions
  whole : history.complete = true → CountedWhole edits history

section Reading

variable {session : Session} {readText : String → Option Int} {wiki code : String}
  {pageId maxRevisions : Int} {continuations : Nat → List (String × String)}
  {batches rest : List (List Edit)} {batch seen edits : List Edit}

def walkOver (seen : List Edit) (continuation : Json) : HistoryWalk :=
  ⟨(accountsOf seen).foldl Counter.tally .empty, seen.length, continuation⟩

theorem revisionUser_edit (edit : Edit) :
    revisionUser readText (editJson edit) = .ok (edit.userId.getD 0) := by
  obtain ⟨revisionId, userId⟩ := edit
  cases userId with
  | none => rfl
  | some userId =>
      by_cases zero : userId = 0
      · subst zero
        rfl
      · have truthy : (Json.int userId).truthy = true := by simp [Json.truthy, zero]
        change (if (Json.int userId).truthy then asInt readText (.int userId) else .ok 0) = _
        rw [if_pos truthy]
        rfl

theorem filter_users (batch : List Edit) :
    (batch.map (fun edit => edit.userId.getD 0)).filter (fun userId => 0 < userId) =
      accountsOf batch := by
  induction batch with
  | nil => rfl
  | cons edit batch ih =>
      rw [List.map_cons, List.filter_cons, ih, accountsOf, accountsOf, List.filterMap_cons,
        Edit.account]
      cases edit.userId with
      | none => rfl
      | some userId => by_cases positive : 0 < userId <;> simp [positive, Option.filter]

theorem foldlM_edits (tally : Counter Int × Nat) (batch : List Edit) :
    (batch.map editJson).foldlM (tallyRevision readText) tally =
      .ok ((accountsOf batch).foldl Counter.tally tally.1, tally.2 + batch.length) := by
  have users : (batch.map editJson).mapM (revisionUser readText) =
      .ok (batch.map (fun edit => edit.userId.getD 0)) := by
    rw [List.mapM_map]
    exact mapM_ok (fun edit _ => revisionUser_edit edit)
  rw [foldlM_tally, users, Except.map, filter_users, List.length_map]

theorem readRevisions_page (tally : Counter Int × Nat) (batch : List Edit) :
    readRevisions readText (.obj (("pageid", .int pageId) ::
        if batch.isEmpty then [] else [("revisions", .arr (batch.map editJson))])) tally =
      .ok ((accountsOf batch).foldl Counter.tally tally.1, tally.2 + batch.length) := by
  cases batch with
  | nil => rfl
  | cons edit batch => exact foldlM_edits tally (edit :: batch)

theorem pages_listing (batch : List Edit) (continuation : Option (List (String × String))) :
    (listingJson (historyQuery pageId batch) continuation).getPath ["query", "pages"] (.arr []) =
      .ok (.arr [.obj (("pageid", .int pageId) ::
        if batch.isEmpty then [] else [("revisions", .arr (batch.map editJson))])]) := by
  cases continuation <;> rfl

theorem walkOver_append (seen batch : List Edit) (continuation : Json) :
    walkOver (seen ++ batch) continuation =
      ⟨(accountsOf batch).foldl Counter.tally ((accountsOf seen).foldl Counter.tally .empty),
        seen.length + batch.length, continuation⟩ := by
  rw [walkOver, accountsOf, List.filterMap_append, List.foldl_append, List.length_append]
  rfl

variable (readText) in
theorem historyStep_served
    (served : session.Serves code (historyParams pageId) continuations
      (batches.map (historyQuery pageId)))
    (known : host session.languages wiki = .ok code) {place : Nat}
    (present : batches[place]? = some batch) (asks : (seen.length : Int) < maxRevisions) :
    historyStep session readText wiki pageId maxRevisions place
        (walkOver seen (continuationAt continuations place)) =
      if place + 1 < batches.length then
        .ask (walkOver (seen ++ batch) (continuationAt continuations (place + 1)))
      else .done (.ok ⟨(accountsOf (seen ++ batch)).foldl Counter.tally .empty,
        (seen ++ batch).length, true⟩) := by
  have query : (batches.map (historyQuery pageId))[place]? = some (historyQuery pageId batch) := by
    rw [List.getElem?_map, present, Option.map_some]
  have answer := ask_served served known query
  rw [List.length_map] at answer
  have grown := walkOver_append seen batch
  have still : ¬ maxRevisions ≤ (walkOver seen (continuationAt continuations place)).revisions :=
    not_le.mpr asks
  rw [historyStep, if_neg still]
  simp only [walkOver, answer, pages_listing, Except.mapError, bind, Except.bind,
    Json.truthy_cons, Json.getFirst_cons, readRevisions_page, continuationOf_listing, Bool.not_true,
    Bool.false_eq_true, if_false]
  split
  · rw [Option.elim_some, if_pos (continuationJson_truthy (served.filled place))]
    exact congrArg Step.ask (grown _).symm
  · have same := grown (.obj [])
    obtain ⟨counts, revisions, _⟩ := HistoryWalk.mk.inj same
    rw [counts, revisions]
    rfl

theorem historyStep_spent {place : Nat} {walk : HistoryWalk}
    (spent : maxRevisions ≤ walk.revisions) :
    historyStep session readText wiki pageId maxRevisions place walk =
      .done (.ok ⟨walk.counts, walk.revisions, false⟩) :=
  if_pos spent

/-- The walk reads the history whole exactly where the parts before the last leave something
of the budget. The induction is on the parts that are left. -/
theorem historyStep_returns
    (served : session.Serves code (historyParams pageId) continuations
      (batches.map (historyQuery pageId)))
    (known : host session.languages wiki = .ok code) {before : List (List Edit)}
    (split : batches = before ++ batch :: rest)
    (asks : (before.flatten.length : Int) < maxRevisions) :
    ∃ history, Returns (historyStep session readText wiki pageId maxRevisions) before.length
        (walkOver before.flatten (continuationAt continuations before.length)) (.ok history) ∧
      (history.complete = true ↔ (batches.dropLast.flatten.length : Int) < maxRevisions) ∧
      (history.complete = true → history =
        ⟨(accountsOf batches.flatten).foldl Counter.tally .empty, batches.flatten.length,
          true⟩) := by
  have present : batches[before.length]? = some batch := by simp [split]
  have pass := historyStep_served readText served known present asks
  induction rest generalizing before batch with
  | nil =>
      have last : ¬ before.length + 1 < batches.length := by simp [split]
      have all : before.flatten ++ batch = batches.flatten := by simp [split]
      have earlier : batches.dropLast = before := by simp [split]
      rw [if_neg last] at pass
      refine ⟨_, (returns_done pass).mpr rfl, ?_, ?_⟩
      · rw [earlier]
        exact iff_of_true rfl asks
      · intro _
        rw [all]
  | cons next rest ih =>
      have more : before.length + 1 < batches.length := by simp [split]
      have moved : batches = (before ++ [batch]) ++ next :: rest := by simp [split]
      have flat : before.flatten ++ batch = (before ++ [batch]).flatten := by simp
      have size : before.length + 1 = (before ++ [batch]).length := by simp
      rw [if_pos more, flat, size] at pass
      by_cases still : ((before ++ [batch]).flatten.length : Int) < maxRevisions
      · have later : batches[(before ++ [batch]).length]? = some next := by simp [moved]
        obtain ⟨history, returned, rest⟩ := ih moved still later
          (historyStep_served readText served known later still)
        exact ⟨history, (returns_ask pass).mpr (size ▸ returned), rest⟩
      · -- The budget is spent and a part is left.
        have spent : maxRevisions ≤ (batches.dropLast.flatten.length : Int) := by
          have part := congrArg List.length
            (@List.flatten_append _ (before ++ [batch]) (next :: rest).dropLast)
          rw [List.length_append] at part
          rw [moved, List.dropLast_append_cons, part]
          omega
        refine ⟨⟨(accountsOf (before ++ [batch]).flatten).foldl Counter.tally .empty,
          (before ++ [batch]).flatten.length, false⟩, ?_, ?_, ?_⟩
        · rw [returns_ask pass, size]
          exact (returns_done (historyStep_spent (not_lt.mp still))).mpr rfl
        · exact iff_of_false (by simp) (not_lt.mpr spent)
        · intro whole
          cases whole

theorem count_accountsOf (edits : List Edit) (userId : Int) :
    (accountsOf edits).count userId =
      (edits.filter (fun edit => edit.account = some userId)).length := by
  induction edits with
  | nil => rfl
  | cons edit edits ih =>
      rw [accountsOf, List.filterMap_cons, List.filter_cons, ← accountsOf]
      cases named : edit.account with
      | none => simpa using ih
      | some other =>
          dsimp only
          rw [List.count_cons, ih]
          by_cases same : other = userId <;> simp [same]

theorem countedWhole_walk (edits : List Edit) :
    CountedWhole edits ⟨(accountsOf edits).foldl Counter.tally .empty, edits.length, true⟩ := by
  have counts := Counter.counts_foldl Counter.counts_empty (accountsOf edits)
  refine ⟨rfl, ?_⟩
  intro userId count
  rw [counts, List.nil_append, count_accountsOf]

theorem before_last_lt (filled : ∀ part ∈ batches, part ≠ []) (positive : 1 ≤ maxRevisions)
    (within : (batches.flatten.length : Int) ≤ maxRevisions) :
    (batches.dropLast.flatten.length : Int) < maxRevisions := by
  rcases List.eq_nil_or_concat batches with rfl | ⟨earlier, last, rfl⟩
  · exact Int.lt_of_lt_of_le (by decide) positive
  · have some := List.length_pos_iff.mpr (filled last (by simp))
    rw [List.concat_eq_append] at within ⊢
    rw [List.flatten_append, List.flatten_singleton, List.length_append] at within
    rw [List.dropLast_concat]
    omega

end Reading

/-- The flag of a history says that it fits the budget exactly where it does, or the budget is
spent before its last part. -/
theorem ranked_within_iff (session : Session) (readText : String → Option Int)
    (wiki code : String) (pageId maxRevisions : Int) (edits : List Edit)
    (batches : List (List Edit)) (continuations : Nat → List (String × String))
    (known : host session.languages wiki = .ok code) (positive : 1 ≤ maxRevisions)
    (divides : Divides batches edits)
    (served : session.Serves code (historyParams pageId) continuations
      ((answeredBatches batches).map (historyQuery pageId))) :
    ∃ passes history,
      getEditorHistory session readText wiki pageId maxRevisions passes = some (.ok history) ∧
      (RankedOnlyWithin edits maxRevisions history ↔
        (edits.length : Int) ≤ maxRevisions ∨
          maxRevisions ≤ (batches.dropLast.flatten.length : Int)) := by
  obtain ⟨rfl, filled⟩ := divides
  obtain ⟨batch, rest, answered⟩ : ∃ batch rest, answeredBatches batches = batch :: rest := by
    cases batches with
    | nil => exact ⟨[], [], rfl⟩
    | cons batch rest => exact ⟨batch, rest, rfl⟩
  have whole : (answeredBatches batches).flatten = batches.flatten ∧
      (answeredBatches batches).dropLast = batches.dropLast := by
    cases batches <;> exact ⟨rfl, rfl⟩
  obtain ⟨history, ⟨passes, returned⟩, complete, counted⟩ := @historyStep_returns session readText
    wiki code pageId maxRevisions continuations (answeredBatches batches) rest batch served known
    [] answered (Int.lt_of_lt_of_le (by decide) positive)
  rw [whole.1] at counted
  rw [whole.2] at complete
  refine ⟨passes, history, returned, ?_⟩
  constructor
  · rintro ⟨fits, _⟩
    rw [complete] at fits
    by_cases within : (batches.flatten.length : Int) ≤ maxRevisions
    · exact Or.inl within
    · exact Or.inr (not_lt.mp (mt fits.mp within))
  · intro either
    refine ⟨?_, ?_⟩
    · rw [complete]
      refine ⟨fun left => ?_, before_last_lt filled positive⟩
      exact either.resolve_right (not_le.mpr left)
    · intro read
      rw [counted read]
      exact countedWhole_walk _

def threeEdits : List Edit := [⟨12, some 7⟩, ⟨11, none⟩, ⟨10, some 7⟩]

def editBatches : List (List Edit) := [threeEdits.take 2, threeEdits.drop 2]

theorem ranked_within_three :
    ∃ passes history,
      getEditorHistory (servedInOrder (editBatches.map (historyQuery 1))) (fun _ => none) "frwiki"
        1 3 passes = some (.ok history) ∧ RankedOnlyWithin threeEdits 3 history := by
  obtain ⟨passes, history, returned, ranked⟩ := ranked_within_iff
    (servedInOrder (editBatches.map (historyQuery 1))) (fun _ => none) "frwiki"
    "fr.wikipedia.org" 1 3 threeEdits editBatches (fun _ => [("continue", "||")]) (by decide)
    (by decide) ⟨by decide, by decide⟩ (servedInOrder_serves _ _ _)
  exact ⟨passes, history, returned, ranked.mpr (Or.inl (by decide))⟩

/-- Three revisions in one answer are ranked although two are the budget. -/
theorem overshoot_ranked :
    Divides [threeEdits] threeEdits ∧
      (servedInOrder [historyQuery 1 threeEdits]).Serves "fr.wikipedia.org" (historyParams 1)
        (fun _ => [("continue", "||")]) [historyQuery 1 threeEdits] ∧
      ∃ history,
        getEditorHistory (servedInOrder [historyQuery 1 threeEdits]) (fun _ => none) "frwiki" 1 2
          1 = some (.ok history) ∧
        history.complete = true ∧ history.revisions = 3 ∧
        ¬ RankedOnlyWithin threeEdits 2 history := by
  refine ⟨⟨rfl, by decide⟩, servedInOrder_serves _ _ _, _, rfl, rfl, rfl, ?_⟩
  intro ranked
  exact absurd (ranked.fits.mp rfl) (by decide)

end WikiPeople
