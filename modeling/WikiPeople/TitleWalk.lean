import Mathlib.Data.String.Basic
import WikiPeople.Fallback
import WikiPeople.Library.Sweep
import WikiPeople.PageRequests

/-! The walk in title order through a wiki that is edited all the while. Pages are created,
moved, deleted and edited between its batches, and its runs are killed and started again; what
stays an article under one title is passed on all the same. -/

namespace WikiPeople

open Relational Transition

/-- Where a run of the job is. `left` batches follow the one at hand. -/
inductive TitleStage where
  | idle
  | querying (cursor : Option String) (left : Nat)
  | enqueueing (todo : List PageMetadata) (next : Option String) (left : Nat)

structure TitleWalk where
  database : BackfillTables
  stage : TitleStage
  pages : List PageMetadata

section Job

variable (settings : Settings) (readText : String → Option Int) (wiki : String)

def afterTitles : Option String → Nat → TitleStage
  | some cursor, left + 1 => .querying (some cursor) left
  | _, _ => .idle

end Job

/-- What `allpages` lists with these parameters. -/
def mainArticles (pages : List PageMetadata) : List PageMetadata :=
  pages.filter (fun page => page.pageNamespace = 0 && !page.isRedirect)

/-- A page as it is known under one title. -/
def standing (page : PageMetadata) : Int × String := (page.pageId, page.title)

/-- What was passed on since the walk began: every page in order; of these, the pages of batches
whose cursor was saved, those of the batch at hand and, for each batch that was interrupted,
those it had come to. `steady` has what was an article under one title all the while, and
`listed` the pages of the wiki at every query. -/
structure TitlesPassed where
  steady : List (Int × String)
  listed : List (List PageMetadata)
  passed : List PageMetadata
  saved : List PageMetadata
  batch : List PageMetadata
  interrupted : List (List PageMetadata)

def TitlesPassed.begin (pages : List PageMetadata) : TitlesPassed :=
  ⟨(mainArticles pages).map standing, [], [], [], [], []⟩

/-- A title as the database sorts it. -/
def dbKey (title : String) : String := String.ofList (Text.replaceChar ' ' '_' title.toList)

def titleKey (page : PageMetadata) : String := dbKey page.title

/-- Page ids are not shared, and no title is empty or made of underscores at its ends. -/
structure ProperPages (pages : List PageMetadata) : Prop where
  ids : (pages.map PageMetadata.pageId).Nodup
  titles : ∀ page ∈ pages, titleKey page ≠ "" ∧ titleKey page ≠ completeMark

def beginning (cursor : Option String) : Sweep.Place String :=
  (presentText cursor).elim .start .upTo

/-- Where a batch that is answered with this continuation ends. -/
def ending (next : Option String) : Sweep.Place String := next.elim .finished .upTo

def placeStored (raw : Option String) : Sweep.Place String :=
  if raw = some completeMark then .finished else beginning raw

section Reading

variable {client : Client} {spell : Json → String} {readText : String → Option Int}
  {wiki name : String} {pages batch : List PageMetadata} {cursor next : Option String}

theorem mem_mainArticles {page : PageMetadata} :
    page ∈ mainArticles pages ↔ page ∈ pages ∧ page.pageNamespace = 0 ∧
      page.isRedirect = false := by
  rw [mainArticles, List.mem_filter]
  simp

end Reading

section Invariant

variable (wiki : String)

def TitlesPassed.Steady (history : TitlesPassed) (pageId : Int) (key : String) : Prop :=
  ∃ title, (pageId, title) ∈ history.steady ∧ dbKey title = key

/-- Where a run is, with the pages of the batch at hand that it has come to. -/
def TitleStaged (raw : Option String) (history : TitlesPassed) : TitleStage → Prop
  | .idle => history.batch = []
  | .querying cursor _ =>
      history.batch = [] ∧ raw ≠ some completeMark ∧ presentText cursor = presentText raw
  | .enqueueing todo next _ =>
      raw ≠ some completeMark ∧ (∀ mark, next = some mark → mark ≠ "" ∧ mark ≠ completeMark) ∧
      Sweep.Brings PageMetadata.pageId history.Steady (placeStored raw) (ending next)
        (history.batch ++ todo)

/-- The saved pages are a sweep up to the stored cursor, and only interrupted batches make the
pages that were passed on differ from them and the batch at hand. -/
structure TitleWalked (walk : TitleWalk) (history : TitlesPassed) : Prop where
  proper : ProperPages walk.pages
  steady : ∀ known ∈ history.steady, known ∈ (mainArticles walk.pages).map standing
  stood : ∀ pages ∈ history.listed, ProperPages pages ∧
    ∀ known ∈ history.steady, known ∈ (mainArticles pages).map standing
  swept : Sweep.Swept PageMetadata.pageId history.Steady
    (placeStored (walk.database.getState (titleCursorKey wiki))) history.saved
  staged : TitleStaged (walk.database.getState (titleCursorKey wiki)) history walk.stage
  passed : history.passed.Perm (history.saved ++ history.batch ++ history.interrupted.flatten)
  parts : ∀ part ∈ history.interrupted, ∀ known ∈ history.steady,
    (part.map PageMetadata.pageId).count known.1 ≤ 1
  listed : ∀ page, page ∈ history.passed ∨ (∃ todo next left,
    walk.stage = .enqueueing todo next left ∧ page ∈ todo) →
      ∃ pages ∈ history.listed, page ∈ mainArticles pages

end Invariant

section Steps

variable {settings : Settings} {readText : String → Option Int} {wiki : String}
  {database : BackfillTables} {pages : List PageMetadata} {history : TitlesPassed}
  {stage other : TitleStage} {todo : List PageMetadata} {page : PageMetadata}
  {next cursor : Option String} {left : Nat} {store : Store}

theorem presentText_twice (text : Option String) :
    presentText (presentText text) = presentText text := by
  cases text with
  | none => rfl
  | some text => by_cases empty : text = "" <;> simp [presentText, Option.filter, empty]

theorem placeStored_unfinished {raw : Option String} (unfinished : raw ≠ some completeMark) :
    placeStored raw = beginning raw := if_neg unfinished

theorem placeStored_saved (marks : ∀ mark, next = some mark → mark ≠ "" ∧ mark ≠ completeMark) :
    placeStored (some ((presentText next).getD completeMark)) = ending next := by
  cases next with
  | none => exact if_pos rfl
  | some mark =>
      obtain ⟨some_, open_⟩ := marks mark rfl
      have present : presentText (some mark) = some mark := by simp [presentText, some_]
      rw [present, Option.getD_some, placeStored_unfinished (by simpa using open_), beginning,
        present]
      rfl

theorem TitleWalked.serve (walked : TitleWalked wiki ⟨database, stage, pages⟩ history) :
    TitleWalked wiki ⟨{ database with store := store }, stage, pages⟩ history where
  proper := walked.proper
  steady := walked.steady
  stood := walked.stood
  swept := walked.swept
  staged := walked.staged
  passed := walked.passed
  parts := walked.parts
  listed := walked.listed

theorem TitleWalked.edit {edited : List PageMetadata}
    (walked : TitleWalked wiki ⟨database, stage, pages⟩ history) (proper : ProperPages edited) :
    TitleWalked wiki ⟨database, stage, edited⟩
      { history with
        steady := history.steady.filter
          (fun known => known ∈ (mainArticles edited).map standing) } := by
  have fewer : ∀ known ∈ history.steady.filter
      (fun known => known ∈ (mainArticles edited).map standing), known ∈ history.steady :=
    fun known member => (List.mem_filter.mp member).1
  have restricted : ∀ pageId key,
      TitlesPassed.Steady { history with
        steady := history.steady.filter
          (fun known => known ∈ (mainArticles edited).map standing) } pageId key →
        history.Steady pageId key := by
    rintro pageId key ⟨title, member, sorted⟩
    exact ⟨title, fewer _ member, sorted⟩
  refine ⟨proper, ?_, ?_, walked.swept.restrict restricted, ?_, walked.passed, ?_, walked.listed⟩
  · intro known member
    exact of_decide_eq_true (List.mem_filter.mp member).2
  · intro pages listed
    exact ⟨(walked.stood pages listed).1,
      fun known member => (walked.stood pages listed).2 known (fewer known member)⟩
  · have staged := walked.staged
    cases stage with
    | idle => exact staged
    | querying cursor left => exact staged
    | enqueueing todo next left =>
        exact ⟨staged.1, staged.2.1, staged.2.2.restrict restricted⟩
  · exact fun part member known still => walked.parts part member known (fewer known still)

theorem TitleWalked.stood_listed (walked : TitleWalked wiki ⟨database, stage, pages⟩ history) :
    ∀ table ∈ history.listed ++ [pages], ProperPages table ∧
      ∀ known ∈ history.steady, known ∈ (mainArticles table).map standing := by
  intro table member
  rcases List.mem_append.mp member with old | new
  · exact walked.stood table old
  · rw [List.mem_singleton.mp new]
    exact ⟨walked.proper, walked.steady⟩

theorem TitleWalked.failed
    (walked : TitleWalked wiki ⟨database, .querying cursor left, pages⟩ history) :
    TitleWalked wiki ⟨database, .idle, pages⟩
      { history with listed := history.listed ++ [pages] } where
  proper := walked.proper
  steady := walked.steady
  stood := walked.stood_listed
  swept := walked.swept
  staged := walked.staged.1
  passed := walked.passed
  parts := walked.parts
  listed := by
    rintro page (passed | ⟨todo, mark, count, stage, _⟩)
    · obtain ⟨table, member, article⟩ := walked.listed page (Or.inl passed)
      exact ⟨table, List.mem_append_left _ member, article⟩
    · cases stage

theorem TitleWalked.answered
    (walked : TitleWalked wiki ⟨database, .querying cursor left, pages⟩ history)
    {found : List PageMetadata}
    (lists : Sweep.Lists titleKey (mainArticles pages) (beginning (presentText cursor))
      (ending next) found)
    (marked : ∀ mark, next = some mark → ∃ page ∈ mainArticles pages, mark = titleKey page) :
    TitleWalked wiki ⟨database, .enqueueing found next left, pages⟩
      { history with listed := history.listed ++ [pages] } := by
  obtain ⟨nothing, unfinished, same⟩ := walked.staged
  refine ⟨walked.proper, walked.steady, walked.stood_listed, walked.swept, ?_, walked.passed,
    walked.parts, ?_⟩
  · refine ⟨unfinished, ?_, ?_⟩
    · rintro mark rfl
      obtain ⟨page, member, rfl⟩ := marked mark rfl
      exact walked.proper.titles page (mem_mainArticles.mp member).1
    · have from_ : beginning (presentText cursor) =
          placeStored (database.getState (titleCursorKey wiki)) := by
        rw [placeStored_unfinished unfinished, beginning, beginning, same, presentText_twice]
      have distinct : ((mainArticles pages).map PageMetadata.pageId).Nodup :=
        walked.proper.ids.sublist (List.filter_sublist.map _)
      rw [from_] at lists
      dsimp only
      rw [nothing, List.nil_append]
      refine lists.brings distinct ?_
      rintro pageId key ⟨title, still, sorted⟩
      obtain ⟨page, member, known⟩ := List.mem_map.mp (walked.steady _ still)
      cases known
      exact ⟨page, member, rfl, sorted⟩
  · rintro page (passed | ⟨todo, mark, count, stage, member⟩)
    · obtain ⟨pages, member, article⟩ := walked.listed page (Or.inl passed)
      exact ⟨pages, List.mem_append_left _ member, article⟩
    · cases stage
      exact ⟨pages, List.mem_append_right _ (List.mem_singleton_self pages),
        ((lists.listed page).mp member).1⟩

theorem TitleWalked.save
    (walked : TitleWalked wiki ⟨database, .enqueueing [] next left, pages⟩ history) :
    TitleWalked wiki
      ⟨database.setState (titleCursorKey wiki) ((presentText next).getD completeMark),
        afterTitles next left, pages⟩
      { history with saved := history.saved ++ history.batch, batch := [] } := by
  obtain ⟨unfinished, marks, brings⟩ := walked.staged
  rw [List.append_nil] at brings
  have written : (database.setState (titleCursorKey wiki)
      ((presentText next).getD completeMark)).getState (titleCursorKey wiki) =
        some ((presentText next).getD completeMark) := BackfillTables.getState_setState _ _ _
  refine ⟨walked.proper, walked.steady, walked.stood, ?_, ?_, ?_, walked.parts, ?_⟩
  · dsimp only
    rw [written, placeStored_saved marks]
    exact walked.swept.advance brings
  · dsimp only
    rw [written]
    cases next with
    | none => cases left <;> exact rfl
    | some mark =>
        cases left with
        | zero => exact rfl
        | succ left =>
            obtain ⟨some_, open_⟩ := marks mark rfl
            have present : presentText (some mark) = some mark := by simp [presentText, some_]
            rw [present, Option.getD_some]
            exact ⟨rfl, by simpa using open_, rfl⟩
  · rw [List.append_nil]
    exact walked.passed
  · rintro page (passed | ⟨todo, mark, count, stage, _⟩)
    · exact walked.listed page (Or.inl passed)
    · cases next with
      | none => cases left <;> cases stage
      | some mark => cases left <;> cases stage

theorem TitleWalked.enqueue
    (walked : TitleWalked wiki ⟨database, .enqueueing (page :: todo) next left, pages⟩ history) :
    TitleWalked wiki ⟨{ database with store := store }, .enqueueing todo next left, pages⟩
      { history with passed := history.passed ++ [page], batch := history.batch ++ [page] } where
  proper := walked.proper
  steady := walked.steady
  stood := walked.stood
  swept := walked.swept
  staged := by
    obtain ⟨unfinished, marks, brings⟩ := walked.staged
    refine ⟨unfinished, marks, ?_⟩
    dsimp only
    rw [List.append_assoc]
    exact brings
  passed := perm_enqueued walked.passed page
  parts := walked.parts
  listed := by
    rintro other (passed | ⟨rest, mark, count, stage, member⟩)
    · rcases List.mem_append.mp passed with old | new
      · exact walked.listed other (Or.inl old)
      · refine walked.listed other (Or.inr ⟨_, _, _, rfl, ?_⟩)
        rw [List.mem_singleton.mp new]
        exact List.mem_cons_self
    · cases stage
      exact walked.listed other (Or.inr ⟨_, _, _, rfl, List.mem_cons_of_mem page member⟩)

end Steps

/-- What is an article under one title all the while has been passed on once it is left behind,
and once only, but for the batches that were interrupted. Whatever was passed on was an article
when it was listed, at the revision it then had. -/
structure SteadilyCovered (raw : Option String) (history : TitlesPassed) : Prop where
  covered : ∀ pageId title, (pageId, title) ∈ history.steady →
    (placeStored raw).passes (dbKey title) →
      ∃ page ∈ history.passed, page.pageId = pageId ∧ page.title = title
  once : ∀ known ∈ history.steady,
    (history.passed.map PageMetadata.pageId).count known.1 ≤ 1 + history.interrupted.length
  listed : ∀ page ∈ history.passed, ∃ pages ∈ history.listed, page ∈ mainArticles pages

section Covered

variable {settings : Settings} {readText : String → Option Int} {wiki : String}
  {start database : BackfillTables} {first pages : List PageMetadata} {history : TitlesPassed}
  {turn : WikiTurn} {tables : Nat → List PageMetadata}

theorem count_flatten_le {parts : List (List PageMetadata)} {pageId : Int}
    (each : ∀ part ∈ parts, (part.map PageMetadata.pageId).count pageId ≤ 1) :
    (parts.flatten.map PageMetadata.pageId).count pageId ≤ parts.length := by
  induction parts with
  | nil => exact Nat.le_refl 0
  | cons part parts ih =>
      have here := each part List.mem_cons_self
      have rest := ih (fun other member => each other (List.mem_cons_of_mem part member))
      rw [List.flatten_cons, List.map_append, List.count_append, List.length_cons]
      omega

theorem TitleWalked.saved_once {walk : TitleWalk} (walked : TitleWalked wiki walk history)
    {known : Int × String} (still : known ∈ history.steady) :
    (history.saved.map PageMetadata.pageId).count known.1 +
      (history.batch.map PageMetadata.pageId).count known.1 ≤ 1 := by
  have steady : history.Steady known.1 (dbKey known.2) := ⟨known.2, still, rfl⟩
  obtain ⟨left, ahead⟩ := walked.swept known.1 (dbKey known.2) steady
  have most : (history.saved.map PageMetadata.pageId).count known.1 ≤ 1 := by
    by_cases passed : (placeStored (walk.database.getState (titleCursorKey wiki))).passes
        (dbKey known.2)
    · exact Nat.le_of_eq (left passed)
    · rw [ahead passed]
      exact Nat.zero_le 1
  have staged := walked.staged
  cases stage : walk.stage with
  | idle =>
      rw [stage] at staged
      rw [show history.batch = [] from staged]
      exact most
  | querying cursor left =>
      rw [stage] at staged
      rw [staged.1]
      exact most
  | enqueueing todo next count =>
      rw [stage] at staged
      obtain ⟨_, _, brings⟩ := staged
      have short := brings.count_le_one steady
      have outside := brings.outside known.1 (dbKey known.2) steady
      rw [List.map_append, List.count_append] at short outside
      by_cases passed : (placeStored (walk.database.getState (titleCursorKey wiki))).passes
          (dbKey known.2)
      · have nothing := outside (Or.inl passed)
        omega
      · rw [ahead passed]
        omega

theorem TitleWalked.covered {walk : TitleWalk} (walked : TitleWalked wiki walk history) :
    SteadilyCovered (walk.database.getState (titleCursorKey wiki)) history where
  covered := by
    intro pageId title still passed
    have counted := (walked.swept pageId (dbKey title) ⟨title, still, rfl⟩).1 passed
    have named : pageId ∈ history.saved.map PageMetadata.pageId :=
      List.count_pos_iff.mp (by omega)
    obtain ⟨page, saved, rfl⟩ := List.mem_map.mp named
    have given : page ∈ history.passed := walked.passed.mem_iff.mpr
      (List.mem_append_left _ (List.mem_append_left _ saved))
    refine ⟨page, given, rfl, ?_⟩
    obtain ⟨table, listed, article⟩ := walked.listed page (Or.inl given)
    obtain ⟨proper, stood⟩ := walked.stood table listed
    obtain ⟨other, present, same⟩ := List.mem_map.mp (stood _ still)
    obtain ⟨ids, titles⟩ := Prod.mk.inj same
    have equal := List.inj_on_of_nodup_map proper.ids (mem_mainArticles.mp present).1
      (mem_mainArticles.mp article).1 ids
    rw [← equal]
    exact titles
  once := by
    intro known still
    have saved := walked.saved_once still
    have others := count_flatten_le (fun part member => walked.parts part member known still)
    rw [(walked.passed.map PageMetadata.pageId).count_eq, List.map_append, List.map_append,
      List.count_append, List.count_append]
    omega
  listed := fun page given => walked.listed page (Or.inl given)

end Covered

end WikiPeople
