import WikiPeople.Attribution
import WikiPeople.Jobs

/-! The attribution ladder of a worker, over everything upstream may answer. -/

namespace WikiPeople

open Relational

def metricTokens : String := "wikiwho-surviving-alphanumeric-tokens"

def metricEdits : String := "mediawiki-revision-count"

/-- `complete` is false where the walk stopped at its budget of revisions. -/
structure EditorHistory where
  counts : Counter Int
  revisions : Int
  complete : Bool

inductive Rung where
  | tokens
  | edits
  deriving DecidableEq, Repr

/-- What one job asks MediaWiki, CentralAuth and WikiWho. Every call may answer anything or
raise, and what both rungs ask they ask anew. -/
structure Upstream where
  getPage : (wiki : String) → (pageId : Int) → Except Exn PageMetadata
  fetchRevision : (wiki : String) → (revisionId : Int) → Except Exn (List Token)
  resolveUsers : Rung → (wiki : String) → (userIds : List Int) → Except Exn Users
  globalGroups : Rung → (wiki : String) → GlobalGroupLookup
  getEditorHistory : (wiki : String) → (pageId maxRevisions : Int) → Except Exn EditorHistory
  getEditorCount : (wiki title : String) → Except Exn EditorCount
  getBotContributorCount : (wiki : String) → (pageId : Int) → Except Exn Int

/-- What `except PermanentDataError` catches. -/
def Exn.isPermanentData : Exn → Bool
  | .known .permanentData _ => true
  | .known .responseTooLarge _ => true
  | _ => false

section Ladder

variable (interpreter : Interpreter) (settings : Settings) (upstream : Upstream)
  (lease : WorkLease)

/-- The rung of surviving tokens: its names or what it raised, and the total it had counted. -/
def rankTokens : Except Exn (List Contributor) × Int :=
  match upstream.fetchRevision lease.wiki lease.revisionId with
  | .error raised => (.error raised, 0)
  | .ok tokens =>
      let (counts, totalTokens) := countTokens interpreter.unicode tokens
      let ranked := do
        let candidates ← candidateUserIds interpreter.unicode counts settings.candidatePoolSize
        let users ← upstream.resolveUsers .tokens lease.wiki candidates
        selectContributors interpreter settings counts totalTokens users
          (some (upstream.globalGroups .tokens lease.wiki)) nameLimit
      (ranked, totalTokens)

/-- A permanent error of the first rung means that it names nobody. -/
def caught (ranked : Except Exn (List Contributor)) : Except Exn (List Contributor) :=
  match ranked with
  | .ok contributors => .ok contributors
  | .error raised => if raised.isPermanentData then .ok [] else .error raised

def rankEdits : Except Exn (List Contributor) := do
  let history ← upstream.getEditorHistory lease.wiki lease.pageId settings.topEditorMaxRevisions
  if history.complete then
    let candidates := history.counts.mostCommon.take settings.candidatePoolSize.toNat
    let users ← upstream.resolveUsers .edits lease.wiki (candidates.map Prod.fst)
    selectTopEditors interpreter history.counts history.revisions users
      (some (upstream.globalGroups .edits lease.wiki)) nameLimit
  else .ok []

/-- `Worker.attribute`: the names, the countable total and the metric that produced them. -/
def workerAttribute : Except Exn (List Contributor × Int × String) :=
  let (ranked, totalTokens) := rankTokens interpreter settings upstream lease
  match caught ranked with
  | .error raised => .error raised
  | .ok contributors =>
      if contributors.isEmpty then
        (rankEdits interpreter settings upstream lease).map
          (fun editors => (editors, totalTokens, metricEdits))
      else .ok (contributors, totalTokens, metricTokens)

/-- Everything `process` asks about a page once its revision is the current one. -/
def attributePage (page : PageMetadata) : Except Exn Attributed := do
  let (contributors, totalTokens, metric) ← workerAttribute interpreter settings upstream lease
  let editorCount ← upstream.getEditorCount lease.wiki page.title
  let botCount ← upstream.getBotContributorCount lease.wiki lease.pageId
  .ok
    { contributors := contributors
      countableTokens := totalTokens
      metric := metric
      editorCount := editorCount
      botCount := botCount }

end Ladder

/-- `Worker.run_once` where no database operation fails: whether there was a lease, and the
store that is left. `clock` gives the instants of the calls of `utcnow`. -/
def runOnce (interpreter : Interpreter) (settings : Settings) (upstream : Upstream)
    (store : Store) (workerId : String) (pick : Nat) (clock : Nat → Time) : Bool × Store :=
  match claim store workerId settings.workerLeaseSeconds pick (clock 0) with
  | none => (false, store)
  | some (lease, claimed) =>
      match process claimed lease (upstream.getPage lease.wiki lease.pageId)
          (attributePage interpreter settings upstream lease) (fun call => clock (call + 1)) with
      | .ok after => (true, after)
      | .error raised => (true, perform settings lease (clock 1) claimed (failure raised))

/-- Exact quotients and shares with few digits. -/
def plainInterpreter : Interpreter where
  unicode := Text.asciiUnicode
  alphabet := Text.asciiAlphabet
  divide := fun part whole => some (part / whole)
  round := id

/-- Upstream as it is when all is well: the page "A" at revision 10, whose text one account
wrote. -/
def ownUpstream : Upstream where
  getPage := fun _ _ => .ok (articlePage 10)
  fetchRevision := fun _ _ => .ok (List.replicate 20 ⟨some "mot", some "7"⟩)
  resolveUsers := fun _ _ _ => .ok (Table.empty.put (7, ⟨7, "Ada", [], false⟩))
  globalGroups := fun _ _ _ => .ok []
  getEditorHistory := fun _ _ _ => .ok ⟨.empty, 0, true⟩
  getEditorCount := fun _ _ => .ok ⟨3, false⟩
  getBotContributorCount := fun _ _ => .ok 1

end WikiPeople
