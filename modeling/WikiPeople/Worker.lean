import WikiPeople.Repository.Lists
import WikiPeople.Repository.Queue

/-! What a worker does with a lease. Each call upstream may answer anything or raise. -/

namespace WikiPeople

structure PageMetadata where
  pageId : Int
  revisionId : Int
  title : String
  pageNamespace : Int
  isRedirect : Bool
  deriving DecidableEq

structure EditorCount where
  count : Int
  limited : Bool
  deriving DecidableEq

/-- What `attribute`, the editor count and the bot count answer about a current revision. -/
structure Attributed where
  contributors : List Contributor
  countableTokens : Int
  metric : String
  editorCount : EditorCount
  botCount : Int
  deriving DecidableEq

def resultValues (lease : WorkLease) (page : PageMetadata) (attributed : Attributed)
    (computedAt : Time) : ResultValues where
  toIdentity := lease.toIdentity
  title := page.title
  metric := attributed.metric
  contributors := attributed.contributors
  distinctContributors :=
    max attributed.contributors.length (attributed.editorCount.count - attributed.botCount)
  countLimited := attributed.editorCount.limited
  countableTokens := attributed.countableTokens
  wikiwhoRevisionId := lease.revisionId
  computedAt := computedAt

def offMainNamespace : String := "La page n’est plus dans l’espace principal"

def redirectPage : String := "La page est une redirection"

def overtakenRevision (lease : WorkLease) (page : PageMetadata) : String :=
  s!"Révision demandée {lease.revisionId}, révision courante {page.revisionId}"

/-- The key of the revision MediaWiki reports, under the version the lease was taken for. -/
def currentKey (lease : WorkLease) (page : PageMetadata) : Identity :=
  { wiki := lease.wiki
    pageId := page.pageId
    algorithmVersion := lease.algorithmVersion
    revisionId := page.revisionId }

/-- `Worker.process` where no database operation fails: what it raises, or the store it
leaves. `clock` gives the instants of its successive calls of `utcnow`. -/
def process (store : Store) (lease : WorkLease) (answer : Except Exn PageMetadata)
    (attribution : PageMetadata → Except Exn Attributed) (clock : Nat → Time) :
    Except Exn Store :=
  match answer with
  | .error raised => .error raised
  | .ok page =>
      if page.pageNamespace ≠ 0 then .ok (supersede store lease.id offMainNamespace (clock 0))
      else if page.isRedirect then .ok (supersede store lease.id redirectPage (clock 0))
      else if page.revisionId ≠ lease.revisionId then
        let refused := supersede store lease.id (overtakenRevision lease page) (clock 0)
        .ok (enqueue refused (currentKey lease page) lease.priority false (clock 1))
      else
        match attribution page with
        | .error raised => .error raised
        | .ok attributed =>
            let saved := saveResult store (resultValues lease page attributed (clock 0))
            let completed := complete saved lease.id
            .ok (registerActiveWiki completed lease.wiki (clock 1)).2

/-! The same job as a list of transactions, each of which may be the last. -/

inductive Operation where
  | supersede (reason : String)
  | enqueueCurrent (page : PageMetadata)
  | saveResult (values : ResultValues)
  | complete
  | registerActiveWiki
  | fail (code message : String) (permanent : Bool)
  deriving DecidableEq

def perform (settings : Settings) (lease : WorkLease) (now : Time) (store : Store) :
    Operation → Store
  | .supersede reason => supersede store lease.id reason now
  | .enqueueCurrent page => enqueue store (currentKey lease page) lease.priority false now
  | .saveResult values => saveResult store values
  | .complete => complete store lease.id
  | .registerActiveWiki => (registerActiveWiki store lease.wiki now).2
  | .fail code message permanent =>
      fail store lease code message settings.workerMaxAttempts permanent now

/-- How `run_once` reports what `process` raised. -/
def failure : Exn → Operation
  | .known kind message => .fail kind.code message kind.permanent
  | .unexpected message => .fail "unexpected_error" message false

def Operation.isFail : Operation → Bool
  | .fail _ _ _ => true
  | _ => false

def Operation.isOutcome : Operation → Bool
  | .supersede _ => true
  | .complete => true
  | .fail _ _ _ => true
  | _ => false

/-- Where the current revision of the page leaves a job: the transactions that refuse it,
or `none` where it goes on to be attributed. -/
def refusing (lease : WorkLease) (page : PageMetadata) : Option (List Operation) :=
  if page.pageNamespace ≠ 0 then some [.supersede offMainNamespace]
  else if page.isRedirect then some [.supersede redirectPage]
  else if page.revisionId ≠ lease.revisionId then
    some [.supersede (overtakenRevision lease page), .enqueueCurrent page]
  else none

def storing (lease : WorkLease) (page : PageMetadata) (attributed : Attributed)
    (computedAt : Time) : List Operation :=
  [.saveResult (resultValues lease page attributed computedAt), .complete, .registerActiveWiki]

/-- The transactions of a job whose upstream calls answered `answer` and `attribution`. -/
def operations (lease : WorkLease) (answer : Except Exn PageMetadata)
    (attribution : PageMetadata → Except Exn Attributed) (computedAt : Time) :
    Except Exn (List Operation) :=
  answer.bind fun page =>
    match refusing lease page with
    | some refusals => .ok refusals
    | none => (attribution page).map (fun attributed => storing lease page attributed computedAt)

/-- The transactions one after the other leave what `process` leaves. -/
theorem process_operations (settings : Settings) (store : Store) (lease : WorkLease)
    (answer : Except Exn PageMetadata) (attribution : PageMetadata → Except Exn Attributed)
    (now : Time) :
    process store lease answer attribution (fun _ => now) =
      (operations lease answer attribution now).map
        (fun transactions => transactions.foldl (perform settings lease now) store) := by
  cases answer with
  | error raised => rfl
  | ok page =>
      simp only [process, operations, refusing, Except.bind]
      split
      · rfl
      · split
        · rfl
        · split
          · rfl
          · cases attribution page with
            | error raised => rfl
            | ok attributed => rfl

end WikiPeople
