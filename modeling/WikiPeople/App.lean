import WikiPeople.Library.Json
import WikiPeople.Repository.Lists
import WikiPeople.Repository.Queue

/-! The two page endpoints. A request reads and writes the database at one instant `now`. -/

namespace WikiPeople

/-- The settings, with what the answers take from libraries: the character database, the
digest of the validator, the spelling of a float and the body of a failed parameter check. -/
structure Runtime where
  settings : Settings
  alphabet : Text.Alphabet
  hexdigest : String → String
  formatFloat : Rat → String
  validationError : Int → Json

structure Request where
  wiki : String
  pageId : Int
  revisionId : Int
  ifNoneMatch : Option String

structure Response where
  status : Nat
  headers : List (String × String)
  body : Option Json

def Request.key (request : Request) (algorithmVersion : String) : Identity :=
  { wiki := request.wiki
    pageId := request.pageId
    algorithmVersion := algorithmVersion
    revisionId := request.revisionId }

def padded (width : Nat) (value : Int) : List Char :=
  let digits := (toString value).toList
  List.replicate (width - digits.length) '0' ++ digits

/-- Year, month and day of a count of days since 1970-01-01, in the proleptic Gregorian
calendar. The count is moved to eras of 400 years that start in March. -/
def civil (count : Int) : Int × Int × Int :=
  let shifted := count + 719468
  let dayOfEra := shifted % 146097
  let yearOfEra := (dayOfEra - dayOfEra / 1460 + dayOfEra / 36524 - dayOfEra / 146096) / 365
  let dayOfYear := dayOfEra - (365 * yearOfEra + yearOfEra / 4 - yearOfEra / 100)
  let marchMonth := (5 * dayOfYear + 2) / 153
  let day := dayOfYear - (153 * marchMonth + 2) / 5 + 1
  let month := if marchMonth < 10 then marchMonth + 3 else marchMonth - 9
  let year := yearOfEra + shifted / 146097 * 400 + (if month ≤ 2 then 1 else 0)
  (year, month, day)

/-- `value.replace(tzinfo=UTC).isoformat().replace("+00:00", "Z")`. -/
def isoformat (value : Time) : String :=
  let second := value / 1000000
  let (year, month, day) := civil (second / 86400)
  let clock := second % 86400
  let fraction := value % 1000000
  String.ofList
    (padded 4 year ++ '-' :: padded 2 month ++ '-' :: padded 2 day ++
      'T' :: padded 2 (clock / 3600) ++ ':' :: padded 2 (clock / 60 % 60) ++
      ':' :: padded 2 (clock % 60) ++
      (if fraction = 0 then [] else '.' :: padded 6 fraction) ++ ['Z'])

def etag (runtime : Runtime) (payload : Json) : String :=
  "\"" ++ Text.truncate 32 (runtime.hexdigest (payload.dumps runtime.formatFloat)) ++ "\""

def weakPrefix : List Char := ['W', '/']

def ifNoneMatch (header : Option String) (tag : String) : Bool :=
  match header with
  | none => false
  | some text =>
      if text = "" then false
      else
        (text.toList.splitOn ',').any (fun part =>
          let candidate := Text.strip part
          let bare :=
            if weakPrefix.isPrefixOf candidate then Text.strip (candidate.drop 2) else candidate
          candidate = ['*'] || bare = tag.toList)

/-- Drop the accounts the wiki has put lastingly out of the community. -/
def nameableContributors (runtime : Runtime) (store : Store) (wiki : String) (now : Time)
    (contributors : List Contributor) : List Contributor :=
  if !runtime.settings.hideSanctionedContributors || contributors.isEmpty then contributors
  else
    let standings := standingFor store wiki (contributors.filterMap Contributor.userId)
    let threshold := maxVisibleBlockSecondsFor runtime.settings wiki
    contributors.filter (fun contributor =>
      isNameableAccount runtime.alphabet (contributor.userId.bind (fun id => standings.lookup id))
        threshold now)

def evidenceField : Evidence → String × Json
  | .tokenCount count => ("token_count", .int count)
  | .editCount count => ("edit_count", .int count)

def contributorJson (contributor : Contributor) : Json :=
  .obj
    ((contributor.userId.map (fun id => ("user_id", Json.int id))).toList ++
      [("username", .str contributor.username), evidenceField contributor.evidence,
        ("share", .float contributor.share)])

/-- The names a ready answer carries: none of an opted-out page. -/
def presentedContributors (runtime : Runtime) (store : Store) (wiki : String) (pageId : Int)
    (now : Time) (result : AttributionResult) : List Contributor :=
  if isOptedOut store wiki pageId then []
  else nameableContributors runtime store wiki now result.contributors

/-- The part of a ready answer that presentation policy changes. -/
def attributionFields (runtime : Runtime) (store : Store) (wiki : String) (pageId : Int)
    (now : Time) (result : AttributionResult) : List (String × Json) :=
  let contributors := presentedContributors runtime store wiki pageId now result
  [("contributors", .arr (contributors.map contributorJson)),
    ("distinct_contributors", .int result.distinctContributors),
    ("other_contributors", .int (max 0 (result.distinctContributors - contributors.length))),
    ("opted_out", .bool (isOptedOut store wiki pageId))]

def httpException (status : Nat) (detail : String) : Response :=
  ⟨status, [], some (.obj [("detail", .str detail)])⟩

def refusal (runtime : Runtime) (request : Request) : Option Response :=
  let settings := runtime.settings
  if request.revisionId ≤ 0 then
    some ⟨422, [], some (runtime.validationError request.revisionId)⟩
  else if !isEnabled settings.wikiwhoLanguages settings.supportedWikis request.wiki then
    some (httpException 404 "Wiki non pris en charge")
  else if request.pageId ≤ 0 then some (httpException 422 "page_id doit être positif")
  else none

theorem refusal_status {runtime : Runtime} {request : Request} {response : Response}
    (refused : refusal runtime request = some response) : 400 ≤ response.status := by
  simp only [refusal] at refused
  split at refused
  · cases refused
    simp
  · split at refused
    · cases refused
      simp [httpException]
    · split at refused
      · cases refused
        simp [httpException]
      · cases refused

/-- A ready answer, or its bare validator when the client already has it. -/
def conditional (runtime : Runtime) (request : Request) (cacheControl : String)
    (extra : List (String × String)) (payload : Json) : Response :=
  let tag := etag runtime payload
  let headers := [("Cache-Control", cacheControl), ("ETag", tag),
    ("X-WikiPeople-Algorithm", runtime.settings.algorithmVersion)] ++ extra
  if ifNoneMatch request.ifNoneMatch tag then ⟨304, headers, none⟩
  else ⟨200, headers, some payload⟩

/-- The two versions name the requested revision differently. -/
def unavailable (request : Request) (revisionField : String) (work : WorkItem) : Response where
  status := 503
  headers := [("Cache-Control", "no-store"), ("Retry-After", "3600")]
  body := some (.obj
    [("status", .str "unavailable"), ("wiki", .str request.wiki),
      ("page_id", .int request.pageId), (revisionField, .int request.revisionId),
      ("error_code", (work.errorCode.map Json.str).getD .null)])

def pending (request : Request) (revisionField : String) : Response where
  status := 202
  headers := [("Cache-Control", "no-store"), ("Retry-After", "30")]
  body := some (.obj
    [("status", .str "pending"), ("wiki", .str request.wiki), ("page_id", .int request.pageId),
      (revisionField, .int request.revisionId), ("retry_after", .int 30)])

def revivable (settings : Settings) (work : WorkItem) (now : Time) : Bool :=
  !work.isPermanent && work.updatedAt + seconds settings.deadRetrySeconds ≤ now

/-- The dead work of this key whose time to be tried again has not come. -/
def deadWork (settings : Settings) (store : Store) (key : Identity) (now : Time) :
    Option WorkItem :=
  (getWork store key).filter
    (fun work => work.state = .dead && !revivable settings work now)

def demand : Int := 100

def reviveDead (settings : Settings) (store : Store) (key : Identity) (now : Time) : Store :=
  match getWork store key with
  | none => store
  | some work =>
      if work.state = .dead && revivable settings work now then revive store work.id demand now
      else store

theorem reviveDead_store (settings : Settings) (store : Store) (key : Identity) (now : Time) :
    reviveDead settings store key now = store ∨
      ∃ work, getWork store key = some work ∧ work.state = .dead ∧
        reviveDead settings store key now = revive store work.id demand now := by
  unfold reviveDead
  split
  · exact Or.inl rfl
  · rename_i work found
    split
    · rename_i dead
      rw [Bool.and_eq_true, decide_eq_true_eq] at dead
      exact Or.inr ⟨work, found, dead.1, rfl⟩
    · exact Or.inl rfl

theorem reviveDead_results (settings : Settings) (store : Store) (key : Identity) (now : Time) :
    (reviveDead settings store key now).results = store.results := by
  rcases reviveDead_store settings store key now with same | ⟨work, _, _, revival⟩
  · rw [same]
  · rw [revival]
    rfl

def readyPayload (runtime : Runtime) (store : Store) (request : Request) (now : Time)
    (result : AttributionResult) : Json :=
  .obj
    ([("status", .str "ready"), ("wiki", .str result.wiki), ("page_id", .int result.pageId),
        ("revision_id", .int result.revisionId), ("title", .str result.title),
        ("algorithm_version", .str result.algorithmVersion), ("metric", .str result.metric)] ++
      attributionFields runtime store request.wiki request.pageId now result ++
      [("count_limited", .bool result.countLimited),
        ("countable_tokens", .int result.countableTokens),
        ("computed_at", .str (isoformat result.computedAt)),
        ("methodology_url", .str runtime.settings.methodologyUrl)])

/-- `GET /v1/{wiki}/pages/{page_id}`: the result of exactly the requested revision. -/
def pageAttribution (runtime : Runtime) (store : Store) (request : Request) (now : Time) :
    Response × Store :=
  let settings := runtime.settings
  let key := request.key settings.algorithmVersion
  match refusal runtime request with
  | some response => (response, store)
  | none =>
      match getResult store key with
      | some result =>
          (conditional runtime request s!"public, max-age={settings.readyCacheSeconds}" []
            (readyPayload runtime store request now result), store)
      | none =>
          match deadWork settings store key now with
          | some work => (unavailable request "revision_id" work, store)
          | none =>
              (pending request "revision_id",
                enqueue (reviveDead settings store key now) key demand false now)

def freshUntil (settings : Settings) (result : AttributionResult) : Time :=
  result.computedAt + seconds settings.pageFreshnessSeconds

def isFresh (settings : Settings) (result : AttributionResult) (now : Time) : Bool :=
  now < freshUntil settings result

/-- Ask for a recomputation of a page whose newest result is not fresh. -/
def refresh (settings : Settings) (store : Store) (key : Identity) (now : Time) : Store :=
  (enqueueIfStale (reviveDead settings store key now) key demand settings.pageFreshnessSeconds
    now).2

def readyPagePayload (runtime : Runtime) (store : Store) (request : Request) (now : Time)
    (result : AttributionResult) (refreshing : Bool) : Json :=
  .obj
    ([("status", .str "ready"), ("wiki", .str result.wiki), ("page_id", .int result.pageId),
        ("requested_revision_id", .int request.revisionId),
        ("source_revision_id", .int result.revisionId), ("title", .str result.title),
        ("algorithm_version", .str result.algorithmVersion), ("metric", .str result.metric)] ++
      attributionFields runtime store request.wiki request.pageId now result ++
      [("count_limited", .bool result.countLimited),
        ("countable_tokens", .int result.countableTokens),
        ("computed_at", .str (isoformat result.computedAt)),
        ("fresh_until", .str (isoformat (freshUntil runtime.settings result))),
        ("is_fresh", .bool (isFresh runtime.settings result now)),
        ("refreshing", .bool refreshing),
        ("methodology_url", .str runtime.settings.methodologyUrl)])

/-- `GET /v2/{wiki}/pages/{page_id}`: the newest result of the page, fresh or not. -/
def pageAttributionByFreshness (runtime : Runtime) (store : Store) (request : Request)
    (now : Time) : Response × Store :=
  let settings := runtime.settings
  let key := request.key settings.algorithmVersion
  match refusal runtime request with
  | some response => (response, store)
  | none =>
      match getLatestResult store key.toPageKey with
      | some result =>
          let fresh := isFresh settings result now
          let asked := if fresh then store else refresh settings store key now
          let refreshing := !fresh && (getWork asked key).any WorkItem.live
          (conditional runtime request
            (s!"public, max-age={settings.pageCacheSeconds}, " ++
              s!"stale-while-revalidate={settings.pageStaleWhileRevalidateSeconds}")
            [("X-WikiPeople-Source-Revision", toString result.revisionId)]
            (readyPagePayload runtime asked request now result refreshing), asked)
      | none =>
          match deadWork settings store key now with
          | some work => (unavailable request "requested_revision_id" work, store)
          | none =>
              (pending request "requested_revision_id", refresh settings store key now)

inductive Version where
  | v1
  | v2
  deriving DecidableEq

def respond (runtime : Runtime) (version : Version) (store : Store) (request : Request)
    (now : Time) : Response × Store :=
  match version with
  | .v1 => pageAttribution runtime store request now
  | .v2 => pageAttributionByFreshness runtime store request now

example : isoformat (seconds 951827696 + 7) = "2000-02-29T12:34:56.000007Z" := by decide

end WikiPeople
