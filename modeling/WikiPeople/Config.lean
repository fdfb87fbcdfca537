import WikiPeople.Models

/-! The settings the modelled code reads, the errors it raises and the wikis it serves. -/

namespace WikiPeople

structure Settings where
  algorithmVersion : String
  supportedWikis : List String
  wikiwhoLanguages : List String
  candidatePoolSize : Int
  minimumTokens : Int
  minimumShare : Rat
  topEditorMaxRevisions : Int
  workerLeaseSeconds : Int
  workerMaxAttempts : Int
  deadRetrySeconds : Int
  readyCacheSeconds : Int
  pageFreshnessSeconds : Int
  pageCacheSeconds : Int
  pageStaleWhileRevalidateSeconds : Int
  optoutPage : String
  optoutCategoryLimit : Int
  hideSanctionedContributors : Bool
  maxVisibleBlockSeconds : Int
  maxVisibleBlockSecondsByWiki : List (String × Int)
  standingLockChecksPerRun : Int
  standingLockRecheckSeconds : Int
  methodologyUrl : String
  backfillBatchSize : Int

def defaultWikiwhoLanguages : List String :=
  ["af", "als", "ar", "az", "be", "bg", "bn", "bs", "ce", "cs",
    "cy", "da", "de", "dsb", "el", "en", "eo", "es", "et", "eu",
    "fa", "fi", "fr", "gl", "he", "hi", "hr", "hu", "ia", "id",
    "it", "ja", "ka", "kk", "ko", "ku", "lt", "lv", "mk", "ml",
    "mr", "ms", "mt", "ne", "nl", "no", "pl", "pt", "ro", "ru",
    "sh", "simple", "sk", "sl", "sq", "sr", "sv", "sw", "ta", "te",
    "tg", "th", "tl", "tr", "uk", "ur", "uz", "vec", "vi", "zh"]

/-- `Settings.from_env` with no variable set. The share is the float nearest to 0.01. -/
def fromEnv : Settings where
  algorithmVersion := "attribution-ladder-v3"
  supportedWikis := ["*"]
  wikiwhoLanguages := defaultWikiwhoLanguages
  candidatePoolSize := 50
  minimumTokens := 20
  minimumShare := mkRat 5764607523034235 576460752303423488
  topEditorMaxRevisions := 5000
  workerLeaseSeconds := 300
  workerMaxAttempts := 8
  deadRetrySeconds := 86400
  readyCacheSeconds := 300
  pageFreshnessSeconds := 90 * 24 * 60 * 60
  pageCacheSeconds := 300
  pageStaleWhileRevalidateSeconds := 604800
  optoutPage := "Project:WikiPeople/opt-out"
  optoutCategoryLimit := 5000
  hideSanctionedContributors := true
  maxVisibleBlockSeconds := 90 * 86400
  maxVisibleBlockSecondsByWiki := []
  standingLockChecksPerRun := 500
  standingLockRecheckSeconds := 86400
  methodologyUrl := "https://github.com/schiste/wikifame/blob/main/docs/architecture.md"
  backfillBatchSize := 500

/-- The first override for the wiki wins; without one the global default applies. -/
def maxVisibleBlockSecondsFor (settings : Settings) (wiki : String) : Int :=
  (settings.maxVisibleBlockSecondsByWiki.lookup wiki).getD settings.maxVisibleBlockSeconds

inductive ErrorClass where
  | wikiPeople
  | retryableUpstream
  | permanentData
  | responseTooLarge
  deriving DecidableEq, Repr

def ErrorClass.code : ErrorClass → String
  | wikiPeople => "wikipeople_error"
  | retryableUpstream => "upstream_unavailable"
  | permanentData => "invalid_page"
  | responseTooLarge => "wikiwho_response_too_large"

def ErrorClass.permanent : ErrorClass → Bool
  | wikiPeople => false
  | retryableUpstream => false
  | permanentData => true
  | responseTooLarge => true

/-- A `WikiPeopleError`, or any other exception. -/
inductive Exn where
  | known (kind : ErrorClass) (message : String)
  | unexpected (message : String)
  deriving DecidableEq, Repr

def wikiSuffix : List Char := "wiki".toList

/-- The WikiWho language code of a wiki, or `none` when it is not covered. -/
def language (languages : List String) (wiki : String) : Option String :=
  let name := wiki.toList
  if wikiSuffix.isSuffixOf name then
    let code := String.ofList (name.take (name.length - wikiSuffix.length))
    if code ∈ languages then some code else none
  else none

def isCapable (languages : List String) (wiki : String) : Bool :=
  (language languages wiki).isSome

def allWikis : String := "*"

def isEnabled (languages supportedWikis : List String) (wiki : String) : Bool :=
  isCapable languages wiki && (allWikis ∈ supportedWikis || wiki ∈ supportedWikis)

def requireLanguage (languages : List String) (wiki : String) : Except Exn String :=
  match language languages wiki with
  | some code => .ok code
  | none => .error (.known .permanentData s!"WikiWho ne prend pas en charge {wiki}")

def host (languages : List String) (wiki : String) : Except Exn String :=
  (requireLanguage languages wiki).map (fun code => code ++ ".wikipedia.org")

example : isEnabled defaultWikiwhoLanguages ["*"] "frwiki" = true := by decide
example : isEnabled defaultWikiwhoLanguages ["*"] "frwikisource" = false := by decide

end WikiPeople
