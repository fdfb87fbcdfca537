import WikiPeople.App
import Mathlib.Data.Rat.Cast.Order

/-! The sentence the gadget puts on an article. A message is its key and parameter: which
key is chosen decides the wording in every language. -/

namespace WikiPeople

def survivingTextMetric : String := "wikiwho-surviving-alphanumeric-tokens"

structure Message where
  key : String
  parameter : Option String
  deriving DecidableEq, Repr

/-- What the page gives the gadget. `number` is `Number(value)` where that is finite, and
`none` is `undefined`; `formatDate` is `none` where the value is no date or dates have no
formatter; `userPage` is `none` where `mw.Title` raises. -/
structure Browser where
  number : Option Json → Option Rat
  formatDate : Option Json → Option String
  formatPercentage : Option (Rat → String)
  formatNumber : Rat → String
  userPage : String → Option String
  text : Message → String

/-- `Boolean(value)`: every array and object is true. -/
def toBoolean : Option Json → Bool
  | none => false
  | some (.arr _) => true
  | some (.obj _) => true
  | some value => value.truthy

/-- `typeof value === 'number'`. -/
def asNumber : Option Json → Option Rat
  | some (.int value) => some value
  | some (.float value) => some value
  | _ => none

/-- A ranked account as the gadget reads it; `username` is `none` where it is no text. -/
structure TopEditor where
  share : Option Rat
  username : Option String
  deriving DecidableEq, Repr

structure ContributionData where
  computedAt : Option Json
  humanCount : Rat
  limited : Bool
  wroteTheText : Bool
  topEditors : List TopEditor

section Reading

variable (browser : Browser)

/-- Only `null` has no properties. -/
def topEditor? : Json → Except String TopEditor
  | .null => .error "TypeError"
  | editor =>
      .ok
        { share := browser.number (editor.field "share")
          username := (editor.field "username").bind Json.asText? }

/-- `normalizeContributionData` of an answer with these numbers and entries. -/
def normalizeContributionData (data : Json) (humanCount : Rat) (contributors : List Json) :
    Except String ContributionData :=
  ((contributors.take 3).mapM (topEditor? browser)).map fun topEditors =>
    { computedAt := data.field "computed_at"
      humanCount := humanCount
      limited := toBoolean (data.field "count_limited")
      wroteTheText := (data.field "metric").any (Json.isText survivingTextMetric)
      topEditors := topEditors }

/-- `fetchJson`: an answer outside 200–299 raises, and so does a missing body. -/
def fetchJson : Option Response → Except String Json
  | none => .error "TypeError"
  | some response =>
      if 200 ≤ response.status ∧ response.status ≤ 299 then
        response.body.elim (.error "SyntaxError") .ok
      else .error s!"HTTP error {response.status}"

/-- What one answer comes to: data, or `none` where the result is still pending. -/
def readAnswer : Json → Except String (Option ContributionData)
  | .null => .error "TypeError"
  | data =>
      if (data.field "status").any (Json.isText "ready") then
        match asNumber (data.field "distinct_contributors"), data.field "contributors" with
        | some humanCount, some (.arr contributors) =>
            (normalizeContributionData browser data humanCount contributors).map some
        | _, _ => .error "Invalid attribution response."
      else if (data.field "status").any (Json.isText "pending") then .ok none
      else .error "Unknown attribution state."

/-- The requests from `attempt` on, with `retries` delays left. `fetch` is what the network
answers to each. -/
def loadFrom (fetch : Nat → Option Response) :
    Nat → Nat → Except String (Option ContributionData)
  | attempt, 0 => (fetchJson (fetch attempt)).bind (readAnswer browser)
  | attempt, retries + 1 =>
      match (fetchJson (fetch attempt)).bind (readAnswer browser) with
      | .ok none => loadFrom fetch (attempt + 1) retries
      | outcome => outcome

def loadContributionData (fetch : Nat → Option Response) (retries : Nat) :
    Except String (Option ContributionData) :=
  loadFrom browser fetch 0 retries

end Reading

structure EditorLink where
  href : String
  name : String
  share : Option Message
  deriving DecidableEq, Repr

/-- A link to the history that speaks for `count` people. -/
structure HistoryLink where
  count : Rat
  label : Message
  deriving DecidableEq, Repr

/-- The box of an article. `opening` is the text it starts with. -/
structure Summary where
  tooltip : List Message
  opening : Message
  editors : List EditorLink
  history : Option HistoryLink
  deriving DecidableEq, Repr

/-- The name a link shows. -/
def shownName (username : String) : String :=
  String.ofList (Text.replaceChar '_' ' ' username.toList)

section Building

variable (browser : Browser)

def createEditorLink (byEditCount : Bool) (editor : TopEditor) : Except String EditorLink :=
  match editor.username with
  | none => .error "TypeError"
  | some username =>
      match browser.userPage username with
      | none => .error "Error"
      | some page =>
          .ok
            { href := page
              name := shownName username
              share := editor.share.bind fun share =>
                browser.formatPercentage.map fun format =>
                  { key := if byEditCount then "wikipeople-share-edits" else "wikipeople-share"
                    parameter := some (format share) } }

def createHistoryCountLink (count : Rat) (limited isRemainder : Bool) : HistoryLink :=
  let label : Message :=
    { key := if isRemainder then "wikipeople-others" else "wikipeople-people"
      parameter := some (browser.formatNumber count) }
  { count := count
    label :=
      if limited then { key := "wikipeople-at-least", parameter := some (browser.text label) }
      else label }

def otherCount (data : ContributionData) : Rat :=
  max 0 (data.humanCount - data.topEditors.length)

def namedByEditCount (data : ContributionData) : Bool :=
  !data.topEditors.isEmpty && !data.wroteTheText

def summaryTooltip (data : ContributionData) : List Message :=
  let ranking :=
    if data.topEditors.isEmpty then []
    else
      [{ key := if namedByEditCount data then "wikipeople-tooltip-edits" else "wikipeople-tooltip"
         parameter := none }]
  ranking ++ ((browser.formatDate data.computedAt).map
    (fun date => ⟨"wikipeople-computed", some date⟩)).toList

/-- `null` for a page without a single human. -/
def buildArticleSummary (data : ContributionData) : Except String (Option Summary) :=
  if data.humanCount < 1 then .ok none
  else
    (data.topEditors.mapM (createEditorLink browser (namedByEditCount data))).map fun editors =>
      some
        { tooltip := summaryTooltip browser data
          opening :=
            { key :=
                if namedByEditCount data then "wikipeople-summary-prefix-edits"
                else "wikipeople-summary-prefix"
              parameter := none }
          editors := editors
          history :=
            if data.topEditors.isEmpty then
              some (createHistoryCountLink browser data.humanCount data.limited false)
            else if 0 < otherCount data then
              some (createHistoryCountLink browser (otherCount data) data.limited true)
            else none }

/-- The summary that `addArticleSummary` shows without a cached answer: none where the
result stays pending or nothing is to be said. -/
def articleSummary (fetch : Nat → Option Response) (retries : Nat) :
    Except String (Option Summary) :=
  (loadContributionData browser fetch retries).bind fun loaded =>
    match loaded with
    | none => .ok none
    | some data => buildArticleSummary browser data

end Building

end WikiPeople
