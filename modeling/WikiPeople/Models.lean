import WikiPeople.Library.Table
import Mathlib.Data.Rat.Defs

/-! The stored rows. A result and a work item share one identity; its first three
components name the page under one algorithm version. -/

namespace WikiPeople

open Relational

/-- A timezone-naive UTC value, in microseconds. -/
abbrev Time := Int

def seconds (count : Int) : Time := count * 1000000

def days (count : Int) : Time := seconds (count * 86400)

structure PageKey where
  wiki : String
  pageId : Int
  algorithmVersion : String
  deriving DecidableEq, Repr

structure Identity extends PageKey where
  revisionId : Int
  deriving DecidableEq, Repr

theorem identity_eq {first second : Identity} (page : first.toPageKey = second.toPageKey)
    (revision : first.revisionId = second.revisionId) : first = second := by
  cases first
  cases second
  cases page
  cases revision
  rfl

inductive WorkState where
  | pending
  | leased
  | dead
  | superseded
  deriving DecidableEq, Repr

structure WorkItem extends Identity where
  id : Nat
  priority : Int
  state : WorkState
  attempts : Nat
  availableAt : Time
  leaseUntil : Option Time
  workerId : Option String
  errorCode : Option String
  lastError : Option String
  isPermanent : Bool
  createdAt : Time
  updatedAt : Time
  deriving DecidableEq, Repr

instance : Keyed WorkItem Identity := ⟨WorkItem.toIdentity⟩
instance : Numbered WorkItem := ⟨WorkItem.id⟩

@[simp] theorem work_key (item : WorkItem) : Keyed.key item = item.toIdentity := rfl
@[simp] theorem work_number (item : WorkItem) : Numbered.number item = item.id := rfl

/-- Some worker has or will have this item: the states `enqueue` and the endpoints accept
as work in progress. -/
def WorkItem.live (item : WorkItem) : Bool :=
  item.state = .pending || item.state = .leased

inductive Evidence where
  | tokenCount (count : Nat)
  | editCount (count : Nat)
  deriving DecidableEq, Repr

/-- A stored contributor entry. `userId` is `none` where the entry names no integer account. -/
structure Contributor where
  userId : Option Int
  username : String
  evidence : Evidence
  share : Rat
  deriving DecidableEq, Repr

/-- The columns of a result other than its number: the dictionary `save_result` takes. -/
structure ResultValues extends Identity where
  title : String
  metric : String
  contributors : List Contributor
  distinctContributors : Int
  countLimited : Bool
  countableTokens : Int
  wikiwhoRevisionId : Int
  computedAt : Time
  deriving DecidableEq, Repr

structure AttributionResult extends ResultValues where
  id : Nat
  deriving DecidableEq, Repr

instance : Keyed AttributionResult Identity := ⟨fun result => result.toIdentity⟩
instance : Numbered AttributionResult := ⟨AttributionResult.id⟩

@[simp] theorem result_key (result : AttributionResult) :
    Keyed.key result = result.toIdentity := rfl
@[simp] theorem result_number (result : AttributionResult) :
    Numbered.number result = result.id := rfl

structure ActiveWiki where
  wiki : String
  firstSeenAt : Time
  lastResultAt : Time
  deriving DecidableEq, Repr

instance : Keyed ActiveWiki String := ⟨ActiveWiki.wiki⟩

@[simp] theorem active_key (row : ActiveWiki) : Keyed.key row = row.wiki := rfl

structure PageOptOut where
  wiki : String
  pageId : Int
  title : String
  source : String
  syncedAt : Time
  deriving DecidableEq, Repr

instance : Keyed PageOptOut (String × Int) := ⟨fun row => (row.wiki, row.pageId)⟩

@[simp] theorem optout_key (row : PageOptOut) : Keyed.key row = (row.wiki, row.pageId) := rfl

structure ContributorStanding where
  wiki : String
  userId : Int
  username : String
  blockedAt : Option Time
  blockExpiresAt : Option Time
  blockPartial : Bool
  blockReason : Option String
  globallyLocked : Bool
  lockReason : Option String
  lockCheckedAt : Option Time
  syncedAt : Time
  deriving DecidableEq, Repr

instance : Keyed ContributorStanding (String × Int) := ⟨fun row => (row.wiki, row.userId)⟩

@[simp] theorem standing_key (row : ContributorStanding) :
    Keyed.key row = (row.wiki, row.userId) := rfl

/-- The database. Numbers are MariaDB AUTO_INCREMENT values, which are not given out twice. -/
structure Store where
  work : SerialTable WorkItem
  results : SerialTable AttributionResult
  activeWikis : Table ActiveWiki
  pageOptout : Table PageOptOut
  contributorStanding : Table ContributorStanding

def Store.empty : Store := ⟨.empty, .empty, .empty, .empty, .empty⟩

def Store.LivePage (store : Store) (page : PageKey) : Prop :=
  ∃ item ∈ store.work.rows, item.toPageKey = page ∧ item.live = true

def Store.LiveAt (store : Store) (key : Identity) : Prop :=
  ∃ item ∈ store.work.rows, item.toIdentity = key ∧ item.live = true

/-- Some item of the page with a greater revision is pending or leased. -/
def Store.LiveAbove (store : Store) (key : Identity) : Prop :=
  ∃ item ∈ store.work.rows,
    item.toPageKey = key.toPageKey ∧ key.revisionId < item.revisionId ∧ item.live = true

theorem live_iff (item : WorkItem) :
    item.live = true ↔ item.state = .pending ∨ item.state = .leased := by
  simp [WorkItem.live]

end WikiPeople
