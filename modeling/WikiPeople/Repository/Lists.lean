import WikiPeople.Library.Replacement
import WikiPeople.Policy

/-! The materialised lists: wikis with a result, opted-out pages and account standings. -/

namespace WikiPeople

open Relational

/-- Whether the wiki is seen for the first time, and the table with its visit recorded. -/
def registerActiveWiki (store : Store) (wiki : String) (now : Time) : Bool × Store :=
  match store.activeWikis.find wiki with
  | some existing =>
      (false,
        { store with
          activeWikis := store.activeWikis.put { existing with lastResultAt := now } })
  | none => (true, { store with activeWikis := store.activeWikis.put ⟨wiki, now, now⟩ })

def activeWikis (store : Store) : List String :=
  (store.activeWikis.rows.map ActiveWiki.wiki).mergeSort (fun first second => first ≤ second)

theorem mem_activeWikis {store : Store} {wiki : String} :
    wiki ∈ activeWikis store ↔ ∃ row ∈ store.activeWikis.rows, row.wiki = wiki := by
  simp [activeWikis]

theorem register_activeWikis {store : Store} {wiki : String} {now : Time} :
    wiki ∈ activeWikis (registerActiveWiki store wiki now).2 := by
  rw [mem_activeWikis]
  unfold registerActiveWiki
  split
  · rename_i existing found
    refine ⟨{ existing with lastResultAt := now }, Table.mem_put.mpr (Or.inl rfl), ?_⟩
    exact (Table.find_eq_some.mp found).2
  · exact ⟨_, Table.mem_put.mpr (Or.inl rfl), rfl⟩

theorem register_keeps {store : Store} {wiki other : String} {now : Time}
    (active : other ∈ activeWikis store) :
    other ∈ activeWikis (registerActiveWiki store wiki now).2 := by
  by_cases same : other = wiki
  · rw [same]
    exact register_activeWikis
  · obtain ⟨row, present, rfl⟩ := mem_activeWikis.mp active
    rw [mem_activeWikis]
    unfold registerActiveWiki
    split
    · rename_i existing found
      have name : existing.wiki = wiki := (Table.find_eq_some.mp found).2
      refine ⟨row, Table.mem_put.mpr (Or.inr ⟨present, ?_⟩), rfl⟩
      exact fun equal => same (equal.trans name)
    · exact ⟨row, Table.mem_put.mpr (Or.inr ⟨present, same⟩), rfl⟩

theorem register_frame (store : Store) (wiki : String) (now : Time) :
    (registerActiveWiki store wiki now).2 =
      { store with activeWikis := (registerActiveWiki store wiki now).2.activeWikis } := by
  unfold registerActiveWiki
  split <;> rfl

def isOptedOut (store : Store) (wiki : String) (pageId : Int) : Bool :=
  (store.pageOptout.find (wiki, pageId)).isSome

/-- One article the on-wiki list resolves to, with the entry that named it. -/
structure OptOutEntry where
  pageId : Int
  title : String
  source : String
  deriving DecidableEq, Repr

/-- A dictionary comprehension: a later entry of a page replaces an earlier one. -/
def entriesByPage (entries : List OptOutEntry) : Dict Int OptOutEntry :=
  entries.foldl (fun wanted entry => wanted.put (entry.pageId, entry)) .empty

def optoutRow (wiki : String) (now : Time) (entry : OptOutEntry) : PageOptOut :=
  { wiki := wiki, pageId := entry.pageId, title := entry.title, source := entry.source
    syncedAt := now }

/-- Make the stored list of one wiki match `entries`, answering how many were added and
removed. -/
def replaceOptout (store : Store) (wiki : String) (entries : List OptOutEntry) (now : Time) :
    (Nat × Nat) × Store :=
  let wanted := entriesByPage entries
  let unlisted := fun row : PageOptOut => row.wiki = wiki && (wanted.find row.pageId).isNone
  let removed := store.pageOptout.rows.filter unlisted
  let added := wanted.rows.filter (fun entry => !isOptedOut store wiki entry.1)
  let table := wanted.rows.foldl (fun table entry => table.put (optoutRow wiki now entry.2))
    (store.pageOptout.delete unlisted)
  ((added.length, removed.length), { store with pageOptout := table })

theorem replaceOptout_empty (store : Store) (wiki : String) (now : Time) :
    (replaceOptout store wiki [] now).2.pageOptout.rows =
      store.pageOptout.rows.filter (fun row => row.wiki ≠ wiki) := by
  simp [replaceOptout, entriesByPage, Table.delete, Table.empty, Table.find]

theorem replaceOptout_empty_iff {store : Store} {wiki : String} {now : Time} :
    (replaceOptout store wiki [] now).2.pageOptout = store.pageOptout ↔
      ∀ row ∈ store.pageOptout.rows, row.wiki ≠ wiki := by
  constructor
  · intro same row member
    have kept : row ∈ (replaceOptout store wiki [] now).2.pageOptout.rows := by
      rw [same]
      exact member
    rw [replaceOptout_empty, List.mem_filter] at kept
    simpa using kept.2
  · intro unlisted
    apply Table.eq_of_rows
    rw [replaceOptout_empty]
    exact List.filter_eq_self.mpr (fun row member => by simpa using unlisted row member)

section Listed

variable {store : Store} {wiki : String} {entries : List OptOutEntry} {now : Time}

/-- The rows that `replace_optout` writes. -/
def wantedOptouts (wiki : String) (entries : List OptOutEntry) (now : Time) :
    List PageOptOut :=
  (entriesByPage entries).rows.map (fun entry => optoutRow wiki now entry.2)

def optoutKeys (store : Store) (wiki : String) : List (String × Int) :=
  store.pageOptout.keysIn (fun row => row.wiki = wiki)

theorem replaceOptout_table (store : Store) (wiki : String) (entries : List OptOutEntry)
    (now : Time) :
    (replaceOptout store wiki entries now).2.pageOptout =
      (wantedOptouts wiki entries now).foldl Table.put
        (store.pageOptout.delete (fun row =>
          row.wiki = wiki && ((entriesByPage entries).find row.pageId).isNone)) := by
  rw [wantedOptouts, List.foldl_map]
  rfl

variable (distinct : (entries.map OptOutEntry.pageId).Nodup)
include distinct

theorem mem_entriesByPage {entry : Int × OptOutEntry} :
    entry ∈ (entriesByPage entries).rows ↔ entry.2 ∈ entries ∧ entry.1 = entry.2.pageId :=
  mem_byName distinct

theorem mem_wantedOptouts {row : PageOptOut} :
    row ∈ wantedOptouts wiki entries now ↔ ∃ entry ∈ entries, row = optoutRow wiki now entry := by
  rw [wantedOptouts, List.mem_map]
  constructor
  · rintro ⟨entry, member, rfl⟩
    exact ⟨entry.2, ((mem_entriesByPage distinct).mp member).1, rfl⟩
  · rintro ⟨entry, present, rfl⟩
    exact ⟨(entry.pageId, entry), (mem_entriesByPage distinct).mpr ⟨present, rfl⟩, rfl⟩

theorem replaceOptout_replaces (store : Store) (wiki : String) (now : Time) :
    Replaces store.pageOptout (wantedOptouts wiki entries now) (fun row => row.wiki = wiki)
      (fun row => row.wiki = wiki && ((entriesByPage entries).find row.pageId).isNone) := by
  refine replaces_dict store.pageOptout (entriesByPage entries) wiki
    (fun entry => optoutRow wiki now entry.2) ?_
  intro entry present
  rw [((mem_entriesByPage distinct).mp present).2]
  rfl

theorem mem_replaceOptout {row : PageOptOut} :
    row ∈ (replaceOptout store wiki entries now).2.pageOptout.rows ↔
      (∃ entry ∈ entries, row = optoutRow wiki now entry) ∨
        (row ∈ store.pageOptout.rows ∧ row.wiki ≠ wiki) := by
  rw [replaceOptout_table, (replaceOptout_replaces distinct store wiki now).mem_rows,
    mem_wantedOptouts distinct, decide_eq_false_iff_not]

theorem replaceOptout_others {row : PageOptOut} (outside : row.wiki ≠ wiki) :
    row ∈ (replaceOptout store wiki entries now).2.pageOptout.rows ↔
      row ∈ store.pageOptout.rows := by
  rw [replaceOptout_table]
  exact (replaceOptout_replaces distinct store wiki now).mem_outside (decide_eq_false outside)

theorem wantedOptouts_length : (wantedOptouts wiki entries now).length = entries.length := by
  rw [wantedOptouts, List.length_map]
  exact length_byName distinct

theorem replaceOptout_counts (store : Store) (wiki : String) (now : Time) :
    (optoutKeys (replaceOptout store wiki entries now).2 wiki).length = entries.length ∧
      (optoutKeys store wiki).length + (replaceOptout store wiki entries now).1.1 =
        entries.length + (replaceOptout store wiki entries now).1.2 := by
  have replaces := replaceOptout_replaces distinct store wiki now
  have length := @wantedOptouts_length wiki entries now distinct
  have added : (replaceOptout store wiki entries now).1.1 =
      ((wantedOptouts wiki entries now).filter
        (fun row => (store.pageOptout.find (Keyed.key row)).isNone)).length := by
    rw [wantedOptouts, List.filter_map, List.length_map]
    refine congrArg List.length (List.filter_congr ?_)
    intro entry member
    rw [Function.comp_apply, optout_key, isOptedOut, Option.not_isSome,
      ((mem_entriesByPage distinct).mp member).2]
    rfl
  constructor
  · rw [optoutKeys, replaceOptout_table, replaces.perm_keys.length_eq, List.length_map,
      length]
  · rw [added, optoutKeys, replaces.total, length]
    rfl

end Listed

def ContributorStanding.standing (row : ContributorStanding) : AccountStanding :=
  { userId := row.userId
    username := row.username
    blockedAt := row.blockedAt
    blockExpiresAt := row.blockExpiresAt
    blockPartial := row.blockPartial
    blockReason := row.blockReason
    globallyLocked := row.globallyLocked
    lockReason := row.lockReason }

/-- What is known about these accounts; an account nobody has looked at is absent. -/
def standingFor (store : Store) (wiki : String) (userIds : List Int) :
    List (Int × AccountStanding) :=
  if userIds.isEmpty then []
  else
    (store.contributorStanding.rows.filter
      (fun row => row.wiki = wiki && row.userId ∈ userIds)).map
        (fun row => (row.userId, row.standing))

theorem lookup_filter_map {Row Name Value : Type} [DecidableEq Name] (wanted : Row → Bool)
    (name : Row → Name) (value : Row → Value) (rows : List Row) (asked : Name) :
    ((rows.filter wanted).map (fun row => (name row, value row))).lookup asked =
      (rows.find? (fun row => wanted row && decide (name row = asked))).map value := by
  induction rows with
  | nil => rfl
  | cons row rows ih =>
      rw [List.filter_cons, List.find?_cons]
      cases listed : wanted row with
      | false => simpa only [Bool.false_and, Bool.false_eq_true, if_false] using ih
      | true =>
          rw [if_pos rfl, List.map_cons, List.lookup_cons, Bool.true_and]
          by_cases same : name row = asked
          · simp [same]
          · have apart : (asked == name row) = false := beq_false_of_ne (Ne.symm same)
            simpa [same, apart] using ih

/-- The rows of one wiki have distinct accounts, so the answer for an account that was
asked about is its own row. -/
theorem standingFor_lookup {store : Store} {wiki : String} {userIds : List Int} {userId : Int}
    (asked : userId ∈ userIds) :
    (standingFor store wiki userIds).lookup userId =
      (store.contributorStanding.find (wiki, userId)).map ContributorStanding.standing := by
  have nonempty : userIds.isEmpty = false := by
    cases userIds with
    | nil => cases asked
    | cons first rest => rfl
  simp only [standingFor, nonempty, Bool.false_eq_true, if_false, Table.find]
  rw [lookup_filter_map]
  congr 2
  funext row
  by_cases account : row.userId = userId
  · simp [account, asked]
  · simp [account]

/-- One account's standing, with when its global lock was last confirmed. -/
structure StandingRecord where
  standing : AccountStanding
  lockCheckedAt : Option Time
  deriving DecidableEq, Repr

def standingRow (wiki : String) (now : Time) (userId : Int) (record : StandingRecord) :
    ContributorStanding :=
  { wiki := wiki
    userId := userId
    username := record.standing.username
    blockedAt := record.standing.blockedAt
    blockExpiresAt := record.standing.blockExpiresAt
    blockPartial := record.standing.blockPartial
    blockReason := record.standing.blockReason
    globallyLocked := record.standing.globallyLocked
    lockReason := record.standing.lockReason
    lockCheckedAt := record.lockCheckedAt
    syncedAt := now }

def recordsByUser (records : List StandingRecord) : Dict Int StandingRecord :=
  records.foldl (fun wanted record => wanted.put (record.standing.userId, record)) .empty

/-- Make the tracked accounts of one wiki match `records`. -/
def replaceStanding (store : Store) (wiki : String) (records : List StandingRecord)
    (now : Time) : (Nat × Nat) × Store :=
  let wanted := recordsByUser records
  let untracked := fun row : ContributorStanding =>
    row.wiki = wiki && (wanted.find row.userId).isNone
  let removed := store.contributorStanding.rows.filter untracked
  let added := wanted.rows.filter
    (fun entry => (store.contributorStanding.find (wiki, entry.1)).isNone)
  let table := wanted.rows.foldl
    (fun table entry => table.put (standingRow wiki now entry.1 entry.2))
    (store.contributorStanding.delete untracked)
  ((added.length, removed.length), { store with contributorStanding := table })

section Replaced

variable {store : Store} {wiki : String} {now : Time}

theorem mem_recordsByUser {records : List StandingRecord}
    (distinct : (records.map (fun record => record.standing.userId)).Nodup)
    {entry : Int × StandingRecord} :
    entry ∈ (recordsByUser records).rows ↔
      entry.2 ∈ records ∧ entry.1 = entry.2.standing.userId :=
  mem_byName distinct

/-- The rows that `replace_standing` writes. -/
def wantedStandings (wiki : String) (records : List StandingRecord) (now : Time) :
    List ContributorStanding :=
  (recordsByUser records).rows.map (fun entry => standingRow wiki now entry.1 entry.2)

theorem mem_wantedStandings {records : List StandingRecord}
    (distinct : (records.map (fun record => record.standing.userId)).Nodup)
    {row : ContributorStanding} :
    row ∈ wantedStandings wiki records now ↔
      ∃ record ∈ records, row = standingRow wiki now record.standing.userId record := by
  rw [wantedStandings, List.mem_map]
  constructor
  · rintro ⟨entry, member, rfl⟩
    obtain ⟨present, same⟩ := (mem_recordsByUser distinct).mp member
    exact ⟨entry.2, present, by rw [same]⟩
  · rintro ⟨record, present, rfl⟩
    exact ⟨(record.standing.userId, record), (mem_recordsByUser distinct).mpr ⟨present, rfl⟩, rfl⟩

theorem replaceStanding_replaces (store : Store) (wiki : String) (records : List StandingRecord)
    (now : Time) :
    Replaces store.contributorStanding (wantedStandings wiki records now)
      (fun row => row.wiki = wiki)
      (fun row => row.wiki = wiki && ((recordsByUser records).find row.userId).isNone) :=
  replaces_dict store.contributorStanding (recordsByUser records) wiki
    (fun entry => standingRow wiki now entry.1 entry.2) (fun _ _ => rfl)

theorem replaceStanding_table (store : Store) (wiki : String) (records : List StandingRecord)
    (now : Time) :
    (replaceStanding store wiki records now).2.contributorStanding =
      (wantedStandings wiki records now).foldl Table.put
        (store.contributorStanding.delete (fun row =>
          row.wiki = wiki && ((recordsByUser records).find row.userId).isNone)) := by
  rw [wantedStandings, List.foldl_map]
  rfl

theorem mem_replaceStanding {records : List StandingRecord}
    (distinct : (records.map (fun record => record.standing.userId)).Nodup)
    {row : ContributorStanding} :
    row ∈ (replaceStanding store wiki records now).2.contributorStanding.rows ↔
      (∃ record ∈ records, row = standingRow wiki now record.standing.userId record) ∨
        (row ∈ store.contributorStanding.rows ∧ row.wiki ≠ wiki) := by
  rw [replaceStanding_table, (replaceStanding_replaces store wiki records now).mem_rows,
    mem_wantedStandings distinct, decide_eq_false_iff_not]

theorem replaceStanding_others {records : List StandingRecord} {row : ContributorStanding}
    (outside : row.wiki ≠ wiki) :
    row ∈ (replaceStanding store wiki records now).2.contributorStanding.rows ↔
      row ∈ store.contributorStanding.rows := by
  rw [replaceStanding_table]
  exact (replaceStanding_replaces store wiki records now).mem_outside (decide_eq_false outside)

def trackedKeys (store : Store) (wiki : String) : List (String × Int) :=
  store.contributorStanding.keysIn (fun row => row.wiki = wiki)

theorem replaceStanding_counts (store : Store) (wiki : String) (records : List StandingRecord)
    (now : Time) :
    let after := (replaceStanding store wiki records now).2
    (replaceStanding store wiki records now).1 =
      ((onlyIn (trackedKeys after wiki) (trackedKeys store wiki)).length,
        (onlyIn (trackedKeys store wiki) (trackedKeys after wiki)).length) := by
  have replaces := replaceStanding_replaces store wiki records now
  have added : (replaceStanding store wiki records now).1.1 =
      ((wantedStandings wiki records now).filter
        (fun row => (store.contributorStanding.find (row.wiki, row.userId)).isNone)).length := by
    rw [wantedStandings, List.filter_map, List.length_map]
    rfl
  intro after
  simp only [after, trackedKeys, replaceStanding_table]
  refine Prod.ext ?_ replaces.removed
  rw [added]
  exact replaces.added

end Replaced

end WikiPeople
