import Mathlib.Data.List.Perm.Subperm
import WikiPeople.Repository.Results

/-! The retention job. -/

namespace WikiPeople

open Relational

def expiredWork (cutoff : Time) (item : WorkItem) : Bool :=
  !item.live && item.updatedAt < cutoff

/-- A result older than the cutoff, of a page that has a later computed one. -/
def obsoleteResult (store : Store) (cutoff : Time) (result : AttributionResult) : Bool :=
  result.computedAt < cutoff &&
    store.results.rows.any (fun newer =>
      newer.toPageKey = result.toPageKey && result.computedAt < newer.computedAt)

def cleanupLimit : Nat := 10000

/-- A choice of rows that `LIMIT` allows the database. -/
def limited (limit : Nat) (all chosen : List Nat) : Bool :=
  chosen.all (fun id => id ∈ all) && chosen.Nodup && chosen.length = min limit all.length

def obsoleteIds (store : Store) (cutoff : Time) : List Nat :=
  (store.results.rows.filter (obsoleteResult store cutoff)).map AttributionResult.id

/-- `chosen` are the obsolete rows the database hands over; `none` where it could not. -/
def cleanup (store : Store) (queueDays supersededResultDays : Int) (chosen : List Nat)
    (now : Time) : Option Store :=
  let queueCutoff := now - days queueDays
  let resultCutoff := now - days supersededResultDays
  if limited cleanupLimit (obsoleteIds store resultCutoff) chosen then
    some
      { store with
        work := store.work.delete (expiredWork queueCutoff)
        results := store.results.delete (fun result => result.id ∈ chosen) }
  else none

/-- What the retention job can do: rows go, and no work in progress is among them. -/
structure Cleaned (before after : Store) : Prop where
  work : ∀ row ∈ after.work.rows, row ∈ before.work.rows
  live : ∀ row ∈ before.work.rows, row.live = true → row ∈ after.work.rows
  next : after.work.next = before.work.next
  results : ∀ result ∈ after.results.rows, result ∈ before.results.rows
  activeWikis : after.activeWikis = before.activeWikis

theorem cleanup_cleaned {store after : Store} {queueDays supersededResultDays : Int}
    {chosen : List Nat} {now : Time}
    (removed : cleanup store queueDays supersededResultDays chosen now = some after) :
    Cleaned store after := by
  simp only [cleanup] at removed
  split at removed
  · cases removed
    refine ⟨?_, ?_, rfl, ?_, rfl⟩
    · intro row member
      exact (SerialTable.mem_delete.mp member).1
    · intro row present live
      refine SerialTable.mem_delete.mpr ⟨present, ?_⟩
      simp [expiredWork, live]
    · intro result member
      exact (SerialTable.mem_delete.mp member).1
  · cases removed

/-- The newest result of a page is never obsolete, so what the page serves stays. -/
theorem cleanup_latest {store after : Store} {queueDays supersededResultDays : Int}
    {chosen : List Nat} {now : Time}
    (cleaned : cleanup store queueDays supersededResultDays chosen now = some after)
    (page : PageKey) : getLatestResult after page = getLatestResult store page := by
  simp only [cleanup] at cleaned
  split at cleaned
  · rename_i allowed
    have same := Option.some.inj cleaned
    subst same
    simp only [limited, Bool.and_eq_true, List.all_eq_true, decide_eq_true_eq] at allowed
    cases latest : getLatestResult store page with
    | none =>
        rw [latest_eq_none] at latest ⊢
        exact fun result member => latest result (Table.mem_delete.mp member).1
    | some result =>
        obtain ⟨present, samePage⟩ := latest_mem latest
        have spared : result.id ∉ chosen := by
          intro picked
          obtain ⟨other, obsolete, number⟩ := List.mem_map.mp (allowed.1.1 _ picked)
          rw [List.mem_filter] at obsolete
          have equal := SerialTable.row_of_number obsolete.1 present number
          subst equal
          simp only [obsoleteResult, Bool.and_eq_true, List.any_eq_true, decide_eq_true_eq]
            at obsolete
          obtain ⟨newer, newerPresent, newerPage, later⟩ := obsolete.2.2
          have order := latest_newest latest newerPresent (newerPage.trans samePage)
          have bound := Prod.Lex.monotone_fst _ _ order
          exact absurd later (not_lt.mpr bound)
        refine latest_of_newest (SerialTable.mem_delete.mpr ⟨present, ?_⟩) samePage ?_
        · exact decide_eq_false spared
        · intro other member otherPage
          exact latest_newest latest (SerialTable.mem_delete.mp member).1 otherPage
  · cases cleaned

/-- Everything the retention job promises about the results and the work. -/
structure KeepsServing (before after : Store) (queueCutoff resultCutoff : Time) : Prop where
  served : ∀ page, getLatestResult after page = getLatestResult before page
  kept : ∀ result ∈ after.results.rows, result ∈ before.results.rows
  removed : ∀ result ∈ before.results.rows, result ∉ after.results.rows →
    result.computedAt < resultCutoff ∧ ∃ newer ∈ before.results.rows,
      newer.toPageKey = result.toPageKey ∧ result.computedAt < newer.computedAt
  all : (before.results.rows.filter (obsoleteResult before resultCutoff)).length ≤ cleanupLimit →
    ∀ result ∈ before.results.rows, ∀ newer ∈ before.results.rows,
      result.computedAt < resultCutoff → newer.toPageKey = result.toPageKey →
      result.computedAt < newer.computedAt → result ∉ after.results.rows
  unfinished : ∀ item ∈ before.work.rows, item.state = .pending ∨ item.state = .leased →
    item ∈ after.work.rows
  finished : ∀ item ∈ before.work.rows, item.state = .dead ∨ item.state = .superseded →
    (item ∉ after.work.rows ↔ item.updatedAt < queueCutoff)

section Retention

variable {store after : Store} {queueDays supersededResultDays : Int} {chosen : List Nat}
  {now cutoff : Time}

theorem obsoleteResult_eq_true {result : AttributionResult} :
    obsoleteResult store cutoff result = true ↔
      result.computedAt < cutoff ∧ ∃ newer ∈ store.results.rows,
        newer.toPageKey = result.toPageKey ∧ result.computedAt < newer.computedAt := by
  simp only [obsoleteResult, Bool.and_eq_true, List.any_eq_true, decide_eq_true_eq]

theorem not_expiredWork {item : WorkItem} (idle : item.live = false) :
    expiredWork cutoff item = false ↔ ¬ item.updatedAt < cutoff := by
  rw [expiredWork, idle, Bool.not_false, Bool.true_and, decide_eq_false_iff_not]

theorem limited_eq_true {limit : Nat} {all : List Nat} :
    limited limit all chosen = true ↔
      (∀ id ∈ chosen, id ∈ all) ∧ chosen.Nodup ∧ chosen.length = min limit all.length := by
  simp only [limited, Bool.and_eq_true, List.all_eq_true, decide_eq_true_eq, and_assoc]

theorem mem_of_limited {limit : Nat} {all : List Nat} (allowed : limited limit all chosen = true)
    (few : all.length ≤ limit) {id : Nat} (present : id ∈ all) : id ∈ chosen := by
  obtain ⟨part, once, size⟩ := limited_eq_true.mp allowed
  rw [Nat.min_eq_right few] at size
  have permuted := (List.subperm_of_subset once part).perm_of_length_le (le_of_eq size.symm)
  exact permuted.mem_iff.mpr present

theorem cleanup_allowed
    (cleaned : cleanup store queueDays supersededResultDays chosen now = some after) :
    limited cleanupLimit (obsoleteIds store (now - days supersededResultDays)) chosen = true ∧
      (∀ row, row ∈ after.work.rows ↔
        row ∈ store.work.rows ∧ expiredWork (now - days queueDays) row = false) ∧
      ∀ result, result ∈ after.results.rows ↔
        result ∈ store.results.rows ∧ result.id ∉ chosen := by
  simp only [cleanup] at cleaned
  split at cleaned
  · rename_i allowed
    cases cleaned
    refine ⟨allowed, fun row => SerialTable.mem_delete, fun result => ?_⟩
    rw [SerialTable.mem_delete, decide_eq_false_iff_not]
  · cases cleaned

/-- The retention job never changes what a page serves. -/
theorem cleanup_keepsServing
    (cleaned : cleanup store queueDays supersededResultDays chosen now = some after) :
    KeepsServing store after (now - days queueDays) (now - days supersededResultDays) := by
  obtain ⟨allowed, work, results⟩ := cleanup_allowed cleaned
  refine ⟨cleanup_latest cleaned, fun result member => ((results result).mp member).1, ?_, ?_, ?_,
    ?_⟩
  · intro result present gone
    have picked : result.id ∈ chosen := by
      by_contra spared
      exact gone ((results result).mpr ⟨present, spared⟩)
    obtain ⟨other, found, number⟩ := List.mem_map.mp ((limited_eq_true.mp allowed).1 _ picked)
    obtain ⟨member, obsolete⟩ := List.mem_filter.mp found
    rw [SerialTable.row_of_number member present number] at obsolete
    exact obsoleteResult_eq_true.mp obsolete
  · intro few result present newer later old page order kept
    have obsolete := obsoleteResult_eq_true.mpr ⟨old, newer, later, page, order⟩
    have listed : result.id ∈ obsoleteIds store (now - days supersededResultDays) :=
      List.mem_map.mpr ⟨result, List.mem_filter.mpr ⟨present, obsolete⟩, rfl⟩
    have size : (obsoleteIds store (now - days supersededResultDays)).length ≤ cleanupLimit := by
      rwa [obsoleteIds, List.length_map]
    exact ((results result).mp kept).2 (mem_of_limited allowed size listed)
  · intro item present live
    refine (work item).mpr ⟨present, ?_⟩
    rcases live with state | state <;> simp [expiredWork, WorkItem.live, state]
  · intro item present ended
    have idle : item.live = false := by
      rcases ended with state | state <;> simp [WorkItem.live, state]
    rw [work, not_expiredWork idle, not_and, not_not]
    exact ⟨fun gone => gone present, fun old _ => old⟩

end Retention

/-- Two generations of a page and the only result of another, all sixty days old. -/
def oldStore : Store :=
  let values (pageId revisionId : Int) (computedAt : Time) : ResultValues :=
    ⟨⟨⟨"frwiki", pageId, "v1"⟩, revisionId⟩, "Page", "test", [], 1, false, 1, revisionId,
      computedAt⟩
  saveResult (saveResult (saveResult Store.empty (values 10 20 0)) (values 10 21 1))
    (values 11 30 0)

theorem cleanup_keepsServing_old :
    ∃ after, cleanup oldStore 30 30 [0] (days 60) = some after ∧
      KeepsServing oldStore after (days 60 - days 30) (days 60 - days 30) :=
  ⟨_, rfl, @cleanup_keepsServing oldStore _ 30 30 [0] (days 60) rfl⟩

end WikiPeople
