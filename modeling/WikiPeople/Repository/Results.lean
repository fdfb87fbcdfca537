import WikiPeople.Models
import Mathlib.Data.Prod.Lex

/-! The table of stored results: the exact lookup, the newest result of a page, and saving. -/

namespace WikiPeople

open Relational

def getResult (store : Store) (key : Identity) : Option AttributionResult :=
  store.results.find key

/-- `ORDER BY computed_at DESC, id DESC`. -/
def computedOrder (result : AttributionResult) : Int ×ₗ Nat := toLex (result.computedAt, result.id)

def pageResults (store : Store) (page : PageKey) : List AttributionResult :=
  store.results.rows.filter (fun result => result.toPageKey = page)

def getLatestResult (store : Store) (page : PageKey) : Option AttributionResult :=
  largest computedOrder (pageResults store page)

theorem mem_pageResults {store : Store} {page : PageKey} {result : AttributionResult} :
    result ∈ pageResults store page ↔
      result ∈ store.results.rows ∧ result.toPageKey = page := by
  simp [pageResults]

theorem latest_mem {store : Store} {page : PageKey} {result : AttributionResult}
    (latest : getLatestResult store page = some result) :
    result ∈ store.results.rows ∧ result.toPageKey = page :=
  mem_pageResults.mp (largest_mem latest)

theorem latest_newest {store : Store} {page : PageKey} {result other : AttributionResult}
    (latest : getLatestResult store page = some result) (present : other ∈ store.results.rows)
    (same : other.toPageKey = page) : computedOrder other ≤ computedOrder result :=
  le_largest latest (mem_pageResults.mpr ⟨present, same⟩)

/-- The stored number breaks every tie, so the newest result is the only maximum. -/
theorem latest_of_newest {store : Store} {page : PageKey} {result : AttributionResult}
    (present : result ∈ store.results.rows) (same : result.toPageKey = page)
    (newest : ∀ other ∈ store.results.rows, other.toPageKey = page →
      computedOrder other ≤ computedOrder result) :
    getLatestResult store page = some result := by
  cases latest : getLatestResult store page with
  | none =>
      have empty := largest_eq_none.mp latest
      have member := mem_pageResults.mpr ⟨present, same⟩
      rw [empty] at member
      cases member
  | some best =>
      obtain ⟨bestPresent, bestPage⟩ := latest_mem latest
      have order : computedOrder best = computedOrder result :=
        le_antisymm (newest best bestPresent bestPage) (latest_newest latest present same)
      have number : best.id = result.id := congrArg (fun place => (ofLex place).2) order
      rw [SerialTable.row_of_number bestPresent present number]

theorem latest_eq_none {store : Store} {page : PageKey} :
    getLatestResult store page = none ↔
      ∀ result ∈ store.results.rows, result.toPageKey ≠ page := by
  rw [getLatestResult, largest_eq_none, pageResults, List.filter_eq_nil_iff]
  simp only [decide_eq_true_eq]

def resultDraft (values : ResultValues) : Draft AttributionResult where
  make := fun id => { values with id := id }
  number_make := fun _ => rfl

/-- Every column except the identity, which is the one the row was found by. -/
def overwritten (values : ResultValues) : Change AttributionResult where
  apply := fun row =>
    { toResultValues := { values with toIdentity := row.toIdentity }, id := row.id }
  key_apply := fun _ => rfl
  number_apply := fun _ => rfl

def saveResult (store : Store) (values : ResultValues) : Store :=
  match getResult store values.toIdentity with
  | none =>
      { store with results := (store.results.insert? (resultDraft values)).getD store.results }
  | some existing =>
      { store with
        results := store.results.update (fun row => row.id = existing.id) (overwritten values) }

def savedId (store : Store) (values : ResultValues) : Nat :=
  match getResult store values.toIdentity with
  | none => store.results.next
  | some existing => existing.id

@[simp] theorem saveResult_work (store : Store) (values : ResultValues) :
    (saveResult store values).work = store.work := by
  unfold saveResult
  split <;> rfl

@[simp] theorem saveResult_activeWikis (store : Store) (values : ResultValues) :
    (saveResult store values).activeWikis = store.activeWikis := by
  unfold saveResult
  split <;> rfl

theorem mem_saveResult {store : Store} {values : ResultValues} {row : AttributionResult} :
    row ∈ (saveResult store values).results.rows ↔
      (row ∈ store.results.rows ∧ row.toIdentity ≠ values.toIdentity) ∨
        row = { values with id := savedId store values } := by
  cases search : getResult store values.toIdentity with
  | none =>
      have absent := Table.find_eq_none.mp search
      cases inserted : store.results.insert? (resultDraft values) with
      | none =>
          obtain ⟨taken, present, same⟩ := SerialTable.insert?_eq_none.mp inserted
          exact absurd same (absent taken present)
      | some grown =>
          simp only [saveResult, savedId, search, inserted, Option.getD_some]
          rw [SerialTable.mem_insert? inserted]
          constructor
          · rintro (old | rfl)
            · exact Or.inl ⟨old, absent row old⟩
            · exact Or.inr rfl
          · rintro (⟨old, _⟩ | rfl)
            · exact Or.inl old
            · exact Or.inr rfl
  | some existing =>
      obtain ⟨present, sameKey⟩ := Table.find_eq_some.mp search
      simp only [saveResult, savedId, search]
      rw [SerialTable.mem_update]
      have replaced : SerialTable.changed (fun row => decide (row.id = existing.id))
          (overwritten values) existing = { values with id := existing.id } := by
        simp only [SerialTable.changed, decide_true, if_true, overwritten]
        rw [show existing.toIdentity = values.toIdentity from sameKey]
      constructor
      · rintro ⟨old, member, rfl⟩
        by_cases same : old.id = existing.id
        · rw [SerialTable.row_of_number member present same]
          exact Or.inr replaced
        · refine Or.inl ⟨?_, ?_⟩
          · simpa only [SerialTable.changed, same, decide_false, Bool.false_eq_true, if_false]
              using member
          · intro key
            refine same (congrArg AttributionResult.id
              (SerialTable.row_of_key member present ?_))
            rw [result_key, result_key]
            simp only [SerialTable.changed, same, decide_false, Bool.false_eq_true, if_false]
              at key
            exact key.trans sameKey.symm
      · rintro (⟨member, different⟩ | rfl)
        · refine ⟨row, member, ?_⟩
          have other : row.id ≠ existing.id := by
            intro same
            have equal := SerialTable.row_of_number member present same
            exact different (equal ▸ sameKey)
          simp only [SerialTable.changed, other, decide_false, Bool.false_eq_true, if_false]
        · exact ⟨existing, present, replaced⟩

end WikiPeople
