import WikiPeople.Library.Keyset
import WikiPeople.Policy
import WikiPeople.Repository.Queue
import Mathlib.Data.Prod.Lex

/-! The page table of a wiki's replica, and the cursor of the walk down the lengths. -/

namespace WikiPeople

open Relational Text

/-- A row of a replica's `page` table, whose `page_id` and `page_len` have 32 bits. -/
structure PageRow where
  pageId : Nat
  latest : Int
  length : Nat
  pageNamespace : Int
  isRedirect : Bool
  narrow : pageId < 2 ^ 32 ∧ length < 2 ^ 32
  deriving DecidableEq, Repr

instance : Keyed PageRow Nat := ⟨PageRow.pageId⟩

structure ReplicaPage where
  pageId : Nat
  revisionId : Int
  length : Nat
  deriving DecidableEq, Repr

/-- `(page_len, page_id)`, compared as SQL compares rows: lexicographically. -/
def ReplicaPage.position (page : ReplicaPage) : Nat ×ₗ Nat := toLex (page.length, page.pageId)

structure LengthCursor where
  length : Nat
  pageId : Nat
  deriving DecidableEq, Repr

namespace LengthCursor

def position (cursor : LengthCursor) : Nat ×ₗ Nat := toLex (cursor.length, cursor.pageId)

def encode (cursor : LengthCursor) : String := s!"{cursor.length}:{cursor.pageId}"

/-- An unreadable cursor restarts the walk. Numerals that `int` refuses raise. -/
def decode (unicode : Unicode) : Option String → Except Exn (Option LengthCursor)
  | none => .ok none
  | some raw =>
      match partition ':' raw.toList with
      | (_, none) => .ok none
      | (length, some pageId) =>
          if !unicode.isdigit length || !unicode.isdigit pageId then .ok none
          else do
            let length ← numeral unicode length
            let pageId ← numeral unicode pageId
            .ok (some ⟨length, pageId⟩)

variable {unicode : Unicode}

theorem decode_encode {cursor : LengthCursor} (short : cursor.length < 10 ^ maxStrDigits)
    (brief : cursor.pageId < 10 ^ maxStrDigits) :
    decode unicode (some cursor.encode) = .ok (some cursor) := by
  have text : cursor.encode.toList =
      Nat.toDigits 10 cursor.length ++ ':' :: Nat.toDigits 10 cursor.pageId := by
    simp [encode, toString]
  have free : ':' ∉ Nat.toDigits 10 cursor.length := by
    intro member
    exact absurd (Nat.isDigit_of_mem_toDigits (by decide) (by decide) member) (by decide)
  have parts := partition_append free (Nat.toDigits 10 cursor.pageId)
  rw [← text] at parts
  simp only [decode, parts, Unicode.isdigit_toDigits, numeral_toDigits short,
    numeral_toDigits brief]
  rfl

end LengthCursor

def articles (pages : Table PageRow) : List ReplicaPage :=
  (pages.rows.filter (fun row => row.pageNamespace = 0 && !row.isRedirect)).map
    (fun row => ⟨row.pageId, row.latest, row.length⟩)

/-- One batch, heaviest first, and where to resume; `none` where the wiki is exhausted. -/
def pagesByDescendingLength (pages : Table PageRow) (cursor : Option LengthCursor)
    (limit : Nat) : Except Exn (List ReplicaPage × Option LengthCursor) :=
  let found := batchBelow ReplicaPage.position (cursor.map LengthCursor.position) limit
    (articles pages)
  if found.length < limit then .ok (found, none)
  else
    match found.getLast? with
    | none => .error (.unexpected "IndexError")
    | some last => .ok (found, some ⟨last.length, last.pageId⟩)

section Descending

variable {pages : Table PageRow} {cursor : Option LengthCursor} {limit : Nat}
  {done rest : List ReplicaPage}

theorem articles_distinct (pages : Table PageRow) :
    ((articles pages).map ReplicaPage.position).Nodup := by
  apply List.Nodup.of_map (fun position => (ofLex position).2)
  rw [articles, List.map_map, List.map_map]
  exact pages.unique.sublist (List.filter_sublist.map _)

theorem narrow_printable {number : Nat} (narrow : number < 2 ^ 32) :
    number < 10 ^ maxStrDigits := by
  have digits : 10 ^ 10 ≤ 10 ^ maxStrDigits := Nat.pow_le_pow_right (by decide) (by decide)
  exact narrow.trans_le ((by decide : 2 ^ 32 ≤ 10 ^ 10).trans digits)

theorem articles_narrow {page : ReplicaPage} (article : page ∈ articles pages) :
    page.pageId < 2 ^ 32 ∧ page.length < 2 ^ 32 := by
  obtain ⟨row, _, rfl⟩ := List.mem_map.mp article
  exact row.narrow

def walkOrder (pages : Table PageRow) : List ReplicaPage :=
  descending ReplicaPage.position (articles pages)

def remaining (pages : Table PageRow) (cursor : Option LengthCursor) : List ReplicaPage :=
  (walkOrder pages).filter (below ReplicaPage.position (cursor.map LengthCursor.position))

theorem walkOrder_nodup : (walkOrder pages).Nodup :=
  ((descending_perm _).nodup_iff.mpr (List.Nodup.of_map _ (articles_distinct pages)))

/-- A batch is the start of what is left; its cursor leaves the rest, and it has no cursor
only where nothing is left. -/
theorem pagesByDescendingLength_spec (positive : 0 < limit)
    (split : walkOrder pages = done ++ rest) (left : remaining pages cursor = rest) :
    ∃ next, pagesByDescendingLength pages cursor limit = .ok (rest.take limit, next) ∧
      ((next = none ∧ rest.drop limit = []) ∨
        ∃ last, next = some last ∧ (last.pageId < 2 ^ 32 ∧ last.length < 2 ^ 32) ∧
          (rest.take limit).length = limit ∧
          remaining pages (some last) = rest.drop limit) := by
  have distinct := articles_distinct pages
  rw [pagesByDescendingLength, batchBelow_eq distinct left]
  split
  · rename_i short
    exact ⟨none, rfl, Or.inl ⟨rfl, drop_of_short short⟩⟩
  · rename_i whole
    have full : (rest.take limit).length = limit :=
      Nat.le_antisymm (List.length_take_le limit rest) (Nat.le_of_not_lt whole)
    cases last : (rest.take limit).getLast? with
    | none =>
        rw [List.getLast?_eq_none_iff] at last
        rw [last, List.length_nil] at full
        exact absurd full (Nat.ne_of_lt positive)
    | some page =>
        have listed : page ∈ walkOrder pages := by
          rw [split]
          exact List.mem_append_right done (List.mem_of_mem_take (List.mem_of_getLast? last))
        have narrow := articles_narrow ((descending_perm _).mem_iff.mp listed)
        exact ⟨_, rfl, Or.inr ⟨⟨page.length, page.pageId⟩, rfl, narrow, full,
          below_last distinct split last⟩⟩

end Descending

end WikiPeople
