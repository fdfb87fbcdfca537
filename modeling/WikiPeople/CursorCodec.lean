import WikiPeople.Backfill
import WikiPeople.OddTokens

/-! The text form of the backfill cursor, over whatever may be stored and with the limit that
Python sets to numerals. -/

namespace WikiPeople

open Relational Text

/-- `str(number)`, which raises where the numeral would be too long. -/
def printed (number : Nat) : Except Exn (List Char) :=
  let digits := Nat.toDigits 10 number
  if maxStrDigits < digits.length then .error (.unexpected "ValueError") else .ok digits

namespace LengthCursor

/-- `encode`, where the numbers may have any length. -/
def encoded (cursor : LengthCursor) : Except Exn String := do
  let length ← printed cursor.length
  let pageId ← printed cursor.pageId
  .ok (String.ofList (length ++ ':' :: pageId))

def RoundTrips (unicode : Unicode) (cursor : LengthCursor) : Prop :=
  (cursor.encoded >>= fun raw => decode unicode (some raw)) = .ok (some cursor)

end LengthCursor

structure SplitsAs (unicode : Unicode) (raw : Option String) (length pageId : List Char) :
    Prop where
  text : raw = some (String.ofList (length ++ ':' :: pageId))
  length : unicode.isdigit length = true
  pageId : unicode.isdigit pageId = true

/-- The stored text is read without raising, and as a cursor only where it is two texts of
digits with a single colon between them. Where it is not, the job walks as from no cursor. -/
structure DecodesSafely (unicode : Unicode) (raw : Option String) : Prop where
  returns : ∃ cursor, LengthCursor.decode unicode raw = .ok cursor
  shaped : ∀ cursor, LengthCursor.decode unicode raw = .ok (some cursor) →
    ∃ length pageId, SplitsAs unicode raw length pageId ∧ ':' ∉ length ∧ ':' ∉ pageId ∧
      unicode.int? length = some cursor.length ∧ unicode.int? pageId = some cursor.pageId
  restarts : LengthCursor.decode unicode raw = .ok none → raw ≠ some completeMark →
    ∀ settings pages wiki clock batches database,
      BackfillTables.getState database (lengthCursorKey wiki) = raw →
      backfillByLength settings unicode pages wiki clock batches database =
        backfillBatches settings pages wiki clock (max 1 batches).toNat none 0 [] database

/-- `int` reads both numbers of a text that is split into two. -/
def ReadableCursor (unicode : Unicode) (raw : Option String) : Prop :=
  ∀ length pageId, SplitsAs unicode raw length pageId →
    ReadableDigits unicode length ∧ ReadableDigits unicode pageId

section Codec

variable {unicode : Unicode} {raw : Option String} {length pageId : List Char}

theorem printed_eq_ok {number : Nat} {digits : List Char} :
    printed number = .ok digits ↔ number < 10 ^ maxStrDigits ∧ digits = Nat.toDigits 10 number := by
  rw [← Nat.length_toDigits_le_iff (by decide) (by decide), printed]
  split
  · rename_i long
    constructor
    · intro wrong
      cases wrong
    · rintro ⟨short, -⟩
      exact absurd long (Nat.not_lt.mpr short)
  · rename_i short
    rw [Except.ok.injEq, eq_comm]
    exact (and_iff_right (Nat.not_lt.mp short)).symm

theorem decode_split (documented : unicode.Documented)
    (split_ : SplitsAs unicode raw length pageId) :
    LengthCursor.decode unicode raw = (do
      let length ← numeral unicode length
      let pageId ← numeral unicode pageId
      .ok (some ⟨length, pageId⟩)) := by
  obtain ⟨rfl, first, second⟩ := split_
  have free : ':' ∉ length := documented.not_mem first (by decide) (by decide)
  rw [LengthCursor.decode, String.toList_ofList, partition_append free]
  simp only [first, second, Bool.not_true, Bool.or_self, Bool.false_eq_true, if_false]

theorem decode_unsplit (unsplit : ∀ length pageId, ¬ SplitsAs unicode raw length pageId) :
    LengthCursor.decode unicode raw = .ok none := by
  cases raw with
  | none => rfl
  | some text =>
      rw [LengthCursor.decode]
      split
      · rfl
      · rename_i length pageId parts
        have whole := (partition_eq parts).1
        by_cases digits : unicode.isdigit length = true ∧ unicode.isdigit pageId = true
        · refine absurd ⟨?_, digits.1, digits.2⟩ (unsplit length pageId)
          rw [← whole, String.ofList_toList]
        · rw [if_pos]
          rwa [← Bool.not_and, Bool.not_eq_true', Bool.and_eq_false_iff, ← Bool.not_eq_true,
            ← Bool.not_eq_true, ← not_and_or]

theorem encode_eq (cursor : LengthCursor) : cursor.encode =
    String.ofList (Nat.toDigits 10 cursor.length ++ ':' :: Nat.toDigits 10 cursor.pageId) := by
  rw [← String.ofList_toList (s := cursor.encode)]
  simp [LengthCursor.encode, toString]

theorem encoded_eq_ok {cursor : LengthCursor} {text : String} :
    cursor.encoded = .ok text ↔ cursor.length < 10 ^ maxStrDigits ∧
      cursor.pageId < 10 ^ maxStrDigits ∧ text = cursor.encode := by
  rw [encode_eq]
  constructor
  · intro returned
    obtain ⟨length, first, returned⟩ := bind_eq_ok.mp returned
    obtain ⟨pageId, second, returned⟩ := bind_eq_ok.mp returned
    obtain ⟨short, rfl⟩ := printed_eq_ok.mp first
    obtain ⟨brief, rfl⟩ := printed_eq_ok.mp second
    cases returned
    exact ⟨short, brief, rfl⟩
  · rintro ⟨short, brief, rfl⟩
    rw [LengthCursor.encoded, printed_eq_ok.mpr ⟨short, rfl⟩, printed_eq_ok.mpr ⟨brief, rfl⟩]
    rfl

theorem encode_splits {cursor : LengthCursor} :
    SplitsAs unicode (some cursor.encode) (Nat.toDigits 10 cursor.length)
      (Nat.toDigits 10 cursor.pageId) :=
  ⟨congrArg some (encode_eq cursor), Unicode.isdigit_toDigits _, Unicode.isdigit_toDigits _⟩

/-- A stored text that is no cursor has the job walk as from no cursor. -/
theorem backfillByLength_restarts {settings : Settings} {pages : Table PageRow} {wiki : String}
    {clock : ReplicaPage → Time} {batches : Int} {database : BackfillTables}
    (unread : LengthCursor.decode unicode raw = .ok none) (going : raw ≠ some completeMark)
    (stored : database.getState (lengthCursorKey wiki) = raw) :
    backfillByLength settings unicode pages wiki clock batches database =
      backfillBatches settings pages wiki clock (max 1 batches).toNat none 0 [] database := by
  rw [backfillByLength, stored, if_neg going, unread]

theorem decodesSafely_of_readable (documented : unicode.Documented)
    (readable : ReadableCursor unicode raw) : DecodesSafely unicode raw := by
  by_cases shape : ∃ length pageId, SplitsAs unicode raw length pageId
  · obtain ⟨length, pageId, shape⟩ := shape
    have digits := readable length pageId shape
    obtain ⟨first, ofLength⟩ := numeral_returns.mpr digits.1
    obtain ⟨second, ofPageId⟩ := numeral_returns.mpr digits.2
    have read : LengthCursor.decode unicode raw = .ok (some ⟨first, second⟩) := by
      rw [decode_split documented shape, ofLength, ofPageId]
      rfl
    refine ⟨⟨_, read⟩, ?_, ?_⟩
    · intro cursor same
      rw [read] at same
      cases same
      exact ⟨length, pageId, shape, documented.not_mem shape.length (by decide) (by decide),
        documented.not_mem shape.pageId (by decide) (by decide),
        (numeral_eq_ok.mp ofLength).2, (numeral_eq_ok.mp ofPageId).2⟩
    · intro unread
      rw [read] at unread
      cases unread
  · have read := decode_unsplit (fun length pageId split_ => shape ⟨length, pageId, split_⟩)
    refine ⟨⟨none, read⟩, ?_, ?_⟩
    · intro cursor same
      rw [read] at same
      cases same
    · intro unread going settings pages wiki clock batches database stored
      exact backfillByLength_restarts unread going stored

end Codec

/-- The codec is exact on the numbers Python prints, and the job survives exactly the texts
whose digits `int` reads. -/
theorem cursor_codec_iff (unicode : Unicode) (documented : unicode.Documented) :
    (∀ cursor : LengthCursor, cursor.RoundTrips unicode ↔
      cursor.length < 10 ^ maxStrDigits ∧ cursor.pageId < 10 ^ maxStrDigits) ∧
    ∀ raw, DecodesSafely unicode raw ↔ ReadableCursor unicode raw := by
  constructor
  · intro cursor
    constructor
    · intro trips
      obtain ⟨text, written, -⟩ := bind_eq_ok.mp trips
      obtain ⟨short, brief, -⟩ := encoded_eq_ok.mp written
      exact ⟨short, brief⟩
    · rintro ⟨short, brief⟩
      have written := encoded_eq_ok.mpr ⟨short, brief, rfl⟩
      have shape := @encode_splits unicode cursor
      rw [LengthCursor.RoundTrips, written]
      change LengthCursor.decode unicode (some cursor.encode) = _
      rw [decode_split documented shape, numeral_toDigits short, numeral_toDigits brief]
      rfl
  · intro raw
    constructor
    · intro safe length pageId shape
      obtain ⟨cursor, read⟩ := safe.returns
      rw [decode_split documented shape] at read
      obtain ⟨first, ofLength, read⟩ := bind_eq_ok.mp read
      obtain ⟨second, ofPageId, -⟩ := bind_eq_ok.mp read
      exact ⟨numeral_returns.mp ⟨first, ofLength⟩, numeral_returns.mp ⟨second, ofPageId⟩⟩
    · exact decodesSafely_of_readable documented

theorem printable {number : Nat} (small : number < 10 ^ 5) : number < 10 ^ maxStrDigits :=
  Nat.lt_of_lt_of_le small (Nat.pow_le_pow_right (by decide) (by decide))

/-- A cursor and a page title that an older version stored. -/
theorem cursor_codec_iff_bononia :
    LengthCursor.RoundTrips asciiUnicode ⟨50000, 3⟩ ∧
      DecodesSafely asciiUnicode (some "(361)_Bononia") := by
  obtain ⟨trips, safe⟩ := cursor_codec_iff asciiUnicode asciiUnicode_documented
  refine ⟨(trips _).mpr ⟨printable (by decide), printable (by decide)⟩, (safe _).mpr ?_⟩
  rintro length pageId ⟨text, -, -⟩
  have missing : ':' ∉ "(361)_Bononia".toList := by decide
  rw [Option.some.inj text, String.toList_ofList] at missing
  exact absurd (by simp) missing

/-- A stored superscript crashes the job, and a number of 4301 digits is not written. -/
theorem odd_cursor_raises : superscriptUnicode.Documented ∧
    LengthCursor.decode superscriptUnicode (some "²:1") = .error (.unexpected "ValueError") ∧
      ¬ DecodesSafely superscriptUnicode (some "²:1") ∧
      (backfillByLength fromEnv superscriptUnicode Table.empty "frwiki" (fun _ => 0) 1
        ⟨Store.empty, Table.empty.put (lengthCursorKey "frwiki", "²:1")⟩).outcome =
          .error (.unexpected "ValueError") ∧
      ¬ LengthCursor.RoundTrips superscriptUnicode ⟨10 ^ maxStrDigits, 1⟩ := by
  have raises : LengthCursor.decode superscriptUnicode (some "²:1") =
      .error (.unexpected "ValueError") := by decide
  refine ⟨superscriptUnicode_documented, raises, ?_, by decide, ?_⟩
  · intro safe
    obtain ⟨cursor, read⟩ := safe.returns
    rw [raises] at read
    cases read
  · intro trips
    obtain ⟨text, written, -⟩ := bind_eq_ok.mp trips
    exact absurd (encoded_eq_ok.mp written).1 (Nat.lt_irrefl _)

end WikiPeople
