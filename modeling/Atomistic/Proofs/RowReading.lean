import Atomistic.Frame.Grammar
import Atomistic.Frame.Writing
import Atomistic.Proofs.NumeralGrammar
import Atomistic.Proofs.NumeralText
import Atomistic.Proofs.Results

/-! Rows of written values are read field by field as the values they were written from. -/

namespace Atomistic

open Number Text

/-- The number is not too long to be written, or to be read. -/
def WithinLimit (value : Nat) : Prop :=
  (Nat.toDigits 10 value).length ≤ digitLimit

instance (value : Nat) : Decidable (WithinLimit value) :=
  inferInstanceAs (Decidable (_ ≤ _))

theorem withinLimit_iff {value : Nat} : WithinLimit value ↔ value < 10 ^ digitLimit :=
  Nat.length_toDigits_le_iff (by decide) (by decide)

theorem WithinLimit.mono {value bound : Nat} (within : WithinLimit bound)
    (below : value ≤ bound) : WithinLimit value :=
  withinLimit_iff.2 (Nat.lt_of_le_of_lt below (withinLimit_iff.1 within))

section Fields

open FrameField

theorem dropFinalNewline_word {token : Line} (word : IsWord token) :
    dropFinalNewline token = token := by
  apply if_neg
  intro final
  exact (word.unbroken _ (List.mem_of_getLast? final)).1 rfl

theorem readReal_write (what : String) (x : Binary64) : readReal what x.write = .ok x := by
  obtain ⟨numeral, read, value⟩ := Binary64.readReal?_write x
  simp [readReal, dropFinalNewline_word (Binary64.isWord_write x), read, realValue, value]

theorem readInteger_writeInt (what : String) {value : Int} (within : WithinLimit value.natAbs) :
    readInteger what (writeInt value) = .ok value := by
  have length : (digitValues (Nat.toDigits 10 value.natAbs)).length ≤ digitLimit := by
    rw [digitValues, List.length_map]
    exact within
  simp [readInteger, dropFinalNewline_word (isWord_writeInt value), readInteger?_writeInt, length,
    value_writeInt]

theorem readFlag_write (isFixed : Bool) : readFlag (Column.flag isFixed).write = .ok isFixed := by
  cases isFixed <;> rfl

private theorem foldl_digits_lt {digits : List Nat} (small : ∀ digit ∈ digits, digit < 10)
    (total : Nat) :
    digits.foldl (fun total digit => 10 * total + digit) total <
      (total + 1) * 10 ^ digits.length := by
  induction digits generalizing total with
  | nil => simp
  | cons digit rest ih =>
    have first := small digit (by simp)
    have others := ih (fun other member => small other (by simp [member])) (10 * total + digit)
    have step : 10 * total + digit + 1 ≤ (total + 1) * 10 := by omega
    calc rest.foldl (fun total digit => 10 * total + digit) (10 * total + digit)
      _ < (10 * total + digit + 1) * 10 ^ rest.length := others
      _ ≤ (total + 1) * 10 * 10 ^ rest.length := Nat.mul_le_mul_right _ step
      _ = (total + 1) * 10 ^ (rest.length + 1) := by rw [Nat.pow_succ', Nat.mul_assoc]

theorem ofDigits_lt {digits : List Nat} (small : ∀ digit ∈ digits, digit < 10) :
    ofDigits digits < 10 ^ digits.length := by
  simpa [ofDigits] using foldl_digits_lt small 0

/-- Digits are counted with the zeros in front, so a number that was read can be written. -/
theorem withinLimit_of_isInteger {token : Line} {value : Int} (integer : IsInteger token value) :
    WithinLimit value.natAbs := by
  obtain ⟨-, spelled, -, few⟩ := integer
  have bound := Nat.lt_of_lt_of_le (ofDigits_lt spelled.lt) (Nat.pow_le_pow_right (by decide) few)
  apply withinLimit_iff.2
  unfold IntegerNumeral.value
  split <;> simpa using bound

end Fields

section Rows

/-- A column of a frame's rows holds a number or a flag, never free text. -/
def Column.IsPlain : Column → Prop
  | .word _ => False
  | _ => True

theorem Column.IsPlain.isWord {column : Column} (plain : column.IsPlain) :
    IsWord column.write := by
  cases column with
  | flag isFixed => cases isFixed <;> exact isWord_of_all rfl
  | real x => exact Binary64.isWord_write x
  | integer value => exact isWord_writeInt value
  | word text => exact plain.elim

theorem fields_writeRow {columns : List Column} (plain : ∀ column ∈ columns, column.IsPlain) :
    fields (writeRow columns) = columns.map Column.write := by
  apply fields_intercalate
  intro token member
  obtain ⟨column, inside, rfl⟩ := List.mem_map.1 member
  exact (plain column inside).isWord

theorem unbroken_writeRow {columns : List Column}
    (plain : ∀ column ∈ columns, column.IsPlain) : IsUnbroken (writeRow columns) := by
  apply unbroken_intercalate
  intro token member
  obtain ⟨column, inside, rfl⟩ := List.mem_map.1 member
  exact (plain column inside).isWord

open FrameField

theorem readReals_writeRow (what : String) (values : List Binary64) :
    readReals what values.length (writeRow (values.map .real)) = .ok values := by
  have row : fields (writeRow (values.map .real)) = values.map Binary64.write := by
    rw [fields_writeRow]
    · simp [Function.comp_def, Column.write]
    · simp [Column.IsPlain]
  have read : (values.map Binary64.write).mapM (readReal what) = .ok values :=
    mapM_map_eq_ok fun value _ => readReal_write what value
  simp only [readReals, split, row, List.length_map, if_true]
  exact read

theorem readIntegers_writeRow (what : String) {values : List Int}
    (within : ∀ value ∈ values, WithinLimit value.natAbs) :
    readIntegers what values.length (writeRow (values.map .integer)) = .ok values := by
  have row : fields (writeRow (values.map .integer)) = values.map writeInt := by
    rw [fields_writeRow]
    · simp [Function.comp_def, Column.write]
    · simp [Column.IsPlain]
  have read : (values.map writeInt).mapM (readInteger what) = .ok values :=
    mapM_map_eq_ok fun value member => readInteger_writeInt what (within value member)
  simp only [readIntegers, split, row, List.length_map, if_true]
  exact read

end Rows

section Lines

open FrameLine

theorem triple_columns (what : String) (values : Triple) :
    triple what (writeRow values.columns) = .ok values := by
  have row : fields (writeRow values.columns) =
      [values.x.write, values.y.write, values.z.write] := by
    rw [fields_writeRow]
    · rfl
    · simp [Triple.columns, Column.IsPlain]
  simp [triple, row, readReal_write]

theorem boxLengths_columns (cell : BoxLengths) :
    boxLengths (writeRow cell.lengths.columns) = .ok cell.lengths := by
  simp [boxLengths, triple_columns, cell.notNegative]

theorem speciesCount_writeInt {count : Nat} (within : WithinLimit count) :
    speciesCount (writeInt count) = .ok count := by
  have read : FrameField.readInteger "species count" (writeInt count) = .ok count :=
    readInteger_writeInt _ within
  have natural : ¬ (count : Int) < 0 := by omega
  simp [speciesCount, fields_word (isWord_writeInt count), read, natural]

theorem atomCounts_writeRow {counts : List Nat} (within : ∀ count ∈ counts, WithinLimit count) :
    atomCounts counts.length (writeRow (counts.map fun count : Nat => .integer count)) =
      .ok counts := by
  have read := @readIntegers_writeRow "atoms per species" (counts.map Nat.cast)
    (by simpa using within)
  have natural : (counts.map (Nat.cast : Nat → Int)).find? (· < 0) = none := by simp
  have back : (counts.map (Nat.cast : Nat → Int)).map Int.toNat = counts := by
    simp [Function.comp_def]
  rw [List.length_map, List.map_map] at read
  simp only [Function.comp_def] at read
  simp only [atomCounts, read, ok_bind, natural, back, pure_eq_ok]

theorem masses_writeRow (values : List Binary64) :
    masses values.length (writeRow (values.map .real)) = .ok values :=
  readReals_writeRow _ values

/-- A count is a number and no label. -/
theorem blockCount_writeRow (species place : Nat) {count : Nat} (within : WithinLimit count) :
    blockCount species count (writeRow [.integer count, .integer place]) = .ok () := by
  have row : fields (writeRow [.integer count, .integer place]) =
      [writeInt count, writeInt place] := by
    rw [fields_writeRow]
    · rfl
    · simp [Column.IsPlain]
  have read : FrameField.readInteger (speciesLabel species "count") (writeInt count) = .ok count :=
    readInteger_writeInt _ within
  have unlabelled : lowercase (writeInt count) ≠ coordinatesLabel := by
    obtain ⟨c, rest, shape⟩ :=
      List.exists_cons_of_ne_nil (Nat.toDigits_ne_nil (n := count) (b := 10))
    have digit : c.isDigit = true := areDigits_toDigits count c (by simp [shape])
    intro same
    rw [writeInt_natCast, shape, lowercase, List.map_cons, toLower_digit digit] at same
    cases (List.cons.inj same).1
    cases digit
  simp [blockCount, row, read, unlabelled]

/-- A site's row is read as the site when its id is not too long. -/
theorem site_writeRow {written : Site} (within : WithinLimit written.id) :
    site (writeRow (written.position.columns ++
      [.integer written.id, .flag written.isFixed])) = .ok written := by
  have row : fields (writeRow (written.position.columns ++
      [.integer written.id, .flag written.isFixed])) =
      [written.position.x.write, written.position.y.write, written.position.z.write,
        writeInt written.id, (Column.flag written.isFixed).write] := by
    rw [fields_writeRow]
    · rfl
    · simp [Triple.columns, Triple.toList, Column.IsPlain]
  have id : FrameField.readInteger "atom_id" (writeInt written.id) = .ok written.id :=
    readInteger_writeInt _ within
  have natural : ¬ (written.id : Int) < 0 := by omega
  simp [site, row, readReal_write, id, natural, readFlag_write]

/-- Such a row is also a line that can be written. -/
theorem line_of_withinLimit {written : Site} (within : WithinLimit written.id) :
    ∃ line, written.line = .ok line ∧ IsUnbroken line ∧ site line = .ok written := by
  have plain : ∀ column ∈ written.position.columns ++
      [.integer written.id, .flag written.isFixed], column.IsPlain := by
    simp [Triple.columns, Triple.toList, Column.IsPlain]
  have column : writeId written.id = .ok (.integer written.id) := if_pos within
  refine ⟨_, ?_, unbroken_writeRow plain, site_writeRow within⟩
  simp [Site.line, column]

end Lines

section Values

/-- In every shape that a number is written in, it is one numeral that stands for it. -/
theorem Number.Binary64.isReal_write (x : Binary64) : IsReal x.write x :=
  isReal_iff.2 (Binary64.readReal?_write x)

/-- The values of a site's row, in their order. -/
def Site.values (site : Site) : List RawValue :=
  [.real site.position.x, .real site.position.y, .real site.position.z, .integer site.id,
    .truth site.isFixed]

/-- Every real is written as one word, a numeral that stands for it, and a row of values is read as
the values: reals with the signs of their zeros, integers that are not too long, and the site of an
atom with such an id. -/
theorem rows_read_back (what : String) (reals : List Binary64) {integers : List Int}
    {written : Site} (within : ∀ value ∈ integers, WithinLimit value.natAbs)
    (short : WithinLimit written.id) :
    (∀ x, IsWord (Column.ofRaw (.real x)).write ∧ IsReal (Column.ofRaw (.real x)).write x) ∧
    FrameField.readReals what reals.length
      (writeRow ((reals.map RawValue.real).map .ofRaw)) = .ok reals ∧
    FrameField.readIntegers what integers.length
      (writeRow ((integers.map RawValue.integer).map .ofRaw)) = .ok integers ∧
    FrameLine.site (writeRow (written.values.map .ofRaw)) = .ok written := by
  refine ⟨fun x => ⟨Binary64.isWord_write x, x.isReal_write⟩, ?_, ?_, site_writeRow short⟩
  · rw [List.map_map]
    exact readReals_writeRow what reals
  · rw [List.map_map]
    exact readIntegers_writeRow what within

/-- Nan, a negative zero, an infinity, the least magnitude, and the first whole number that is not
written in full. -/
def awkwardReals : List Binary64 :=
  [.nan, .ofRank true 0, .infinite true, .ofRank false 1, .ofDecimal false 1 16]

/-- Its id is one that no real is equal to. -/
def awkwardSite : Site :=
  ⟨⟨.ofRank true 0, .ofDecimal false 1 (-1), .nan⟩, 9007199254740993, true⟩

theorem rows_read_back_awkward :
    (∀ value ∈ [-7, 0, 9007199254740993], WithinLimit (Int.natAbs value)) ∧
      WithinLimit awkwardSite.id ∧
      FrameField.readReals "mass" 5 "nan -0.0 -inf 5e-324 1e+16".toList = .ok awkwardReals ∧
      FrameField.readIntegers "mass" 3 "-7 0 9007199254740993".toList =
        .ok [-7, 0, 9007199254740993] ∧
      FrameLine.site "-0.0 0.1 nan 9007199254740993 1".toList = .ok awkwardSite := by
  have within : ∀ value ∈ [-7, 0, 9007199254740993], WithinLimit (Int.natAbs value) := by
    decide +kernel
  have short : WithinLimit awkwardSite.id := by decide +kernel
  have realRow : writeRow ((awkwardReals.map RawValue.real).map .ofRaw) =
      "nan -0.0 -inf 5e-324 1e+16".toList := by decide +kernel
  have integerRow : writeRow (([-7, 0, 9007199254740993].map RawValue.integer).map .ofRaw) =
      "-7 0 9007199254740993".toList := by decide +kernel
  have siteRow : writeRow (awkwardSite.values.map .ofRaw) =
      "-0.0 0.1 nan 9007199254740993 1".toList := by decide +kernel
  obtain ⟨-, reals, integers, site⟩ := rows_read_back "mass" awkwardReals within short
  rw [realRow] at reals
  rw [integerRow] at integers
  rw [siteRow] at site
  exact ⟨within, short, reals, integers, site⟩

end Values

end Atomistic
