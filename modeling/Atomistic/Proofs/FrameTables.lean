import Atomistic.Frame.Table
import Atomistic.Proofs.SingleFrames

/-! Tables of frames. Each row has what one atom has, under the atom's place. Numbers and ids are
kept in words, so there is a table only if they fit; a text bounds the atomic numbers of its
frames, but not the ids. -/

namespace Atomistic

open Number

section Words

private theorem toInt_eq_iff {value : Nat} {word : Int64} :
    word.toInt = value ↔ value < 2 ^ (63 : Nat) ∧ Int64.ofNat value = word := by
  refine ⟨fun same => ?_, fun held => ?_⟩
  · have fits : value < 2 ^ (63 : Nat) := by
      have bound := word.toInt_lt
      omega
    exact ⟨fits, Int64.toInt_inj.1 ((Int64.toInt_ofNat_of_lt fits).trans same.symm)⟩
  · rw [← held.2]
    exact Int64.toInt_ofNat_of_lt held.1

theorem toWord_eq_ok_iff {value : Nat} {word : Int64} :
    toWord value = .ok word ↔ word.toInt = value := by
  rw [toInt_eq_iff]
  unfold toWord
  split
  next fits => rw [Except.ok.injEq, and_iff_right fits]
  next wide => simp only [reduceCtorEq, wide, false_and]

theorem exists_toWord_iff {value : Nat} :
    (∃ word, toWord value = .ok word) ↔ value < 2 ^ (63 : Nat) := by
  unfold toWord
  split
  next fits => exact ⟨fun _ => fits, fun _ => ⟨_, rfl⟩⟩
  next wide =>
    refine ⟨fun found => ?_, fun fits => absurd fits wide⟩
    obtain ⟨word, done⟩ := found
    cases done

theorem failsOnly_toWord (value : Nat) : FailsOnly (· = .tooWide) (toWord value) := by
  unfold toWord
  split
  next => exact .ok _
  next => exact .error rfl

end Words

/-- The row has what the atom has. -/
structure Atom.ShownBy (atom : Atom) (row : FrameRow) : Prop where
  number : row.number.toInt = atom.number.value
  symbol : Element.symbolOf? atom.number.value = some row.symbol
  position : row.position = atom.position
  id : row.id.toInt = atom.id
  mass : row.mass = atom.mass
  isFixed : row.isFixed = atom.isFixed

/-- The columns have the box of the frame, and under each place what the atom there has. -/
structure Frame.ShownBy (frame : Frame) (columns : FrameColumns) : Prop where
  cell : columns.cell = frame.cell.lengths
  angles : columns.angles = frame.angles
  numbers : List.Forall₂ (fun atom word => word.toInt = atom.number.value) frame.atoms
    columns.numbers
  positions : columns.positions = frame.atoms.map Atom.position
  ids : List.Forall₂ (fun atom word => word.toInt = atom.id) frame.atoms columns.ids
  masses : columns.masses = frame.atoms.map Atom.mass
  fixed : columns.fixed = frame.atoms.map Atom.isFixed

/-- The number and the id of the atom fit a word. -/
structure Atom.FitsWords (atom : Atom) : Prop where
  number : atom.number.value < 2 ^ (63 : Nat)
  id : atom.id < 2 ^ (63 : Nat)

namespace Frame

variable {frame : Frame}

theorem columns_eq_ok_iff {columns : FrameColumns} :
    frame.columns = .ok columns ↔ frame.ShownBy columns := by
  have words (count : Atom → Nat) (found : List Int64) :
      (frame.atoms.mapM fun atom => toWord (count atom)) = .ok found ↔
        List.Forall₂ (fun atom word => word.toInt = (count atom : Int)) frame.atoms found :=
    mapM_eq_ok_iff fun _ _ _ => toWord_eq_ok_iff
  simp only [Frame.columns, result_bind_eq_ok_iff, words, pure_eq_ok, Except.ok.injEq]
  refine ⟨?_, fun shown => ?_⟩
  · intro made
    obtain ⟨numbers, numbered, ids, identified, rfl⟩ := made
    exact ⟨rfl, rfl, numbered, rfl, identified, rfl, rfl⟩
  · obtain ⟨cell, angles, numbers, positions, ids, masses, fixed⟩ := shown
    refine ⟨_, numbers, _, ids, ?_⟩
    rw [← cell, ← angles, ← positions, ← masses, ← fixed]

theorem exists_columns_iff :
    (∃ columns, frame.columns = .ok columns) ↔ ∀ atom ∈ frame.atoms, atom.FitsWords := by
  refine ⟨fun found atom member => ?_, fun fits => ?_⟩
  · obtain ⟨columns, done⟩ := found
    obtain ⟨numbers, numbered, done⟩ := result_bind_eq_ok_iff.1 done
    obtain ⟨ids, identified, -⟩ := result_bind_eq_ok_iff.1 done
    obtain ⟨number, -, narrow⟩ := exists_result_of_mapM numbered member
    obtain ⟨id, -, narrow'⟩ := exists_result_of_mapM identified member
    exact ⟨exists_toWord_iff.1 ⟨number, narrow⟩, exists_toWord_iff.1 ⟨id, narrow'⟩⟩
  · obtain ⟨numbers, numbered⟩ := exists_mapM_eq_ok fun atom member =>
      exists_toWord_iff.2 (fits atom member).number
    obtain ⟨ids, identified⟩ := exists_mapM_eq_ok fun atom member =>
      exists_toWord_iff.2 (fits atom member).id
    rw [Frame.columns, numbered, ok_bind, identified, ok_bind]
    exact ⟨_, rfl⟩

theorem failsOnly_columns : FailsOnly (· = .tooWide) frame.columns :=
  (FailsOnly.mapM fun _ _ => failsOnly_toWord _).bind fun _ =>
    (FailsOnly.mapM fun _ _ => failsOnly_toWord _).bind fun _ => .ok _

theorem columns_eq_error_iff :
    frame.columns = .error .tooWide ↔ ¬ ∀ atom ∈ frame.atoms, atom.FitsWords := by
  rw [← exists_columns_iff]
  cases made : frame.columns with
  | ok columns => simp
  | error fault => simp [failsOnly_columns fault made]

end Frame

section Rows

/-- A word that holds a number is looked up like the number. -/
theorem resolveNumber_eq_ok_iff {word : Int64} {number : AtomicNumber}
    (held : word.toInt = number.value) {symbol : String} :
    Element.resolveNumber (.integer word.toInt) = .ok symbol ↔
      Element.symbolOf? number.value = some symbol := by
  have whole : Element.wholeNumber? (.integer word.toInt) = some number.value := by
    simp [Element.wholeNumber?, held]
  cases found : Element.symbolOf? number.value <;> simp [Element.resolveNumber, whole, found]

theorem Atom.ShownBy.fitsWords {atom : Atom} {row : FrameRow} (shown : atom.ShownBy row) :
    atom.FitsWords :=
  ⟨(toInt_eq_iff.1 shown.number).1, (toInt_eq_iff.1 shown.id).1⟩

theorem Atom.shownBy_rightUnique : Relator.RightUnique Atom.ShownBy := by
  intro atom row again shown same
  cases row
  cases again
  rw [FrameRow.mk.injEq]
  exact ⟨Int64.toInt_inj.1 (shown.number.trans same.number.symm),
    Option.some.inj (shown.symbol.symm.trans same.symbol),
    shown.position.trans same.position.symm,
    Int64.toInt_inj.1 (shown.id.trans same.id.symm),
    shown.mass.trans same.mass.symm,
    shown.isFixed.trans same.isFixed.symm⟩

/-- Each column shows its part of the atoms, and under each place the parts make up a row. -/
theorem forall₂_shownBy {atoms : List Atom} {numbers ids : List Int64} {symbols : List String}
    (numbered : List.Forall₂ (fun atom word => word.toInt = atom.number.value) atoms numbers)
    (identified : List.Forall₂ (fun atom word => word.toInt = atom.id) atoms ids)
    (named : List.Forall₂ (fun (number : Int64) symbol =>
      Element.resolveNumber (.integer number.toInt) = .ok symbol) numbers symbols)
    (cell angles : Triple) :
    List.Forall₂ Atom.ShownBy atoms (FrameColumns.rows
      ⟨cell, angles, numbers, atoms.map Atom.position, ids, atoms.map Atom.mass,
        atoms.map Atom.isFixed⟩ symbols) := by
  induction numbered generalizing ids symbols with
  | nil =>
    cases named
    exact .nil
  | cons number _ ih =>
    obtain _ | ⟨id, ids⟩ := identified
    obtain _ | ⟨symbol, symbols⟩ := named
    exact .cons ⟨number, (resolveNumber_eq_ok_iff number).1 symbol, rfl, id, rfl, rfl⟩
      (ih ids symbols)

namespace Frame

variable {frame : Frame}

theorem ShownBy.rows {columns : FrameColumns} (shown : frame.ShownBy columns)
    {symbols : List String} (named : columns.symbols = .ok symbols) :
    List.Forall₂ Atom.ShownBy frame.atoms (columns.rows symbols) := by
  obtain ⟨cell, angles, numbers, positions, ids, masses, fixed⟩ := columns
  obtain ⟨-, -, numbered, rfl, identified, rfl, rfl⟩ := shown
  have symbol := (mapM_eq_ok_iff fun _ _ _ => Iff.rfl).1 named
  exact forall₂_shownBy numbered identified symbol cell angles

theorem ShownBy.exists_symbols {columns : FrameColumns} (shown : frame.ShownBy columns)
    (known : ∀ atom ∈ frame.atoms, ∃ symbol, Element.symbolOf? atom.number.value = some symbol) :
    ∃ symbols, columns.symbols = .ok symbols := by
  apply exists_mapM_eq_ok
  intro number member
  obtain ⟨atom, among, held⟩ := exists_of_forall₂_right shown.numbers member
  obtain ⟨symbol, found⟩ := known atom among
  exact ⟨symbol, (resolveNumber_eq_ok_iff held).2 found⟩

theorem rows_shown {rows : List FrameRow} (done : frame.rows = .ok rows) :
    List.Forall₂ Atom.ShownBy frame.atoms rows := by
  obtain ⟨columns, made, done⟩ := result_bind_eq_ok_iff.1 done
  obtain ⟨symbols, named, done⟩ := result_bind_eq_ok_iff.1 done
  cases done
  exact (columns_eq_ok_iff.1 (mapError_eq_ok_iff.1 made)).rows (mapError_eq_ok_iff.1 named)

theorem exists_rows {columns : FrameColumns} (made : frame.columns = .ok columns)
    (known : ∀ atom ∈ frame.atoms, ∃ symbol, Element.symbolOf? atom.number.value = some symbol) :
    ∃ rows, frame.rows = .ok rows := by
  obtain ⟨symbols, named⟩ := (columns_eq_ok_iff.1 made).exists_symbols known
  refine ⟨columns.rows symbols, ?_⟩
  rw [Frame.rows, mapError_eq_ok_iff.2 made, ok_bind, mapError_eq_ok_iff.2 named, ok_bind,
    pure_eq_ok]

/-- The rows are those that show the atoms. As each atom has one such row at most, it is enough
that there are rows at all. -/
theorem rows_eq_ok_iff {rows : List FrameRow} :
    frame.rows = .ok rows ↔ List.Forall₂ Atom.ShownBy frame.atoms rows := by
  refine ⟨rows_shown, fun shown => ?_⟩
  have each : ∀ atom ∈ frame.atoms, ∃ row ∈ rows, atom.ShownBy row := fun atom member =>
    exists_of_forall₂_right shown.flip member
  have fits : ∀ atom ∈ frame.atoms, atom.FitsWords := by
    intro atom member
    obtain ⟨row, -, shows⟩ := each atom member
    exact shows.fitsWords
  obtain ⟨columns, made⟩ := exists_columns_iff.2 fits
  obtain ⟨others, done⟩ := exists_rows made fun atom member => by
    obtain ⟨row, -, shows⟩ := each atom member
    exact ⟨row.symbol, shows.symbol⟩
  rwa [Atom.shownBy_rightUnique.forall₂ shown (rows_shown done)]

end Frame

end Rows

namespace Frame

/-- The elements are few, so of the two numbers of an atom only its id can be too wide. -/
theorem fitsWords_iff {frame : Frame} (writable : frame.Writable) :
    (∀ atom ∈ frame.atoms, atom.FitsWords) ↔ ∀ atom ∈ frame.atoms, atom.id < 2 ^ (63 : Nat) := by
  refine ⟨fun fits atom member => (fits atom member).id, fun narrow atom member => ?_⟩
  have known := writable.known atom member
  have few : Element.symbols.length = 118 := by decide
  exact ⟨by omega, narrow atom member⟩

theorem exists_rows_iff {frame : Frame} (writable : frame.Writable) :
    (∃ rows, frame.rows = .ok rows) ↔ ∀ atom ∈ frame.atoms, atom.FitsWords := by
  refine ⟨fun found => ?_, fun fits => ?_⟩
  · obtain ⟨rows, done⟩ := found
    obtain ⟨columns, made, -⟩ := result_bind_eq_ok_iff.1 done
    exact exists_columns_iff.1 ⟨columns, mapError_eq_ok_iff.1 made⟩
  · obtain ⟨columns, made⟩ := exists_columns_iff.2 fits
    apply exists_rows made
    intro atom member
    obtain ⟨symbol, -, found, -⟩ := Element.symbolOf?_eq_some (writable.known atom member)
    exact ⟨symbol, found⟩

/-- A frame that was read has tables exactly if all its ids fit a word. Then the tables show the
frame, atom by atom; otherwise neither is made. -/
theorem tables_of_ofText {text : String} {frame : Frame} (done : Frame.ofText text = .ok frame) :
    ((∃ columns rows, frame.columns = .ok columns ∧ frame.ShownBy columns ∧
      frame.rows = .ok rows ∧ List.Forall₂ Atom.ShownBy frame.atoms rows) ↔
        ∀ atom ∈ frame.atoms, atom.id < 2 ^ (63 : Nat)) ∧
    ((frame.columns = .error .tooWide ∧ frame.rows = .error (.value .tooWide)) ↔
      ∃ atom ∈ frame.atoms, 2 ^ (63 : Nat) ≤ atom.id) := by
  obtain ⟨rest, read, -⟩ := ofText_eq_ok_iff.1 done
  obtain ⟨blocks, grouped⟩ := grouped_of_read read
  have writable := grouped.writable
  rw [← fitsWords_iff writable]
  refine ⟨⟨fun found => ?_, fun fits => ?_⟩, ⟨fun refused => ?_, fun wide => ?_⟩⟩
  · obtain ⟨columns, -, made, -⟩ := found
    exact exists_columns_iff.1 ⟨columns, made⟩
  · obtain ⟨columns, made⟩ := exists_columns_iff.2 fits
    obtain ⟨rows, done⟩ := (exists_rows_iff writable).2 fits
    exact ⟨columns, rows, made, columns_eq_ok_iff.1 made, done, rows_eq_ok_iff.1 done⟩
  · have wide := columns_eq_error_iff.1 refused.1
    rw [fitsWords_iff writable] at wide
    simpa using wide
  · have refused : frame.columns = .error .tooWide := by
      rw [columns_eq_error_iff, fitsWords_iff writable]
      simpa using wide
    refine ⟨refused, ?_⟩
    rw [Frame.rows, refused]
    rfl

/-- Two hydrogen atoms, the ids of which are written out. -/
def pairText (one other : String) : String :=
  "x\ny\n1 1 1\n90 90 90\na\nb\n1\n2\n1.0\nH\n2 1\n0 0 0 " ++ one ++ " 0\n0 0 1 " ++ other ++
    " 1\n"

theorem tables_of_ofText_largest :
    ∃ frame columns rows, Frame.ofText (pairText "7" "9223372036854775807") = .ok frame ∧
      frame.columns = .ok columns ∧ frame.ShownBy columns ∧ frame.rows = .ok rows ∧
      List.Forall₂ Atom.ShownBy frame.atoms rows := by
  have ids : (Frame.ofText (pairText "7" "9223372036854775807")).map
      (fun frame => frame.atoms.map Atom.id) = .ok [7, 9223372036854775807] := by
    decide +kernel
  cases read : Frame.ofText (pairText "7" "9223372036854775807") with
  | ok frame =>
    rw [read] at ids
    have narrow : ∀ atom ∈ frame.atoms, atom.id < 2 ^ (63 : Nat) := by
      intro atom member
      have among : atom.id ∈ [7, 9223372036854775807] :=
        Except.ok.inj ids ▸ List.mem_map_of_mem member
      simp at among
      omega
    obtain ⟨columns, rows, tables⟩ := (tables_of_ofText read).1.2 narrow
    exact ⟨frame, columns, rows, rfl, tables⟩
  | error fault =>
    rw [read] at ids
    cases ids

/-- The least id that is too wide for a word. -/
theorem tables_refuse_wide_id :
    ∃ frame, Frame.ofText (pairText "7" "9223372036854775808") = .ok frame ∧
      frame.columns = .error .tooWide ∧ frame.rows = .error (.value .tooWide) := by
  have tables : (Frame.ofText (pairText "7" "9223372036854775808")).map
      (fun frame => (frame.columns, frame.rows)) =
        .ok (.error .tooWide, .error (.value .tooWide)) := by
    decide +kernel
  cases read : Frame.ofText (pairText "7" "9223372036854775808") with
  | ok frame =>
    rw [read] at tables
    obtain ⟨columns, rows⟩ := Prod.mk.inj (Except.ok.inj tables)
    exact ⟨frame, rfl, columns, rows⟩
  | error fault =>
    rw [read] at tables
    cases tables

end Frame

end Atomistic
