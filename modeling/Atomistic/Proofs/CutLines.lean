import Atomistic.Proofs.RowReading

/-! Lines whose text is cut off. All lines but the last are whole then, and of the last one only
a beginning is left. A row that ends in a flag has a field less, wherever it is cut. -/

namespace Atomistic

open Text

/-- The text goes on for these whole lines and the beginning of another one. It does not have the
line feed of that one. -/
structure BrokenOff (lines : List Line) (front : List Char) (whole : List Line)
    (begun lost : Line) (others : List Line) : Prop where
  lines : lines = whole ++ (begun ++ lost) :: others
  front : front = joinLines whole ++ begun

theorem exists_brokenOff {lines : List Line} {front missing : List Char}
    (cut : front ++ missing = joinLines lines) (nonempty : missing ≠ []) :
    ∃ whole begun lost others, BrokenOff lines front whole begun lost others := by
  induction lines generalizing front with
  | nil => exact absurd (List.append_eq_nil_iff.1 cut).2 nonempty
  | cons line rest ih =>
    rw [joinLines_cons] at cut
    rcases List.append_eq_append_iff.1 cut with ⟨lost, rfl, -⟩ | ⟨later, rfl, after⟩
    · exact ⟨[], front, lost, rest, rfl, rfl⟩
    · cases later with
      | nil => exact ⟨[], line, [], rest, by simp, by simp⟩
      | cons c later =>
        obtain ⟨rfl, tail⟩ := List.cons.inj after
        obtain ⟨whole, begun, lost, others, rfl, rfl⟩ := ih tail.symm
        exact ⟨line :: whole, begun, lost, others, rfl, by simp⟩

namespace BrokenOff

variable {lines whole others : List Line} {front : List Char} {begun lost : Line}

/-- A line of which nothing is there is not seen at all. -/
theorem shown (broken : BrokenOff lines front whole begun lost others)
    (unbroken : ∀ line ∈ lines, IsUnbroken line) :
    (rawLines front).map stripTerminator = whole ++ if begun = [] then [] else [begun] := by
  obtain ⟨rfl, rfl⟩ := broken
  obtain ⟨wholeUnbroken, rest⟩ := List.forall_mem_append.1 unbroken
  have begunUnbroken : IsUnbroken begun := by
    intro c inside
    exact rest (begun ++ lost) (by simp) c (List.mem_append_left lost inside)
  rw [rawLines_joinLines_append wholeUnbroken, rawLines_unbroken begunUnbroken]
  split
  next => rfl
  next => rw [List.map_singleton, stripTerminator_unterminated begunUnbroken]

theorem length_text (broken : BrokenOff lines front whole begun lost others) :
    (joinLines lines).length = front.length + lost.length + 1 + (joinLines others).length := by
  obtain ⟨rfl, rfl⟩ := broken
  simp only [joinLines_append, joinLines_cons, List.length_append, List.length_cons]
  omega

/-- Only a line feed is missing when the last line is there in full. -/
theorem length_text_eq_iff (broken : BrokenOff lines front whole begun lost others) :
    (joinLines lines).length = front.length + 1 ↔ lost = [] ∧ others = [] := by
  rw [broken.length_text, ← List.length_eq_zero_iff]
  constructor
  · intro same
    refine ⟨by omega, ?_⟩
    cases others with
    | nil => rfl
    | cons line rest =>
      rw [joinLines_cons, List.length_append, List.length_cons] at same
      omega
  · rintro ⟨none, rfl⟩
    simp [none]

end BrokenOff

section Rows

/-- A row that breaks off has no more fields than words were begun. -/
theorem length_fields_of_prefix {tokens : List Line} (words : ∀ token ∈ tokens, IsWord token)
    {front missing : Line} (cut : front ++ missing = tokens.flatMap (· ++ [' '])) :
    (fields front).length ≤ tokens.length := by
  induction tokens generalizing front with
  | nil =>
    obtain ⟨rfl, -⟩ := List.append_eq_nil_iff.1 cut
    simp [fields_nil]
  | cons token rest ih =>
    obtain ⟨first, others⟩ := List.forall_mem_cons.1 words
    have joined : (token :: rest).flatMap (· ++ [' ']) =
        token ++ ' ' :: rest.flatMap (· ++ [' ']) := by
      simp
    rw [joined] at cut
    rcases List.append_eq_append_iff.1 cut with ⟨lost, rfl, -⟩ | ⟨later, rfl, after⟩
    · cases front with
      | nil => simp [fields_nil]
      | cons c front =>
        have word : IsWord (c :: front) :=
          ⟨by simp, fun d inside => first.solid d (List.mem_append_left lost inside)⟩
        simp [fields_word word]
    · cases later with
      | nil => simp [fields_word first]
      | cons c later =>
        obtain ⟨rfl, tail⟩ := List.cons.inj after
        rw [fields_word_blank first rfl, List.length_cons, List.length_cons]
        exact Nat.succ_le_succ (ih others tail.symm)

theorem intercalate_concat (tokens : List Line) (last : Line) :
    [' '].intercalate (tokens ++ [last]) = tokens.flatMap (· ++ [' ']) ++ last := by
  induction tokens with
  | nil => simp
  | cons token rest ih =>
    obtain ⟨next, others, shape⟩ := List.exists_cons_of_ne_nil
      (show rest ++ [last] ≠ [] by simp)
    rw [List.cons_append, shape, List.intercalate_cons_cons, ← shape, ih]
    simp

/-- A flag is a single character, so a row that ends in one is short of a field as soon as
anything is missing. -/
theorem length_fields_of_cut_row {columns : List Column}
    (plain : ∀ column ∈ columns, column.IsPlain) (isFixed : Bool) {front missing : Line}
    (nonempty : missing ≠ [])
    (cut : front ++ missing = writeRow (columns ++ [.flag isFixed])) :
    (fields front).length ≤ columns.length := by
  have words : ∀ token ∈ columns.map Column.write, IsWord token := by
    intro token member
    obtain ⟨column, inside, rfl⟩ := List.mem_map.1 member
    exact (plain column inside).isWord
  obtain ⟨c, flag⟩ : ∃ c, (Column.flag isFixed).write = [c] := by cases isFixed <;> exact ⟨_, rfl⟩
  rw [writeRow, List.map_append, List.map_singleton, intercalate_concat, flag] at cut
  obtain ⟨early, last, rfl⟩ := List.eq_nil_or_concat missing |>.resolve_left nonempty
  rw [List.concat_eq_append, ← List.append_assoc] at cut
  have fits := length_fields_of_prefix words (List.append_inj_left' cut rfl)
  rwa [List.length_map] at fits

end Rows

end Atomistic
