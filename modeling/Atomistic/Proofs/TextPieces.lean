import Atomistic.Text.Lines

/-! Pieces of text come back when they are put together and cut again: the words of a row
with spaces between them, and the lines of a text with a line feed after each. -/

namespace Atomistic.Text

/-- A text that can be a field: it has characters, and none of them is blank. -/
structure IsWord (token : Line) : Prop where
  nonempty : token ≠ []
  solid : ∀ c ∈ token, isBlank c = false

theorem isWord_of_all {token : Line}
    (word : (!token.isEmpty && token.all (!isBlank ·)) = true) : IsWord token := by
  simp only [Bool.and_eq_true, Bool.not_eq_true', List.isEmpty_eq_false_iff,
    List.all_eq_true] at word
  exact ⟨word.1, word.2⟩

theorem fields_nil : fields [] = [] := by
  simp [fields]

theorem fields_word {token : Line} (word : IsWord token) : fields token = [token] := by
  have whole : token.splitOnP isBlank = [token] := List.splitOnP_eq_singleton word.solid
  simp [fields, whole, word.nonempty]

theorem fields_word_blank {token : Line} (word : IsWord token) {c : Char}
    (blank : isBlank c = true) (line : Line) :
    fields (token ++ c :: line) = token :: fields line := by
  have cut : (token ++ c :: line).splitOnP isBlank = token :: line.splitOnP isBlank :=
    List.splitOnP_append_cons_of_forall_mem word.solid c blank line
  simp [fields, cut, word.nonempty]

theorem fields_intercalate {tokens : List Line} (words : ∀ token ∈ tokens, IsWord token) :
    fields ([' '].intercalate tokens) = tokens := by
  induction tokens with
  | nil => exact fields_nil
  | cons token rest ih =>
    have first := words token (by simp)
    have others := ih fun other member => words other (by simp [member])
    cases rest with
    | nil => simpa using fields_word first
    | cons next rest =>
      rw [List.intercalate_cons_cons, List.append_assoc, List.singleton_append,
        fields_word_blank first rfl, others]

private theorem solid_of_mem_splitOnP {line piece : Line} (member : piece ∈ line.splitOnP isBlank) :
    ∀ c ∈ piece, isBlank c = false := by
  induction line generalizing piece with
  | nil =>
    rw [List.splitOnP_nil, List.mem_singleton] at member
    simp [member]
  | cons c line ih =>
    rw [List.splitOnP_cons_eq_if_modifyHead] at member
    split at member
    next blank =>
      rcases List.mem_cons.1 member with rfl | later
      · simp
      · exact ih later
    next solid =>
      obtain ⟨first, others, pieces⟩ :=
        List.exists_cons_of_ne_nil (List.splitOnP_ne_nil isBlank line)
      rw [pieces, List.modifyHead_cons] at member
      rw [pieces] at ih
      rcases List.mem_cons.1 member with rfl | later
      · exact List.forall_mem_cons.2 ⟨by simpa using solid, ih (by simp)⟩
      · exact ih (by simp [later])

theorem isWord_of_mem_fields {line token : Line} (member : token ∈ fields line) : IsWord token := by
  obtain ⟨piece, nonempty⟩ := List.mem_filter.1 member
  exact ⟨by simpa using nonempty, solid_of_mem_splitOnP piece⟩

theorem fields_of_isBlankLine {line : Line} (blank : isBlankLine line = true) :
    fields line = [] := by
  induction line with
  | nil => exact fields_nil
  | cons c rest ih =>
    obtain ⟨first, others⟩ := Bool.and_eq_true_iff.1 blank
    rw [fields, List.splitOnP_cons_eq_if_modifyHead, if_pos first]
    exact ih others

/-- Whether a line can stand alone: a line break inside would cut it, and a carriage return
at its end would be taken for part of a line break. -/
def IsUnbroken (line : Line) : Prop :=
  ∀ c ∈ line, c ≠ '\n' ∧ c ≠ '\r'

theorem IsWord.unbroken {token : Line} (word : IsWord token) : IsUnbroken token := by
  intro c inside
  have solid := word.solid c inside
  constructor
  · rintro rfl
    cases solid
  · rintro rfl
    cases solid

theorem IsUnbroken.append {first second : Line} (left : IsUnbroken first)
    (right : IsUnbroken second) : IsUnbroken (first ++ second) := by
  intro c inside
  rcases List.mem_append.1 inside with member | member
  · exact left c member
  · exact right c member

theorem unbroken_intercalate {tokens : List Line} (words : ∀ token ∈ tokens, IsWord token) :
    IsUnbroken ([' '].intercalate tokens) := by
  induction tokens with
  | nil => simp [IsUnbroken]
  | cons token rest ih =>
    have first := (words token (by simp)).unbroken
    have others := ih fun other member => words other (by simp [member])
    cases rest with
    | nil => simpa using first
    | cons next rest =>
      rw [List.intercalate_cons_cons]
      exact (first.append (by simp [IsUnbroken])).append others

private theorem dropLast_of_not_mem {c : Char} {line : Line} (absent : c ∉ line) :
    dropLast c line = line := by
  refine if_neg fun final => absent ?_
  exact List.mem_of_getLast? final

theorem stripTerminator_unterminated {line : Line} (unbroken : IsUnbroken line) :
    stripTerminator line = line := by
  have feed : dropLast '\n' line = line :=
    dropLast_of_not_mem fun inside => (unbroken _ inside).1 rfl
  rw [stripTerminator, feed]
  exact dropLast_of_not_mem fun inside => (unbroken _ inside).2 rfl

theorem stripTerminator_unbroken {line : Line} (unbroken : IsUnbroken line) :
    stripTerminator (line ++ ['\n']) = line := by
  have feed : dropLast '\n' (line ++ ['\n']) = line := by simp [dropLast]
  rw [stripTerminator, feed]
  exact dropLast_of_not_mem fun inside => (unbroken _ inside).2 rfl

theorem rawLines_append_newline {line : Line} (unbroken : IsUnbroken line) (text : List Char) :
    rawLines (line ++ '\n' :: text) = (line ++ ['\n']) :: rawLines text := by
  induction line with
  | nil => simp [rawLines, addInFront]
  | cons c rest ih =>
    have other : c ≠ '\n' := (unbroken c (by simp)).1
    have cut := ih fun d inside => unbroken d (by simp [inside])
    change addInFront c (rawLines (rest ++ '\n' :: text)) = _
    simp [cut, addInFront, other]

@[simp]
theorem joinLines_nil : joinLines [] = [] :=
  rfl

@[simp]
theorem joinLines_cons (line : Line) (rest : List Line) :
    joinLines (line :: rest) = line ++ '\n' :: joinLines rest := by
  simp [joinLines]

@[simp]
theorem joinLines_append (first second : List Line) :
    joinLines (first ++ second) = joinLines first ++ joinLines second := by
  simp [joinLines]

theorem rawLines_unbroken {line : Line} (unbroken : IsUnbroken line) :
    rawLines line = if line = [] then [] else [line] := by
  induction line with
  | nil => rfl
  | cons c rest ih =>
    have other : c ≠ '\n' := (unbroken c (by simp)).1
    have cut := ih fun d inside => unbroken d (by simp [inside])
    change addInFront c (rawLines rest) = _
    cases rest <;> simp [cut, addInFront, other]

/-- Lines that are joined and cut again are the same lines, whatever text follows them. -/
theorem rawLines_joinLines_append {lines : List Line}
    (unbroken : ∀ line ∈ lines, IsUnbroken line) (text : List Char) :
    (rawLines (joinLines lines ++ text)).map stripTerminator =
      lines ++ (rawLines text).map stripTerminator := by
  induction lines with
  | nil => rfl
  | cons line rest ih =>
    obtain ⟨first, others⟩ := List.forall_mem_cons.1 unbroken
    rw [joinLines_cons, List.append_assoc, List.cons_append, rawLines_append_newline first,
      List.map_cons, stripTerminator_unbroken first, ih others, List.cons_append]

theorem rawLines_joinLines {lines : List Line} (unbroken : ∀ line ∈ lines, IsUnbroken line) :
    (rawLines (joinLines lines)).map stripTerminator = lines := by
  have joined := rawLines_joinLines_append unbroken []
  simpa [rawLines] using joined

theorem rawLines_ne_nil {text : List Char} (nonempty : text ≠ []) : rawLines text ≠ [] := by
  intro none
  have whole := flatten_rawLines text
  rw [none] at whole
  exact nonempty whole.symm

theorem addInFront_append (c : Char) {lines : List Line} (nonempty : lines ≠ [])
    (others : List Line) : addInFront c (lines ++ others) = addInFront c lines ++ others := by
  obtain ⟨line, rest, rfl⟩ := List.exists_cons_of_ne_nil nonempty
  unfold addInFront
  split <;> rfl

/-- A text that ends its last line is cut by itself, whatever follows it. -/
theorem rawLines_append {text : List Char} (ended : text = [] ∨ text.getLast? = some '\n')
    (more : List Char) : rawLines (text ++ more) = rawLines text ++ rawLines more := by
  induction text with
  | nil => rfl
  | cons c rest ih =>
    change addInFront c (rawLines (rest ++ more)) = addInFront c (rawLines rest) ++ rawLines more
    by_cases last : rest = []
    · subst last
      obtain rfl : c = '\n' := by simpa using ended
      rfl
    · have later : rest.getLast? = some '\n' := by
        rwa [List.getLast?_cons_of_ne_nil last, or_iff_right (List.cons_ne_nil c rest)] at ended
      rw [ih (.inr later), addInFront_append c (rawLines_ne_nil last)]

theorem isBlankLine_of_mem_rawLines {text : List Char} (blank : text.all isBlank = true) :
    (rawLines text).all isBlankLine = true := by
  rw [← flatten_rawLines text, List.all_flatten] at blank
  exact blank

theorem ended_joinLines (lines : List Line) :
    joinLines lines = [] ∨ (joinLines lines).getLast? = some '\n' := by
  rcases List.eq_nil_or_concat lines with rfl | ⟨front, line, rfl⟩
  · exact .inl rfl
  · exact .inr (by simp)

/-- A terminator is blank, so a line is as blank without it. -/
theorem isBlankLine_stripTerminator (raw : Line) :
    isBlankLine (stripTerminator raw) = isBlankLine raw := by
  have drop : ∀ (c : Char) (line : Line), isBlank c = true →
      isBlankLine (dropLast c line) = isBlankLine line := by
    intro c line blank
    unfold dropLast
    split
    next final =>
      obtain ⟨front, rfl⟩ := List.getLast?_eq_some_iff.1 final
      simp [isBlankLine, blank]
    next => rfl
  rw [stripTerminator, drop '\r' _ rfl, drop '\n' _ rfl]

theorem all_isBlankLine_stripTerminator (lines : List Line) :
    (lines.map stripTerminator).all isBlankLine = lines.all isBlankLine := by
  rw [List.all_map, Function.comp_def]
  simp only [isBlankLine_stripTerminator]

end Atomistic.Text
