import Atomistic.LineCursor
import Atomistic.Proofs.Results
import Atomistic.Proofs.TextPieces
import Atomistic.Stepwise

/-! What a reader of lines can tell of a cursor: how many lines it has taken and which are
left. Looking ahead moves lines about but changes neither. -/

namespace Atomistic

open Text

namespace LineCursor

section LookingAhead

variable {cursor last : LineCursor}

theorem passEnd_eq_ok_iff {α : Type} {value found : α} :
    passEnd value cursor = .ok found last ↔
      cursor.ending = .clean ∧ value = found ∧ cursor = last := by
  unfold passEnd
  cases cursor.ending <;> simp

/-- A line that is not blank may have been seen before. If not, lines are pulled up to the first
one, and only where none is found does the end of the source matter. -/
theorem atEnd_eq_ok_iff {ended : Bool} :
    atEnd cursor = .ok ended last ↔
      (cursor.lookahead.all (isBlankLine ·.2) = false ∧ ended = false ∧ cursor = last) ∨
      (cursor.lookahead.all (isBlankLine ·.2) = true ∧ cursor.unread.all isBlankLine = ended ∧
        (ended = true → cursor.ending = .clean) ∧ cursor.pullThroughBlank = last) := by
  have ahead : cursor.lookahead.any (!isBlankLine ·.2) =
      !cursor.lookahead.all (isBlankLine ·.2) := by
    simp [List.all_eq_not_any_not]
  have same : cursor.pullThroughBlank.ending = cursor.ending := rfl
  unfold atEnd
  rw [ahead]
  cases cursor.lookahead.all (isBlankLine ·.2) <;> cases cursor.unread.all isBlankLine <;>
    cases ended <;> simp [passEnd_eq_ok_iff, same]

end LookingAhead

/-- The lookahead holds the next lines under their numbers, and the rest is still unread. -/
structure Shows (cursor : LineCursor) (taken : Nat) (left : List Line) : Prop where
  clean : cursor.ending = .clean
  lines : cursor.lookahead.map Prod.snd ++ cursor.unread.map stripTerminator = left
  numbers : cursor.lookahead.map Prod.fst = List.range' (taken + 1) cursor.lookahead.length
  pulled : cursor.pulled = taken + cursor.lookahead.length
  lineNumber : cursor.lineNumber = taken

theorem shows_ofLines (raw : List Line) : (ofLines raw).Shows 0 (raw.map stripTerminator) :=
  ⟨rfl, rfl, rfl, rfl, rfl⟩

theorem shows_ofText (text : String) :
    (ofText text).Shows 0 ((rawLines text.toList).map stripTerminator) :=
  shows_ofLines _

variable {cursor : LineCursor} {taken : Nat}

theorem Shows.read_cons {line : Line} {rest : List Line}
    (shows : cursor.Shows taken (line :: rest)) :
    ∃ after, read cursor = .ok (some line) after ∧ after.Shows (taken + 1) rest := by
  obtain ⟨unread, ending, lookahead, pulled, lineNumber⟩ := cursor
  obtain ⟨clean, lines, numbers, pulled, lineNumber⟩ := shows
  simp only at clean lines numbers pulled lineNumber
  cases lookahead with
  | cons head lookahead =>
    obtain ⟨number, ahead⟩ := head
    simp only [List.map_cons, List.cons_append, List.cons.injEq, List.length_cons,
      List.range'_succ] at lines numbers
    obtain ⟨rfl, lines⟩ := lines
    obtain ⟨rfl, numbers⟩ := numbers
    refine ⟨_, rfl, ⟨clean, lines, numbers, ?_, rfl⟩⟩
    simp only [pulled, List.length_cons]
    omega
  | nil =>
    cases unread with
    | nil => cases lines
    | cons raw unread =>
      simp only [List.map_nil, List.nil_append, List.map_cons, List.cons.injEq] at lines
      obtain ⟨rfl, lines⟩ := lines
      subst pulled
      exact ⟨_, rfl, ⟨clean, lines, rfl, rfl, rfl⟩⟩

theorem Shows.read_nil (shows : cursor.Shows taken []) : read cursor = .ok none cursor := by
  obtain ⟨unread, ending, lookahead, pulled, lineNumber⟩ := cursor
  obtain ⟨clean, lines, numbers, pulled, lineNumber⟩ := shows
  obtain ⟨noLookahead, noUnread⟩ := List.append_eq_nil_iff.1 lines
  simp only [List.map_eq_nil_iff] at clean noLookahead noUnread
  subst clean noLookahead noUnread
  rfl

theorem Shows.pullThroughBlank {left : List Line} (shows : cursor.Shows taken left) :
    cursor.pullThroughBlank.Shows taken left := by
  obtain ⟨clean, lines, numbers, pulled, lineNumber⟩ := shows
  generalize count : (cursor.unread.takeWhile isBlankLine).length + 1 = moved
  refine ⟨clean, ?_, ?_, ?_, lineNumber⟩
  · have seen := congrArg (List.map stripTerminator)
      (List.zipIdx_map_fst (cursor.pulled + 1) (cursor.unread.take moved))
    rw [List.map_map] at seen
    simp only [Function.comp_def] at seen
    simp [LineCursor.pullThroughBlank, count, Function.comp_def, seen, ← lines]
  · have seen := List.zipIdx_map_snd (cursor.pulled + 1) (cursor.unread.take moved)
    have start : taken + 1 + cursor.lookahead.length = cursor.pulled + 1 := by omega
    simp only [LineCursor.pullThroughBlank, count, List.map_append, List.map_map,
      Function.comp_def, numbers, List.length_append, List.length_map, List.length_zipIdx]
    rw [← List.range'_append_1, start, ← seen]
  · simp [LineCursor.pullThroughBlank, count, pulled]
    omega

theorem Shows.atEnd {left : List Line} (shows : cursor.Shows taken left) :
    ∃ after, atEnd cursor = .ok (left.all isBlankLine) after ∧ after.Shows taken left := by
  have blank : left.all isBlankLine =
      (cursor.lookahead.all (isBlankLine ·.2) && cursor.unread.all isBlankLine) := by
    rw [← shows.lines, List.all_append, all_isBlankLine_stripTerminator, List.all_map]
    rfl
  cases ahead : cursor.lookahead.all (isBlankLine ·.2) with
  | false =>
    rw [ahead, Bool.false_and] at blank
    exact ⟨cursor, atEnd_eq_ok_iff.2 (.inl ⟨ahead, blank, rfl⟩), shows⟩
  | true =>
    rw [ahead, Bool.true_and] at blank
    refine ⟨cursor.pullThroughBlank, atEnd_eq_ok_iff.2 (.inr ?_), shows.pullThroughBlank⟩
    exact ⟨ahead, blank.symm, fun _ => shows.clean, rfl⟩

theorem Shows.remaining {left : List Line}
    (shows : cursor.Shows taken left) : cursor.remaining = left.length := by
  rw [LineCursor.remaining, ← shows.lines, List.length_append, List.length_map, List.length_map]

end LineCursor

open LineCursor

theorem require_eq_ok_iff {reading : String} {cursor rest : LineCursor} {line : Line} :
    require reading cursor = .ok line rest ↔ LineCursor.read cursor = .ok (some line) rest := by
  constructor
  · intro done
    obtain ⟨found, middle, met, done⟩ := bind_eq_ok_iff.1 done
    cases found with
    | none => cases done
    | some found =>
      cases done
      exact met
  · intro met
    exact bind_of_ok met _

theorem require_of_none {cursor rest : LineCursor}
    (met : LineCursor.read cursor = .ok none rest) (reading : String) :
    require reading cursor =
      .error (.format ⟨.endOfInput reading, some (rest.lineNumber + 1)⟩) rest :=
  bind_of_ok met _

theorem settle_eq_ok_iff {α : Type} {result : Except Fault α} {cursor rest : LineCursor}
    {value : α} : settle result cursor = .ok value rest ↔ result = .ok value ∧ cursor = rest := by
  cases result with
  | ok found => simp [settle]
  | error fault => simp [settle]

theorem readAs_of_some {α : Type} {cursor rest : LineCursor} {line : Line}
    (met : LineCursor.read cursor = .ok (some line) rest) (reading : String)
    (parse : Line → Except Fault α) :
    readAs reading parse cursor =
      settle ((parse line).mapError (Fault.atLine rest.lineNumber)) rest :=
  bind_of_ok (require_eq_ok_iff.2 met) _

theorem readAs_eq_ok_iff {α : Type} {reading : String} {parse : Line → Except Fault α}
    {cursor rest : LineCursor} {value : α} :
    readAs reading parse cursor = .ok value rest ↔
      ∃ line, LineCursor.read cursor = .ok (some line) rest ∧ parse line = .ok value := by
  constructor
  · intro done
    obtain ⟨line, middle, met, settled⟩ := bind_eq_ok_iff.1 done
    have taken := require_eq_ok_iff.1 met
    rw [readAs_of_some taken, settle_eq_ok_iff, mapError_eq_ok_iff] at done
    obtain ⟨parsed, rfl⟩ := done
    exact ⟨line, taken, parsed⟩
  · rintro ⟨line, met, parsed⟩
    rw [readAs_of_some met, settle_eq_ok_iff, mapError_eq_ok_iff]
    exact ⟨parsed, rfl⟩

/-- The reading takes exactly these lines and gives this value, whatever follows them. -/
def Takes {α : Type} (reading : Reading α) (lines : List Line) (value : α) : Prop :=
  ∀ cursor taken rest, LineCursor.Shows cursor taken (lines ++ rest) →
    ∃ after, reading cursor = .ok value after ∧ after.Shows (taken + lines.length) rest

namespace Takes

variable {α β : Type}

theorem pure (value : α) : Takes (pure value) [] value :=
  fun cursor _ _ shows => ⟨cursor, rfl, shows⟩

theorem settle {result : Except Fault α} {value : α} (done : result = .ok value) :
    Takes (settle result) [] value := by
  intro cursor taken rest shows
  subst done
  exact ⟨cursor, rfl, shows⟩

theorem bind {reading : Reading α} {next : α → Reading β} {lines others : List Line}
    {value : α} {result : β} (first : Takes reading lines value)
    (second : Takes (next value) others result) :
    Takes (reading >>= next) (lines ++ others) result := by
  intro cursor taken rest shows
  rw [List.append_assoc] at shows
  obtain ⟨middle, met, shows⟩ := first cursor taken _ shows
  obtain ⟨last, done, shows⟩ := second middle _ rest shows
  refine ⟨last, bind_eq_ok_iff.2 ⟨value, middle, met, done⟩, ?_⟩
  rw [List.length_append, ← Nat.add_assoc]
  exact shows

theorem require (reading : String) (line : Line) : Takes (require reading) [line] line := by
  intro cursor taken rest shows
  obtain ⟨after, met, shows⟩ := shows.read_cons
  exact ⟨after, bind_eq_ok_iff.2 ⟨_, after, met, rfl⟩, shows⟩

theorem readAs {parse : Line → Except Fault α} {line : Line} {value : α} (reading : String)
    (parsed : parse line = .ok value) : Takes (readAs reading parse) [line] value := by
  change Takes _ ([line] ++ []) value
  apply (Takes.require reading line).bind
  intro cursor taken rest shows
  refine ⟨cursor, bind_eq_ok_iff.2 ⟨cursor, cursor, rfl, ?_⟩, shows⟩
  rw [parsed]
  rfl

theorem ofLines {reading : Reading α} {piece : List Line} {value : α}
    (takes : Takes reading (piece.map stripTerminator) value) (later : List Line) :
    ∃ after, reading (.ofLines (piece ++ later)) = .ok value after ∧
      after.remaining = later.length := by
  have shows := shows_ofLines (piece ++ later)
  rw [List.map_append] at shows
  obtain ⟨after, done, shows⟩ := takes _ _ _ shows
  exact ⟨after, done, by rw [shows.remaining, List.length_map]⟩

end Takes

/-- The reading takes just these lines as just this value, whatever follows them. -/
structure Recognises {α : Type} (reading : Reading α) (spells : List Line → α → Prop) : Prop where
  takes {lines : List Line} {value : α} : spells lines value → Takes reading lines value
  spelled {cursor after : LineCursor} {taken : Nat} {left : List Line} {value : α} :
    cursor.Shows taken left → reading cursor = .ok value after →
    ∃ lines later, left = lines ++ later ∧ spells lines value ∧
      after.Shows (taken + lines.length) later

namespace Recognises

variable {α β : Type}

theorem settle (result : Except Fault α) :
    Recognises (settle result) fun lines value => lines = [] ∧ result = .ok value where
  takes := by
    rintro _ value ⟨rfl, done⟩
    exact Takes.settle done
  spelled := by
    intro cursor after taken left value shows done
    obtain ⟨found, rfl⟩ := settle_eq_ok_iff.1 done
    exact ⟨[], left, rfl, ⟨rfl, found⟩, shows⟩

theorem pure (value : α) :
    Recognises (pure value) fun lines found => lines = [] ∧ value = found where
  takes := by
    rintro _ _ ⟨rfl, rfl⟩
    exact Takes.pure value
  spelled := by
    intro cursor after taken left found shows done
    obtain ⟨rfl, rfl⟩ := pure_eq_ok_iff.1 done
    exact ⟨[], left, rfl, ⟨rfl, rfl⟩, shows⟩

theorem readAs {parse : Line → Except Fault α} {related : Line → α → Prop}
    (parsed : ∀ {line value}, parse line = .ok value ↔ related line value) (reading : String) :
    Recognises (readAs reading parse) fun lines value =>
      ∃ line, lines = [line] ∧ related line value where
  takes := by
    rintro _ value ⟨line, rfl, holds⟩
    exact Takes.readAs reading (parsed.2 holds)
  spelled := by
    intro cursor after taken left value shows done
    obtain ⟨line, met, holds⟩ := readAs_eq_ok_iff.1 done
    cases left with
    | nil =>
      rw [shows.read_nil] at met
      cases met
    | cons next later =>
      obtain ⟨last, met', shows⟩ := shows.read_cons
      cases met'.symm.trans met
      exact ⟨[line], later, rfl, ⟨line, rfl, parsed.1 holds⟩, shows⟩

theorem bind {reading : Reading α} {next : α → Reading β} {spells : List Line → α → Prop}
    {others : α → List Line → β → Prop} (first : Recognises reading spells)
    (second : ∀ value, Recognises (next value) (others value)) :
    Recognises (reading >>= next) fun lines result =>
      ∃ value front back, lines = front ++ back ∧ spells front value ∧
        others value back result where
  takes := by
    rintro _ result ⟨value, front, back, rfl, before, after⟩
    exact (first.takes before).bind ((second value).takes after)
  spelled := by
    intro cursor after taken left result shows done
    obtain ⟨value, middle, met, done⟩ := bind_eq_ok_iff.1 done
    obtain ⟨front, rest, rfl, before, shows⟩ := first.spelled shows met
    obtain ⟨back, later, rfl, behind, shows⟩ := (second value).spelled shows done
    refine ⟨front ++ back, later, by simp, ⟨value, front, back, rfl, before, behind⟩, ?_⟩
    rwa [List.length_append, ← Nat.add_assoc]

theorem require (reading : String) :
    Recognises (require reading) fun lines line => lines = [line] where
  takes := by
    rintro _ line rfl
    exact Takes.require reading line
  spelled := by
    intro cursor after taken left line shows done
    have met := require_eq_ok_iff.1 done
    cases left with
    | nil => cases shows.read_nil.symm.trans met
    | cons first later =>
      obtain ⟨rest, read, shows⟩ := shows.read_cons
      cases read.symm.trans met
      exact ⟨[line], later, rfl, rfl, shows⟩

/-- One line, and whatever is read after it. -/
theorem line_bind {parse : Line → Except Fault α} {next : α → Reading β}
    {related : Line → α → Prop} {others : α → List Line → β → Prop}
    (parsed : ∀ {line value}, parse line = .ok value ↔ related line value) (reading : String)
    (second : ∀ value, Recognises (next value) (others value)) :
    Recognises (LineCursor.readAs reading parse >>= next) fun lines result =>
      ∃ line value back, lines = line :: back ∧ related line value ∧ others value back result where
  takes := by
    rintro _ result ⟨line, value, back, rfl, holds, after⟩
    exact ((readAs parsed reading).bind second).takes
      ⟨value, [line], back, rfl, ⟨line, rfl, holds⟩, after⟩
  spelled := by
    intro cursor after taken left result shows done
    obtain ⟨lines, later, cut, ⟨value, front, back, rfl, ⟨line, rfl, holds⟩, behind⟩, shows⟩ :=
      ((readAs parsed reading).bind second).spelled shows done
    exact ⟨line :: back, later, cut, ⟨line, value, back, rfl, holds, behind⟩, shows⟩

theorem congr {reading : Reading α} {spells others : List Line → α → Prop}
    (recognises : Recognises reading spells)
    (same : ∀ lines value, spells lines value ↔ others lines value) :
    Recognises reading others where
  takes holds := recognises.takes ((same _ _).2 holds)
  spelled := by
    intro cursor after taken left value shows done
    obtain ⟨lines, later, cut, holds, shows⟩ := recognises.spelled shows done
    exact ⟨lines, later, cut, (same _ _).1 holds, shows⟩

/-- What is taken from lines that stand alone is what they spell. -/
theorem spells_of_takes {reading : Reading α} {spells : List Line → α → Prop}
    (recognises : Recognises reading spells) {lines : List Line} {value : α}
    (unbroken : ∀ line ∈ lines, IsUnbroken line) (takes : Takes reading lines value) :
    spells lines value := by
  have shows := shows_ofLines lines
  have same : lines.map stripTerminator = lines :=
    (List.map_congr_left fun line member =>
      stripTerminator_unterminated (unbroken line member)).trans (List.map_id lines)
  rw [same, ← List.append_nil lines] at shows
  obtain ⟨after, done, ends⟩ := takes _ _ _ shows
  obtain ⟨part, later, cut, holds, others⟩ := recognises.spelled shows done
  obtain rfl : later = [] := others.lines.symm.trans ends.lines
  rw [List.append_nil, List.append_nil] at cut
  exact cut ▸ holds

end Recognises

end Atomistic
