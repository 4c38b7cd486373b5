import Mathlib.Order.Bounds.Basic
import Atomistic.Frame.Header
import Atomistic.Proofs.Results

/-! How much of a header line is copied into memory of limited size. Every character begins with
a byte that does not go on with another one, so stepping back over the bytes that do stops at the
last place in reach where a character ends. A copy that fails leaves the memory as it was. -/

namespace Atomistic

section Characters

variable {line : List CodePoint} {bytes : List UInt8}

theorem isContinuation_ofNat :
    ∀ value < 256, isContinuation (.ofNat value) = decide (value / 64 = 2) := by
  decide +kernel

/-- Only the first byte of a character does not go on with it. -/
theorem utf8EncodeChar_eq_cons (c : Char) :
    ∃ lead trail, String.utf8EncodeChar c = lead :: trail ∧ isContinuation lead = false ∧
      ∀ byte ∈ trail, isContinuation byte = true := by
  have goOn (values : List Nat) :
      ∀ byte ∈ values.map fun value => UInt8.ofNat (value % 0x40 + 0x80),
        isContinuation byte = true := by
    refine List.forall_mem_map.2 fun value _ => ?_
    rw [isContinuation_ofNat _ (by omega), decide_eq_true_iff]
    omega
  have begins (value : Nat) (small : value < 256) (other : value / 64 ≠ 2) :
      isContinuation (.ofNat value) = false := by
    rw [isContinuation_ofNat _ small, decide_eq_false_iff_not]
    exact other
  rw [String.utf8EncodeChar]
  split
  · exact ⟨_, _, rfl, begins _ (by omega) (by omega), goOn []⟩
  split
  · exact ⟨_, _, rfl, begins _ (by omega) (by omega), goOn [_]⟩
  split
  · exact ⟨_, _, rfl, begins _ (by omega) (by omega), goOn [_, _]⟩
  · exact ⟨_, _, rfl, begins _ (by omega) (by omega), goOn [_, _, _]⟩

theorem any_isContinuation_utf8EncodeChar (c : Char) {place : Nat} (inside : place < c.utf8Size) :
    (String.utf8EncodeChar c)[place]?.any isContinuation = decide (0 < place) := by
  obtain ⟨lead, trail, begins, first, others⟩ := utf8EncodeChar_eq_cons c
  rw [← String.length_utf8EncodeChar, begins, List.length_cons] at inside
  rw [begins]
  cases place with
  | zero => simpa using first
  | succ place =>
    have within : place < trail.length := Nat.lt_of_succ_lt_succ inside
    simpa [within] using others _ (List.getElem_mem within)

/-- The first so many bytes of a line are all the bytes of its first characters. -/
def EndsCharacter (line : List CodePoint) (bytes : List UInt8) (place : Nat) : Prop :=
  ∃ front, front <+: line ∧ utf8? front = some (bytes.take place)

theorem endsCharacter_zero : EndsCharacter line bytes 0 :=
  ⟨[], List.nil_prefix, rfl⟩

theorem endsCharacter_cons_iff {c : Char} {later : List UInt8} {place : Nat}
    (inside : 0 < place) :
    EndsCharacter (.character c :: line) (String.utf8EncodeChar c ++ later) place ↔
      c.utf8Size ≤ place ∧ EndsCharacter line later (place - c.utf8Size) := by
  rw [← String.length_utf8EncodeChar]
  constructor
  · rintro ⟨_, leads, encoded⟩
    rcases List.prefix_cons_iff.1 leads with rfl | ⟨front, rfl, before⟩
    · have empty : (String.utf8EncodeChar c ++ later).take place = [] :=
        (Option.some.inj encoded).symm
      obtain ⟨lead, trail, begins, -⟩ := utf8EncodeChar_eq_cons c
      rw [begins, List.take_eq_nil_iff] at empty
      simp only [List.cons_append, reduceCtorEq, or_false] at empty
      omega
    · rw [utf8?, Option.map_eq_some_iff] at encoded
      obtain ⟨found, encoded, same⟩ := encoded
      have long : (String.utf8EncodeChar c).length ≤ place := by
        have lengths := congrArg List.length same
        simp only [List.length_append, List.length_take] at lengths
        omega
      rw [List.take_append, List.take_of_length_le long, List.append_cancel_left_eq] at same
      exact ⟨long, front, before, same ▸ encoded⟩
  · rintro ⟨long, front, before, encoded⟩
    refine ⟨.character c :: front, List.cons_prefix_cons.2 ⟨rfl, before⟩, ?_⟩
    rw [utf8?, encoded, List.take_append, List.take_of_length_le long]
    rfl

/-- The byte at a place tells whether a character ends in front of it. -/
theorem endsCharacter_iff (encoded : utf8? line = some bytes) (place : Nat) :
    EndsCharacter line bytes place ↔ bytes[place]?.any isContinuation = false := by
  induction line generalizing bytes place with
  | nil =>
    cases encoded
    simpa using ⟨[], List.prefix_rfl, by simp [utf8?]⟩
  | cons point line ih =>
    cases point with
    | surrogate index => cases encoded
    | character c =>
      rw [utf8?, Option.map_eq_some_iff] at encoded
      obtain ⟨later, encoded, rfl⟩ := encoded
      rcases Nat.lt_or_ge place c.utf8Size with short | long
      · rw [List.getElem?_append_left (by simpa using short),
          any_isContinuation_utf8EncodeChar c short]
        rcases Nat.eq_zero_or_pos place with rfl | inside
        · simpa using endsCharacter_zero
        · rw [endsCharacter_cons_iff inside]
          simp [inside, short]
      · have inside : 0 < place := Nat.lt_of_lt_of_le c.utf8Size_pos long
        rw [endsCharacter_cons_iff inside, ih encoded,
          List.getElem?_append_right (by simpa using long), String.length_utf8EncodeChar]
        exact and_iff_right long

end Characters

section Reach

variable {line : List CodePoint} {bytes : List UInt8}

/-- Stepping back stops at the first place that is not within a character. -/
theorem backOff_isGreatest (bytes : List UInt8) (limit : Nat) :
    IsGreatest {place | place ≤ limit ∧
      (place = 0 ∨ bytes[place]?.any isContinuation = false)} (backOff bytes limit) := by
  induction limit with
  | zero => exact ⟨⟨Nat.le_refl 0, .inl rfl⟩, fun place inside => inside.1⟩
  | succ limit ih =>
    rw [backOff]
    split
    next cut =>
      refine ⟨⟨Nat.le_succ_of_le ih.1.1, ih.1.2⟩, fun place inside => ?_⟩
      obtain ⟨below, whole⟩ := inside
      apply ih.2
      refine ⟨Nat.le_of_lt_succ (Nat.lt_of_le_of_ne below ?_), whole⟩
      rintro rfl
      simp [cut] at whole
    next whole =>
      exact ⟨⟨Nat.le_refl _, .inr (Bool.eq_false_iff.2 whole)⟩, fun place inside => inside.1⟩

/-- Stepping back keeps as many whole characters as are in reach. -/
theorem backOff_endsCharacter (encoded : utf8? line = some bytes) (limit : Nat) :
    IsGreatest {place | place ≤ limit ∧ EndsCharacter line bytes place} (backOff bytes limit) := by
  have same : {place | place ≤ limit ∧ EndsCharacter line bytes place} =
      {place | place ≤ limit ∧ (place = 0 ∨ bytes[place]?.any isContinuation = false)} := by
    ext place
    simp only [Set.mem_ofPred_eq, ← endsCharacter_iff encoded]
    constructor
    · exact fun ⟨below, ends⟩ => ⟨below, .inr ends⟩
    · rintro ⟨below, rfl | ends⟩
      · exact ⟨below, endsCharacter_zero⟩
      · exact ⟨below, ends⟩
  rw [same]
  exact backOff_isGreatest bytes limit

end Reach

section Memory

variable {bytes before : List UInt8} {written : Nat}

/-- The first so many bytes stand at the front, with a zero behind them. The rest is kept. -/
structure Copied (bytes : List UInt8) (written : Nat) (before after : List UInt8) : Prop where
  length : after.length = before.length
  copied : after.take written = bytes.take written
  ended : after[written]? = some 0
  kept : ∀ place, written < place → after[place]? = before[place]?

/-- As many whole characters are copied as there is room for. -/
structure CopiedInRoom (line : List CodePoint) (bytes : List UInt8) (room : Nat)
    (count : CopyCount) (before after : List UInt8) : Prop
    extends Copied bytes count.written before after where
  greatest : IsGreatest {stop | stop ≤ min bytes.length room ∧ EndsCharacter line bytes stop}
    count.written
  truncated : count.truncated = true ↔ count.written < bytes.length

theorem copied_of_fits (within : written ≤ bytes.length) (fits : written < before.length) :
    Copied bytes written before (bytes.take written ++ 0 :: before.drop (written + 1)) where
  length := by
    simp only [List.length_append, List.length_take, List.length_cons, List.length_drop]
    omega
  copied := by simp [within]
  ended := by simp [within]
  kept place behind := by
    obtain ⟨further, rfl⟩ := Nat.exists_eq_add_of_lt behind
    have front : (bytes.take written).length = written := List.length_take_of_le within
    rw [List.getElem?_append_right (by omega), front,
      show written + further + 1 - written = further + 1 by omega, List.getElem?_cons_succ,
      List.getElem?_drop]
    congr 1
    omega

end Memory

section Places

variable {side index : RawValue} {place : HeaderPlace}

/-- What the headers before and after the box are called. -/
def BoxSide.word : BoxSide → String
  | before => "pre"
  | after => "post"

theorem BoxSide.ofRaw_eq_ok_iff {side : BoxSide} {given : RawValue} :
    BoxSide.ofRaw given = .ok side ↔ given = .text side.word := by
  constructor
  · intro read
    unfold BoxSide.ofRaw at read
    split at read <;> cases read <;> rfl
  · rintro rfl
    cases side <;> rfl

theorem isLowerIndex_eq_ok_iff {lower : Bool} {given : RawValue} :
    isLowerIndex given = .ok lower ↔ given = .integer lower.toInt := by
  constructor
  · intro read
    unfold isLowerIndex at read
    split at read
    · cases read
      rfl
    · cases read
      rfl
    · split at read <;> cases read
    · cases read
  · rintro rfl
    cases lower <;> rfl

/-- How a place is asked for. -/
def HeaderPlace.Asked (side index : RawValue) (place : HeaderPlace) : Prop :=
  side = .text place.side.word ∧ index = .integer place.lower.toInt

theorem HeaderPlace.ofRaw_eq_ok_iff :
    HeaderPlace.ofRaw side index = .ok place ↔ Asked side index place := by
  simp only [HeaderPlace.ofRaw, result_bind_eq_ok_iff, BoxSide.ofRaw_eq_ok_iff,
    isLowerIndex_eq_ok_iff, pure_eq_ok, Except.ok.injEq, Asked]
  constructor
  · rintro ⟨_, whichSide, _, whichLine, rfl⟩
    exact ⟨whichSide, whichLine⟩
  · rintro ⟨whichSide, whichLine⟩
    exact ⟨_, whichSide, _, whichLine, rfl⟩

end Places

section Copies

variable {lines : HeaderPlace → List CodePoint} {line : List CodePoint} {side index : RawValue}
  {bytes buffer : List UInt8}

/-- A copy fails in front of its first change to the memory. -/
theorem copyLine_refuses {capacity : Nat}
    (refused : (¬ ∃ place bytes, HeaderPlace.Asked side index place ∧
      utf8? (lines place) = some bytes) ∨ capacity = 0) (memory : List UInt8) :
    ∃ fault, copyLine lines side index capacity memory = .error fault memory := by
  cases placed : HeaderPlace.ofRaw side index with
  | error fault => exact ⟨.value fault, by simp only [copyLine, placed]; rfl⟩
  | ok place =>
    cases encoded : utf8? (lines place) with
    | none => exact ⟨.unencodable, by simp only [copyLine, placed, encoded]; rfl⟩
    | some bytes =>
      rcases refused with unmet | rfl
      · exact absurd ⟨place, bytes, HeaderPlace.ofRaw_eq_ok_iff.1 placed, encoded⟩ unmet
      · exact ⟨.value .noRoom,
          by rw [copyLine_of_bytes placed encoded, copyBytes_eq, Nat.zero_min]⟩

theorem copyBytes_copies (encoded : utf8? line = some bytes) (usable : buffer ≠ [])
    (behind : List UInt8) :
    ∃ count after, copyBytes bytes buffer.length (buffer ++ behind) = .ok count after ∧
      CopiedInRoom line bytes (buffer.length - 1) count (buffer ++ behind) after := by
  obtain ⟨first, rest, rfl⟩ := List.exists_cons_of_ne_nil usable
  have greatest := backOff_endsCharacter encoded (min bytes.length rest.length)
  obtain ⟨within, below⟩ := Nat.le_min.1 greatest.1.1
  have capacity : min (first :: rest).length (first :: rest ++ behind).length =
      rest.length + 1 := by
    simp
  have fits : backOff bytes (min bytes.length rest.length) <
      (first :: rest ++ behind).length := by
    simp only [List.cons_append, List.length_cons, List.length_append]
    omega
  rw [copyBytes_eq, capacity]
  exact ⟨_, _, rfl, copied_of_fits within fits, greatest, decide_eq_true_iff⟩

theorem Frame.utf8?_codePoints (frame : Frame) (place : HeaderPlace) :
    utf8? (frame.codePoints place) = some (frame.headerAt place).text.toUTF8.data.toList := by
  rw [Frame.codePoints, utf8?_characters, String.toUTF8_eq_toByteArray, ← String.utf8Encode_toList,
    List.utf8Encode, List.toList_data_toByteArray]

theorem Frame.copyHeaderLine_eq_ok_iff {frame : Frame} {capacity : Nat} {memory : List UInt8}
    {copy : HeaderCopy} :
    frame.copyHeaderLine side index capacity memory = .ok copy ↔
      copyLine frame.codePoints side index capacity memory =
        .ok copy.toCopyCount copy.memory := by
  unfold Frame.copyHeaderLine
  split
  next count after copied =>
    rw [copied, Except.ok.injEq, EStateM.Result.ok.injEq]
    constructor
    · rintro rfl
      exact ⟨rfl, rfl⟩
    · rintro ⟨rfl, rfl⟩
      rfl
  next fault after failed =>
    exact ⟨nofun, fun copied => nomatch failed.symm.trans copied⟩

/-- A header line is copied up to the last end of a character that leaves room for a zero behind
it, and nothing else in the memory changes. Where the place, the line or the room does not allow
a copy, it fails and nothing changes at all. The lines of a frame always allow one. -/
theorem copyLine_bounded (lines : HeaderPlace → List CodePoint) (side index : RawValue)
    (buffer behind : List UInt8) :
    (∀ place bytes, HeaderPlace.Asked side index place → utf8? (lines place) = some bytes →
      buffer ≠ [] →
      ∃ count after,
        copyLine lines side index buffer.length (buffer ++ behind) = .ok count after ∧
        CopiedInRoom (lines place) bytes (buffer.length - 1) count (buffer ++ behind) after) ∧
    ((¬ ∃ place bytes, HeaderPlace.Asked side index place ∧
        utf8? (lines place) = some bytes) ∨ buffer = [] →
      ∃ fault, copyLine lines side index buffer.length (buffer ++ behind) =
        .error fault (buffer ++ behind)) ∧
    ∀ frame : Frame,
      (∀ place, utf8? (frame.codePoints place) =
        some (frame.headerAt place).text.toUTF8.data.toList) ∧
      ∀ copy, frame.copyHeaderLine side index buffer.length (buffer ++ behind) = .ok copy ↔
        copyLine frame.codePoints side index buffer.length (buffer ++ behind) =
          .ok copy.toCopyCount copy.memory := by
  refine ⟨fun place bytes asked encoded usable => ?_, fun refused => ?_,
    fun frame => ⟨frame.utf8?_codePoints, fun copy => Frame.copyHeaderLine_eq_ok_iff⟩⟩
  · rw [copyLine_of_bytes (HeaderPlace.ofRaw_eq_ok_iff.2 asked) encoded]
    exact copyBytes_copies encoded usable behind
  · exact copyLine_refuses (refused.imp_right (congrArg List.length)) _

/-- Lines of which only those after the box can be encoded. -/
def halfEncoded : HeaderPlace → List CodePoint
  | ⟨.before, _⟩ => [.surrogate 0]
  | ⟨.after, _⟩ => [.character 'a', .character 'Å']

theorem copyLine_bounded_halfEncoded :
    copyLine halfEncoded (.text "post") (.integer 0) 3 [1, 2, 3, 4] =
        .ok ⟨1, true⟩ [97, 0, 3, 4] ∧
      CopiedInRoom [.character 'a', .character 'Å'] [97, 195, 133] 2 ⟨1, true⟩
        [1, 2, 3, 4] [97, 0, 3, 4] ∧
      ∃ fault, copyLine halfEncoded (.text "pre") (.integer 0) 3 [1, 2, 3, 4] =
        .error fault [1, 2, 3, 4] := by
  have cut : copyLine halfEncoded (.text "post") (.integer 0) 3 [1, 2, 3, 4] =
      .ok ⟨1, true⟩ [97, 0, 3, 4] := by
    decide +kernel
  obtain ⟨count, after, copied, inRoom⟩ :=
    (copyLine_bounded halfEncoded (.text "post") (.integer 0) [1, 2, 3] [4]).1 ⟨.after, false⟩
      [97, 195, 133] ⟨rfl, rfl⟩ (by decide +kernel) nofun
  obtain ⟨rfl, rfl⟩ := EStateM.Result.ok.inj (cut.symm.trans copied)
  refine ⟨cut, inRoom, ?_⟩
  refine (copyLine_bounded halfEncoded (.text "pre") (.integer 0) [1, 2, 3] [4]).2.1 (.inl ?_)
  rintro ⟨⟨side, lower⟩, bytes, ⟨whichSide, -⟩, encoded⟩
  cases side with
  | before => cases encoded
  | after => simp [BoxSide.word] at whichSide

end Copies

end Atomistic
