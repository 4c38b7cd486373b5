import Atomistic.Proofs.FrameExtent
import Atomistic.Proofs.Relocation
import Atomistic.Proofs.StreamFaults

/-! What passing over a frame looks at. It ends where reading the frame would end, but all it knows
of the frame are the two lines with its counts; every other line may be anything. -/

namespace Atomistic

open Text LineCursor

/-- Two cursors that have taken equally many lines, and have these and as many others left. -/
structure LineCursor.Abreast (taken : Nat) (left beside : List Line) (cursor other : LineCursor) :
    Prop where
  shows : cursor.Shows taken left
  alongside : other.Shows taken beside
  sized : left.length = beside.length

namespace LineCursor.Abreast

variable {taken : Nat} {left beside : List Line} {cursor other : LineCursor}

/-- A line is asked for in vain of both, or both have one. -/
theorem require_cases (abreast : Abreast taken left beside cursor other) (reading : String) :
    (∃ fault, require reading cursor = .error fault cursor ∧
        require reading other = .error fault other) ∨
      ∃ line line' later later' after after', left = line :: later ∧ beside = line' :: later' ∧
        LineCursor.read cursor = .ok (some line) after ∧
        LineCursor.read other = .ok (some line') after' ∧
        Abreast (taken + 1) later later' after after' := by
  obtain ⟨shows, alongside, sized⟩ := abreast
  cases left with
  | nil =>
    obtain rfl := List.length_eq_zero_iff.1 sized.symm
    refine .inl ⟨_, require_of_none shows.read_nil reading, ?_⟩
    rw [shows.lineNumber, ← alongside.lineNumber]
    exact require_of_none alongside.read_nil reading
  | cons line later =>
    obtain ⟨line', later', rfl⟩ := List.exists_cons_of_length_eq_add_one sized.symm
    obtain ⟨after, read, shows⟩ := shows.read_cons
    obtain ⟨after', read', alongside⟩ := alongside.read_cons
    exact .inr ⟨line, line', later, later', after, after', rfl, rfl, read, read', shows, alongside,
      Nat.succ.inj sized⟩

/-- Lines that nothing looks at may differ. -/
theorem skipLines (abreast : Abreast taken left beside cursor other) (reading : String)
    (count : Nat) :
    Moved (Abreast (taken + count) (left.drop count) (beside.drop count)) 0
      (Frame.skipLines reading count cursor) (Frame.skipLines reading count other) := by
  induction count generalizing taken left beside cursor other with
  | zero => exact .ok abreast
  | succ count ih =>
    unfold Frame.skipLines
    rcases abreast.require_cases reading with
      ⟨fault, failed, failed'⟩ |
      ⟨line, line', later, later', after, after', rfl, rfl, read, read', onward⟩
    · rw [bind_of_error failed, bind_of_error failed']
      exact .error_zero
    · rw [bind_of_ok (require_eq_ok_iff.2 read), bind_of_ok (require_eq_ok_iff.2 read')]
      have others := ih onward
      rwa [Nat.add_assoc, Nat.add_comm 1] at others

/-- The same line is read the same way. -/
theorem readAs {α : Type} (abreast : Abreast taken left beside cursor other)
    (same : left.head? = beside.head?) (reading : String) (parse : Line → Except Fault α) :
    Moved (Abreast (taken + 1) (left.drop 1) (beside.drop 1)) 0
      (readAs reading parse cursor) (readAs reading parse other) := by
  rcases abreast.require_cases reading with
    ⟨fault, failed, failed'⟩ |
    ⟨line, line', later, later', after, after', rfl, rfl, read, read', onward⟩
  · unfold LineCursor.readAs
    rw [bind_of_error failed, bind_of_error failed']
    exact .error_zero
  · obtain rfl := Option.some.inj same
    rw [readAs_of_some read, readAs_of_some read', onward.shows.lineNumber,
      onward.alongside.lineNumber]
    cases (parse line).mapError (Fault.atLine (taken + 1)) with
    | ok value => exact .ok onward
    | error fault => exact .error_zero

end LineCursor.Abreast

namespace Frame

variable {taken : Nat} {left beside : List Line} {cursor other : LineCursor}

theorem moved_readCounts (abreast : Abreast taken left beside cursor other)
    (species : left[0]? = beside[0]?) (counts : left[1]? = beside[1]?) :
    Moved (Abreast (taken + 2) (left.drop 2) (beside.drop 2)) 0
      (readCounts cursor) (readCounts other) := by
  rw [← List.head?_eq_getElem?, ← List.head?_eq_getElem?] at species
  refine (abreast.readAs species _ _).bind fun species middle further onward => ?_
  have second := onward.readAs (by simpa using counts) "atoms per species"
    (FrameLine.atomCounts species)
  rwa [List.drop_drop, List.drop_drop] at second

/-- Only the seventh and the eighth line from here have to be the same. -/
theorem moved_skip (abreast : Abreast taken left beside cursor other)
    (species : left[6]? = beside[6]?) (counts : left[7]? = beside[7]?) :
    Moved (fun rest beyond => ∃ taken left beside, Abreast taken left beside rest beyond) 0
      (Frame.skip cursor) (Frame.skip other) := by
  refine (abreast.skipLines "frame header" 6).bind fun _ middle further onward => ?_
  have numbers := moved_readCounts onward (by simpa using species) (by simpa using counts)
  refine numbers.bind fun counts middle further onward => ?_
  refine (onward.skipLines "mass per species" 1).bind fun _ middle further onward => ?_
  refine (onward.skipLines "frame body" (bodyLines counts)).mono fun rest beyond last => ?_
  exact ⟨_, _, _, last⟩

/-- What is taken by passing over a frame is told by two of the lines. -/
theorem counts_of_skip {raw : List Line} {rest : LineCursor}
    (passed : Frame.skip (.ofLines raw) = .ok () rest) :
    ∃ counts, SpellsCounts (((raw.drop 6).take 2).map stripTerminator) counts ∧
      rest.lineNumber = 9 + 2 * counts.length + counts.sum ∧
      rest.lineNumber + rest.remaining = raw.length := by
  obtain ⟨lines, later, cut, extent, shows⟩ := recognises_skip.spelled (shows_ofLines raw) passed
  obtain ⟨counts, counted, sized⟩ := extent.counts
  refine ⟨counts, ?_, by rw [shows.lineNumber, Nat.zero_add, sized], ?_⟩
  · rw [List.map_take, List.map_drop, cut, List.drop_append_of_le_length (by omega),
      List.take_append_of_le_length (by rw [List.length_drop]; omega)]
    exact counted
  · rw [shows.lineNumber, shows.remaining, Nat.zero_add, ← List.length_append, ← cut,
      List.length_map]

/-- Where two of the lines have counts, and enough lines follow, a frame is passed over. -/
theorem skip_of_counts {raw : List Line} {counts : List Nat}
    (counted : SpellsCounts (((raw.drop 6).take 2).map stripTerminator) counts)
    (enough : 9 + 2 * counts.length + counts.sum ≤ raw.length) :
    ∃ rest, Frame.skip (.ofLines raw) = .ok () rest := by
  have shows := shows_ofLines raw
  rw [← List.length_map stripTerminator] at enough
  rw [List.map_take, List.map_drop] at counted
  obtain ⟨piece, later, cut, extent⟩ := exists_extent counted enough
  rw [cut] at shows
  obtain ⟨rest, passed, -⟩ := recognises_skip.takes extent _ _ _ shows
  exact ⟨rest, passed⟩

/-- Passing over a frame ends where reading it ends, whatever was looked at ahead and whatever
follows, and it fails only where reading fails. -/
theorem skip_ends_with_read (cursor : LineCursor) :
    (∀ frame rest, Frame.read cursor = .ok frame rest → Frame.skip cursor = .ok () rest) ∧
      ∀ fault rest, Frame.skip cursor = .error fault rest →
        ∃ other last, Frame.read cursor = .error other last := by
  constructor
  · intro frame rest read
    exact skip_of_read read
  · intro fault rest failed
    cases read : Frame.read cursor with
    | ok frame last =>
      have passed := skip_of_read read
      rw [failed] at passed
      cases passed
    | error other last => exact ⟨other, last, rfl⟩

/-- A cursor that has looked ahead over two blank lines. They begin a frame with a label in place of
a count, and a line of something else follows it. -/
def labelledAhead : LineCursor :=
  (LineCursor.ofText ("\n\n1 1 1\n90 90 90\n\n\n1\n1\n1\nH\nCoordinates of H\n" ++
    "1 1 1 0 0\nmore")).pullThroughBlank

theorem skip_ends_with_read_labelled :
    ∃ frame rest, Frame.read labelledAhead = .ok frame rest ∧
      Frame.skip labelledAhead = .ok () rest ∧ rest.lineNumber = 12 ∧ rest.remaining = 1 := by
  have whole : (Frame.read >>= fun _ => pure ()) labelledAhead =
      .ok () ⟨["more".toList], .clean, [], 12, 12⟩ := by
    decide +kernel
  obtain ⟨frame, rest, read, ends⟩ := bind_eq_ok_iff.1 whole
  obtain ⟨-, rfl⟩ := pure_eq_ok_iff.1 ends
  exact ⟨frame, _, read, (skip_ends_with_read labelledAhead).1 frame _ read, rfl, rfl⟩

/-- Two inputs of as many lines that have the same seventh and eighth line are passed over alike.
Either these two lines are counts, and both inputs lose as many lines as the counts call for, or
both fail with the same fault. -/
theorem skip_sees_only_counts {raw other : List Line} (sized : raw.length = other.length)
    (species : raw[6]? = other[6]?) (counts : raw[7]? = other[7]?) :
    (∃ counts rest beyond, SpellsCounts (((raw.drop 6).take 2).map stripTerminator) counts ∧
        Frame.skip (.ofLines raw) = .ok () rest ∧ Frame.skip (.ofLines other) = .ok () beyond ∧
        rest.lineNumber = 9 + 2 * counts.length + counts.sum ∧
        rest.lineNumber + rest.remaining = raw.length ∧
        beyond.lineNumber = rest.lineNumber ∧ beyond.remaining = rest.remaining) ∨
      ((¬ ∃ counts, SpellsCounts (((raw.drop 6).take 2).map stripTerminator) counts ∧
          9 + 2 * counts.length + counts.sum ≤ raw.length) ∧
        ∃ fault rest beyond, Frame.skip (.ofLines raw) = .error fault rest ∧
          Frame.skip (.ofLines other) = .error fault beyond) := by
  have abreast : Abreast 0 (raw.map stripTerminator) (other.map stripTerminator) (.ofLines raw)
      (.ofLines other) :=
    ⟨shows_ofLines raw, shows_ofLines other, by rw [List.length_map, List.length_map, sized]⟩
  have moved := moved_skip abreast (by rw [List.getElem?_map, species, List.getElem?_map])
    (by rw [List.getElem?_map, counts, List.getElem?_map])
  generalize passed : Frame.skip (.ofLines raw) = result at moved
  generalize passed' : Frame.skip (.ofLines other) = outcome at moved
  cases moved with
  | @ok _ rest beyond kept =>
    obtain ⟨counts, counted, number, whole⟩ := counts_of_skip passed
    obtain ⟨taken, left, beside, onward⟩ := kept
    refine .inl ⟨counts, rest, beyond, counted, rfl, rfl, number, whole, ?_, ?_⟩
    · rw [onward.shows.lineNumber, onward.alongside.lineNumber]
    · rw [onward.shows.remaining, onward.alongside.remaining, onward.sized]
  | @error fault rest beyond =>
    refine .inr ⟨?_, fault, rest, beyond, rfl, by rw [Fault.movedDown_zero]⟩
    rintro ⟨counts, counted, enough⟩
    obtain ⟨last, succeeds⟩ := skip_of_counts counted enough
    cases succeeds.symm.trans passed

/-- Lines with nothing in them but the counts of two species with three atoms. -/
def countsAmongNoise : List Line :=
  ["?", "?", "?", "?", "?", "?", "2\n", "1 2\r\n", "?", "?", "?", "?", "?", "?", "?", "?", "?"].map
    String.toList

/-- The same counts among blank lines. -/
def countsAmongBlanks : List Line :=
  ["", "", "", "", "", "", "2\n", "1 2\r\n", "", "", "", "", "", "", "", "", ""].map String.toList

theorem skip_sees_only_counts_noise :
    countsAmongNoise.length = countsAmongBlanks.length ∧
      countsAmongNoise[6]? = countsAmongBlanks[6]? ∧
      countsAmongNoise[7]? = countsAmongBlanks[7]? ∧
      ∃ rest beyond, Frame.skip (.ofLines countsAmongNoise) = .ok () rest ∧
        rest.lineNumber = 16 ∧ Frame.skip (.ofLines countsAmongBlanks) = .ok () beyond ∧
        beyond.lineNumber = 16 := by
  have passed : Frame.skip (.ofLines countsAmongNoise) =
      .ok () ⟨countsAmongNoise.drop 16, .clean, [], 16, 16⟩ := by
    decide +kernel
  rcases @skip_sees_only_counts countsAmongNoise countsAmongBlanks rfl rfl rfl with
    ⟨_, rest, beyond, -, done, alike, -, -, same, -⟩ | ⟨-, _, _, _, failed, -⟩
  · cases passed.symm.trans done
    exact ⟨rfl, rfl, rfl, _, beyond, passed, rfl, alike, same⟩
  · cases passed.symm.trans failed

end Frame

end Atomistic
