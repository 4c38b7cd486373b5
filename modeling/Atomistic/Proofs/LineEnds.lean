import Atomistic.Proofs.FileRoundTrip
import Atomistic.Proofs.Relocation

/-! Ways to end a line. A text in memory is cut at line feeds, and a carriage return in front of
one is only dropped when the line is read; in a file a carriage return ends a line as well. What is
read are the same lines under the same numbers, so the frames and the faults are the same too. -/

namespace Atomistic

open Text

section Lines

variable {text : List Char}

/-- A text whose lines end with a carriage return and a line feed is cut in the same places. -/
theorem rawLines_withLineEnds (text : List Char) :
    rawLines (withLineEnds .returnAndFeed text) =
      (rawLines text).map (withLineEnds .returnAndFeed) := by
  induction text with
  | nil => rfl
  | cons c rest ih =>
    by_cases newline : c = '\n'
    · subst newline
      change addInFront '\r' (addInFront '\n' (rawLines (withLineEnds _ rest))) =
        (addInFront '\n' (rawLines rest)).map _
      rw [ih]
      rfl
    · rw [withLineEnds_cons newline]
      change addInFront c (rawLines (withLineEnds _ rest)) = (addInFront c (rawLines rest)).map _
      rw [ih]
      unfold addInFront
      rw [if_neg newline, if_neg newline]
      cases rawLines rest with
      | nil => simp [withLineEnds, newline]
      | cons line others => simp [withLineEnds_cons newline]

/-- A raw line has no line break but the line feed at its end, if there is one. -/
theorem exists_line_of_mem_rawLines (plain : '\r' ∉ text) {raw : Line}
    (member : raw ∈ rawLines text) :
    ∃ line, IsUnbroken line ∧ (raw = line ∨ raw = line ++ ['\n']) := by
  induction text generalizing raw with
  | nil => cases member
  | cons c rest ih =>
    have other : c ≠ '\r' := fun same => plain (by simp [same])
    have later {raw : Line} (among : raw ∈ rawLines rest) :=
      ih (fun inside => plain (List.mem_cons_of_mem _ inside)) among
    change raw ∈ addInFront c (rawLines rest) at member
    unfold addInFront at member
    split at member
    next newline =>
      rcases List.mem_cons.1 member with rfl | among
      · exact ⟨[], by simp [IsUnbroken], .inr rfl⟩
      · exact later among
    next newline =>
      have alone : IsUnbroken [c] := by simp [IsUnbroken, newline, other]
      split at member
      next =>
        cases List.mem_singleton.1 member
        exact ⟨[c], alone, .inl rfl⟩
      next first others cut =>
        rw [cut] at later
        rcases List.mem_cons.1 member with rfl | among
        · obtain ⟨line, unbroken, shape⟩ := later List.mem_cons_self
          refine ⟨c :: line, alone.append unbroken, ?_⟩
          exact shape.imp (congrArg (c :: ·)) (congrArg (c :: ·))
        · exact later (List.mem_cons_of_mem _ among)

theorem withLineEnds_unbroken (lineEnd : LineEnd) {line : Line} (unbroken : IsUnbroken line)
    (rest : List Char) :
    withLineEnds lineEnd (line ++ rest) = line ++ withLineEnds lineEnd rest := by
  induction line with
  | nil => rfl
  | cons c line ih =>
    obtain ⟨first, others⟩ := List.forall_mem_cons.1 unbroken
    rw [List.cons_append, withLineEnds_cons first.1, ih others, List.cons_append]

theorem stripTerminator_returnAndFeed (line : Line) :
    stripTerminator (line ++ ['\r', '\n']) = line := by
  simp [stripTerminator, dropLast]

/-- The carriage returns are part of the terminators, and gone when the lines are read. -/
theorem lines_withLineEnds (plain : '\r' ∉ text) :
    (rawLines (withLineEnds .returnAndFeed text)).map stripTerminator =
      (rawLines text).map stripTerminator := by
  rw [rawLines_withLineEnds, List.map_map]
  refine List.map_congr_left fun raw member => ?_
  obtain ⟨line, unbroken, rfl | rfl⟩ := exists_line_of_mem_rawLines plain member
  · have same := withLineEnds_unbroken .returnAndFeed unbroken []
    rw [List.append_nil] at same
    exact congrArg stripTerminator (same.trans (List.append_nil _))
  · have ended := withLineEnds_unbroken .returnAndFeed unbroken ['\n']
    rw [Function.comp_apply, ended, stripTerminator_unbroken unbroken]
    exact stripTerminator_returnAndFeed line

end Lines

namespace Document

variable {text other : String}

theorem frames_of_same_lines
    (same : (rawLines other.toList).map stripTerminator =
      (rawLines text.toList).map stripTerminator) :
    Document.frames other = Document.frames text := by
  have shows := LineCursor.shows_ofText other
  rw [same] at shows
  have beside : FrameStream.Above 0 (FrameStream.ofText text) (FrameStream.ofText other) :=
    ⟨rfl, rfl, rfl, 0, _, LineCursor.shows_ofText text, shows⟩
  have moved := FrameStream.relocates_drain _ _ _ beside
  unfold Document.frames
  generalize (FrameStream.ofText text).drain = result at moved ⊢
  generalize (FrameStream.ofText other).drain = beyond at moved ⊢
  cases moved with
  | ok kept => rfl
  | error => exact congrArg Except.error (Fault.movedDown_zero _)

/-- The text with another end written for each of its line feeds. -/
def withLineEnds (lineEnd : LineEnd) (text : String) : String :=
  String.ofList (Atomistic.withLineEnds lineEnd text.toList)

/-- It does not matter how lines end. The same frames are read from a text, or the same fault comes
up on the same line, whether its lines end with line feeds or with carriage returns in front of
these; and so it is with a file of that text, where a lone carriage return may end the lines too. -/
theorem frames_of_lineEnds (plain : '\r' ∉ text.toList) :
    Document.frames (withLineEnds .returnAndFeed text) = Document.frames text ∧
    ∀ (lineEnd : LineEnd) (path : FilePath) (tree : FileTree) (location : Location),
      tree.locationOf? path = .ok (some location) →
      tree.node? location = some (.file (withLineEnds lineEnd text).toUTF8) →
      FrameStream.framesOfFile path .utf8 tree =
        match Document.frames text with
        | .ok frames => .ok frames tree
        | .error fault => .error fault tree := by
  constructor
  · apply frames_of_same_lines
    rw [withLineEnds, String.toList_ofList, lines_withLineEnds plain]
  · intro lineEnd path tree location found held
    refine framesOfFile_eq found held ?_
    rw [Encoding.cursor_of_decode? (Encoding.decode?_toUTF8 _), withLineEnds, String.toList_ofList,
      withLineFeeds_withLineEnds plain, LineCursor.ofText]

/-- A short line without an end is quoted in the fault, whatever ends the others. -/
theorem frames_of_lineEnds_unended :
    ∃ tree : FileTree, tree.node? ["work", "in.con"] = some (.file "cut\r\r1 1".toUTF8) ∧
      Document.frames "cut\r\n\r\n1 1" =
        .error (.format ⟨.fieldCount "cell lengths" 3 "1 1".toList, some 3⟩) ∧
      FrameStream.framesOfFile (.ofText "in.con") .utf8 tree =
        .error (.format ⟨.fieldCount "cell lengths" 3 "1 1".toList, some 3⟩) tree := by
  have read : Document.frames "cut\n\n1 1" =
      .error (.format ⟨.fieldCount "cell lengths" 3 "1 1".toList, some 3⟩) := by
    decide +kernel
  obtain ⟨inMemory, inFile⟩ := @frames_of_lineEnds "cut\n\n1 1" (by decide +kernel)
  have found := inFile .loneReturn (.ofText "in.con")
    ⟨["work"], [(["work"], .directory), (["work", "in.con"], .file "cut\r\r1 1".toUTF8)]⟩
    ["work", "in.con"] (by rfl) (by rfl)
  rw [read] at inMemory found
  exact ⟨_, by rfl, inMemory, found⟩

end Document

end Atomistic
