import Atomistic.Proofs.SingleFrames
import Atomistic.Proofs.StableGrouping

/-! The species of a frame as its text declares them and as its atoms give them. The frame keeps
its atoms only, so a species that is declared without atoms is lost. -/

namespace Atomistic

open Number Text LineCursor

/-- A text of a single frame has the lines that spell it, and blank lines after them. -/
theorem Frame.spelled_of_ofText {text : String} {frame : Frame}
    (done : Frame.ofText text = .ok frame) :
    ∃ lines later parts, (rawLines text.toList).map stripTerminator = lines ++ later ∧
      later.all isBlankLine = true ∧ SpellsFrame lines parts ∧ frame.MadeOf parts := by
  obtain ⟨rest, read, blank⟩ := Frame.ofText_eq_ok_iff.1 done
  obtain ⟨lines, later, cut, ⟨parts, spelled, made⟩, shows⟩ :=
    recognises_read.spelled (shows_ofText text) read
  have count : rest.lineNumber = lines.length := by rw [shows.lineNumber, Nat.zero_add]
  rw [← all_isBlankLine_stripTerminator, List.map_drop, cut, count, List.drop_left] at blank
  exact ⟨lines, later, parts, cut, blank, spelled, made⟩

section Views

variable {blocks : List SpeciesBlock}

/-- Blocks with atoms are all that flattening keeps. -/
theorem gather_flatten_eq (distinct : (blocks.map SpeciesBlock.number).Nodup) :
    gather (flatten blocks) = blocks.filter (0 < ·.count) := by
  rw [gather_flatten distinct]
  apply List.filter_congr
  intro block _
  cases sites : block.sites <;> simp [SpeciesBlock.count, sites]

/-- No view of the blocks is the same for fewer of them. -/
theorem map_filter_eq_map_iff {α : Type} (view : SpeciesBlock → α) :
    (blocks.filter (0 < ·.count)).map view = blocks.map view ↔
      ∀ block ∈ blocks, 0 < block.count := by
  constructor
  · intro same
    have sized := congrArg List.length same
    rw [List.length_map, List.length_map, List.length_filter_eq_length_iff] at sized
    simpa using sized
  · intro inhabited
    rw [List.filter_eq_self.2 (by simpa using inhabited)]

end Views

namespace Frame

/-- The species of a frame that was read are those that its header declares, as far as they have
atoms. The views give the declared counts and masses, and grouping gives the blocks that were
read, exactly if no declared count is zero. -/
theorem views_of_ofText {text : String} {frame : Frame} (done : Frame.ofText text = .ok frame) :
    ∃ lines later parts, (rawLines text.toList).map stripTerminator = lines ++ later ∧
      later.all isBlankLine = true ∧ SpellsFrame lines parts ∧ frame.MadeOf parts ∧
      DeclaresSpecies lines parts.blocks ∧
      group (flatten parts.blocks) = .ok frame.blocks ∧
      frame.blocks = parts.blocks.filter (0 < ·.count) ∧
      (frame.atomsPerSpecies = parts.blocks.map SpeciesBlock.count ↔
        ∀ block ∈ parts.blocks, 0 < block.count) ∧
      (frame.massPerSpecies = parts.blocks.map SpeciesBlock.mass ↔
        ∀ block ∈ parts.blocks, 0 < block.count) ∧
      (frame.blocks = parts.blocks ↔ ∀ block ∈ parts.blocks, 0 < block.count) := by
  obtain ⟨lines, later, parts, cut, blank, spelled, made⟩ := spelled_of_ofText done
  have kept : frame.blocks = parts.blocks.filter (0 < ·.count) := by
    rw [Frame.blocks, made.atoms, gather_flatten_eq spelled.distinct]
  have grouped : group (flatten parts.blocks) = .ok frame.blocks := by
    rw [← made.atoms]
    exact group_of_massesAgree frame.massesEqual
  refine ⟨lines, later, parts, cut, blank, spelled, made, spelled.declaresSpecies, grouped, kept,
    ?_, ?_, ?_⟩
  · rw [atomsPerSpecies, kept, map_filter_eq_map_iff]
  · rw [massPerSpecies, kept, map_filter_eq_map_iff]
  · have same := @map_filter_eq_map_iff parts.blocks _ id
    rwa [List.map_id, List.map_id, ← kept] at same

/-- Hydrogen with one atom. -/
def loneHydrogenText : String :=
  "x\ny\n1 1 1\n90 90 90\na\nb\n1\n1\n1.0\nH\n1 1\n0 0 0 0 0\n"

theorem views_of_ofText_loneHydrogen :
    ∃ frame, Frame.ofText loneHydrogenText = .ok frame ∧
      ∃ lines later parts,
        (rawLines loneHydrogenText.toList).map stripTerminator = lines ++ later ∧
        later.all isBlankLine = true ∧ SpellsFrame lines parts ∧ frame.MadeOf parts ∧
        DeclaresSpecies lines parts.blocks ∧
        group (flatten parts.blocks) = .ok frame.blocks ∧
        frame.blocks = parts.blocks.filter (0 < ·.count) ∧
        (frame.atomsPerSpecies = parts.blocks.map SpeciesBlock.count ↔
          ∀ block ∈ parts.blocks, 0 < block.count) ∧
        (frame.massPerSpecies = parts.blocks.map SpeciesBlock.mass ↔
          ∀ block ∈ parts.blocks, 0 < block.count) ∧
        (frame.blocks = parts.blocks ↔ ∀ block ∈ parts.blocks, 0 < block.count) := by
  have reads : (Frame.ofText loneHydrogenText).isOk = true := by
    decide +kernel
  cases read : Frame.ofText loneHydrogenText with
  | ok frame => exact ⟨frame, rfl, views_of_ofText read⟩
  | error fault =>
    rw [read] at reads
    cases reads

/-- Hydrogen without an atom. -/
def emptyHydrogenText : String :=
  "x\ny\n1 1 1\n90 90 90\na\nb\n1\n0\n1.0\nH\n0 1\n"

theorem views_lose_empty_species :
    ((rawLines emptyHydrogenText.toList).map stripTerminator)[7]? = some ['0'] ∧
      ∃ frame, Frame.ofText emptyHydrogenText = .ok frame ∧ frame.atomsPerSpecies = [] ∧
        frame.massPerSpecies = [] ∧ frame.blocks = [] := by
  constructor
  · decide +kernel
  · have empty : (Frame.ofText emptyHydrogenText).map Frame.atoms = .ok [] := by
      decide +kernel
    cases read : Frame.ofText emptyHydrogenText with
    | ok frame =>
      rw [read] at empty
      have none : frame.blocks = [] := by
        rw [Frame.blocks, Except.ok.inj empty, gather_nil]
      exact ⟨frame, rfl, by simp [atomsPerSpecies, none], by simp [massPerSpecies, none], none⟩
    | error fault =>
      rw [read] at empty
      cases empty

end Frame

end Atomistic
