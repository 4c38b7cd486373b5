import Atomistic.Proofs.CursorView
import Atomistic.Proofs.Grouping
import Atomistic.Proofs.Symbols

/-! A frame that is written is read back block by block. The reader finds the end of every
part from the counts alone, so the lines that follow a frame do not matter. -/

namespace Atomistic

open Number Text LineCursor

/-- The lines are written, each of them stands alone, and together they are read as the value. -/
def ReadsBack {α : Type} (written : Except Fault (List Line)) (reading : Reading α) (value : α) :
    Prop :=
  ∃ lines, written = .ok lines ∧ (∀ line ∈ lines, IsUnbroken line) ∧ Takes reading lines value

namespace SpeciesBlock

/-- The species is in the table, and no number of the block is too long. -/
structure Writable (block : SpeciesBlock) : Prop where
  known : block.number.value ≤ Element.symbols.length
  count : WithinLimit block.count
  ids : ∀ site ∈ block.sites, WithinLimit site.id

end SpeciesBlock

namespace Frame

theorem readsBack_sites (reading : String) {sites : List Site}
    (within : ∀ site ∈ sites, WithinLimit site.id) :
    ReadsBack (sites.mapM Site.line) (readSites reading sites.length) sites := by
  induction sites with
  | nil => exact ⟨[], rfl, by simp, Takes.pure _⟩
  | cons site rest ih =>
    obtain ⟨line, first, firstUnbroken, read⟩ := line_of_withinLimit (within site (by simp))
    obtain ⟨lines, others, unbroken, takes⟩ :=
      ih fun other member => within other (by simp [member])
    refine ⟨line :: lines, ?_, ?_, ?_⟩
    · rw [List.mapM_cons, first, ok_bind, others, ok_bind, pure_eq_ok]
    · exact List.forall_mem_cons.2 ⟨firstUnbroken, unbroken⟩
    · apply Takes.bind (Takes.readAs reading read)
      rw [← List.append_nil lines]
      exact takes.bind (Takes.pure _)

theorem symbol_of_unseen (species : Nat) {seen : List AtomicNumber} {number : AtomicNumber}
    {symbol : String} (member : symbol ∈ Element.symbols)
    (found : Element.numberOf? symbol = some number) (unseen : number ∉ seen) :
    FrameLine.symbol species seen symbol.toList = .ok number := by
  simp [FrameLine.symbol, fields_word (Element.isWord_of_mem_symbols member), found, unseen]

theorem symbol_of_known {block : SpeciesBlock}
    (known : block.number.value ≤ Element.symbols.length) :
    ∃ symbol ∈ Element.symbols, block.symbol = .ok symbol ∧
      Element.numberOf? symbol = some block.number := by
  obtain ⟨symbol, member, found, back⟩ := Element.symbolOf?_eq_some known
  refine ⟨symbol, member, ?_, back⟩
  rw [SpeciesBlock.symbol, AtomicNumber.symbol, found]
  rfl

/-- Blocks are read with the species of the blocks in front of them in mind. -/
theorem readsBack_blocks {blocks : List SpeciesBlock}
    (writable : ∀ block ∈ blocks, block.Writable)
    (distinct : (blocks.map SpeciesBlock.number).Nodup) (place : Nat) {seen : List AtomicNumber}
    (unseen : ∀ block ∈ blocks, block.number ∉ seen) :
    ∃ symbols, blocks.mapM SpeciesBlock.symbol = .ok symbols ∧
      ReadsBack (blockLines place (blocks.zip symbols))
        (readBlocks place seen (blocks.map fun block => (block.count, block.mass))) blocks := by
  induction blocks generalizing place seen with
  | nil => exact ⟨[], rfl, [], rfl, by simp, Takes.pure _⟩
  | cons block rest ih =>
    obtain ⟨absent, others⟩ := List.nodup_cons.1 distinct
    have first := writable block (by simp)
    obtain ⟨symbol, member, found, back⟩ := symbol_of_known first.known
    obtain ⟨sites, written, sitesUnbroken, takesSites⟩ :=
      readsBack_sites (FrameLine.speciesLabel place "atom line") first.ids
    have unseen' : ∀ other ∈ rest, other.number ∉ block.number :: seen := by
      intro other among again
      rcases List.mem_cons.1 again with same | before
      · exact absent (same ▸ List.mem_map_of_mem among)
      · exact unseen other (List.mem_cons_of_mem _ among) before
    obtain ⟨symbols, looked, lines, later, unbroken, takes⟩ :=
      ih (fun other among => writable other (List.mem_cons_of_mem _ among)) others (place + 1)
        unseen'
    refine ⟨symbol :: symbols, ?_, (symbol.toList ::
      writeRow [.integer block.count, .integer place] :: sites) ++ lines, ?_, ?_, ?_⟩
    · rw [List.mapM_cons, found, ok_bind, looked, ok_bind, pure_eq_ok]
    · rw [List.zip_cons_cons, blockLines, SpeciesBlock.lines, written, ok_bind, pure_eq_ok, ok_bind,
        later, ok_bind, pure_eq_ok]
    · refine List.forall_mem_append.2 ⟨?_, unbroken⟩
      refine List.forall_mem_cons.2 ⟨(Element.isWord_of_mem_symbols member).unbroken, ?_⟩
      exact List.forall_mem_cons.2
        ⟨unbroken_writeRow (by simp [Column.IsPlain]), sitesUnbroken⟩
    · have known := symbol_of_unseen place member back (unseen block (by simp))
      change Takes _ ([_] ++ ([_] ++ (sites ++ lines))) _
      apply Takes.bind (Takes.readAs _ known)
      apply Takes.bind (Takes.readAs _ (blockCount_writeRow place place first.count))
      apply takesSites.bind
      rw [← List.append_nil lines]
      exact takes.bind (Takes.pure _)

theorem length_blocks_le {atoms : List Atom}
    (known : ∀ atom ∈ atoms, atom.number.value ≤ Element.symbols.length) :
    (gather atoms).length ≤ Element.symbols.length := by
  have places : ∀ value ∈ (gather atoms).map fun block => block.number.value,
      value ∈ List.range' 1 Element.symbols.length := by
    intro value member
    obtain ⟨block, among, rfl⟩ := List.mem_map.1 member
    obtain ⟨atom, inside, same, -⟩ := exists_of_mem_gather among
    have bound := known atom inside
    have positive := block.number.positive
    rw [same] at bound
    exact List.mem_range'_1.2 ⟨positive, by omega⟩
  have distinct : ((gather atoms).map fun block => block.number.value).Nodup := by
    have numbers := nodup_numbers_gather atoms
    rw [List.nodup_iff_pairwise_ne, List.pairwise_map] at numbers ⊢
    refine numbers.imp fun {one other} differs same => differs ?_
    cases number : one.number
    cases number' : other.number
    simp_all
  simpa using distinct.length_le_of_subset places

/-- The same frame with its atoms in the order of its species blocks. -/
def grouped (frame : Frame) : Frame :=
  { frame with
    atoms := flatten frame.blocks
    massesAgree := massConflict?_declarations.2 (massesAgree_flatten_gather frame.massesEqual) }

theorem ofAtoms_eq_ok (frame : Frame) :
    Frame.ofAtoms frame.preBox frame.cell frame.angles frame.postBox frame.atoms = .ok frame := by
  unfold Frame.ofAtoms
  split
  next => rfl
  next conflict found =>
    rw [frame.massesAgree] at found
    cases found

/-- Grouping the atoms of a frame cannot fail, since they agree on their masses. -/
theorem regrouped_eq_ok (frame : Frame) : frame.regrouped = .ok frame.grouped :=
  ofAtoms_eq_ok frame.grouped

theorem headerLine_ofText (place : String) (index : Nat) (line : HeaderLine) :
    HeaderLine.ofText place index line.text = .ok line :=
  dif_pos line.oneLine

theorem ofParts_eq_ok (frame : Frame) :
    Frame.ofParts (frame.preBox.upper.text, frame.preBox.lower.text) frame.cell.lengths
      frame.angles (frame.postBox.upper.text, frame.postBox.lower.text) frame.atoms =
      .ok frame := by
  have cell : BoxLengths.ofTriple frame.cell.lengths = .ok frame.cell :=
    dif_pos frame.cell.notNegative
  simp only [Frame.ofParts, Heading.ofTexts, headerLine_ofText, cell, ok_bind, pure_eq_ok]
  exact ofAtoms_eq_ok frame

/-- What a frame must have to be written. Counts of atoms are held to the limit for numbers
as well, though no list in memory comes near it. -/
structure Writable (frame : Frame) : Prop where
  known : ∀ atom ∈ frame.atoms, atom.number.value ≤ Element.symbols.length
  ids : ∀ atom ∈ frame.atoms, WithinLimit atom.id
  counts : ∀ count ∈ frame.atomsPerSpecies, WithinLimit count

theorem Writable.block {frame : Frame} (writable : frame.Writable) :
    ∀ block ∈ frame.blocks, block.Writable := by
  intro block member
  refine ⟨?_, writable.counts _ (List.mem_map_of_mem member), ?_⟩
  · obtain ⟨atom, inside, same, -⟩ := exists_of_mem_gather member
    exact same ▸ writable.known atom inside
  · intro site among
    obtain ⟨atom, inside, -, same⟩ := exists_of_mem_sites member among
    exact same ▸ writable.ids atom inside

theorem unbroken_headLines (frame : Frame) : ∀ line ∈ frame.headLines, IsUnbroken line := by
  have header : ∀ line : HeaderLine, IsUnbroken line.text.toList := by
    intro line c inside
    simpa using List.all_eq_true.1 line.oneLine c inside
  have triple : ∀ values : Triple, IsUnbroken (writeRow values.columns) := by
    intro values
    exact unbroken_writeRow (by simp [Triple.columns, Column.IsPlain])
  unfold headLines
  simp only [List.forall_mem_cons]
  refine ⟨header _, header _, triple _, triple _, header _, header _, ?_, ?_, ?_, by simp⟩
  · exact (isWord_writeInt _).unbroken
  · exact unbroken_writeRow (by simp [Column.IsPlain])
  · exact unbroken_writeRow (by simp [Column.IsPlain])

theorem takes_speciesHead {blocks : List SpeciesBlock} (few : WithinLimit blocks.length)
    (counts : ∀ block ∈ blocks, WithinLimit block.count) :
    Takes readSpeciesHead
      [writeInt blocks.length,
        writeRow (blocks.map fun block : SpeciesBlock => .integer block.count),
        writeRow (blocks.map fun block : SpeciesBlock => .real block.mass)]
      ⟨blocks.map SpeciesBlock.count, blocks.map SpeciesBlock.mass⟩ := by
  have readCount := speciesCount_writeInt few
  have readCounts := @atomCounts_writeRow (blocks.map SpeciesBlock.count) (by simpa using counts)
  have readMasses := masses_writeRow (blocks.map SpeciesBlock.mass)
  simp only [List.length_map, List.map_map, Function.comp_def] at readCounts readMasses
  have takesCounts : Takes Frame.readCounts ([_] ++ [_]) (blocks.map SpeciesBlock.count) :=
    (Takes.readAs _ readCount).bind (Takes.readAs _ readCounts)
  rw [← List.length_map SpeciesBlock.count] at readMasses
  exact takesCounts.bind ((Takes.readAs _ readMasses).bind (Takes.pure _))

theorem readsBack {frame : Frame} (writable : frame.Writable) :
    ReadsBack frame.lines Frame.read frame.grouped := by
  have nothing : ∀ block ∈ frame.blocks, block.number ∉ ([] : List AtomicNumber) := by simp
  obtain ⟨symbols, looked, lines, later, unbroken, takes⟩ :=
    readsBack_blocks writable.block (nodup_numbers_gather frame.atoms) 1 nothing
  refine ⟨frame.headLines ++ lines, ?_, ?_, ?_⟩
  · rw [Frame.lines, looked, ok_bind, later, ok_bind, pure_eq_ok]
  · exact List.forall_mem_append.2 ⟨unbroken_headLines frame, unbroken⟩
  · have few : WithinLimit frame.blocks.length :=
      WithinLimit.mono (by decide +kernel) (length_blocks_le writable.known)
    have head := takes_speciesHead few fun block member => (writable.block block member).count
    have header : ∀ line : HeaderLine, FrameLine.freeText line.text.toList = .ok line.text := by
      simp [FrameLine.freeText]
    rw [← List.append_nil lines]
    change Takes _
      ([_] ++ ([_] ++ ([_] ++ ([_] ++ ([_] ++ ([_] ++ ([_, _, _] ++ (lines ++ [])))))))) _
    apply (Takes.readAs _ (header frame.preBox.upper)).bind
    apply (Takes.readAs _ (header frame.preBox.lower)).bind
    apply (Takes.readAs _ (boxLengths_columns frame.cell)).bind
    apply (Takes.readAs _ (triple_columns "cell angles" frame.angles)).bind
    apply (Takes.readAs _ (header frame.postBox.upper)).bind
    apply (Takes.readAs _ (header frame.postBox.lower)).bind
    apply head.bind
    rw [List.zip_map']
    apply takes.bind
    exact Takes.settle (congrArg (Except.mapError Fault.value) (ofParts_eq_ok frame.grouped))

end Frame

end Atomistic
