import Atomistic.Proofs.FrameGrammar

/-! What every frame that was read is known to have, and how far the reader went for it.
Its blocks are of different known species, and their counts alone tell how many lines they
took. -/

namespace Atomistic

open Number Text LineCursor

/-- From the one cursor to the other there are so many lines. -/
inductive Passes : Nat → LineCursor → LineCursor → Prop where
  | nil (cursor : LineCursor) : Passes 0 cursor cursor
  | cons {count : Nat} {cursor middle rest : LineCursor} {line : Line}
      (met : LineCursor.read cursor = .ok (some line) middle) (later : Passes count middle rest) :
      Passes (count + 1) cursor rest

theorem Passes.trans {first second : Nat} {cursor middle rest : LineCursor}
    (before : Passes first cursor middle) (after : Passes second middle rest) :
    Passes (first + second) cursor rest := by
  induction before with
  | nil => simpa using after
  | cons met later ih =>
    rw [Nat.add_right_comm]
    exact .cons met (ih after)

theorem Passes.skipLines {count : Nat} {cursor rest : LineCursor}
    (passes : Passes count cursor rest) (reading : String) :
    Frame.skipLines reading count cursor = .ok () rest := by
  induction passes with
  | nil => rfl
  | cons met later ih => exact (bind_of_ok (require_eq_ok_iff.2 met) _).trans ih

theorem Passes.of_readAs {α : Type} {reading : String} {parse : Line → Except Fault α}
    {cursor rest : LineCursor} {value : α}
    (done : readAs reading parse cursor = .ok value rest) : Passes 1 cursor rest := by
  obtain ⟨line, met, -⟩ := readAs_eq_ok_iff.1 done
  exact .cons met (.nil rest)

namespace FrameLine

theorem withinLimit_of_atomCounts {species : Nat} {line : Line} {counts : List Nat}
    (done : atomCounts species line = .ok counts) : ∀ count ∈ counts, WithinLimit count := by
  obtain ⟨-, spelled⟩ := atomCounts_eq_ok_iff.1 done
  intro count member
  obtain ⟨token, -, integer⟩ := exists_of_forall₂_right spelled (List.mem_map_of_mem member)
  exact withinLimit_of_isInteger integer

theorem known_of_symbol {species : Nat} {seen : List AtomicNumber} {line : Line}
    {number : AtomicNumber} (done : symbol species seen line = .ok number) :
    number ∉ seen ∧ number.value ≤ Element.symbols.length := by
  obtain ⟨⟨symbol, -, found⟩, unseen⟩ := symbol_eq_ok_iff.1 done
  exact ⟨unseen, Element.le_of_symbolOf? found⟩

theorem withinLimit_of_site {line : Line} {found : Site} (done : site line = .ok found) :
    WithinLimit found.id := by
  obtain ⟨-, -, -, -, integer, -⟩ := site_eq_ok_iff.1 done
  exact withinLimit_of_isInteger integer

end FrameLine

namespace Frame

theorem sites_of_readSites {reading : String} {count : Nat} {cursor rest : LineCursor}
    {sites : List Site} (done : readSites reading count cursor = .ok sites rest) :
    Passes count cursor rest ∧ sites.length = count ∧ ∀ site ∈ sites, WithinLimit site.id := by
  induction count generalizing cursor sites with
  | zero =>
    cases done
    exact ⟨.nil _, rfl, by simp⟩
  | succ count ih =>
    obtain ⟨site, middle, met, done⟩ := bind_eq_ok_iff.1 done
    obtain ⟨others, last, later, done⟩ := bind_eq_ok_iff.1 done
    cases done
    obtain ⟨line, taken, parsed⟩ := readAs_eq_ok_iff.1 met
    obtain ⟨passes, length, within⟩ := ih later
    refine ⟨.cons taken passes, by simp [length], ?_⟩
    exact List.forall_mem_cons.2 ⟨FrameLine.withinLimit_of_site parsed, within⟩

theorem blocks_of_readBlocks {species : Nat} {seen : List AtomicNumber}
    {declared : List (Nat × Binary64)} {cursor rest : LineCursor} {blocks : List SpeciesBlock}
    (within : ∀ entry ∈ declared, WithinLimit entry.1)
    (done : readBlocks species seen declared cursor = .ok blocks rest) :
    Passes (bodyLines (declared.map Prod.fst)) cursor rest ∧
      (blocks.map SpeciesBlock.number).Nodup ∧ (∀ block ∈ blocks, block.number ∉ seen) ∧
      ∀ block ∈ blocks, block.Writable := by
  induction declared generalizing species seen cursor blocks with
  | nil =>
    cases done
    exact ⟨.nil _, by simp, by simp, by simp⟩
  | cons entry remaining ih =>
    obtain ⟨count, mass⟩ := entry
    obtain ⟨number, afterSymbol, symbol, done⟩ := bind_eq_ok_iff.1 done
    obtain ⟨_, afterCount, counted, done⟩ := bind_eq_ok_iff.1 done
    obtain ⟨sites, afterSites, read, done⟩ := bind_eq_ok_iff.1 done
    obtain ⟨others, last, later, done⟩ := bind_eq_ok_iff.1 done
    cases done
    obtain ⟨line, -, parsed⟩ := readAs_eq_ok_iff.1 symbol
    obtain ⟨unseen, known⟩ := FrameLine.known_of_symbol parsed
    obtain ⟨passesSites, length, ids⟩ := sites_of_readSites read
    obtain ⟨passes, distinct, apart, writable⟩ :=
      ih (fun entry member => within entry (List.mem_cons_of_mem _ member)) later
    have head := (Passes.of_readAs symbol).trans (Passes.of_readAs counted)
    refine ⟨(head.trans passesSites).trans passes, ?_, ?_, ?_⟩
    · refine List.nodup_cons.2 ⟨?_, distinct⟩
      intro again
      obtain ⟨block, member, same⟩ := List.mem_map.1 again
      exact apart block member (by simp [same])
    · refine List.forall_mem_cons.2 ⟨unseen, ?_⟩
      intro block member before
      exact apart block member (List.mem_cons_of_mem _ before)
    · refine List.forall_mem_cons.2 ⟨⟨known, ?_, ids⟩, writable⟩
      change WithinLimit sites.length
      rw [length]
      exact within (count, mass) (by simp)

/-- What a reader makes sure of: blocks of different species, each fit to be written. -/
structure Grouped (frame : Frame) (blocks : List SpeciesBlock) : Prop where
  atoms : frame.atoms = flatten blocks
  distinct : (blocks.map SpeciesBlock.number).Nodup
  fit : ∀ block ∈ blocks, block.Writable

theorem atoms_of_ofParts {preBox postBox : String × String} {cell angles : Triple}
    {atoms : List Atom} {frame : Frame}
    (done : Frame.ofParts preBox cell angles postBox atoms = .ok frame) : frame.atoms = atoms := by
  obtain ⟨preBox, -, done⟩ := result_bind_eq_ok_iff.1 done
  obtain ⟨postBox, -, done⟩ := result_bind_eq_ok_iff.1 done
  obtain ⟨cell, -, done⟩ := result_bind_eq_ok_iff.1 done
  unfold Frame.ofAtoms at done
  split at done
  next => cases done; rfl
  next => cases done

private theorem parts_of_read {cursor rest : LineCursor} {frame : Frame}
    (done : Frame.read cursor = .ok frame rest) :
    Frame.skip cursor = .ok () rest ∧ ∃ blocks, frame.Grouped blocks := by
  obtain ⟨_, first, preUpper, done⟩ := bind_eq_ok_iff.1 done
  obtain ⟨_, second, preLower, done⟩ := bind_eq_ok_iff.1 done
  obtain ⟨_, third, lengths, done⟩ := bind_eq_ok_iff.1 done
  obtain ⟨_, fourth, angles, done⟩ := bind_eq_ok_iff.1 done
  obtain ⟨_, fifth, postUpper, done⟩ := bind_eq_ok_iff.1 done
  obtain ⟨_, start, postLower, done⟩ := bind_eq_ok_iff.1 done
  obtain ⟨head, body, readHead, done⟩ := bind_eq_ok_iff.1 done
  obtain ⟨blocks, last, readBody, done⟩ := bind_eq_ok_iff.1 done
  obtain ⟨built, rfl⟩ := settle_eq_ok_iff.1 done
  obtain ⟨counts, middle, counted, readHead⟩ := bind_eq_ok_iff.1 readHead
  obtain ⟨masses, afterMasses, weighed, readHead⟩ := bind_eq_ok_iff.1 readHead
  cases readHead
  have within : ∀ count ∈ counts, WithinLimit count := by
    obtain ⟨species, announced, -, counted⟩ := bind_eq_ok_iff.1 counted
    obtain ⟨line, -, parsed⟩ := readAs_eq_ok_iff.1 counted
    exact FrameLine.withinLimit_of_atomCounts parsed
  have length : masses.length = counts.length := by
    obtain ⟨line, -, parsed⟩ := readAs_eq_ok_iff.1 weighed
    exact (FrameLine.masses_eq_ok_iff.1 parsed).1
  have declared : (counts.zip masses).map Prod.fst = counts :=
    List.map_fst_zip (by omega)
  obtain ⟨passes, distinct, -, writable⟩ := blocks_of_readBlocks (by
    intro entry member
    exact within _ (declared ▸ List.mem_map_of_mem member)) readBody
  rw [declared] at passes
  have header : Passes (1 + 1 + 1 + 1 + 1 + 1) cursor start :=
    (((((Passes.of_readAs preUpper).trans (.of_readAs preLower)).trans (.of_readAs lengths)).trans
      (.of_readAs angles)).trans (.of_readAs postUpper)).trans (.of_readAs postLower)
  constructor
  · apply (bind_of_ok (header.skipLines _) _).trans
    apply (bind_of_ok counted _).trans
    apply (bind_of_ok ((Passes.of_readAs weighed).skipLines _) _).trans
    exact passes.skipLines _
  · exact ⟨blocks, atoms_of_ofParts (mapError_eq_ok_iff.1 built), distinct, writable⟩

/-- A frame that can be read takes as many lines to pass over as to read. -/
theorem skip_of_read {cursor rest : LineCursor} {frame : Frame}
    (done : Frame.read cursor = .ok frame rest) : Frame.skip cursor = .ok () rest :=
  (parts_of_read done).1

theorem grouped_of_read {cursor rest : LineCursor} {frame : Frame}
    (done : Frame.read cursor = .ok frame rest) : ∃ blocks, frame.Grouped blocks :=
  (parts_of_read done).2

end Frame

end Atomistic
