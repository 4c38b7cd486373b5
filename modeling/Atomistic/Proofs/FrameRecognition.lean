import Mathlib.Data.List.Nodup
import Atomistic.Proofs.FrameGrammar
import Atomistic.Proofs.ParsedFrames

/-! The reader of frames takes the lines of the grammar and no others. It never sees where a
frame ends: what it has read so far tells it how much more to read, and the lines that follow
cannot change that. -/

namespace Atomistic

open Number Text LineCursor

namespace Frame

open FrameLine

theorem recognises_readSites (reading : String) (count : Nat) :
    Recognises (readSites reading count) fun lines sites =>
      sites.length = count ∧ List.Forall₂ SpellsSite lines sites := by
  induction count with
  | zero =>
    refine (Recognises.pure _).congr fun lines sites => ?_
    constructor
    · rintro ⟨rfl, rfl⟩
      exact ⟨rfl, .nil⟩
    · rintro ⟨none, placed⟩
      obtain rfl := List.length_eq_zero_iff.1 none
      exact ⟨List.forall₂_nil_right_iff.1 placed, rfl⟩
  | succ count ih =>
    refine (Recognises.line_bind site_eq_ok_iff reading fun _ =>
      ih.bind fun _ => .pure _).congr fun lines sites => ?_
    constructor
    · rintro ⟨line, site, _, rfl, first, others, front, _, rfl, ⟨rfl, placed⟩, rfl, rfl⟩
      rw [List.append_nil]
      exact ⟨rfl, .cons first placed⟩
    · rintro ⟨counted, placed⟩
      cases placed with
      | nil => cases counted
      | @cons line site lines sites first placed =>
        exact ⟨line, site, lines, rfl, first, sites, lines, [], (List.append_nil _).symm,
          ⟨Nat.succ.inj counted, placed⟩, rfl, rfl⟩

/-- What the lines of blocks are read as, when so many counts and masses were declared and
these species were met before. -/
structure SpellsDeclared (declared : List (Nat × Binary64)) (seen : List AtomicNumber)
    (lines : List Line) (blocks : List SpeciesBlock) : Prop where
  blockwise : SpellsBlocks lines blocks
  declared : blocks.map (fun block => (block.count, block.mass)) = declared
  distinct : (blocks.map SpeciesBlock.number).Nodup
  unseen : ∀ block ∈ blocks, block.number ∉ seen

theorem recognises_readBlocks (species : Nat) (seen : List AtomicNumber)
    (declared : List (Nat × Binary64)) :
    Recognises (readBlocks species seen declared) (SpellsDeclared declared seen) := by
  induction declared generalizing species seen with
  | nil =>
    refine (Recognises.pure _).congr fun lines blocks => ?_
    constructor
    · rintro ⟨rfl, rfl⟩
      exact ⟨.none, rfl, .nil, by simp⟩
    · rintro ⟨blockwise, none, -, -⟩
      obtain rfl := List.map_eq_nil_iff.1 none
      cases blockwise
      exact ⟨rfl, rfl⟩
  | cons entry rest ih =>
    obtain ⟨count, mass⟩ := entry
    refine (Recognises.line_bind symbol_eq_ok_iff _ fun number =>
      .line_bind blockCount_eq_ok_iff _ fun _ =>
      (recognises_readSites _ count).bind fun _ =>
      (ih (species + 1) (number :: seen)).bind fun _ => .pure _).congr fun lines blocks => ?_
    constructor
    · rintro ⟨symbol, number, _, rfl, ⟨named, fresh⟩, countLine, -, _, rfl, counted, sites,
        siteLines, _, rfl, ⟨rfl, placed⟩, others, lines, _, rfl,
        ⟨blockwise, rfl, distinct, unseen⟩, rfl, rfl⟩
      rw [List.append_nil]
      refine ⟨.block named counted placed blockwise, rfl, ?_, ?_⟩
      · refine List.nodup_cons.2 ⟨fun again => ?_, distinct⟩
        obtain ⟨block, member, same⟩ := List.mem_map.1 again
        exact unseen block member (by simp [same])
      · refine List.forall_mem_cons.2 ⟨fresh, fun block member before => ?_⟩
        exact unseen block member (List.mem_cons_of_mem _ before)
    · rintro ⟨blockwise, same, distinct, unseen⟩
      cases blockwise with
      | none => cases same
      | @block symbol countLine sites lines block blocks named counted placed others =>
        obtain ⟨head, rfl⟩ := List.cons.inj same
        cases head
        obtain ⟨absent, distinct⟩ := List.nodup_cons.1 distinct
        obtain ⟨fresh, unseen⟩ := List.forall_mem_cons.1 unseen
        have later : SpellsDeclared (blocks.map fun block => (block.count, block.mass))
            (block.number :: seen) lines blocks := by
          refine ⟨others, rfl, distinct, fun other member before => ?_⟩
          rcases List.mem_cons.1 before with again | before
          · exact absent (again ▸ List.mem_map_of_mem member)
          · exact unseen other member before
        exact ⟨symbol, block.number, _, rfl, ⟨named, fresh⟩, countLine, (), _, rfl, counted,
          block.sites, sites, lines, rfl, ⟨rfl, placed⟩, blocks, lines, [], by simp, later,
          rfl, rfl⟩

/-- The three lines on the number of species, their counts and their masses. -/
inductive SpellsHead : List Line → SpeciesHead → Prop where
  | lines {number numbers weights : Line} {head : SpeciesHead}
      (species : SpellsIntegers number [(head.counts.length : Int)])
      (counts : SpellsIntegers numbers (head.counts.map Nat.cast))
      (sized : head.masses.length = head.counts.length)
      (masses : SpellsReals weights head.masses) :
      SpellsHead [number, numbers, weights] head

/-- The two lines on the number of species and their counts. -/
def SpellsCounts (lines : List Line) (counts : List Nat) : Prop :=
  ∃ number numbers, lines = [number, numbers] ∧
    SpellsIntegers number [(counts.length : Int)] ∧ SpellsIntegers numbers (counts.map Nat.cast)

theorem recognises_readCounts : Recognises readCounts SpellsCounts := by
  refine (Recognises.line_bind speciesCount_eq_ok_iff _ fun species =>
    .readAs atomCounts_eq_ok_iff _).congr fun lines counts => ?_
  constructor
  · rintro ⟨number, _, _, rfl, species, numbers, rfl, rfl, counted⟩
    exact ⟨number, numbers, rfl, species, counted⟩
  · rintro ⟨number, numbers, rfl, species, counted⟩
    exact ⟨number, _, _, rfl, species, numbers, rfl, rfl, counted⟩

theorem recognises_readSpeciesHead : Recognises readSpeciesHead SpellsHead := by
  refine (recognises_readCounts.bind fun _ => .line_bind masses_eq_ok_iff _ fun _ => .pure _).congr
    fun lines head => ?_
  constructor
  · rintro ⟨counts, _, _, rfl, ⟨number, numbers, rfl, species, counted⟩, weights, masses, _, rfl,
      ⟨sized, weighed⟩, rfl, rfl⟩
    exact .lines species counted sized weighed
  · rintro ⟨species, counted, sized, weighed⟩
    exact ⟨head.counts, _, _, rfl, ⟨_, _, rfl, species, counted⟩, _, head.masses, [], rfl,
      ⟨sized, weighed⟩, rfl, rfl⟩

end Frame

section Building

/-- Among blocks of different species each atom is held to those of its own block only. -/
theorem massesAgree_flatten {blocks : List SpeciesBlock}
    (distinct : (blocks.map SpeciesBlock.number).Nodup) :
    MassesAgree (flatten blocks) ↔ ∀ block ∈ blocks, 0 < block.count → block.mass ≠ .nan := by
  constructor
  · intro agree block member some
    obtain ⟨site, inside⟩ := List.exists_mem_of_length_pos some
    have among : ⟨block.number, block.mass, site⟩ ∈ flatten blocks :=
      List.mem_flatMap.2 ⟨block, member, List.mem_map_of_mem inside⟩
    exact (Binary64.equals_self_iff _).1 (agree _ among _ among rfl)
  · intro weighed one inside other within same
    obtain ⟨block, member, ofBlock⟩ := List.mem_flatMap.1 inside
    obtain ⟨counterpart, among, ofCounterpart⟩ := List.mem_flatMap.1 within
    obtain ⟨site, placed, rfl⟩ := List.mem_map.1 ofBlock
    obtain ⟨site', -, rfl⟩ := List.mem_map.1 ofCounterpart
    obtain rfl := List.inj_on_of_nodup_map distinct member among same
    exact (Binary64.equals_self_iff _).2 (weighed block member (List.length_pos_of_mem placed))

theorem isOneLine_iff {text : String} : isOneLine text = true ↔ IsUnbroken text.toList := by
  simp [isOneLine, IsUnbroken]

theorem headerLine_ofText_eq_ok_iff {place : String} {index : Nat} {text : String}
    {line : HeaderLine} :
    HeaderLine.ofText place index text = .ok line ↔
      IsUnbroken text.toList ∧ line.text = text := by
  unfold HeaderLine.ofText
  split
  next oneLine =>
    constructor
    · rintro ⟨⟩
      exact ⟨isOneLine_iff.1 oneLine, rfl⟩
    · rintro ⟨-, rfl⟩
      rfl
  next broken => simp [← isOneLine_iff, broken]

theorem heading_ofTexts_eq_ok_iff {place upper lower : String} {heading : Heading} :
    Heading.ofTexts place upper lower = .ok heading ↔
      (IsUnbroken upper.toList ∧ IsUnbroken lower.toList) ∧
        heading.upper.text = upper ∧ heading.lower.text = lower := by
  simp only [Heading.ofTexts, result_bind_eq_ok_iff, headerLine_ofText_eq_ok_iff, pure_eq_ok,
    Except.ok.injEq]
  constructor
  · rintro ⟨first, ⟨one, upper⟩, second, ⟨two, lower⟩, rfl⟩
    exact ⟨⟨one, two⟩, upper, lower⟩
  · rintro ⟨⟨one, two⟩, upper, lower⟩
    exact ⟨_, ⟨one, upper⟩, _, ⟨two, lower⟩, rfl⟩

theorem boxLengths_ofTriple_eq_ok_iff {lengths : Triple} {cell : BoxLengths} :
    BoxLengths.ofTriple lengths = .ok cell ↔
      lengths.anyNegative = false ∧ cell.lengths = lengths := by
  unfold BoxLengths.ofTriple
  split
  next notNegative =>
    constructor
    · rintro ⟨⟩
      exact ⟨notNegative, rfl⟩
    · rintro ⟨-, rfl⟩
      rfl
  next negative => simp [negative]

theorem ofAtoms_eq_ok_iff {preBox postBox : Heading} {cell : BoxLengths} {angles : Triple}
    {atoms : List Atom} {frame : Frame} :
    Frame.ofAtoms preBox cell angles postBox atoms = .ok frame ↔
      MassesAgree atoms ∧ frame.preBox = preBox ∧ frame.cell = cell ∧ frame.angles = angles ∧
        frame.postBox = postBox ∧ frame.atoms = atoms := by
  rw [← massConflict?_declarations]
  unfold Frame.ofAtoms
  split
  next agree =>
    constructor
    · rintro ⟨⟩
      exact ⟨agree, rfl, rfl, rfl, rfl, rfl⟩
    · rintro ⟨-, rfl, rfl, rfl, rfl, rfl⟩
      rfl
  next conflict found => simp [found]

/-- What the lines of a frame say is a frame unless a header has a line break in it, a length
is negative, or the atoms of a species have no number for their mass. -/
theorem ofParts_eq_ok_iff {preUpper preLower postUpper postLower : String} {cell angles : Triple}
    {blocks : List SpeciesBlock} (distinct : (blocks.map SpeciesBlock.number).Nodup)
    {frame : Frame} :
    Frame.ofParts (preUpper, preLower) cell angles (postUpper, postLower) (flatten blocks) =
        .ok frame ↔
      (∀ line ∈ [preUpper.toList, preLower.toList, postUpper.toList, postLower.toList],
          IsUnbroken line) ∧
        cell.anyNegative = false ∧
        (∀ block ∈ blocks, 0 < block.count → block.mass ≠ .nan) ∧
        frame.MadeOf ⟨(preUpper.toList, preLower.toList), cell, angles,
          (postUpper.toList, postLower.toList), blocks⟩ := by
  simp only [Frame.ofParts, result_bind_eq_ok_iff, heading_ofTexts_eq_ok_iff,
    boxLengths_ofTriple_eq_ok_iff, ofAtoms_eq_ok_iff, massesAgree_flatten distinct,
    List.forall_mem_cons]
  constructor
  · rintro ⟨preBox, ⟨⟨one, two⟩, rfl, rfl⟩, postBox, ⟨⟨three, four⟩, rfl, rfl⟩, box,
      ⟨notNegative, rfl⟩, weighed, rfl, rfl, angles, rfl, atoms⟩
    exact ⟨⟨one, two, three, four, by simp⟩, notNegative, weighed,
      ⟨rfl, rfl, rfl, angles, rfl, rfl, atoms⟩⟩
  · rintro ⟨⟨one, two, three, four, -⟩, notNegative, weighed, made⟩
    exact ⟨_, ⟨⟨one, two⟩, String.toList_inj.1 made.preUpper, String.toList_inj.1 made.preLower⟩,
      _, ⟨⟨three, four⟩, String.toList_inj.1 made.postUpper, String.toList_inj.1 made.postLower⟩,
      _, ⟨notNegative, made.cell⟩, weighed, rfl, rfl, made.angles, rfl, made.atoms⟩

end Building

namespace Frame

open FrameLine

private theorem map_pair_eq_zip_iff {blocks : List SpeciesBlock} {counts : List Nat}
    {masses : List Binary64} (sized : masses.length = counts.length) :
    blocks.map (fun block => (block.count, block.mass)) = counts.zip masses ↔
      counts = blocks.map SpeciesBlock.count ∧ masses = blocks.map SpeciesBlock.mass := by
  constructor
  · intro same
    have fronts : (counts.zip masses).map Prod.fst = counts := List.map_fst_zip (by omega)
    have backs : (counts.zip masses).map Prod.snd = masses := List.map_snd_zip (by omega)
    rw [← same, List.map_map] at fronts backs
    exact ⟨fronts.symm, backs.symm⟩
  · rintro ⟨rfl, rfl⟩
    exact List.zip_map'.symm

theorem recognises_read :
    Recognises Frame.read fun lines frame =>
      ∃ parts, SpellsFrame lines parts ∧ frame.MadeOf parts := by
  refine (Recognises.line_bind freeText_eq_ok_iff _ fun preUpper =>
    .line_bind freeText_eq_ok_iff _ fun preLower =>
    .line_bind boxLengths_eq_ok_iff _ fun lengths =>
    .line_bind triple_eq_ok_iff _ fun angles =>
    .line_bind freeText_eq_ok_iff _ fun postUpper =>
    .line_bind freeText_eq_ok_iff _ fun postLower =>
    recognises_readSpeciesHead.bind fun head =>
    (recognises_readBlocks 1 [] (head.counts.zip head.masses)).bind fun blocks =>
    .settle _).congr fun lines frame => ?_
  simp only [mapError_eq_ok_iff]
  constructor
  · rintro ⟨_, preUpper, _, rfl, rfl, _, preLower, _, rfl, rfl, lengths, cell, _, rfl,
      ⟨sized, -⟩, corners, angles, _, rfl, turned, _, postUpper, _, rfl, rfl, _, postLower, _, rfl,
      rfl, ⟨counts, masses⟩, _, _, rfl, ⟨species, numbers, agree, weights⟩, blocks, body, _, rfl,
      ⟨blockwise, declared, distinct, -⟩, rfl, built⟩
    obtain ⟨rfl, rfl⟩ := (map_pair_eq_zip_iff agree).1 declared
    obtain ⟨unbroken, notNegative, weighed, made⟩ := (ofParts_eq_ok_iff distinct).1 built
    refine ⟨_, ?_, made⟩
    simp only [List.length_map, List.map_map] at species numbers
    rw [List.append_nil]
    exact .lines unbroken sized notNegative turned species numbers weights blockwise distinct
      weighed
  · rintro ⟨parts, spelled, made⟩
    cases spelled with
    | @lines preUpper preLower lengths corners postUpper postLower number numbers weights body cell
        angles blocks unbroken sized notNegative turned species counts masses blockwise distinct
        weighed =>
      have asText : ∀ line : Line, ∃ text : String, text.toList = line :=
        fun line => ⟨_, String.toList_ofList⟩
      obtain ⟨preUpper, rfl⟩ := asText preUpper
      obtain ⟨preLower, rfl⟩ := asText preLower
      obtain ⟨postUpper, rfl⟩ := asText postUpper
      obtain ⟨postLower, rfl⟩ := asText postLower
      have head : SpellsHead [number, numbers, weights]
          ⟨blocks.map SpeciesBlock.count, blocks.map SpeciesBlock.mass⟩ := by
        refine .lines ?_ ?_ (by simp) masses
        · rwa [List.length_map]
        · rwa [List.map_map]
      have declared : blocks.map (fun block => (block.count, block.mass)) =
          (blocks.map SpeciesBlock.count).zip (blocks.map SpeciesBlock.mass) :=
        List.zip_map'.symm
      have built := (ofParts_eq_ok_iff distinct).2 ⟨unbroken, notNegative, weighed, made⟩
      exact ⟨_, preUpper, _, rfl, rfl, _, preLower, _, rfl, rfl, lengths, cell, _, rfl,
        ⟨sized, notNegative⟩, corners, angles, _, rfl, turned, _, postUpper, _, rfl, rfl,
        _, postLower, _, rfl, rfl, _, [number, numbers, weights], _, rfl, head, blocks, body, [],
        (List.append_nil body).symm, ⟨blockwise, declared, distinct, by simp⟩, rfl, built⟩

theorem exists_madeOf {lines : List Line} {parts : FrameParts}
    (spelled : SpellsFrame lines parts) : ∃ frame : Frame, frame.MadeOf parts := by
  cases spelled with
  | @lines preUpper preLower lengths corners postUpper postLower number numbers weights body cell
      angles blocks unbroken sized notNegative turned species counts masses blockwise distinct
      weighed =>
    have oneLine : ∀ line ∈ [preUpper, preLower, postUpper, postLower],
        isOneLine (String.ofList line) = true := by
      intro line member
      rw [isOneLine_iff, String.toList_ofList]
      exact unbroken line member
    exact ⟨{
      preBox := ⟨⟨String.ofList preUpper, oneLine _ (by simp)⟩,
        ⟨String.ofList preLower, oneLine _ (by simp)⟩⟩
      cell := ⟨cell, notNegative⟩
      angles
      postBox := ⟨⟨String.ofList postUpper, oneLine _ (by simp)⟩,
        ⟨String.ofList postLower, oneLine _ (by simp)⟩⟩
      atoms := flatten blocks
      massesAgree := massConflict?_declarations.2 ((massesAgree_flatten distinct).2 weighed) },
      ⟨String.toList_ofList, String.toList_ofList, rfl, rfl, String.toList_ofList,
        String.toList_ofList, rfl⟩⟩

section Lines

variable {raw : List Line} {frame : Frame}

theorem spelled_of_read {rest : LineCursor} (done : Frame.read (.ofLines raw) = .ok frame rest) :
    ∃ parts, parts.lineCount = rest.lineNumber ∧ rest.lineNumber ≤ raw.length ∧
      SpellsFrame ((raw.take rest.lineNumber).map stripTerminator) parts ∧
      frame.MadeOf parts := by
  obtain ⟨lines, later, cut, ⟨parts, spelled, made⟩, shows⟩ :=
    recognises_read.spelled (shows_ofLines raw) done
  have count : rest.lineNumber = lines.length := by rw [shows.lineNumber, Nat.zero_add]
  have total := congrArg List.length cut
  rw [List.length_map, List.length_append] at total
  refine ⟨parts, by rw [count, spelled.length], by omega, ?_, made⟩
  rwa [count, List.map_take, cut, List.take_left]

theorem read_of_spelled {parts : FrameParts}
    (spelled : SpellsFrame ((raw.take parts.lineCount).map stripTerminator) parts)
    (made : frame.MadeOf parts) :
    ∃ rest, Frame.read (.ofLines raw) = .ok frame rest ∧ rest.lineNumber = parts.lineCount := by
  have shows := shows_ofLines raw
  rw [← List.take_append_drop parts.lineCount raw, List.map_append] at shows
  obtain ⟨rest, done, shows⟩ := recognises_read.takes ⟨parts, spelled, made⟩ _ _ _ shows
  rw [List.take_append_drop] at done
  exact ⟨rest, done, by rw [shows.lineNumber, spelled.length, Nat.zero_add]⟩

end Lines

/-- A frame is read from the front of some lines exactly when the lines at the front spell it.
It is the frame that they spell, and the cursor stops behind the last of them. -/
theorem read_ofLines_iff_spelled (raw : List Line) :
    ((∃ frame rest, Frame.read (.ofLines raw) = .ok frame rest) ↔
      ∃ parts, parts.lineCount ≤ raw.length ∧
        SpellsFrame ((raw.take parts.lineCount).map stripTerminator) parts) ∧
    ∀ frame count,
      (∃ rest, Frame.read (.ofLines raw) = .ok frame rest ∧ rest.lineNumber = count) ↔
        ∃ parts, parts.lineCount = count ∧ count ≤ raw.length ∧
          SpellsFrame ((raw.take count).map stripTerminator) parts ∧ frame.MadeOf parts := by
  constructor
  · constructor
    · rintro ⟨frame, rest, done⟩
      obtain ⟨parts, count, enough, spelled, -⟩ := spelled_of_read done
      rw [← count] at enough spelled
      exact ⟨parts, enough, spelled⟩
    · rintro ⟨parts, -, spelled⟩
      obtain ⟨frame, made⟩ := exists_madeOf spelled
      obtain ⟨rest, done, -⟩ := read_of_spelled spelled made
      exact ⟨frame, rest, done⟩
  · intro frame count
    constructor
    · rintro ⟨rest, done, rfl⟩
      exact spelled_of_read done
    · rintro ⟨parts, rfl, -, spelled, made⟩
      exact read_of_spelled spelled made

end Frame

end Atomistic
