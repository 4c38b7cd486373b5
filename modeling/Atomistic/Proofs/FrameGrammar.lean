import Mathlib.Algebra.GroupWithZero.Nat
import Atomistic.Proofs.FrameReading
import Atomistic.Proofs.NumeralGrammar

/-! The grammar of a frame. It says which lines a frame is written on and what they say, without
a word on how they are read. The number of species and the counts of their atoms stand on two
of the lines, and decide how many fields and how many lines come after them. -/

namespace Atomistic

open Number Text

section Lines

def SpellsReals (line : Line) (values : List Binary64) : Prop :=
  List.Forall₂ IsReal (fields line) values

def SpellsIntegers (line : Line) (values : List Int) : Prop :=
  List.Forall₂ IsInteger (fields line) values

/-- A line with the symbol of an element. -/
def SpellsSymbol (line : Line) (number : AtomicNumber) : Prop :=
  ∃ symbol, fields line = [symbol.toList] ∧ Element.symbolOf? number.value = some symbol

/-- A line with a count and one field more, or one whose label stands for any count. -/
inductive SpellsCount (line : Line) (count : Nat) : Prop where
  | label {token : Line} {others : List Line} (cut : fields line = token :: others)
      (labelled : lowercase token = FrameLine.coordinatesLabel)
  | number {token other : Line} (cut : fields line = [token, other])
      (integer : IsInteger token count)

/-- A flag is zero or one, in any spelling. -/
inductive IsFlag : Line → Bool → Prop where
  | zero : IsFlag ['0'] false
  | one : IsFlag ['1'] true
  | realZero {token : Line} {value : Binary64} (real : IsReal token value)
      (equal : value.equals .zero = true) : IsFlag token false
  | realOne {token : Line} {value : Binary64} (real : IsReal token value)
      (equal : value.equals .one = true) : IsFlag token true

inductive SpellsSite (line : Line) (site : Site) : Prop where
  | fields {x y z id flag : Line} (cut : fields line = [x, y, z, id, flag])
      (x : IsReal x site.position.x) (y : IsReal y site.position.y)
      (z : IsReal z site.position.z) (id : IsInteger id site.id)
      (flag : IsFlag flag site.isFixed)

end Lines

section Frames

/-- The lines of species one after the other: a symbol, a count, and a site on each of so many
lines. -/
inductive SpellsBlocks : List Line → List SpeciesBlock → Prop where
  | none : SpellsBlocks [] []
  | block {symbol count : Line} {sites rest : List Line} {block : SpeciesBlock}
      {blocks : List SpeciesBlock} (named : SpellsSymbol symbol block.number)
      (counted : SpellsCount count block.count)
      (placed : List.Forall₂ SpellsSite sites block.sites) (others : SpellsBlocks rest blocks) :
      SpellsBlocks (symbol :: count :: sites ++ rest) (block :: blocks)

/-- What the lines of a frame say. -/
structure FrameParts where
  preBox : Line × Line
  cell : Triple
  angles : Triple
  postBox : Line × Line
  blocks : List SpeciesBlock

/-- How many lines they are said on. -/
def FrameParts.lineCount (parts : FrameParts) : Nat :=
  9 + 2 * parts.blocks.length + (parts.blocks.map SpeciesBlock.count).sum

/-- The lines of a frame: nine for its head, and two for each species and one for each atom. A
header line has no line break in it, no length is negative, no species has two blocks, and a
species with atoms has a mass that is a number. -/
inductive SpellsFrame : List Line → FrameParts → Prop where
  | lines {preUpper preLower lengths corners postUpper postLower number numbers weights : Line}
      {body : List Line} {cell angles : Triple} {blocks : List SpeciesBlock}
      (unbroken : ∀ line ∈ [preUpper, preLower, postUpper, postLower], IsUnbroken line)
      (sized : SpellsReals lengths cell.toList) (notNegative : cell.anyNegative = false)
      (turned : SpellsReals corners angles.toList)
      (species : SpellsIntegers number [(blocks.length : Int)])
      (counts : SpellsIntegers numbers (blocks.map fun block => (block.count : Int)))
      (masses : SpellsReals weights (blocks.map SpeciesBlock.mass))
      (blockwise : SpellsBlocks body blocks)
      (distinct : (blocks.map SpeciesBlock.number).Nodup)
      (weighed : ∀ block ∈ blocks, 0 < block.count → block.mass ≠ .nan) :
      SpellsFrame (preUpper :: preLower :: lengths :: corners :: postUpper :: postLower ::
          number :: numbers :: weights :: body)
        ⟨(preUpper, preLower), cell, angles, (postUpper, postLower), blocks⟩

/-- The frame has just these parts, its atoms in the order of the blocks. -/
structure Frame.MadeOf (frame : Frame) (parts : FrameParts) : Prop where
  preUpper : frame.preBox.upper.text.toList = parts.preBox.1
  preLower : frame.preBox.lower.text.toList = parts.preBox.2
  cell : frame.cell.lengths = parts.cell
  angles : frame.angles = parts.angles
  postUpper : frame.postBox.upper.text.toList = parts.postBox.1
  postLower : frame.postBox.lower.text.toList = parts.postBox.2
  atoms : frame.atoms = flatten parts.blocks

theorem SpellsBlocks.length {lines : List Line} {blocks : List SpeciesBlock}
    (spelled : SpellsBlocks lines blocks) :
    lines.length = 2 * blocks.length + (blocks.map SpeciesBlock.count).sum := by
  induction spelled with
  | none => rfl
  | block named counted placed others ih =>
    simp only [List.cons_append, List.length_cons, List.length_append, placed.length_eq, ih,
      List.map_cons, List.sum_cons, SpeciesBlock.count]
    omega

theorem SpellsFrame.length {lines : List Line} {parts : FrameParts}
    (spelled : SpellsFrame lines parts) : lines.length = parts.lineCount := by
  cases spelled with
  | lines unbroken sized notNegative turned species counts masses blockwise =>
    simp only [List.length_cons, blockwise.length, FrameParts.lineCount]
    omega

/-- The lines of a frame declare its species: how many there are, and for each how many atoms it
has and which mass. -/
structure DeclaresSpecies (lines : List Line) (blocks : List SpeciesBlock) : Prop where
  number : ∃ line, lines[6]? = some line ∧ SpellsIntegers line [(blocks.length : Int)]
  counts : ∃ line, lines[7]? = some line ∧
    SpellsIntegers line (blocks.map fun block => (block.count : Int))
  masses : ∃ line, lines[8]? = some line ∧ SpellsReals line (blocks.map SpeciesBlock.mass)

theorem SpellsFrame.declaresSpecies {lines : List Line} {parts : FrameParts}
    (spelled : SpellsFrame lines parts) : DeclaresSpecies lines parts.blocks := by
  cases spelled with
  | lines unbroken sized notNegative turned species counts masses =>
    exact ⟨⟨_, rfl, species⟩, ⟨_, rfl, counts⟩, ⟨_, rfl, masses⟩⟩

theorem SpellsFrame.distinct {lines : List Line} {parts : FrameParts}
    (spelled : SpellsFrame lines parts) : (parts.blocks.map SpeciesBlock.number).Nodup := by
  cases spelled with
  | lines unbroken sized notNegative turned species counts masses blockwise distinct =>
    exact distinct

end Frames

section Tokens

open FrameField

variable {token : Line}

theorem realValue_eq_ok_iff {numeral : RealNumeral} {value : Binary64} :
    realValue token numeral = .ok value ↔ numeral.value? = some value := by
  cases meant : numeral.value? <;> simp [realValue, meant]

theorem readReal_eq_ok_iff (what : String) (word : IsWord token) {value : Binary64} :
    readReal what token = .ok value ↔ IsReal token value := by
  rw [isReal_iff, readReal, dropFinalNewline_word word]
  cases readReal? token with
  | none => simp [FrameField.complain]
  | some numeral => simp [realValue_eq_ok_iff]

theorem readInteger_eq_ok_iff (what : String) (word : IsWord token) {value : Int} :
    readInteger what token = .ok value ↔ IsInteger token value := by
  rw [isInteger_iff, readInteger, dropFinalNewline_word word]
  cases readInteger? token with
  | none => simp [FrameField.complain]
  | some numeral => by_cases few : numeral.digits.length ≤ digitLimit <;> simp [few]

private theorem eq_zero_of_isReal {value : Binary64} (real : IsReal ['0'] value) :
    value = .zero := by
  obtain ⟨numeral, read, meant⟩ := isReal_iff.1 real
  have digit : readReal? ['0'] = some (.decimal false 0 0) := by decide +kernel
  cases digit.symm.trans read
  exact (Option.some.inj meant).symm

private theorem eq_one_of_isReal {value : Binary64} (real : IsReal ['1'] value) :
    value = .one := by
  obtain ⟨numeral, read, meant⟩ := isReal_iff.1 real
  have digit : readReal? ['1'] = some (.decimal false 1 0) := by decide +kernel
  cases digit.symm.trans read
  have same : Binary64.ofDecimal false 1 0 = .one := by decide +kernel
  exact (Option.some.inj meant).symm.trans same

/-- The two digits that are told apart before any number is read have the values that would be
read for them. -/
private theorem readFlag_of_isReal (word : IsWord token) {value : Binary64}
    (real : IsReal token value) :
    readFlag token =
      if value.equals .zero then .ok false
      else if value.equals .one then .ok true
      else FrameField.complain (.notFlag token) := by
  by_cases zero : token = ['0']
  · subst zero
    rw [eq_zero_of_isReal real]
    rfl
  · by_cases one : token = ['1']
    · subst one
      have other : Binary64.one.equals .zero = false := by decide +kernel
      have same : Binary64.one.equals .one = true := by decide +kernel
      rw [eq_one_of_isReal real, other, same]
      rfl
    · obtain ⟨numeral, read, meant⟩ := isReal_iff.1 real
      simp only [readFlag, zero, one, if_false, dropFinalNewline_word word, read, realValue, meant,
        Option.elim_some, ok_bind]

private theorem apart_zero_one {value : Binary64} (one : value.equals .one = true) :
    ¬ value.equals .zero = true := by
  intro zero
  rw [Binary64.equals_comm] at zero
  have same := Binary64.equals_trans zero one
  have differ : Binary64.zero.equals .one = false := by decide +kernel
  rw [differ] at same
  cases same

theorem readFlag_eq_ok_iff (word : IsWord token) {isFixed : Bool} :
    readFlag token = .ok isFixed ↔ IsFlag token isFixed := by
  constructor
  · intro done
    unfold readFlag at done
    rw [dropFinalNewline_word word] at done
    split at done
    next zero =>
      cases done
      exact zero ▸ .zero
    next =>
      split at done
      next one =>
        cases done
        exact one ▸ .one
      next =>
        split at done
        next numeral read =>
          obtain ⟨value, meant, done⟩ := result_bind_eq_ok_iff.1 done
          have real : IsReal token value :=
            isReal_iff.2 ⟨numeral, read, realValue_eq_ok_iff.1 meant⟩
          split at done
          next zero =>
            cases done
            exact .realZero real zero
          next =>
            split at done
            next one =>
              cases done
              exact .realOne real one
            next => cases done
        next => cases done
  · intro flag
    cases flag with
    | zero => rfl
    | one => rfl
    | realZero real equal => rw [readFlag_of_isReal word real, if_pos equal]
    | realOne real equal =>
      rw [readFlag_of_isReal word real, if_neg (apart_zero_one equal), if_pos equal]

end Tokens

section Rows

open FrameField

theorem split_eq_ok_iff {what : String} {count : Int} {line : Line} {tokens : List Line} :
    FrameField.split what count line = .ok tokens ↔
      fields line = tokens ∧ (tokens.length : Int) = count := by
  unfold FrameField.split
  split
  next same =>
    constructor
    · intro done
      cases done
      exact ⟨rfl, same⟩
    · rintro ⟨rfl, -⟩
      rfl
  next other =>
    constructor
    · intro done
      cases done
    · rintro ⟨rfl, same⟩
      exact absurd same other

/-- A row of values is read when its fields are as many as they should be and each is a value. -/
private theorem row_eq_ok_iff {α : Type} {read : Line → Except Fault α} {related : Line → α → Prop}
    (each : ∀ token, IsWord token → ∀ value, read token = .ok value ↔ related token value)
    {what : String} {count : Nat} {line : Line} {values : List α} :
    (FrameField.split what count line >>= fun tokens => tokens.mapM read) = .ok values ↔
      values.length = count ∧ List.Forall₂ related (fields line) values := by
  have row : (fields line).mapM read = .ok values ↔ List.Forall₂ related (fields line) values :=
    mapM_eq_ok_iff fun token member => each token (isWord_of_mem_fields member)
  rw [result_bind_eq_ok_iff]
  constructor
  · rintro ⟨tokens, cut, read⟩
    obtain ⟨rfl, counted⟩ := split_eq_ok_iff.1 cut
    have spelled := row.1 read
    exact ⟨by rw [← spelled.length_eq]; omega, spelled⟩
  · rintro ⟨rfl, spelled⟩
    exact ⟨_, split_eq_ok_iff.2 ⟨rfl, by rw [spelled.length_eq]⟩, row.2 spelled⟩

theorem readReals_eq_ok_iff {what : String} {count : Nat} {line : Line} {values : List Binary64} :
    readReals what count line = .ok values ↔ values.length = count ∧ SpellsReals line values :=
  row_eq_ok_iff fun _ word _ => readReal_eq_ok_iff what word

theorem readIntegers_eq_ok_iff {what : String} {count : Nat} {line : Line} {values : List Int} :
    readIntegers what count line = .ok values ↔
      values.length = count ∧ SpellsIntegers line values :=
  row_eq_ok_iff fun _ word _ => readInteger_eq_ok_iff what word

end Rows

namespace FrameLine

open FrameField

theorem freeText_eq_ok_iff {line : Line} {text : String} :
    freeText line = .ok text ↔ text.toList = line := by
  constructor
  · rintro ⟨⟩
    exact String.toList_ofList
  · rintro rfl
    rw [freeText, String.ofList_toList]

theorem triple_eq_ok_iff {what : String} {line : Line} {found : Triple} :
    triple what line = .ok found ↔ SpellsReals line found.toList := by
  have word := fun token => @isWord_of_mem_fields line token
  unfold triple SpellsReals
  split
  next x y z cut =>
    rw [cut] at word ⊢
    have real := fun token member value => @readReal_eq_ok_iff token what (word token member) value
    obtain ⟨a, b, c⟩ := found
    simp [Triple.toList, result_bind_eq_ok_iff, real]
  next other =>
    constructor
    · intro done
      cases done
    · intro spelled
      obtain ⟨x, y, z, cut⟩ := List.length_eq_three.1 spelled.length_eq
      exact absurd cut (other x y z)

theorem boxLengths_eq_ok_iff {line : Line} {found : Triple} :
    boxLengths line = .ok found ↔
      SpellsReals line found.toList ∧ found.anyNegative = false := by
  rw [boxLengths, result_bind_eq_ok_iff]
  constructor
  · rintro ⟨lengths, read, done⟩
    split at done
    next => cases done
    next notNegative =>
      cases done
      exact ⟨triple_eq_ok_iff.1 read, by simpa using notNegative⟩
  · rintro ⟨spelled, notNegative⟩
    exact ⟨found, triple_eq_ok_iff.2 spelled, by rw [notNegative]; rfl⟩

theorem speciesCount_eq_ok_iff {line : Line} {count : Nat} :
    speciesCount line = .ok count ↔ SpellsIntegers line [(count : Int)] := by
  have word := fun token => @isWord_of_mem_fields line token
  unfold speciesCount SpellsIntegers
  split
  next token cut =>
    rw [cut] at word ⊢
    have integer := fun value =>
      @readInteger_eq_ok_iff token "species count" (word token (by simp)) value
    simp only [result_bind_eq_ok_iff, integer, List.forall₂_cons, List.forall₂_nil_right_iff,
      and_true]
    constructor
    · rintro ⟨value, spelled, done⟩
      split at done
      next => cases done
      next natural =>
        cases done
        rwa [Int.toNat_of_nonneg (by omega)]
    · intro spelled
      have natural : ¬ (count : Int) < 0 := by omega
      exact ⟨count, spelled, by simp [natural]⟩
  next other =>
    constructor
    · intro done
      cases done
    · intro spelled
      obtain ⟨token, cut⟩ := List.length_eq_one_iff.1 spelled.length_eq
      exact absurd cut (other token)

theorem atomCounts_eq_ok_iff {species : Nat} {line : Line} {counts : List Nat} :
    atomCounts species line = .ok counts ↔
      counts.length = species ∧ SpellsIntegers line (counts.map Nat.cast) := by
  rw [atomCounts, result_bind_eq_ok_iff]
  constructor
  · rintro ⟨values, read, done⟩
    obtain ⟨counted, spelled⟩ := readIntegers_eq_ok_iff.1 read
    split at done
    next => cases done
    next natural =>
      cases done
      have back : (values.map Int.toNat).map Nat.cast = values := by
        rw [List.map_map]
        refine (List.map_congr_left fun value member => ?_).trans (List.map_id values)
        have positive := List.find?_eq_none.1 natural value member
        exact Int.toNat_of_nonneg (by simpa using positive)
      exact ⟨by simpa using counted, by rwa [back]⟩
  · rintro ⟨rfl, spelled⟩
    refine ⟨counts.map Nat.cast, readIntegers_eq_ok_iff.2 ⟨by simp, spelled⟩, ?_⟩
    have natural : (counts.map (Nat.cast : Nat → Int)).find? (· < 0) = none := by simp
    simp [natural, Function.comp_def]

theorem masses_eq_ok_iff {species : Nat} {line : Line} {values : List Binary64} :
    masses species line = .ok values ↔ values.length = species ∧ SpellsReals line values :=
  readReals_eq_ok_iff

theorem symbol_eq_ok_iff {species : Nat} {seen : List AtomicNumber} {line : Line}
    {number : AtomicNumber} :
    symbol species seen line = .ok number ↔ SpellsSymbol line number ∧ number ∉ seen := by
  unfold symbol SpellsSymbol
  split
  next token cut =>
    constructor
    · intro done
      split at done
      next => cases done
      next found looked =>
        split at done
        next => cases done
        next unseen =>
          cases done
          refine ⟨⟨String.ofList token, ?_, Element.symbolOf?_of_numberOf? looked⟩,
            by simpa using unseen⟩
          rw [cut, String.toList_ofList]
    · rintro ⟨⟨symbol, same, found⟩, unseen⟩
      rw [cut] at same
      cases same
      rw [String.ofList_toList, Element.numberOf?_of_symbolOf? found]
      simp [unseen]
  next other =>
    constructor
    · intro done
      cases done
    · rintro ⟨⟨symbol, cut, -⟩, -⟩
      exact absurd cut (other _)

theorem blockCount_eq_ok_iff {species declared : Nat} {line : Line} :
    blockCount species declared line = .ok () ↔ SpellsCount line declared := by
  have word := fun token => @isWord_of_mem_fields line token
  unfold blockCount
  dsimp only
  split
  next labelled =>
    refine ⟨fun _ => ?_, fun _ => rfl⟩
    obtain ⟨token, first, label⟩ := Option.map_eq_some_iff.1 labelled
    obtain ⟨others, cut⟩ := List.head?_eq_some_iff.1 first
    exact .label cut label
  next unlabelled =>
    have noLabel : ∀ token others, fields line = token :: others →
        lowercase token ≠ coordinatesLabel := by
      intro token others cut same
      exact unlabelled (by rw [cut, List.head?_cons, Option.map_some, same])
    split
    next token other cut =>
      have integer := fun value =>
        @readInteger_eq_ok_iff token (speciesLabel species "count")
          (word token (by simp [cut])) value
      rw [result_bind_eq_ok_iff]
      constructor
      · rintro ⟨count, read, done⟩
        split at done
        next same => exact .number cut (same ▸ (integer count).1 read)
        next => cases done
      · rintro (⟨cut', labelled⟩ | ⟨cut', spelled⟩)
        · exact absurd labelled (noLabel _ _ cut')
        · cases cut.symm.trans cut'
          exact ⟨declared, (integer declared).2 spelled, if_pos rfl⟩
    next others =>
      constructor
      · intro done
        cases done
      · rintro (⟨cut, labelled⟩ | ⟨cut, -⟩)
        · exact absurd labelled (noLabel _ _ cut)
        · exact absurd cut (others _ _)

theorem site_eq_ok_iff {line : Line} {found : Site} :
    site line = .ok found ↔ SpellsSite line found := by
  have word := fun token => @isWord_of_mem_fields line token
  unfold site
  split
  next x y z id flag cut =>
    rw [cut] at word
    have real := fun what token member value =>
      @readReal_eq_ok_iff token what (word token member) value
    have integer := fun value => @readInteger_eq_ok_iff id "atom_id" (word id (by simp)) value
    have marked := fun isFixed => @readFlag_eq_ok_iff flag (word flag (by simp)) isFixed
    constructor
    · intro done
      obtain ⟨a, readX, done⟩ := result_bind_eq_ok_iff.1 done
      obtain ⟨b, readY, done⟩ := result_bind_eq_ok_iff.1 done
      obtain ⟨c, readZ, done⟩ := result_bind_eq_ok_iff.1 done
      obtain ⟨number, readId, done⟩ := result_bind_eq_ok_iff.1 done
      split at done
      next => cases done
      next natural =>
        obtain ⟨isFixed, readMark, done⟩ := result_bind_eq_ok_iff.1 done
        cases done
        have spelled := (integer number).1 readId
        rw [← Int.toNat_of_nonneg (Int.not_lt.1 natural)] at spelled
        exact .fields cut ((real "x" x (by simp) a).1 readX) ((real "y" y (by simp) b).1 readY)
          ((real "z" z (by simp) c).1 readZ) spelled ((marked isFixed).1 readMark)
    · rintro ⟨cut', spelledX, spelledY, spelledZ, spelledId, spelledMark⟩
      cases cut.symm.trans cut'
      have natural : ¬ (found.id : Int) < 0 := by omega
      rw [(real "x" x (by simp) _).2 spelledX, ok_bind, (real "y" y (by simp) _).2 spelledY,
        ok_bind, (real "z" z (by simp) _).2 spelledZ, ok_bind, (integer _).2 spelledId, ok_bind,
        if_neg natural, (marked _).2 spelledMark, ok_bind, pure_eq_ok]
      rfl
  next other =>
    constructor
    · intro done
      cases done
    · rintro ⟨cut, -⟩
      exact absurd cut (other _ _ _ _ _)

end FrameLine

end Atomistic
