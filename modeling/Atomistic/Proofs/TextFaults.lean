import Atomistic.Proofs.FrameRecognition

/-! The faults that a text can lead to. Most are about its format and name a line of it. Four
kinds are about values instead: the tokens and lines have the right shape, and what they
stand for is refused. -/

namespace Atomistic

open Number Text LineCursor

/-- A fault about a value that was read out of a text of the right shape: a numeral without
a value, an integer of too many digits, a header line with a line break in it, and a mass
that differs from the one of its species, which a mass of nan does from itself. -/
inductive Fault.OfValue : Fault → Prop where
  | notNumeral (text : String) : OfValue (.value (.notNumeral text))
  | tooManyDigits (count : Nat) : OfValue (.value (.tooManyDigits count))
  | brokenLine (place : String) (index : Nat) : OfValue (.value (.brokenLine place index))
  | massDiffers (index : Nat) (mass declared : Binary64) (number : Nat) :
      OfValue (.value (.massDiffers index mass declared number))

theorem Fault.OfValue.not_format {fault : FormatFault} : ¬ (Fault.format fault).OfValue := by
  intro value
  cases value

/-- What a fault of a value goes back to in the lines of a text. -/
inductive Fault.TracedTo (lines : List Line) : Fault → Prop where
  | dotted {line token : Line} (member : line ∈ lines) (field : token ∈ fields line)
      (read : readReal? token = some .dottedInfinity) :
      TracedTo lines (.value (.notNumeral (String.ofList token)))
  | long {line token : Line} {numeral : IntegerNumeral} (member : line ∈ lines)
      (field : token ∈ fields line) (read : readInteger? token = some numeral)
      (many : digitLimit < numeral.digits.length) :
      TracedTo lines (.value (.tooManyDigits numeral.digits.length))
  | broken {line : Line} (member : line ∈ lines) (inside : ¬ IsUnbroken line) (place : String)
      (index : Nat) : TracedTo lines (.value (.brokenLine place index))
  | unweighed {line token : Line} (member : line ∈ lines) (field : token ∈ fields line)
      (read : IsReal token .nan) (index : Nat) (mass declared : Binary64) (number : Nat) :
      TracedTo lines (.value (.massDiffers index mass declared number))

namespace Fault.TracedTo

variable {lines others : List Line} {fault : Fault}

theorem ofValue (traced : fault.TracedTo lines) : fault.OfValue := by
  cases traced <;> constructor

theorem mono (traced : fault.TracedTo lines) (among : lines ⊆ others) :
    fault.TracedTo others := by
  cases traced with
  | dotted member field read => exact .dotted (among member) field read
  | long member field read many => exact .long (among member) field read many
  | broken member inside place index => exact .broken (among member) inside place index
  | unweighed member field read index mass declared number =>
    exact .unweighed (among member) field read index mass declared number

end Fault.TracedTo

/-- The faults that a single line leads to, before its number is known. None is about an input
that ends too early: the line is there. -/
def Fault.OfLine (line : Line) (fault : Fault) : Prop :=
  (∃ cause number, fault = .format ⟨cause, number⟩ ∧ cause.category ≠ .truncated) ∨
    fault.TracedTo [line]

section Lines

variable {line : Line}

theorem FailsOnly.complain {α : Type} (cause : FormatCause)
    (present : cause.category ≠ .truncated) :
    FailsOnly (Fault.OfLine line) (FrameField.complain cause : Except Fault α) :=
  .error (.inl ⟨cause, none, rfl, present⟩)

namespace FrameField

variable {token : Line}

private theorem ofLine_realValue (member : token ∈ fields line) {numeral : RealNumeral}
    (read : readReal? token = some numeral) :
    FailsOnly (Fault.OfLine line) (realValue token numeral) := by
  cases numeral with
  | dottedInfinity => exact .error (.inr (.dotted (List.mem_singleton_self line) member read))
  | decimal negative coefficient exponent => exact .ok _
  | infinity negative => exact .ok _
  | nan => exact .ok _

theorem ofLine_readReal (what : String) (member : token ∈ fields line) :
    FailsOnly (Fault.OfLine line) (readReal what token) := by
  unfold readReal
  rw [dropFinalNewline_word (isWord_of_mem_fields member)]
  split
  next numeral read => exact ofLine_realValue member read
  next => exact .complain _ nofun

theorem ofLine_readInteger (what : String) (member : token ∈ fields line) :
    FailsOnly (Fault.OfLine line) (readInteger what token) := by
  unfold readInteger
  rw [dropFinalNewline_word (isWord_of_mem_fields member)]
  split
  next numeral read =>
    split
    next => exact .ok _
    next many =>
      exact .error (.inr (.long (List.mem_singleton_self line) member read (Nat.not_le.1 many)))
  next => exact .complain _ nofun

theorem ofLine_readFlag (member : token ∈ fields line) :
    FailsOnly (Fault.OfLine line) (readFlag token) := by
  unfold readFlag
  rw [dropFinalNewline_word (isWord_of_mem_fields member)]
  split
  next => exact .ok false
  next =>
    split
    next => exact .ok true
    next =>
      split
      next numeral read =>
        apply (ofLine_realValue member read).bind
        intro value
        split
        next => exact .ok false
        next =>
          split
          next => exact .ok true
          next => exact .complain _ nofun
      next => exact .complain _ nofun

/-- A row of values fails only where one of its fields does. -/
theorem ofLine_row {α : Type} {read : Line → Except Fault α} (what : String) (count : Int)
    (each : ∀ token ∈ fields line, FailsOnly (Fault.OfLine line) (read token)) :
    FailsOnly (Fault.OfLine line)
      (FrameField.split what count line >>= fun tokens => tokens.mapM read) := by
  unfold FrameField.split
  split
  next => exact .mapM each
  next => exact .complain _ nofun

end FrameField

namespace FrameLine

open FrameField

variable (line : Line)

theorem ofLine_triple (what : String) : FailsOnly (Fault.OfLine line) (triple what line) := by
  unfold triple
  split
  next x y z cut =>
    apply (ofLine_readReal _ (by simp [cut])).bind
    intro x
    apply (ofLine_readReal _ (by simp [cut])).bind
    intro y
    exact (ofLine_readReal _ (by simp [cut])).bind fun z => .ok _
  next => exact .complain _ nofun

theorem ofLine_boxLengths : FailsOnly (Fault.OfLine line) (boxLengths line) := by
  apply (ofLine_triple _ _).bind
  intro lengths
  split
  next => exact .complain _ nofun
  next => exact .ok _

theorem ofLine_speciesCount : FailsOnly (Fault.OfLine line) (speciesCount line) := by
  unfold speciesCount
  split
  next token cut =>
    apply (ofLine_readInteger _ (by simp [cut])).bind
    intro count
    split
    next => exact .complain _ nofun
    next => exact .ok _
  next => exact .complain _ nofun

theorem ofLine_atomCounts (species : Nat) :
    FailsOnly (Fault.OfLine line) (atomCounts species line) := by
  refine FailsOnly.bind (ofLine_row _ _ fun token => ofLine_readInteger _) fun counts => ?_
  split
  next => exact .complain _ nofun
  next => exact .ok _

theorem ofLine_masses (species : Nat) : FailsOnly (Fault.OfLine line) (masses species line) :=
  ofLine_row _ _ fun _ => ofLine_readReal _

theorem ofLine_symbol (species : Nat) (seen : List AtomicNumber) :
    FailsOnly (Fault.OfLine line) (symbol species seen line) := by
  unfold symbol
  split
  next =>
    split
    next => exact .complain _ nofun
    next =>
      split
      next => exact .complain _ nofun
      next => exact .ok _
  next => exact .complain _ nofun

theorem ofLine_blockCount (species declared : Nat) :
    FailsOnly (Fault.OfLine line) (blockCount species declared line) := by
  unfold blockCount
  dsimp only
  split
  next => exact .ok ()
  next =>
    split
    next token other cut =>
      apply (ofLine_readInteger _ (by simp [cut])).bind
      intro count
      split
      next => exact .ok _
      next => exact .complain _ nofun
    next => exact .complain _ nofun

theorem ofLine_site : FailsOnly (Fault.OfLine line) (site line) := by
  unfold site
  split
  next x y z id flag cut =>
    apply (ofLine_readReal _ (by simp [cut])).bind
    intro x
    apply (ofLine_readReal _ (by simp [cut])).bind
    intro y
    apply (ofLine_readReal _ (by simp [cut])).bind
    intro z
    apply (ofLine_readInteger _ (by simp [cut])).bind
    intro id
    split
    next => exact .complain _ nofun
    next => exact (ofLine_readFlag (by simp [cut])).bind fun isFixed => .ok _
  next => exact .complain _ nofun

end FrameLine

end Lines

section Readings

/-- A fault of the format on one of these lines or on the line after them, or a fault of a value
that goes back to them. -/
def Fault.Located (fault : Fault) (lines : List Line) : Prop :=
  (∃ cause line, fault = .format ⟨cause, some line⟩ ∧ 1 ≤ line ∧ line ≤ lines.length + 1) ∨
    fault.TracedTo lines

/-- The cursor stands somewhere among these lines. -/
def LineCursor.Within (cursor : LineCursor) (lines : List Line) : Prop :=
  ∃ front left, lines = front ++ left ∧ cursor.Shows front.length left

theorem LineCursor.within_ofText (text : String) :
    (LineCursor.ofText text).Within ((rawLines text.toList).map stripTerminator) :=
  ⟨[], _, rfl, shows_ofText text⟩

namespace LineCursor.Within

variable {cursor : LineCursor} {lines : List Line}

theorem read_cases (within : cursor.Within lines) :
    LineCursor.read cursor = .ok none cursor ∨
      ∃ line rest, LineCursor.read cursor = .ok (some line) rest := by
  obtain ⟨front, left, -, shows⟩ := within
  cases left with
  | nil => exact .inl shows.read_nil
  | cons first others =>
    obtain ⟨rest, read, -⟩ := shows.read_cons
    exact .inr ⟨first, rest, read⟩

theorem of_some (within : cursor.Within lines) {line : Line} {rest : LineCursor}
    (met : LineCursor.read cursor = .ok (some line) rest) :
    rest.Within lines ∧ line ∈ lines ∧ 1 ≤ rest.lineNumber ∧ rest.lineNumber ≤ lines.length := by
  obtain ⟨front, left, rfl, shows⟩ := within
  cases left with
  | nil => cases shows.read_nil.symm.trans met
  | cons first others =>
    obtain ⟨after, read, shows⟩ := shows.read_cons
    cases read.symm.trans met
    rw [shows.lineNumber, List.length_append, List.length_cons]
    refine ⟨⟨front ++ [line], others, by simp, ?_⟩, by simp, by omega, by omega⟩
    rwa [List.length_append]

theorem located_end (within : cursor.Within lines) (reading : String) :
    (Fault.format ⟨.endOfInput reading, some (cursor.lineNumber + 1)⟩).Located lines := by
  obtain ⟨front, left, rfl, shows⟩ := within
  refine .inl ⟨_, _, rfl, by omega, ?_⟩
  rw [shows.lineNumber, List.length_append]
  omega

end LineCursor.Within

/-- Among these lines the reading stays there. It gives a value with the property, or ends in a
fault that is located there. -/
structure Reads {α : Type} (lines : List Line) (property : α → Prop) (reading : Reading α) :
    Prop where
  ok : ∀ cursor value rest, cursor.Within lines → reading cursor = .ok value rest →
    rest.Within lines ∧ property value
  error : ∀ cursor fault rest, cursor.Within lines → reading cursor = .error fault rest →
    rest.Within lines ∧ fault.Located lines

namespace Reads

variable {α β : Type} {lines : List Line}

theorem pure {property : α → Prop} {value : α} (holds : property value) :
    Reads lines property (Pure.pure value) where
  ok := by
    intro cursor found rest within done
    obtain ⟨rfl, rfl⟩ := pure_eq_ok_iff.1 done
    exact ⟨within, holds⟩
  error := by
    intro cursor fault rest within failed
    cases failed

theorem bind {first : α → Prop} {second : β → Prop} {reading : Reading α} {next : α → Reading β}
    (before : Reads lines first reading)
    (after : ∀ value, first value → Reads lines second (next value)) :
    Reads lines second (reading >>= next) where
  ok := by
    intro cursor value rest within done
    obtain ⟨found, middle, met, done⟩ := bind_eq_ok_iff.1 done
    obtain ⟨within, holds⟩ := before.ok cursor found middle within met
    exact (after found holds).ok middle value rest within done
  error := by
    intro cursor fault rest within failed
    cases met : reading cursor with
    | error early middle =>
      rw [bind_of_error met] at failed
      cases failed
      exact before.error cursor fault rest within met
    | ok found middle =>
      rw [bind_of_ok met] at failed
      obtain ⟨within, holds⟩ := before.ok cursor found middle within met
      exact (after found holds).error middle fault rest within failed

theorem settle {property : α → Prop} {result : Except Fault α}
    (holds : ∀ value, result = .ok value → property value)
    (located : ∀ fault, result = .error fault → fault.Located lines) :
    Reads lines property (settle result) where
  ok := by
    intro cursor value rest within done
    obtain ⟨met, rfl⟩ := settle_eq_ok_iff.1 done
    exact ⟨within, holds value met⟩
  error := by
    intro cursor fault rest within failed
    cases result with
    | ok value => cases failed
    | error early =>
      cases failed
      exact ⟨within, located fault rfl⟩

/-- A line that is there has a number among the lines, and one that is missing comes next. -/
theorem readAs {parse : Line → Except Fault α} {property : α → Prop} (reading : String)
    (holds : ∀ line ∈ lines, ∀ value, parse line = .ok value → property value)
    (ofLine : ∀ line, FailsOnly (Fault.OfLine line) (parse line)) :
    Reads lines property (readAs reading parse) where
  ok := by
    intro cursor value rest within done
    obtain ⟨line, met, parsed⟩ := readAs_eq_ok_iff.1 done
    obtain ⟨inside, member, -, -⟩ := within.of_some met
    exact ⟨inside, holds line member value parsed⟩
  error := by
    intro cursor fault rest within failed
    rcases within.read_cases with met | ⟨line, after, met⟩
    · rw [LineCursor.readAs, bind_of_error (require_of_none met reading)] at failed
      cases failed
      exact ⟨within, within.located_end reading⟩
    · obtain ⟨inside, member, positive, bounded⟩ := within.of_some met
      rw [readAs_of_some met] at failed
      cases parsed : parse line with
      | ok value =>
        rw [parsed] at failed
        cases failed
      | error early =>
        rw [parsed] at failed
        cases failed
        refine ⟨inside, ?_⟩
        rcases ofLine line early parsed with ⟨cause, number, rfl, -⟩ | traced
        · exact .inl ⟨cause, _, rfl, positive, by omega⟩
        · have among := traced.mono fun other inside => List.mem_singleton.1 inside ▸ member
          cases traced <;> exact .inr among

theorem require (lines : List Line) (reading : String) :
    Reads lines (fun _ => True) (require reading) where
  ok := by
    intro cursor line rest within done
    exact ⟨(within.of_some (require_eq_ok_iff.1 done)).1, trivial⟩
  error := by
    intro cursor fault rest within failed
    rcases within.read_cases with met | ⟨line, after, met⟩
    · rw [require_of_none met reading] at failed
      cases failed
      exact ⟨within, within.located_end reading⟩
    · cases (require_eq_ok_iff.2 met).symm.trans failed

/-- What the reading is known to take stands among the lines. -/
theorem spelled {property : α → Prop} {reading : Reading α} {spells : List Line → α → Prop}
    (reads : Reads lines property reading) (recognises : Recognises reading spells) :
    Reads lines (fun value => ∃ part, part ⊆ lines ∧ spells part value) reading where
  ok := by
    intro cursor value rest within done
    obtain ⟨front, left, rfl, shows⟩ := within
    obtain ⟨part, later, rfl, holds, -⟩ := recognises.spelled shows done
    refine ⟨(reads.ok cursor value rest ⟨front, _, rfl, shows⟩ done).1, part, ?_, holds⟩
    intro line member
    simp [member]
  error := reads.error

end Reads

namespace Frame

/-- Reading one line of which no more needs to be known. -/
private theorem reads_line {α : Type} {lines : List Line} {parse : Line → Except Fault α}
    (reading : String) (ofLine : ∀ line, FailsOnly (Fault.OfLine line) (parse line)) :
    Reads lines (fun _ => True) (readAs reading parse) :=
  .readAs reading (fun _ _ _ _ => trivial) ofLine

variable (lines : List Line)

theorem reads_readSites (reading : String) (count : Nat) :
    Reads lines (fun _ => True) (readSites reading count) := by
  induction count with
  | zero => exact .pure trivial
  | succ count ih =>
    apply (reads_line reading FrameLine.ofLine_site).bind
    intro site _
    exact ih.bind fun sites _ => .pure trivial

theorem reads_readBlocks (species : Nat) (seen : List AtomicNumber)
    (declared : List (Nat × Binary64)) :
    Reads lines (fun _ => True) (readBlocks species seen declared) := by
  induction declared generalizing species seen with
  | nil => exact .pure trivial
  | cons entry rest ih =>
    apply (reads_line _ fun line => FrameLine.ofLine_symbol line species seen).bind
    intro number _
    apply (reads_line _ fun line => FrameLine.ofLine_blockCount line species entry.1).bind
    intro _ _
    apply (reads_readSites lines _ _).bind
    intro sites _
    exact (ih _ _).bind fun blocks _ => .pure trivial

theorem reads_readCounts : Reads lines (fun _ => True) readCounts :=
  (reads_line _ FrameLine.ofLine_speciesCount).bind fun species _ =>
    reads_line _ fun line => FrameLine.ofLine_atomCounts line species

theorem reads_readSpeciesHead : Reads lines (fun _ => True) readSpeciesHead := by
  apply (reads_readCounts lines).bind
  intro counts _
  exact (reads_line _ fun line => FrameLine.ofLine_masses line counts.length).bind
    fun masses _ => .pure trivial

/-- The masses of the blocks all stand on one of the lines. -/
theorem exists_mass_of_spells {part others : List Line} {head : SpeciesHead}
    {blocks : List SpeciesBlock} (headed : SpellsHead part head)
    (spelled : SpellsDeclared (head.counts.zip head.masses) [] others blocks)
    {block : SpeciesBlock} (member : block ∈ blocks) :
    ∃ line ∈ part, ∃ token ∈ fields line, IsReal token block.mass := by
  cases headed with
  | @lines number numbers weights head species counts sized masses =>
    have declared : (block.count, block.mass) ∈ head.counts.zip head.masses :=
      spelled.declared ▸ List.mem_map_of_mem member
    obtain ⟨token, field, read⟩ := exists_of_forall₂_right masses (List.of_mem_zip declared).2
    exact ⟨weights, by simp, token, field, read⟩

/-- Lengths that were read are not negative, so the frame finds no fault with them. -/
theorem failsOnly_ofParts {lines : List Line} {preUpper preLower postUpper postLower : String}
    {cell : Triple} (angles : Triple) {blocks : List SpeciesBlock}
    (headers : ∀ text ∈ [preUpper, preLower, postUpper, postLower], text.toList ∈ lines)
    (notNegative : cell.anyNegative = false)
    (distinct : (blocks.map SpeciesBlock.number).Nodup)
    (masses : ∀ block ∈ blocks, ∃ line ∈ lines, ∃ token ∈ fields line, IsReal token block.mass) :
    FailsOnly (fun fault => (Fault.value fault).TracedTo lines)
      (Frame.ofParts (preUpper, preLower) cell angles (postUpper, postLower) (flatten blocks)) := by
  have header : ∀ place index text, text.toList ∈ lines →
      FailsOnly (fun fault => (Fault.value fault).TracedTo lines)
        (HeaderLine.ofText place index text) := by
    intro place index text member
    unfold HeaderLine.ofText
    split
    next => exact .ok _
    next broken => exact .error (.broken member (fun whole => broken (isOneLine_iff.2 whole)) _ _)
  have heading : ∀ place upper lower, upper.toList ∈ lines → lower.toList ∈ lines →
      FailsOnly (fun fault => (Fault.value fault).TracedTo lines)
        (Heading.ofTexts place upper lower) := by
    intro place upper lower first second
    exact (header _ _ _ first).bind fun _ => (header _ _ _ second).bind fun _ => .ok _
  apply (heading _ _ _ (headers _ (by simp)) (headers _ (by simp))).bind
  intro preBox
  apply (heading _ _ _ (headers _ (by simp)) (headers _ (by simp))).bind
  intro postBox
  have lengths : BoxLengths.ofTriple cell = .ok ⟨cell, notNegative⟩ := dif_pos notNegative
  rw [lengths, ok_bind]
  unfold Frame.ofAtoms
  split
  next => exact .ok _
  next conflict found =>
    have differ : ¬ MassesAgree (flatten blocks) := by
      rw [← massConflict?_declarations, found]
      simp
    rw [massesAgree_flatten distinct] at differ
    obtain ⟨block, member, nan⟩ : ∃ block ∈ blocks, block.mass = .nan := by
      by_contra all
      exact differ fun block member _ nan => all ⟨block, member, nan⟩
    obtain ⟨line, among, token, field, read⟩ := masses block member
    exact .error (.unweighed among field (nan ▸ read) _ _ _ _)

theorem reads_read : Reads lines (fun _ => True) Frame.read := by
  have header : ∀ reading, Reads lines (fun text : String => text.toList ∈ lines)
      (readAs reading FrameLine.freeText) := by
    intro reading
    refine .readAs reading (fun line member text done => ?_) fun _ => .ok _
    rwa [FrameLine.freeText_eq_ok_iff.1 done]
  have lengths : Reads lines (fun lengths : Triple => lengths.anyNegative = false)
      (readAs "cell lengths" FrameLine.boxLengths) :=
    .readAs _ (fun _ _ _ done => (FrameLine.boxLengths_eq_ok_iff.1 done).2)
      FrameLine.ofLine_boxLengths
  apply (header _).bind
  intro preUpper first
  apply (header _).bind
  intro preLower second
  apply lengths.bind
  intro cell notNegative
  apply (reads_line _ fun line => FrameLine.ofLine_triple line _).bind
  intro angles _
  apply (header _).bind
  intro postUpper third
  apply (header _).bind
  intro postLower fourth
  apply ((reads_readSpeciesHead lines).spelled recognises_readSpeciesHead).bind
  rintro head ⟨part, among, headed⟩
  apply ((reads_readBlocks lines _ _ _).spelled (recognises_readBlocks _ _ _)).bind
  rintro blocks ⟨others, -, spelled⟩
  refine .settle (fun _ _ => trivial) fun fault failed => .inr ?_
  have masses : ∀ block ∈ blocks, ∃ line ∈ lines, ∃ token ∈ fields line,
      IsReal token block.mass := by
    intro block member
    obtain ⟨line, inside, found⟩ := exists_mass_of_spells headed spelled member
    exact ⟨line, among inside, found⟩
  have headers : ∀ text ∈ [preUpper, preLower, postUpper, postLower], text.toList ∈ lines := by
    simp [first, second, third, fourth]
  have fails := failsOnly_ofParts angles headers notNegative spelled.distinct masses
  cases built : Frame.ofParts (preUpper, preLower) cell angles (postUpper, postLower)
      (flatten blocks) with
  | ok frame =>
    rw [built] at failed
    cases failed
  | error early =>
    rw [built] at failed
    cases failed
    exact fails early built

theorem reads_skipLines (reading : String) (count : Nat) :
    Reads lines (fun _ => True) (skipLines reading count) := by
  induction count with
  | zero => exact .pure trivial
  | succ count ih => exact (Reads.require lines reading).bind fun _ _ => ih

theorem reads_skip : Reads lines (fun _ => True) Frame.skip := by
  apply (reads_skipLines lines _ _).bind
  intro _ _
  apply (reads_readCounts lines).bind
  intro counts _
  apply (reads_skipLines lines _ _).bind
  intro _ _
  exact reads_skipLines lines _ _

end Frame

end Readings

end Atomistic
