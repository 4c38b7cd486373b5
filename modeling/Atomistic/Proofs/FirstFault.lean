import Atomistic.Proofs.TextFaults

/-! A reading goes through its lines one by one and fails on the first that is bad. So the lines
after that one do not matter, and the lines before it are too few. -/

namespace Atomistic

open Number Text LineCursor

/-- On just these lines the reading wants one more. -/
def Starves {α : Type} (reading : Reading α) (lines : List Line) : Prop :=
  ∀ cursor taken, LineCursor.Shows cursor taken lines →
    ∃ what last, reading cursor =
      .error (.format ⟨.endOfInput what, some (taken + lines.length + 1)⟩) last

/-- The reading takes these lines and then fails, whatever follows them. A fault of the format
names the last of them. -/
def Refuses {α : Type} (reading : Reading α) (lines : List Line) (fault : Fault) : Prop :=
  ∀ cursor taken rest, LineCursor.Shows cursor taken (lines ++ rest) →
    ∃ after, reading cursor = .error (fault.atLine (taken + lines.length)) after ∧
      after.Shows (taken + lines.length) rest

/-- Each of the lines is looked at. -/
def Needs {α : Type} (reading : Reading α) (lines : List Line) : Prop :=
  ∀ count < lines.length, Starves reading (lines.take count)

/-- What becomes of a reading on the lines that are left: it takes some of them, it fails on one
of them, or it wants more. It looks at no line further. -/
inductive Fares {α : Type} (reading : Reading α) : List Line → Prop where
  | takes {front : List Line} {value : α} (needs : Needs reading front)
      (takes : Takes reading front value) (later : List Line) : Fares reading (front ++ later)
  | refuses {front : List Line} {fault : Fault} (needs : Needs reading front)
      (refuses : Refuses reading front fault)
      (present : ∀ cause line, fault = .format ⟨cause, line⟩ → cause.category ≠ .truncated)
      (later : List Line) : Fares reading (front ++ later)
  | starves {lines : List Line} (needs : Needs reading lines) (starves : Starves reading lines) :
      Fares reading lines

def LineByLine {α : Type} (reading : Reading α) : Prop :=
  ∀ left, Fares reading left

section Binds

variable {α β : Type} {reading : Reading α} {next : α → Reading β} {front back : List Line}
  {value : α}

theorem Starves.bind (starves : Starves reading front) (next : α → Reading β) :
    Starves (reading >>= next) front := by
  intro cursor taken shows
  obtain ⟨what, last, failed⟩ := starves cursor taken shows
  exact ⟨what, last, bind_of_error failed next⟩

theorem Takes.bind_starves (takes : Takes reading front value)
    (starves : Starves (next value) back) : Starves (reading >>= next) (front ++ back) := by
  intro cursor taken shows
  obtain ⟨middle, met, shows⟩ := takes cursor taken back shows
  obtain ⟨what, last, failed⟩ := starves middle _ shows
  refine ⟨what, last, ?_⟩
  rw [bind_of_ok met, failed, List.length_append, Nat.add_assoc taken]

theorem Refuses.bind {fault : Fault} (refuses : Refuses reading front fault)
    (next : α → Reading β) : Refuses (reading >>= next) front fault := by
  intro cursor taken rest shows
  obtain ⟨after, failed, shows⟩ := refuses cursor taken rest shows
  exact ⟨after, bind_of_error failed next, shows⟩

theorem Takes.bind_refuses {fault : Fault} (takes : Takes reading front value)
    (refuses : Refuses (next value) back fault) :
    Refuses (reading >>= next) (front ++ back) fault := by
  intro cursor taken rest shows
  rw [List.append_assoc] at shows
  obtain ⟨middle, met, shows⟩ := takes cursor taken _ shows
  obtain ⟨after, failed, shows⟩ := refuses middle _ rest shows
  rw [List.length_append, ← Nat.add_assoc]
  exact ⟨after, (bind_of_ok met next).trans failed, shows⟩

theorem Needs.nil (reading : Reading α) : Needs reading [] :=
  nofun

theorem Needs.bind (needs : Needs reading front) (next : α → Reading β) :
    Needs (reading >>= next) front := by
  intro count short
  exact (needs count short).bind next

theorem Takes.bind_needs (takes : Takes reading front value) (needs : Needs reading front)
    (later : Needs (next value) back) : Needs (reading >>= next) (front ++ back) := by
  intro count short
  rw [List.length_append] at short
  rcases Nat.lt_or_ge count front.length with within | beyond
  · rw [List.take_append_of_le_length (by omega)]
    exact needs.bind next count within
  · obtain ⟨more, rfl⟩ := Nat.exists_eq_add_of_le beyond
    rw [List.take_length_add_append]
    exact takes.bind_starves (later more (by omega))

end Binds

section OfLines

variable {α : Type} {reading : Reading α} {piece : List Line}

theorem Starves.ofLines (starves : Starves reading (piece.map stripTerminator)) :
    ∃ what last, reading (.ofLines piece) =
      .error (.format ⟨.endOfInput what, some (piece.length + 1)⟩) last := by
  obtain ⟨what, last, failed⟩ := starves _ 0 (shows_ofLines piece)
  rw [List.length_map, Nat.zero_add] at failed
  exact ⟨what, last, failed⟩

theorem Needs.ofLines (needs : Needs reading (piece.map stripTerminator)) {count : Nat}
    (short : count < piece.length) :
    ∃ what last, reading (.ofLines (piece.take count)) =
      .error (.format ⟨.endOfInput what, some (count + 1)⟩) last := by
  have starves := needs count (by rwa [List.length_map])
  rw [← List.map_take] at starves
  obtain ⟨what, last, failed⟩ := starves.ofLines
  rw [List.length_take, Nat.min_eq_left (Nat.le_of_lt short)] at failed
  exact ⟨what, last, failed⟩

theorem Refuses.ofLines {fault : Fault}
    (refuses : Refuses reading (piece.map stripTerminator) fault) (later : List Line) :
    ∃ after, reading (.ofLines (piece ++ later)) = .error (fault.atLine piece.length) after ∧
      after.lineNumber = piece.length ∧ after.remaining = later.length := by
  have shows := shows_ofLines (piece ++ later)
  rw [List.map_append] at shows
  obtain ⟨after, failed, shows⟩ := refuses _ 0 _ shows
  rw [List.length_map, Nat.zero_add] at failed shows
  exact ⟨after, failed, shows.lineNumber, by rw [shows.remaining, List.length_map]⟩

end OfLines

namespace LineByLine

variable {α β : Type}

theorem pure (value : α) : LineByLine (pure value : Reading α) :=
  fun left => .takes (.nil _) (.pure value) left

theorem settle (result : Except ValueFault α) :
    LineByLine (settle (result.mapError Fault.value)) := by
  intro left
  cases result with
  | ok value => exact .takes (.nil _) (.settle rfl) left
  | error fault =>
    have refuses : Refuses (LineCursor.settle (.error (.value fault)) : Reading α) []
        (.value fault) :=
      fun cursor _ _ shows => ⟨cursor, rfl, shows⟩
    exact .refuses (.nil _) refuses nofun left

theorem bind {reading : Reading α} {next : α → Reading β} (first : LineByLine reading)
    (second : ∀ value, LineByLine (next value)) : LineByLine (reading >>= next) := by
  intro left
  cases first left with
  | starves needs starves => exact .starves (needs.bind next) (starves.bind next)
  | refuses needs refuses present later =>
    exact .refuses (needs.bind next) (refuses.bind next) present later
  | @takes front value needs takes later =>
    cases second value later with
    | starves others starves =>
      exact .starves (takes.bind_needs needs others) (takes.bind_starves starves)
    | refuses others refuses present later =>
      rw [← List.append_assoc]
      exact .refuses (takes.bind_needs needs others) (takes.bind_refuses refuses) present later
    | takes others done later =>
      rw [← List.append_assoc]
      exact .takes (takes.bind_needs needs others) (takes.bind done) later

theorem starves_readAs (reading : String) (parse : Line → Except Fault α) :
    Starves (LineCursor.readAs reading parse) [] := by
  intro cursor taken shows
  refine ⟨reading, cursor, ?_⟩
  rw [LineCursor.readAs, bind_of_error (require_of_none shows.read_nil reading), shows.lineNumber,
    List.length_nil, Nat.add_zero]

theorem readAs (reading : String) {parse : Line → Except Fault α}
    (ofLine : ∀ line, FailsOnly (Fault.OfLine line) (parse line)) :
    LineByLine (readAs reading parse) := by
  have needs : ∀ line, Needs (LineCursor.readAs reading parse) [line] := by
    intro line count short
    obtain rfl := Nat.lt_one_iff.1 short
    exact starves_readAs reading parse
  intro left
  cases left with
  | nil => exact .starves (.nil _) (starves_readAs reading parse)
  | cons line later =>
    cases parsed : parse line with
    | ok value => exact .takes (needs line) (.readAs reading parsed) later
    | error fault =>
      have refuses : Refuses (LineCursor.readAs reading parse) [line] fault := by
        intro cursor taken rest shows
        obtain ⟨after, met, shows⟩ := shows.read_cons
        refine ⟨after, ?_, shows⟩
        rw [readAs_of_some met, parsed, shows.lineNumber]
        rfl
      apply Fares.refuses (needs line) refuses
      rintro cause number rfl
      rcases ofLine line _ parsed with ⟨found, place, same, present⟩ | traced
      · cases same
        exact present
      · cases traced

end LineByLine

namespace Frame

open LineByLine FrameLine

theorem lineByLine_readSites (reading : String) (count : Nat) :
    LineByLine (readSites reading count) := by
  induction count with
  | zero => exact .pure []
  | succ count ih =>
    apply (readAs reading ofLine_site).bind
    intro site
    exact ih.bind fun sites => .pure _

theorem lineByLine_readBlocks (species : Nat) (seen : List AtomicNumber)
    (declared : List (Nat × Binary64)) : LineByLine (readBlocks species seen declared) := by
  induction declared generalizing species seen with
  | nil => exact .pure []
  | cons entry rest ih =>
    apply (readAs _ fun line => ofLine_symbol line species seen).bind
    intro number
    apply (readAs _ fun line => ofLine_blockCount line species entry.1).bind
    intro _
    apply (lineByLine_readSites _ _).bind
    intro sites
    exact (ih _ _).bind fun blocks => .pure _

theorem lineByLine_readSpeciesHead : LineByLine readSpeciesHead := by
  apply LineByLine.bind
  · exact (readAs _ ofLine_speciesCount).bind fun species =>
      readAs _ fun line => ofLine_atomCounts line species
  · intro counts
    exact (readAs _ fun line => ofLine_masses line counts.length).bind fun masses => .pure _

theorem lineByLine_read : LineByLine Frame.read := by
  have header : LineByLine (LineCursor.readAs "prebox header" freeText) :=
    readAs _ fun _ => .ok _
  have footer : LineByLine (LineCursor.readAs "postbox header" freeText) :=
    readAs _ fun _ => .ok _
  apply header.bind
  intro preUpper
  apply header.bind
  intro preLower
  apply (readAs _ ofLine_boxLengths).bind
  intro lengths
  apply (readAs _ fun line => ofLine_triple line _).bind
  intro angles
  apply footer.bind
  intro postUpper
  apply footer.bind
  intro postLower
  apply lineByLine_readSpeciesHead.bind
  intro head
  apply (lineByLine_readBlocks _ _ _).bind
  intro blocks
  exact LineByLine.settle _

private theorem exists_of_atLine_eq {fault : Fault} {number : Nat} {found : FormatFault}
    (same : fault.atLine number = .format found) :
    ∃ line, fault = .format ⟨found.cause, line⟩ ∧ found.line = some number := by
  cases fault <;> cases same
  exact ⟨_, rfl, rfl⟩

/-- A fault of the format is about the first bad line: the line that would come next if the lines
are too few, and else the line read last, when any lines with the same beginning lead to the
same fault. Fewer lines are too few. -/
theorem read_fails_at_first {raw : List Line} {fault : FormatFault} {rest : LineCursor}
    (failed : Frame.read (.ofLines raw) = .error (.format fault) rest) :
    ∃ line, fault.line = some line ∧
      ((fault.cause.category = .truncated ∧ line = raw.length + 1) ∨
        (fault.cause.category ≠ .truncated ∧ line ≤ raw.length ∧
          rest.lineNumber = line ∧ rest.remaining = raw.length - line ∧
          ∀ other : List Line, other.take line = raw.take line →
            ∃ last, Frame.read (.ofLines other) = .error (.format fault) last)) ∧
      ∀ count < line, ∃ what last,
        Frame.read (.ofLines (raw.take count)) =
          .error (.format ⟨.endOfInput what, some (count + 1)⟩) last := by
  have fares := lineByLine_read (raw.map stripTerminator)
  generalize cut : raw.map stripTerminator = lines at fares
  cases fares with
  | takes needs takes later =>
    obtain ⟨piece, others, rfl, rfl, -⟩ := List.map_eq_append_iff.1 cut
    obtain ⟨after, done, -⟩ := takes.ofLines others
    cases done.symm.trans failed
  | starves needs starves =>
    subst cut
    obtain ⟨what, last, wanting⟩ := starves.ofLines
    obtain ⟨same, rfl⟩ := EStateM.Result.error.inj (wanting.symm.trans failed)
    cases same
    refine ⟨_, rfl, .inl ⟨rfl, rfl⟩, ?_⟩
    intro count short
    rcases Nat.lt_succ_iff_lt_or_eq.1 short with within | rfl
    · exact needs.ofLines within
    · rw [List.take_length]
      exact ⟨what, last, wanting⟩
  | refuses needs refuses present later =>
    obtain ⟨piece, others, rfl, rfl, -⟩ := List.map_eq_append_iff.1 cut
    obtain ⟨after, met, line, left⟩ := refuses.ofLines others
    obtain ⟨same, rfl⟩ := EStateM.Result.error.inj (met.symm.trans failed)
    obtain ⟨number, rfl, placed⟩ := exists_of_atLine_eq same
    refine ⟨piece.length, placed, .inr ⟨present _ _ rfl, ?_, line, ?_, ?_⟩, ?_⟩
    · rw [List.length_append]
      exact Nat.le_add_right _ _
    · rw [left, List.length_append, Nat.add_sub_cancel_left]
    · intro other alike
      -- Lines that begin alike have the same piece in front, and the reading needs no more.
      rw [List.take_left] at alike
      have whole : piece ++ other.drop piece.length = other := by
        rw [← List.take_append_drop piece.length other, alike, List.drop_left]
      obtain ⟨last, again, -⟩ := refuses.ofLines (other.drop piece.length)
      rw [whole, same] at again
      exact ⟨last, again⟩
    · intro count short
      rw [List.take_append_of_le_length (Nat.le_of_lt short)]
      exact needs.ofLines short

/-- Two blocks of hydrogen. -/
def repeatedHydrogen : List Line :=
  ["", "", "1 1 1", "90 90 90", "", "", "2", "0 0", "1 1", "H", "0 0", "H", "0 0"].map
    String.toList

theorem read_fails_at_first_repeated :
    ∃ fault rest, Frame.read (.ofLines repeatedHydrogen) = .error (.format fault) rest ∧
      ∃ line, fault.line = some line ∧
        ((fault.cause.category = .truncated ∧ line = repeatedHydrogen.length + 1) ∨
          (fault.cause.category ≠ .truncated ∧ line ≤ repeatedHydrogen.length ∧
            rest.lineNumber = line ∧ rest.remaining = repeatedHydrogen.length - line ∧
            ∀ other : List Line, other.take line = repeatedHydrogen.take line →
              ∃ last, Frame.read (.ofLines other) = .error (.format fault) last)) ∧
        ∀ count < line, ∃ what last,
          Frame.read (.ofLines (repeatedHydrogen.take count)) =
            .error (.format ⟨.endOfInput what, some (count + 1)⟩) last := by
  have failed : Frame.read (.ofLines repeatedHydrogen) =
      .error (.format ⟨.repeatedSpecies "H".toList, some 12⟩)
        ⟨["0 0".toList], .clean, [], 12, 12⟩ := by
    decide +kernel
  exact ⟨_, _, failed, read_fails_at_first failed⟩

end Frame

end Atomistic
