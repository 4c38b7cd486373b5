import Atomistic.Proofs.StreamView

/-! The same lines further down. A reader knows nothing of the lines that were taken before but
their number, and all it uses it for is to say where a fault is. So what it does with some lines
it does wherever they stand, and its faults move along with them. -/

namespace Atomistic

open Text

/-- The fault that the same lines lead to with so many more lines in front of them. -/
def Fault.movedDown (count : Nat) : Fault → Fault
  | .format fault => .format { fault with line := fault.line.map (· + count) }
  | other => other

theorem Fault.movedDown_atLine (count number : Nat) (fault : Fault) :
    (fault.atLine number).movedDown count = fault.atLine (number + count) := by
  cases fault <;> rfl

theorem Fault.movedDown_zero (fault : Fault) : fault.movedDown 0 = fault := by
  obtain ⟨cause, line⟩ | _ | _ | _ | _ := fault
  · cases line <;> rfl
  all_goals rfl

/-- Only faults of the format name a line. -/
theorem Fault.movedDown_of_not_format {fault : Fault} (other : ∀ format, fault ≠ .format format)
    (count : Nat) : fault.movedDown count = fault := by
  cases fault with
  | format found => exact absurd rfl (other found)
  | value | file | undecodable | unencodable => rfl

/-- The same value with states that are apart in this way, or the same fault so many lines
further down. -/
inductive Moved {σ α : Type} (apart : σ → σ → Prop) (count : Nat) :
    EStateM.Result Fault σ α → EStateM.Result Fault σ α → Prop where
  | ok {value : α} {state other : σ} (kept : apart state other) :
      Moved apart count (.ok value state) (.ok value other)
  | error {fault : Fault} {state other : σ} :
      Moved apart count (.error fault state) (.error (fault.movedDown count) other)

namespace Moved

variable {σ α β : Type} {apart later : σ → σ → Prop} {count : Nat} {state other : σ}

/-- With no line more in front the faults are the same. -/
theorem error_zero {fault : Fault} :
    Moved apart 0 (.error fault state : EStateM.Result Fault σ α) (.error fault other) := by
  have moved := @error σ α apart 0 fault state other
  rwa [Fault.movedDown_zero] at moved

theorem mono {result beyond : EStateM.Result Fault σ α} (moved : Moved apart count result beyond)
    (implies : ∀ state other, apart state other → later state other) :
    Moved later count result beyond := by
  cases moved with
  | ok kept => exact .ok (implies _ _ kept)
  | error => exact .error

theorem bind {walk : EStateM Fault σ α} {next : α → EStateM Fault σ β}
    (first : Moved apart count (walk state) (walk other))
    (second : ∀ value state other, apart state other →
      Moved later count (next value state) (next value other)) :
    Moved later count ((walk >>= next) state) ((walk >>= next) other) := by
  change Moved _ count (EStateM.bind walk next state) (EStateM.bind walk next other)
  unfold EStateM.bind
  generalize walk state = result at first ⊢
  generalize walk other = beyond at first ⊢
  cases first with
  | ok kept => exact second _ _ _ kept
  | error => exact .error

end Moved

/-- From states that are so many lines apart the same is done. -/
def Relocates {σ α : Type} (apart : Nat → σ → σ → Prop) (walk : EStateM Fault σ α) : Prop :=
  ∀ count state other, apart count state other →
    Moved (apart count) count (walk state) (walk other)

namespace Relocates

variable {σ α β : Type} {apart : Nat → σ → σ → Prop}

theorem pure (value : α) : Relocates apart (pure value) :=
  fun _ _ _ kept => .ok kept

theorem bind {walk : EStateM Fault σ α} {next : α → EStateM Fault σ β}
    (first : Relocates apart walk) (second : ∀ value, Relocates apart (next value)) :
    Relocates apart (walk >>= next) :=
  fun count state other kept =>
    (first count state other kept).bind fun value => second value count

variable {walk : EStateM Fault σ α} {count : Nat} {state other rest : σ}

theorem ok_of_ok {value : α} (relocates : Relocates apart walk) (kept : apart count state other)
    (done : walk state = .ok value rest) :
    ∃ beyond, walk other = .ok value beyond ∧ apart count rest beyond := by
  have moved := relocates count state other kept
  rw [done] at moved
  generalize walk other = result at moved
  cases moved with
  | ok kept => exact ⟨_, rfl, kept⟩

theorem error_of_error {fault : Fault} (relocates : Relocates apart walk)
    (kept : apart count state other) (failed : walk state = .error fault rest) :
    ∃ beyond, walk other = .error (fault.movedDown count) beyond := by
  have moved := relocates count state other kept
  rw [failed] at moved
  generalize walk other = result at moved
  cases moved
  exact ⟨_, rfl⟩

end Relocates

section Cursors

open LineCursor

/-- The same lines are left for both cursors, and the other one has taken so many more. -/
def LineCursor.Above (count : Nat) (cursor other : LineCursor) : Prop :=
  ∃ taken left, cursor.Shows taken left ∧ other.Shows (taken + count) left

theorem LineCursor.Above.lineNumber {count : Nat} {cursor other : LineCursor}
    (above : cursor.Above count other) : other.lineNumber = cursor.lineNumber + count := by
  obtain ⟨taken, left, shows, beyond⟩ := above
  rw [shows.lineNumber, beyond.lineNumber]

variable {α : Type}

theorem relocates_lineRead : Relocates LineCursor.Above LineCursor.read := by
  rintro count cursor other ⟨taken, left, shows, beyond⟩
  cases left with
  | nil =>
    rw [shows.read_nil, beyond.read_nil]
    exact .ok ⟨taken, [], shows, beyond⟩
  | cons line rest =>
    obtain ⟨after, read, shows⟩ := shows.read_cons
    obtain ⟨later, read', beyond⟩ := beyond.read_cons
    rw [read, read']
    rw [Nat.add_right_comm] at beyond
    exact .ok ⟨taken + 1, rest, shows, beyond⟩

theorem relocates_atEnd : Relocates LineCursor.Above LineCursor.atEnd := by
  rintro count cursor other ⟨taken, left, shows, beyond⟩
  obtain ⟨after, looked, shows⟩ := shows.atEnd
  obtain ⟨later, looked', beyond⟩ := beyond.atEnd
  rw [looked, looked']
  exact .ok ⟨taken, left, shows, beyond⟩

theorem relocates_failAtEnd (reading : String) :
    Relocates LineCursor.Above (failAtEnd reading : Reading α) := by
  intro count cursor other above
  have fault : (Fault.format ⟨.endOfInput reading, some (cursor.lineNumber + 1)⟩).movedDown count =
      .format ⟨.endOfInput reading, some (other.lineNumber + 1)⟩ := by
    rw [above.lineNumber, Nat.add_right_comm]
    rfl
  unfold failAtEnd
  rw [← fault]
  exact .error

theorem relocates_require (reading : String) :
    Relocates LineCursor.Above (require reading) := by
  refine relocates_lineRead.bind fun line => ?_
  cases line with
  | none => exact relocates_failAtEnd reading
  | some line => exact .pure line

/-- A result that is the same on any line stays the same. -/
theorem relocates_settle {result : Except Fault α}
    (placeless : ∀ fault, result = .error fault → ∀ count, fault.movedDown count = fault) :
    Relocates LineCursor.Above (settle result) := by
  intro count cursor other above
  cases result with
  | ok value => exact .ok above
  | error fault =>
    have moved := @Moved.error _ α (LineCursor.Above count) count fault cursor other
    rwa [placeless fault rfl] at moved

theorem relocates_readAs (reading : String) (parse : Line → Except Fault α) :
    Relocates LineCursor.Above (readAs reading parse) := by
  refine (relocates_require reading).bind fun line => ?_
  intro count cursor other above
  change Moved _ count (settle ((parse line).mapError (Fault.atLine cursor.lineNumber)) cursor)
    (settle ((parse line).mapError (Fault.atLine other.lineNumber)) other)
  cases parse line with
  | ok value => exact .ok above
  | error fault =>
    rw [above.lineNumber]
    change Moved _ count (.error (fault.atLine _) cursor) (.error (fault.atLine _) other)
    rw [← Fault.movedDown_atLine]
    exact .error

end Cursors

namespace Frame

open LineCursor

theorem relocates_readSites (reading : String) (count : Nat) :
    Relocates LineCursor.Above (readSites reading count) := by
  induction count with
  | zero => exact .pure _
  | succ count ih =>
    exact (relocates_readAs _ _).bind fun site => ih.bind fun sites => .pure _

theorem relocates_readBlocks (species : Nat) (seen : List AtomicNumber)
    (declared : List (Nat × Number.Binary64)) :
    Relocates LineCursor.Above (readBlocks species seen declared) := by
  induction declared generalizing species seen with
  | nil => exact .pure _
  | cons entry rest ih =>
    exact (relocates_readAs _ _).bind fun number => (relocates_readAs _ _).bind fun _ =>
      (relocates_readSites _ _).bind fun sites => (ih _ _).bind fun blocks => .pure _

theorem relocates_readSpeciesHead : Relocates LineCursor.Above readSpeciesHead := by
  have counts : Relocates LineCursor.Above readCounts :=
    (relocates_readAs _ _).bind fun species => relocates_readAs _ _
  exact counts.bind fun counts => (relocates_readAs _ _).bind fun masses => .pure _

/-- What is wrong with a frame as a whole is about no line. -/
theorem relocates_read : Relocates LineCursor.Above Frame.read := by
  refine (relocates_readAs _ _).bind fun _ => (relocates_readAs _ _).bind fun _ =>
    (relocates_readAs _ _).bind fun _ => (relocates_readAs _ _).bind fun _ =>
    (relocates_readAs _ _).bind fun _ => (relocates_readAs _ _).bind fun _ =>
    relocates_readSpeciesHead.bind fun _ => (relocates_readBlocks _ _ _).bind fun _ =>
    relocates_settle fun fault failed count => ?_
  generalize Frame.ofParts _ _ _ _ _ = result at failed
  cases result with
  | ok frame => cases failed
  | error found =>
    cases failed
    rfl

end Frame

namespace FrameStream

/-- Two streams that go on, with the same lines left, of which the other is so many lines
further down. -/
structure Above (count : Nat) (stream other : FrameStream) : Prop where
  unstopped : stream.stoppedBy = none
  unstoppedToo : other.stoppedBy = none
  ended : other.ended = stream.ended
  cursors : stream.cursor.Above count other.cursor

theorem relocates_takeFrame {α : Type} {reading : Reading α}
    (relocates : Relocates LineCursor.Above reading) :
    Relocates Above (takeFrame reading) := by
  intro count stream other above
  rw [takeFrame_eq, takeFrame_eq, above.unstopped, above.unstoppedToo, above.ended]
  cases ended : stream.ended with
  | true => exact .ok above
  | false =>
    have looked := relocates_atEnd count _ _ above.cursors
    dsimp only
    generalize LineCursor.atEnd stream.cursor = result at looked ⊢
    generalize LineCursor.atEnd other.cursor = beyond at looked ⊢
    cases looked with
    | error => exact .error
    | @ok isEnd cursor further kept =>
      cases isEnd with
      | true => exact .ok ⟨rfl, rfl, rfl, kept⟩
      | false =>
        have taken := relocates count cursor further kept
        dsimp only
        generalize reading cursor = result at taken ⊢
        generalize reading further = beyond at taken ⊢
        cases taken with
        | error => exact .error
        | ok kept => exact .ok ⟨rfl, rfl, rfl, kept⟩

theorem relocates_next : Relocates Above next := by
  refine (relocates_takeFrame Frame.relocates_read).bind fun found => ?_
  cases found with
  | none => exact .pure none
  | some frame =>
    refine Relocates.bind (fun count stream other above => ?_) fun _ => .pure (some frame)
    exact .ok ⟨above.unstopped, above.unstoppedToo, above.ended, above.cursors⟩

theorem moved_drain_of_some {count : Nat} {stream other rest beyond : FrameStream} {frame : Frame}
    (met : next stream = .ok (some frame) rest) (met' : next other = .ok (some frame) beyond)
    (later : Moved (Above count) count (drain rest) (drain beyond)) :
    Moved (Above count) count (drain stream) (drain other) := by
  rw [drain_eq stream, drain_eq other, met, met']
  dsimp only
  generalize drain rest = result at later ⊢
  generalize drain beyond = found at later ⊢
  cases later with
  | ok kept => exact .ok kept
  | error => exact .error

theorem relocates_drain : Relocates Above drain := by
  intro count stream other above
  induction stream using drain.induct generalizing other with
  | case1 stream fault rest failed =>
    obtain ⟨beyond, failed'⟩ := relocates_next.error_of_error above failed
    rw [drain_eq stream, drain_eq other, failed, failed']
    exact .error
  | case2 stream rest ended =>
    obtain ⟨beyond, ended', kept⟩ := relocates_next.ok_of_ok above ended
    rw [drain_of_none ended, drain_of_none ended']
    exact .ok kept
  | case3 stream frame rest met frames last drained ih =>
    obtain ⟨beyond, met', kept⟩ := relocates_next.ok_of_ok above met
    exact moved_drain_of_some met met' (ih beyond kept)
  | case4 stream frame rest met fault last failed ih =>
    obtain ⟨beyond, met', kept⟩ := relocates_next.ok_of_ok above met
    exact moved_drain_of_some met met' (ih beyond kept)

end FrameStream

end Atomistic
