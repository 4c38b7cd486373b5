import Atomistic.Proofs.StreamCalls

/-! The end of a stream. Its input may be used up, a fault may have stopped it, or it may have been
closed, and each of these may come on top of another. Whichever came first, nothing that is done
with the stream later on takes it back. -/

namespace Atomistic.FrameStream

section Operations

/-- The stream once it has been closed. -/
def shut (stream : FrameStream) : FrameStream :=
  { stream with ended := true, closed := true }

/-- A walk after which the stream is closed, whether it succeeds or not. -/
def closing {α : Type} (walk : Streaming α) : Streaming α := fun stream =>
  match walk stream with
  | .ok value rest => .ok value rest.shut
  | .error fault rest => .error fault rest.shut

theorem drainAndClose_eq : drainAndClose = closing drain := by
  funext stream
  unfold drainAndClose closing
  cases drain stream <;> rfl

/-- What can be done with a stream. A block is a row of operations that ends with the first that
fails; it leaves the stream closed either way. -/
inductive Operation where
  | call (call : Call)
  | close
  | block (body : List Operation)

mutual

def operate : Operation → Streaming Unit
  | .call call => do let _ ← perform call
  | .close => close
  | .block body => closing (operateAll body)
termination_by structural operation => operation

def operateAll : List Operation → Streaming Unit
  | [] => return ()
  | operation :: later => do
    operate operation
    operateAll later
termination_by structural body => body

end

/-- The stream after some operations. One that fails does not keep the next from being done. -/
def afterEach (stream : FrameStream) : List Operation → FrameStream
  | [] => stream
  | operation :: later => (stateAfter (operate operation stream)).afterEach later

end Operations

/-- How a stream may go on from one state to another: if it is closed it stays closed, and if it is
exhausted nothing more can happen to it than that it is closed. -/
structure Precedes (stream last : FrameStream) : Prop where
  closed : stream.closed = true → last.closed = true
  exhausted : stream.isExhausted = true → last = stream ∨ last = stream.shut

theorem isExhausted_shut (stream : FrameStream) : stream.shut.isExhausted = true :=
  rfl

namespace Precedes

variable {stream middle last : FrameStream}

theorem refl (stream : FrameStream) : Precedes stream stream :=
  ⟨id, fun _ => .inl rfl⟩

theorem shut (stream : FrameStream) : Precedes stream stream.shut :=
  ⟨fun _ => rfl, fun _ => .inr rfl⟩

theorem trans (before : Precedes stream middle) (after : Precedes middle last) :
    Precedes stream last where
  closed held := after.closed (before.closed held)
  exhausted finished := by
    rcases before.exhausted finished with rfl | rfl
    · exact after.exhausted finished
    · rcases after.exhausted (isExhausted_shut stream) with rfl | rfl
      · exact .inr rfl
      · exact .inr rfl

theorem of_running (running : stream.isExhausted = false) (same : last.closed = stream.closed) :
    Precedes stream last where
  closed held := same.trans held
  exhausted finished := by
    rw [running] at finished
    cases finished

end Precedes

/-- Whatever comes of the walk, the stream only goes on. -/
def Advances {α : Type} (walk : Streaming α) : Prop :=
  ∀ stream, Precedes stream (stateAfter (walk stream))

namespace Advances

variable {α β : Type}

theorem pure (value : α) : Advances (pure value) :=
  Precedes.refl

theorem throw (fault : Fault) : Advances (throw fault : Streaming α) :=
  Precedes.refl

theorem bind {walk : Streaming α} {next : α → Streaming β} (before : Advances walk)
    (after : ∀ value, Advances (next value)) : Advances (walk >>= next) := by
  intro stream
  have first := before stream
  rw [stateAfter_bind]
  cases met : walk stream with
  | ok found middle =>
    rw [met] at first
    exact first.trans (after found middle)
  | error fault middle =>
    rw [met] at first
    exact first

theorem closing {walk : Streaming α} (before : Advances walk) : Advances (closing walk) := by
  intro stream
  have first := before stream
  unfold FrameStream.closing
  cases met : walk stream with
  | ok found rest =>
    rw [met] at first
    exact first.trans (.shut rest)
  | error fault rest =>
    rw [met] at first
    exact first.trans (.shut rest)

theorem close : Advances close :=
  Precedes.shut

theorem takeFrame (reading : Reading α) : Advances (takeFrame reading) := by
  intro stream
  have stopped (cursor : LineCursor) (fault : Fault) :
      ({ stream with cursor }.stopping fault).closed = stream.closed := by
    cases fault <;> rfl
  rw [takeFrame_eq]
  split
  next => exact .refl stream
  next => exact .refl stream
  next unstopped unended =>
    have running : stream.isExhausted = false := by
      rw [isExhausted, unstopped, unended]
      rfl
    split
    next => exact .of_running running (stopped _ _)
    next => exact .of_running running rfl
    next =>
      split
      next => exact .of_running running (stopped _ _)
      next => exact .of_running running rfl

/-- Only a stream that is not over gives a frame, so what is done with a frame may count it. -/
theorem takeFrame_bind {reading : Reading α} {next : Option α → Streaming β}
    (nothing : Advances (next none))
    (something : ∀ value stream, (stateAfter (next (some value) stream)).closed = stream.closed) :
    Advances (FrameStream.takeFrame reading >>= next) := by
  intro stream
  have taking := takeFrame reading stream
  rw [stateAfter_bind]
  cases taken : FrameStream.takeFrame reading stream with
  | error fault rest =>
    rw [taken] at taking
    exact taking
  | ok found rest =>
    cases found with
    | none =>
      rw [taken] at taking
      exact taking.trans (nothing rest)
    | some value =>
      obtain ⟨unstopped, unended, _, _, _, _, rfl⟩ := takeFrame_eq_some_iff.1 taken
      refine .of_running ?_ (something value _)
      rw [isExhausted, unstopped, unended]
      rfl

theorem next : Advances next :=
  takeFrame_bind (pure none) fun _ _ => rfl

theorem forward : Advances forward :=
  takeFrame_bind (pure false) fun _ _ => rfl

theorem forwardUpTo (count : Nat) : Advances (forwardUpTo count) := by
  induction count with
  | zero => exact pure 0
  | succ count ih =>
    apply forward.bind
    intro passed
    cases passed with
    | false => exact pure 0
    | true => exact ih.bind fun more => pure _

theorem drain : Advances drain := by
  intro stream
  have first := next stream
  induction stream using drain.induct with
  | case1 stream fault rest failed =>
    rw [drain_eq, failed]
    rwa [failed] at first
  | case2 stream rest ended =>
    rw [drain_eq, ended]
    rwa [ended] at first
  | case3 stream frame rest met frames last drained ih =>
    have others := ih (next rest)
    rw [drained] at others
    rw [met] at first
    rw [drain_of_some met drained]
    exact first.trans others
  | case4 stream frame rest met fault last failed ih =>
    have others := ih (next rest)
    rw [failed] at others
    rw [met] at first
    rw [drain_eq, met]
    simp only [failed]
    exact first.trans others

theorem perform (call : Call) : Advances (perform call) := by
  cases call with
  | next => exact next.bind fun found => pure _
  | forward => exact forward.bind fun passed => pure _
  | list => exact drain.bind fun frames => pure _
  | skip count =>
    have skip : Advances (FrameStream.skip count) := by
      unfold FrameStream.skip
      split
      next => exact throw _
      next => exact forwardUpTo _
    exact skip.bind fun skipped => pure _

mutual

theorem operate (operation : Operation) : Advances (operate operation) := by
  cases operation with
  | call call => exact (perform call).bind fun _ => pure ()
  | close => exact close
  | block body => exact (operateAll body).closing
termination_by structural operation

theorem operateAll (body : List Operation) : Advances (operateAll body) := by
  cases body with
  | nil => exact pure ()
  | cons operation later => exact (operate operation).bind fun _ => operateAll later
termination_by structural body

end

end Advances

theorem precedes_afterEach (stream : FrameStream) (operations : List Operation) :
    Precedes stream (stream.afterEach operations) := by
  induction operations generalizing stream with
  | nil => exact .refl stream
  | cons operation later ih => exact (Advances.operate operation stream).trans (ih _)

section Exhausted

variable {stream : FrameStream}

/-- A stream that is over looks at no line to say so. -/
theorem takeFrame_of_exhausted {α : Type} (finished : stream.isExhausted = true)
    (reading : Reading α) :
    takeFrame reading stream =
      match stream.stoppedBy with
      | some fault => .error (.format fault) stream
      | none => .ok none stream := by
  rw [takeFrame_eq]
  cases stopped : stream.stoppedBy with
  | some fault => rfl
  | none =>
    have ended : stream.ended = true := by simpa [isExhausted, stopped] using finished
    rw [ended]

theorem next_of_exhausted (finished : stream.isExhausted = true) :
    next stream =
      match stream.stoppedBy with
      | some fault => .error (.format fault) stream
      | none => .ok none stream := by
  rw [next_eq, takeFrame_of_exhausted finished]
  cases stream.stoppedBy <;> rfl

theorem forward_of_exhausted (finished : stream.isExhausted = true) :
    forward stream =
      match stream.stoppedBy with
      | some fault => .error (.format fault) stream
      | none => .ok false stream := by
  rw [forward_eq, takeFrame_of_exhausted finished]
  cases stream.stoppedBy <;> rfl

/-- Once a stream is exhausted it is so for good, whatever brought it there and whatever is done
with it afterwards. No line is taken any more, the counts and the fault stay as they are, and every
later call gives that fault, or else the end. A closed stream is never open again. -/
theorem exhausted_for_good (stream : FrameStream) (later : List Operation) :
    (stream.closed = true → (stream.afterEach later).closed = true) ∧
    (stream.isExhausted = true →
      (stream.afterEach later).isExhausted = true ∧
      (stream.afterEach later).framesRead = stream.framesRead ∧
      (stream.afterEach later).framesSkipped = stream.framesSkipped ∧
      (stream.afterEach later).stoppedBy = stream.stoppedBy ∧
      (stream.afterEach later).cursor = stream.cursor ∧
      (next (stream.afterEach later) =
        match stream.stoppedBy with
        | some fault => .error (.format fault) (stream.afterEach later)
        | none => .ok none (stream.afterEach later)) ∧
      (forward (stream.afterEach later) =
        match stream.stoppedBy with
        | some fault => .error (.format fault) (stream.afterEach later)
        | none => .ok false (stream.afterEach later))) := by
  have onward := precedes_afterEach stream later
  refine ⟨onward.closed, fun finished => ?_⟩
  rcases onward.exhausted finished with same | same
  · rw [same]
    exact ⟨finished, rfl, rfl, rfl, rfl, next_of_exhausted finished,
      forward_of_exhausted finished⟩
  · rw [same]
    exact ⟨rfl, rfl, rfl, rfl, rfl, next_of_exhausted (isExhausted_shut stream),
      forward_of_exhausted (isExhausted_shut stream)⟩

/-- A fault that left a block is still given after the block has closed the stream. -/
theorem exhausted_for_good_cut :
    ∃ stream last : FrameStream,
      (ofText "cut\n").afterEach [.block [.call .next, .call .list]] = stream ∧
      stream.isExhausted = true ∧
      stream.afterEach [.close, .call (.skip 2), .block []] = last ∧
      last.closed = true ∧ last.cursor = stream.cursor ∧
      next last = .error (.format ⟨.endOfInput "prebox header", some 2⟩) last := by
  have finished : ((ofText "cut\n").afterEach [.block [.call .next, .call .list]]).isExhausted =
      true := by
    decide +kernel
  have shut : ((ofText "cut\n").afterEach [.block [.call .next, .call .list]]).closed = true := by
    decide +kernel
  have stopped : ((ofText "cut\n").afterEach [.block [.call .next, .call .list]]).stoppedBy =
      some ⟨.endOfInput "prebox header", some 2⟩ := by
    decide +kernel
  obtain ⟨closed, kept⟩ := exhausted_for_good
    ((ofText "cut\n").afterEach [.block [.call .next, .call .list]])
    [.close, .call (.skip 2), .block []]
  obtain ⟨-, -, -, -, cursor, again, -⟩ := kept finished
  rw [stopped] at again
  exact ⟨_, _, rfl, finished, rfl, closed shut, cursor, again⟩

end Exhausted

end Atomistic.FrameStream
