import Mathlib.Data.List.TakeWhile
import Atomistic.FrameWriter
import Atomistic.Proofs.RoundTrip

/-! Calls on a writer of frames, one after the other. A writer holds the texts of the frames that
it took, whole and in order, and their number. A call that fails has taken the frames in front of
the item it fails at, and nothing of that item. -/

namespace Atomistic

namespace FrameWriter

section Fronts

/-- These frames stand in front of the items, all of them have the property, and no longer row
of frames does. -/
structure IsFront (property : Frame → Prop) (items : List (Supplied Frame))
    (frames : List Frame) : Prop where
  leading : frames.map .proper <+: items
  all : ∀ frame ∈ frames, property frame
  longest : ∀ others : List Frame, others.map .proper <+: items →
    (∀ frame ∈ others, property frame) → others.length ≤ frames.length

/-- Whether a writer takes a frame: the frame has a text, and the encoding can express it. -/
def accepts (encoding? : Option Encoding) (frame : Frame) : Bool :=
  match frame.write with
  | .ok text => encoding?.all fun encoding => (encoding.encode? text.toList).isSome
  | .error _ => false

/-- The frames in front of the first item that a writer does not take. -/
def front (encoding? : Option Encoding) (items : List (Supplied Frame)) : List Frame :=
  (Supplied.leading items).1.takeWhile (accepts encoding?)

variable {encoding? : Option Encoding} {items rest : List (Supplied Frame)} {frame : Frame}

@[simp]
theorem front_nil : front encoding? [] = [] :=
  rfl

@[simp]
theorem front_other (value : RawValue) : front encoding? (.other value :: rest) = [] :=
  rfl

theorem front_of_accepts (accepted : accepts encoding? frame = true) :
    front encoding? (.proper frame :: rest) = frame :: front encoding? rest :=
  List.takeWhile_cons_of_pos accepted

theorem front_of_not_accepts (refused : accepts encoding? frame = false) :
    front encoding? (.proper frame :: rest) = [] :=
  List.takeWhile_cons_of_neg (Bool.eq_false_iff.1 refused)

theorem accepts_memory_iff : accepts none frame = true ↔ ∃ text, frame.write = .ok text := by
  unfold accepts
  cases frame.write <;> simp

theorem map_proper_prefix_iff {frames : List Frame} :
    frames.map .proper <+: items ↔ frames <+: (Supplied.leading items).1 := by
  induction items generalizing frames with
  | nil => simp [Supplied.leading]
  | cons item rest ih =>
    cases frames with
    | nil => simp
    | cons frame later =>
      cases item with
      | other value => simp [Supplied.leading]
      | proper found => simp [Supplied.leading, ih]

theorem isFront_front (encoding? : Option Encoding) (items : List (Supplied Frame)) :
    IsFront (accepts encoding? · = true) items (front encoding? items) where
  leading := map_proper_prefix_iff.2 (List.takeWhile_prefix _)
  all _ member := List.mem_takeWhile_imp member
  longest := by
    intro others leading all
    obtain ⟨rest, cut⟩ := map_proper_prefix_iff.1 leading
    rw [front, ← cut, List.takeWhile_append_of_pos all, List.length_append]
    exact Nat.le_add_right _ _

end Fronts

section Appending

variable {writer : FrameWriter} {frame : Frame} {items rest : List (Supplied Frame)}

/-- The writer after so many more frames with this text. -/
def extended (writer : FrameWriter) (frames : List Frame) (text : String) : FrameWriter :=
  { writer with
    text := writer.text ++ text
    framesWritten := writer.framesWritten + frames.length }

@[simp]
theorem extended_nil (writer : FrameWriter) : writer.extended [] "" = writer := by
  simp [extended]

theorem extended_cons (writer : FrameWriter) (frame : Frame) (frames : List Frame)
    (first others : String) :
    (writer.extended [frame] first).extended frames others =
      writer.extended (frame :: frames) (first ++ others) := by
  simp [extended, String.append_assoc, Nat.add_assoc, Nat.add_comm 1]

theorem requireOpen_of_open (opened : writer.closed = false) :
    requireOpen writer = .ok () writer := by
  refine (get_bind _ writer).trans ?_
  rw [opened]
  rfl

theorem requireOpen_of_closed (closed : writer.closed = true) :
    requireOpen writer = .error (.value (.closedWriter writer.name)) writer := by
  refine (get_bind _ writer).trans ?_
  rw [closed]
  rfl

theorem append_of_open (opened : writer.closed = false) (items : List (Supplied Frame)) :
    append items writer = appendEach items writer :=
  bind_of_ok (requireOpen_of_open opened) _

theorem canEncode_eq (writer : FrameWriter) (text : String) :
    writer.canEncode text =
      writer.encoding?.all fun encoding => (encoding.encode? text.toList).isSome := by
  unfold canEncode
  cases writer.encoding? <;> rfl

theorem appendOne_proper (frame : Frame) (writer : FrameWriter) :
    appendOne (.proper frame) writer =
      match frame.write with
      | .error fault => .error fault writer
      | .ok text =>
        if writer.canEncode text then .ok () (writer.extended [frame] text)
        else .error .unencodable writer := by
  rw [appendOne]
  cases frame.write with
  | error fault => rfl
  | ok text =>
    refine (get_bind _ writer).trans ?_
    dsimp only
    split <;> rfl

theorem appendOne_of_accepts (taken : accepts writer.encoding? frame = true) :
    ∃ text, frame.write = .ok text ∧
      appendOne (.proper frame) writer = .ok () (writer.extended [frame] text) := by
  unfold accepts at taken
  rw [appendOne_proper]
  cases written : frame.write with
  | error fault => simp [written] at taken
  | ok text =>
    simp only [written, ← canEncode_eq] at taken
    exact ⟨text, rfl, if_pos taken⟩

theorem appendOne_of_not_accepts (refused : accepts writer.encoding? frame = false) :
    ∃ fault, appendOne (.proper frame) writer = .error fault writer := by
  unfold accepts at refused
  rw [appendOne_proper]
  cases written : frame.write with
  | error fault => exact ⟨fault, rfl⟩
  | ok text =>
    simp only [written, ← canEncode_eq] at refused
    exact ⟨.unencodable, if_neg (Bool.eq_false_iff.1 refused)⟩

/-- Everything that writing items can do: the frames in front are written, and it fails unless
they are all there is. -/
theorem appendEach_cases (items : List (Supplied Frame)) (writer : FrameWriter) :
    ∃ text, Document.write (front writer.encoding? items) = .ok text ∧
      ((appendEach items writer =
            .ok () (writer.extended (front writer.encoding? items) text) ∧
          (front writer.encoding? items).map .proper = items) ∨
        ((∃ fault, appendEach items writer =
            .error fault (writer.extended (front writer.encoding? items) text)) ∧
          (front writer.encoding? items).map .proper ≠ items)) := by
  induction items generalizing writer with
  | nil => exact ⟨"", rfl, .inl ⟨by rw [front_nil, extended_nil]; rfl, rfl⟩⟩
  | cons item rest ih =>
    cases item with
    | other value =>
      rw [front_other]
      refine ⟨"", rfl, .inr ⟨⟨.value (.notFrame "FrameWriter.append" value.kind), ?_⟩, by simp⟩⟩
      rw [extended_nil]
      exact bind_of_error rfl _
    | proper frame =>
      cases accepted : accepts writer.encoding? frame with
      | false =>
        obtain ⟨fault, failed⟩ := appendOne_of_not_accepts accepted
        rw [front_of_not_accepts accepted]
        refine ⟨"", rfl, .inr ⟨⟨fault, ?_⟩, by simp⟩⟩
        rw [extended_nil]
        exact bind_of_error failed _
      | true =>
        obtain ⟨first, written, done⟩ := appendOne_of_accepts accepted
        obtain ⟨others, joined, outcome⟩ := ih (writer.extended [frame] first)
        rw [front_of_accepts accepted]
        refine ⟨first ++ others, Document.write_cons written joined, ?_⟩
        rw [← extended_cons, List.map_cons]
        rcases outcome with ⟨later, whole⟩ | ⟨⟨fault, later⟩, part⟩
        · exact .inl ⟨(bind_of_ok done _).trans later, congrArg _ whole⟩
        · refine .inr ⟨⟨fault, (bind_of_ok done _).trans later⟩, ?_⟩
          exact fun whole => part (List.cons.inj whole).2

end Appending

section Calls

inductive Call where
  | append (items : List (Supplied Frame))
  | appendFrame (item : Supplied Frame)
  | flush
  | enter
  | exit
  | close

def perform : Call → Writing Unit
  | .append items => append items
  | .appendFrame item => appendFrame item
  | .flush => flush
  | .enter => return ()
  | .exit => close
  | .close => close

/-- The writer after some calls. A call that fails does not keep the next from being made. -/
def after (writer : FrameWriter) : List Call → FrameWriter
  | [] => writer
  | call :: later => (stateAfter (perform call writer)).after later

namespace Call

/-- What is to be written. -/
def items : Call → List (Supplied Frame)
  | append items => items
  | appendFrame item => [item]
  | _ => []

def closes : Call → Bool
  | exit | close => true
  | _ => false

theorem items_of_closes {call : Call} (closes : call.closes = true) : call.items = [] := by
  cases call with
  | append items => cases closes
  | appendFrame item => cases closes
  | flush | enter | exit | close => rfl

/-- Whether the call is for open writers only. -/
def needsOpen : Call → Bool
  | append _ | appendFrame _ | flush => true
  | _ => false

end Call

/-- The frames that a writer into memory takes from calls, up to the one that closes it. -/
def taken : List Call → List Frame
  | [] => []
  | call :: later => if call.closes then [] else front none call.items ++ taken later

/-- The writer holds these frames and nothing else. -/
structure Holds (writer : FrameWriter) (frames : List Frame) : Prop where
  text : Document.write frames = .ok writer.text
  count : writer.framesWritten = frames.length

variable {writer : FrameWriter}

/-- A closed writer refuses whatever is for open ones, and nothing changes it. -/
theorem perform_closed (closed : writer.closed = true) (call : Call) :
    perform call writer =
      if call.needsOpen then .error (.value (.closedWriter writer.name)) writer
      else .ok () writer := by
  have unchanged : { writer with closed := true } = writer := by rw [← closed]
  have refused := requireOpen_of_closed closed
  cases call with
  | append items => exact bind_of_error refused _
  | appendFrame item => exact bind_of_error refused _
  | flush => exact refused
  | enter => rfl
  | exit => exact congrArg _ unchanged
  | close => exact congrArg _ unchanged

theorem after_closed (closed : writer.closed = true) (calls : List Call) :
    writer.after calls = writer := by
  induction calls with
  | nil => rfl
  | cons call later ih =>
    have same : stateAfter (perform call writer) = writer := by
      rw [perform_closed closed]
      split <;> rfl
    rw [after, same, ih]

/-- What becomes of an open writer by a call: it takes the frames in front, and the call fails
unless they are all there is. -/
structure Obeys (writer : FrameWriter) (call : Call) (text : String) : Prop where
  written : Document.write (front writer.encoding? call.items) = .ok text
  state : stateAfter (perform call writer) =
    { writer.extended (front writer.encoding? call.items) text with closed := call.closes }
  fails_iff : (∃ fault rest, perform call writer = .error fault rest) ↔
    (front writer.encoding? call.items).map .proper ≠ call.items

theorem obeys_of_append (opened : writer.closed = false) {call : Call}
    (performs : perform call writer = append call.items writer) (staysOpen : call.closes = false) :
    ∃ text, writer.Obeys call text := by
  obtain ⟨text, joined, outcome⟩ := appendEach_cases call.items writer
  have begun : perform call writer = appendEach call.items writer :=
    performs.trans (append_of_open opened _)
  have kept : { writer.extended (front writer.encoding? call.items) text with
      closed := call.closes } = writer.extended (front writer.encoding? call.items) text := by
    simp [extended, opened, staysOpen]
  refine ⟨text, joined, ?_, ?_⟩
  · rw [begun, kept]
    rcases outcome with ⟨done, -⟩ | ⟨⟨fault, failed⟩, -⟩
    · rw [done, stateAfter]
    · rw [failed, stateAfter]
  · rw [begun]
    rcases outcome with ⟨done, whole⟩ | ⟨⟨fault, failed⟩, part⟩
    · simp [done, whole]
    · simp [failed, part]

theorem obeys_of_idle {call : Call} (nothing : call.items = [])
    (performs : perform call writer = .ok () { writer with closed := call.closes }) :
    writer.Obeys call "" where
  written := by rw [nothing]; rfl
  state := by
    rw [performs, nothing, front_nil, extended_nil, stateAfter]
  fails_iff := by
    rw [performs, nothing]
    simp

theorem obeys_of_open (opened : writer.closed = false) (call : Call) :
    ∃ text, writer.Obeys call text := by
  have same : { writer with closed := false } = writer := by rw [← opened]
  cases call with
  | append items => exact obeys_of_append opened rfl rfl
  | appendFrame item => exact obeys_of_append opened rfl rfl
  | flush =>
    refine ⟨"", obeys_of_idle rfl ?_⟩
    exact (requireOpen_of_open opened).trans (congrArg _ same.symm)
  | enter => exact ⟨"", obeys_of_idle rfl (congrArg _ same.symm)⟩
  | exit => exact ⟨"", obeys_of_idle rfl rfl⟩
  | close => exact ⟨"", obeys_of_idle rfl rfl⟩

/-- Calls on an open writer into memory add the frames that they hand over in turn. -/
theorem after_open (opened : writer.closed = false) (memory : writer.encoding? = none)
    (calls : List Call) :
    ∃ text, Document.write (taken calls) = .ok text ∧
      writer.after calls =
        { writer.extended (taken calls) text with closed := calls.any Call.closes } := by
  induction calls generalizing writer with
  | nil =>
    refine ⟨"", rfl, ?_⟩
    rw [taken, extended_nil, after, List.any_nil, ← opened]
  | cons call later ih =>
    obtain ⟨first, written, state, -⟩ := obeys_of_open opened call
    rw [memory] at written state
    rw [after, state, taken, List.any_cons]
    cases closes : call.closes with
    | true =>
      rw [after_closed rfl, if_pos rfl, Bool.true_or]
      have nothing : front none call.items = [] := by rw [Call.items_of_closes closes]; rfl
      rw [nothing] at written ⊢
      exact ⟨first, written, rfl⟩
    | false =>
      rw [if_neg Bool.false_ne_true, Bool.false_or]
      obtain ⟨others, joined, last⟩ :=
        @ih { writer.extended (front none call.items) first with closed := false } rfl memory
      refine ⟨first ++ others, Document.write_append written joined, ?_⟩
      rw [last]
      simp [extended, String.append_assoc, Nat.add_assoc]

theorem after_append (writer : FrameWriter) (calls later : List Call) :
    writer.after (calls ++ later) = (writer.after calls).after later := by
  induction calls generalizing writer with
  | nil => rfl
  | cons call rest ih => exact ih _

theorem taken_concat {calls : List Call} (staysOpen : calls.any Call.closes = false) (call : Call) :
    taken (calls ++ [call]) = taken calls ++ front none call.items := by
  induction calls with
  | nil =>
    rw [List.nil_append, taken, taken, taken, List.append_nil, List.nil_append]
    split
    next closes => rw [Call.items_of_closes closes]; rfl
    next => rfl
  | cons first rest ih =>
    obtain ⟨firstOpen, restOpen⟩ := Bool.or_eq_false_iff.1 staysOpen
    simp [taken, firstOpen, ih restOpen]

/-- At any time a writer into memory holds the frames that it took from the calls so far. As long
as no call closed it, each call adds the longest row of frames in front that can be written, and
fails unless this is all that it was given. After that nothing changes any more, and what is for
open writers is refused. -/
theorem content_follows_calls (name : String) (calls : List Call) :
    ((ofName name none).after calls).Holds (taken calls) ∧
    ((ofName name none).after calls).closed = calls.any Call.closes ∧
    (calls.any Call.closes = false → ∀ call, ∃ frames,
      IsFront (fun frame => ∃ text, frame.write = .ok text) call.items frames ∧
      taken (calls ++ [call]) = taken calls ++ frames ∧
      ((∃ fault rest, perform call ((ofName name none).after calls) = .error fault rest) ↔
        frames.map .proper ≠ call.items)) ∧
    (calls.any Call.closes = true → ∀ later,
      (ofName name none).after (calls ++ later) = (ofName name none).after calls ∧
      ∀ call, call.needsOpen = true →
        perform call ((ofName name none).after (calls ++ later)) =
          .error (.value (.closedWriter name)) ((ofName name none).after (calls ++ later)) ∧
        (ValueFault.closedWriter name).category = .value) := by
  obtain ⟨text, written, state⟩ := @after_open (ofName name none) rfl rfl calls
  have closed : ((ofName name none).after calls).closed = calls.any Call.closes := by rw [state]
  refine ⟨⟨?_, ?_⟩, closed, ?_, ?_⟩
  · rw [state]
    simpa [extended, ofName] using written
  · rw [state]
    simp [extended, ofName]
  · intro staysOpen call
    obtain ⟨more, -, -, fails⟩ := obeys_of_open (closed.trans staysOpen) call
    have memory : ((ofName name none).after calls).encoding? = none := by rw [state]; rfl
    rw [memory] at fails
    have leading := isFront_front none call.items
    simp only [accepts_memory_iff] at leading
    exact ⟨_, leading, taken_concat staysOpen call, fails⟩
  · intro closes later
    have shut := closed.trans closes
    have same : (ofName name none).after (calls ++ later) = (ofName name none).after calls := by
      rw [after_append, after_closed shut]
    refine ⟨same, fun call needsOpen => ⟨?_, rfl⟩⟩
    rw [same, perform_closed shut, if_pos needsOpen, state]
    rfl

/-- A frame with a box and without atoms. -/
def emptyBox : Frame :=
  { Document.scattered with atoms := [], massesAgree := by decide +kernel }

/-- The first call fails at its second item and leaves the first one written. The last call comes
after the writer was closed. -/
example : (ofName "out.con" none).after
      [.append [.proper emptyBox, .other (.integer 7), .proper emptyBox],
        .append [.proper emptyBox], .close, .append [.proper emptyBox]] =
    ⟨"out.con", none,
      "\n \ninf nan -0.0\nnan -inf 0.0\nwater\n\n0\n\n\n" ++
        "\n \ninf nan -0.0\nnan -inf 0.0\nwater\n\n0\n\n\n", true, 2⟩ := by
  decide +kernel

end Calls

end FrameWriter

end Atomistic
