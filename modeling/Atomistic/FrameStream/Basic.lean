import Atomistic.Frame.Grammar

/-! Frames one after the other. A stream reads no line before it is needed. A fault of the
text stops it for good, and so does the end of the input. -/

namespace Atomistic

open Text

structure FrameStream where
  cursor : LineCursor
  /-- The fault of the text that stopped the stream. -/
  stoppedBy : Option FormatFault
  /-- Whether the end of the input was seen or the stream was closed. -/
  ended : Bool
  closed : Bool
  framesRead : Nat
  framesSkipped : Nat
deriving DecidableEq, Repr

abbrev Streaming := EStateM Fault FrameStream

namespace FrameStream

def ofCursor (cursor : LineCursor) : FrameStream :=
  ⟨cursor, none, false, false, 0, 0⟩

def ofText (text : String) : FrameStream :=
  ofCursor (.ofText text)

def isExhausted (stream : FrameStream) : Bool :=
  stream.ended || stream.stoppedBy.isSome

/-- Only faults of the text stop a stream. -/
def stopping (stream : FrameStream) : Fault → FrameStream
  | .format fault => { stream with stoppedBy := some fault }
  | _ => stream

def onLines {α : Type} (reading : Reading α) : Streaming α := fun stream =>
  match reading stream.cursor with
  | .ok value cursor => .ok value { stream with cursor }
  | .error fault cursor => .error fault ({ stream with cursor }.stopping fault)

/-- The end, once seen, is remembered. -/
def atEnd : Streaming Bool := do
  if (← get).ended then return true
  else if ← onLines LineCursor.atEnd then
    modify fun stream => { stream with ended := true }
    return true
  else return false

/-- Take the next frame with some reading of it, if one is left. -/
def takeFrame {α : Type} (reading : Reading α) : Streaming (Option α) := do
  match (← get).stoppedBy with
  | some fault => throw (.format fault)
  | none =>
    if ← atEnd then return none
    else return some (← onLines reading)

def countRead (stream : FrameStream) : FrameStream :=
  { stream with framesRead := stream.framesRead + 1 }

def countSkipped (stream : FrameStream) : FrameStream :=
  { stream with framesSkipped := stream.framesSkipped + 1 }

def next : Streaming (Option Frame) := do
  match ← takeFrame Frame.read with
  | some frame =>
    modify countRead
    return some frame
  | none => return none

/-- Pass over the next frame; false when no frame is left. -/
def forward : Streaming Bool := do
  match ← takeFrame Frame.skip with
  | some _ =>
    modify countSkipped
    return true
  | none => return false

/-- Pass over at most so many frames and tell how many there were. -/
def forwardUpTo : Nat → Streaming Nat
  | 0 => return 0
  | count + 1 => do
    if ← forward then return (← forwardUpTo count) + 1
    else return 0

def skip (count : Int) : Streaming Nat :=
  if count < 0 then throw (.value (.negativeSkip (RawValue.integer count).display))
  else forwardUpTo count.toNat

/-- Pass over as many frames as a value says. A part of a frame counts as a whole one. -/
def skipRaw : RawValue → Streaming Nat
  | .integer count => skip count
  | .truth value => skip (if value then 1 else 0)
  | .real value => do
    if value.isNegative then throw (.value (.negativeSkip (RawValue.real value).display))
    else forwardUpTo (value.ceiling?.getD ((← get).cursor.remaining + 1))
  | other => throw (.value (.noCount other.kind))

/-- A closed stream has no more frames. -/
def close : Streaming Unit :=
  modify fun stream => { stream with ended := true, closed := true }

end FrameStream

end Atomistic
