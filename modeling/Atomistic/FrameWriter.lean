import Atomistic.Files.Encoding
import Atomistic.Frame.Draft
import Atomistic.Frame.Writing

/-! Writing frames one after the other. A frame is written whole or not at all, and frames
in front of one that fails stay written. -/

namespace Atomistic

structure FrameWriter where
  name : String
  /-- A writer into memory takes every character. -/
  encoding? : Option Encoding
  text : String
  closed : Bool
  framesWritten : Nat
deriving DecidableEq, Repr

abbrev Writing := EStateM Fault FrameWriter

namespace FrameWriter

def ofName (name : String) (encoding? : Option Encoding) : FrameWriter :=
  ⟨name, encoding?, "", false, 0⟩

def canEncode (writer : FrameWriter) (text : String) : Bool :=
  match writer.encoding? with
  | none => true
  | some encoding => (encoding.encode? text.toList).isSome

def requireOpen : Writing Unit := do
  let writer ← get
  if writer.closed then throw (.value (.closedWriter writer.name))

def addText (text : String) (writer : FrameWriter) : FrameWriter :=
  { writer with text := writer.text ++ text, framesWritten := writer.framesWritten + 1 }

def appendOne : Supplied Frame → Writing Unit
  | .other value => throw (.value (.notFrame "FrameWriter.append" value.kind))
  | .proper frame => do
    match frame.write with
    | .error fault => throw fault
    | .ok text =>
      if (← get).canEncode text then modify (addText text)
      else throw .unencodable

def appendEach : List (Supplied Frame) → Writing Unit
  | [] => return ()
  | item :: rest => do
    appendOne item
    appendEach rest

/-- Write frames in order, up to the first that cannot be written. -/
def append (items : List (Supplied Frame)) : Writing Unit := do
  requireOpen
  appendEach items

def appendFrame (item : Supplied Frame) : Writing Unit :=
  append [item]

/-- Write from a value that should hold frames. A frame by itself does not. -/
def appendFrom : Supplied Frame → Writing Unit
  | .proper _ => do
    requireOpen
    throw (.value .loneFrame)
  | .other value => do
    requireOpen
    match value.parts with
    | .error fault => throw (.value fault)
    | .ok parts => appendEach (parts.map .other)

def flush : Writing Unit :=
  requireOpen

def close : Writing Unit :=
  modify fun writer => { writer with closed := true }

def bytes (writer : FrameWriter) : ByteArray :=
  ((writer.encoding?.getD .utf8).encode? writer.text.toList).getD .empty

end FrameWriter

end Atomistic
