import Atomistic.Frame.Draft
import Atomistic.Frame.Writing
import Atomistic.FrameStream.Drain

/-! Whole texts: a text of a single frame, and a text of frames one after the other. -/

namespace Atomistic

namespace Frame

/-- Read a frame that must be all there is, blank lines after it apart. -/
def readOnly : Reading Frame := do
  if ← LineCursor.atEnd then LineCursor.complain .noFrame 1
  else
    let frame ← Frame.read
    if ← LineCursor.atEnd then return frame
    else LineCursor.complain .contentAfterFrame ((← get).lineNumber + 1)

def ofText (text : String) : Except Fault Frame :=
  match readOnly (.ofText text) with
  | .ok frame _ => .ok frame
  | .error fault _ => .error fault

def ofRaw : RawValue → Except Fault Frame
  | .text text => ofText text
  | given => .error (.value (.notText "parse_frame_text" given.kind))

end Frame

namespace Document

def frames (text : String) : Except Fault (List Frame) :=
  match (FrameStream.ofText text).drain with
  | .ok frames _ => .ok frames
  | .error fault _ => .error fault

def framesOfRaw : RawValue → Except Fault (List Frame)
  | .text text => frames text
  | given => .error (.value (.notText "FrameIterator.from_text" given.kind))

/-- Texts one after the other, up to the first that fails. -/
def joinTexts : List (Except Fault String) → Except Fault String
  | [] => .ok ""
  | text :: rest => return (← text) ++ (← joinTexts rest)

def write (frames : List Frame) : Except Fault String :=
  joinTexts (frames.map Frame.write)

def writeItem : Supplied Frame → Except Fault String
  | .proper frame => frame.write
  | .other value => .error (.value (.notFrame "serialize_frame" value.kind))

def writeItems (items : List (Supplied Frame)) : Except Fault String :=
  joinTexts (items.map writeItem)

end Document

end Atomistic
