import Atomistic.Command.Session

/-! Copying a file frame by frame, with some frames left out. Frames that are left out are
passed over without a look at their atoms. -/

namespace Atomistic.Command

/-- How a copy went: what stopped it, and both ends after it. -/
structure Copy where
  fault? : Option Fault
  stream : FrameStream
  writer : FrameWriter

/-- Copy the next frame, pass over some, and go on until no frame is left. -/
def copySelected (passing : Nat) (stream : FrameStream) (writer : FrameWriter) : Copy :=
  match _taken : stream.next with
  | .error fault rest => ⟨some fault, rest, writer⟩
  | .ok none rest => ⟨none, rest, writer⟩
  | .ok (some frame) rest =>
    match FrameWriter.appendFrame (.proper frame) writer with
    | .error fault writer => ⟨some fault, rest, writer⟩
    | .ok _ writer =>
      match _passed : FrameStream.forwardUpTo passing rest with
      | .error fault last => ⟨some fault, last, writer⟩
      | .ok passed last =>
        if passed < passing then ⟨none, last, writer⟩
        else copySelected passing last writer
termination_by stream.cursor.remaining
decreasing_by
  exact Nat.lt_of_le_of_lt (FrameStream.remaining_forwardUpTo _passed)
    (FrameStream.remaining_next _taken)

/-- Leave out some frames in front, and then copy every one of so many. -/
def copyFrames (skip every : Nat) (stream : FrameStream) (writer : FrameWriter) : Copy :=
  match FrameStream.forwardUpTo skip stream with
  | .error fault rest => ⟨some fault, rest, writer⟩
  | .ok _ rest => copySelected (every - 1) rest writer

def cannotConvert (input : FilePath) : Fault → Stop
  | .format fault => .badParameter (input.text ++ ": " ++ fault.text)
  | .file fault => .badParameter fault.message
  | fault => .crashes fault

/-- The input is read after the output was made. What was copied in front of a fault stays
in the output. -/
def copyFile (input output : FilePath) (skip every : Nat) : Filing Copy := do
  let source ← FileTree.openFile input
  let file ← FileWriter.create output .utf8
  let stream := FrameStream.ofCursor (Encoding.utf8.cursor ((← get).bytesAt source))
  let copy := copyFrames skip every stream file.writer
  FileWriter.save { file with writer := copy.writer }
  return copy

def convert (inputText outputText : String) (skip every : Nat) : Running Unit := do
  let input := FilePath.ofText inputText
  let output := FilePath.ofText outputText
  match (← get).tree.isSameFile input output with
  | .error fault => throw (.crashes (.file fault))
  | .ok isSame =>
    if isSame then throw (.badParameter ("output path is the input file: " ++ output.text))
  inform ("Converting " ++ input.text ++ " -> " ++ output.text ++ " (skip=" ++
    toString skip ++ ", every=" ++ toString every ++ ")")
  let copy ← withFiles (cannotConvert input) (copyFile input output skip every)
  match copy.fault? with
  | some fault => throw (cannotConvert input fault)
  | none =>
    inform ("Wrote " ++ toString copy.writer.framesWritten ++ " frame(s), skipped " ++
      toString copy.stream.framesSkipped)
    print output.text

end Atomistic.Command
