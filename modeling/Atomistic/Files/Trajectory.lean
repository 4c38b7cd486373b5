import Atomistic.Files.Blocks
import Atomistic.Files.Tree
import Atomistic.FrameStream.Drain
import Atomistic.FrameWriter

/-! Trajectories in files. A file is made empty, with the directories above it, before the
first frame is written to it. -/

namespace Atomistic

namespace FilePath

def ofRaw (place : String) : RawValue → Except Fault FilePath
  | .text text => .ok (.ofText text)
  | given => .error (.value (.notPathOrStream place given.kind))

end FilePath

namespace FrameStream

def openFile (path : FilePath) (encoding : Encoding) : Filing FrameStream := do
  let location ← FileTree.openFile path
  return .ofCursor (encoding.cursor ((← get).bytesAt location))

def framesOfFile (path : FilePath) (encoding : Encoding) : Filing (List Frame) := do
  let stream ← openFile path encoding
  match stream.drain with
  | .ok frames _ => return frames
  | .error fault _ => throw fault

end FrameStream

/-- A writer together with the file that takes what it writes. -/
structure FileWriter where
  writer : FrameWriter
  location : Location

namespace FileWriter

def create (path : FilePath) (encoding : Encoding) : Filing FileWriter := do
  FileTree.ensureDirectories path.parent
  let location ← FileTree.createFile path
  return ⟨.ofName path.text (some encoding), location⟩

def save (file : FileWriter) : Filing Unit :=
  modify (·.put file.location (.file file.writer.bytes))

/-- Write frames to a file and tell how many there are. What was written in front of one
that fails stays in the file. -/
def writeAll (path : FilePath) (encoding : Encoding) (frames : List (Supplied Frame)) :
    Filing Nat := do
  let file ← create path encoding
  match FrameWriter.append frames file.writer with
  | .ok _ writer =>
    save { file with writer }
    return writer.framesWritten
  | .error fault writer =>
    save { file with writer }
    throw fault

end FileWriter

end Atomistic
