import Atomistic.Command.Run

/-! The command on the files of this machine. The entries that its paths can reach are taken
from the disk, and what the command changed is put back. -/

namespace Atomistic.Command

def onDisk (location : Location) : String :=
  "/" ++ "/".intercalate location

def loadNode? (location : Location) : IO (Option FileNode) := do
  try
    let path ← IO.FS.realPath (onDisk location)
    if ← path.isDir then return some .directory
    else return some (.file (← IO.FS.readBinFile path))
  catch _ => return none

/-- Take the entries on the way along some names from the disk. -/
def loadAlong (tree : FileTree) (here : Location) : List String → IO FileTree
  | [] => return tree
  | name :: rest => do
    let next := if name = ".." then here.dropLast else here ++ [name]
    match ← loadNode? next with
    | some node => loadAlong (tree.put next node) next rest
    | none => loadAlong tree next rest

def loadPath (tree : FileTree) (text : String) : IO FileTree :=
  let path := FilePath.ofText text
  loadAlong tree (if path.isAbsolute then [] else tree.workingDirectory) path.names

def saveEntry (before : FileTree) : Location × FileNode → IO Unit
  | (location, node) => do
    if before.node? location = some node then return
    match node with
    | .directory => IO.FS.createDirAll (onDisk location)
    | .file bytes => IO.FS.writeBinFile (onDisk location) bytes

def usage : String :=
  "usage: [-v] version | summary [--strict] PATH | convert [--skip N] [--every K] IN OUT"

/-- The exit code, and what is said about it. -/
def Conclusion.report : Conclusion → UInt32 × String
  | .exits code => (UInt32.ofNat code, "")
  | .badParameter message => (2, "error: " ++ message ++ "\n")
  | .badUsage => (2, usage ++ "\n")
  | .crashes fault => (1, fault.message ++ "\n")

def runOnDisk (arguments : List String) : IO UInt32 := do
  let names := (FilePath.ofText (← IO.currentDir).toString).names
  let paths := (parse? arguments).elim [] (·.action.paths)
  let tree ← paths.foldlM loadPath (.ofDirectory names)
  let report := run arguments tree
  report.tree.entries.forM (saveEntry tree)
  IO.print report.stdout
  IO.eprint (report.stderr ++ report.conclusion.report.2)
  return report.conclusion.report.1

end Atomistic.Command

def main (arguments : List String) : IO UInt32 :=
  Atomistic.Command.runOnDisk arguments
