/-! Names of files. A path is a row of names, from the root or from the working directory;
empty names and single dots in it mean nothing. Double dots stay, since what they mean
depends on the files. -/

namespace Atomistic

structure FilePath where
  /-- The slashes in front: none, one, or two. -/
  slashes : Nat
  names : List String
deriving DecidableEq, Repr

namespace FilePath

def leadingSlashes (text : List Char) : Nat :=
  match (text.takeWhile (· == '/')).length with
  | 0 => 0
  | 2 => 2
  | _ => 1

def ofText (text : String) : FilePath where
  slashes := leadingSlashes text.toList
  names := ((text.toList.splitOnP (· == '/')).map String.ofList).filter fun name =>
    name != "" && name != "."

def text (path : FilePath) : String :=
  if path.slashes = 0 && path.names.isEmpty then "."
  else String.ofList (List.replicate path.slashes '/') ++ "/".intercalate path.names

def isAbsolute (path : FilePath) : Bool :=
  path.slashes != 0

/-- The path without its last name. One without names is its own parent. -/
def parent (path : FilePath) : FilePath :=
  { path with names := path.names.dropLast }

def hasNull (path : FilePath) : Bool :=
  path.names.any (·.toList.contains (Char.ofNat 0))

end FilePath

end Atomistic
