import Atomistic.Fault
import Atomistic.Files.Path

/-! A tree of directories and files. Every entry has a location: the names on the way to it
from the root. Paths are followed name by name, so each directory on the way must exist,
also in front of double dots. -/

namespace Atomistic

abbrev Location := List String

inductive FileNode where
  | directory
  | file (bytes : ByteArray)

instance : DecidableEq FileNode
  | .directory, .directory => .isTrue rfl
  | .directory, .file _ => .isFalse nofun
  | .file _, .directory => .isFalse nofun
  | .file bytes, .file others =>
    match ByteArray.decEq bytes others with
    | .isTrue same => .isTrue (congrArg FileNode.file same)
    | .isFalse different => .isFalse fun equal => different (FileNode.file.inj equal)

structure FileTree where
  workingDirectory : Location
  entries : List (Location × FileNode)
deriving DecidableEq

abbrev Filing := EStateM Fault FileTree

namespace FileTree

def ofDirectory (location : Location) : FileTree :=
  ⟨location, (List.range location.length).map fun depth =>
    (location.take (depth + 1), .directory)⟩

/-- The files below the working directory, by the names on the way from there. -/
def files (tree : FileTree) : List (String × ByteArray) :=
  tree.entries.filterMap fun (location, node) =>
    match node with
    | .directory => none
    | .file bytes =>
      if tree.workingDirectory.isPrefixOf location then
        some ("/".intercalate (location.drop tree.workingDirectory.length), bytes)
      else none

def node? (tree : FileTree) (location : Location) : Option FileNode :=
  if location.isEmpty then some .directory else tree.entries.lookup location

def putEntry (location : Location) (node : FileNode) :
    List (Location × FileNode) → List (Location × FileNode)
  | [] => [(location, node)]
  | entry :: rest =>
    if entry.1 = location then (location, node) :: rest
    else entry :: putEntry location node rest

def put (tree : FileTree) (location : Location) (node : FileNode) : FileTree :=
  { tree with entries := putEntry location node tree.entries }

theorem lookup_putEntry (location other : Location) (node : FileNode)
    (entries : List (Location × FileNode)) :
    (putEntry location node entries).lookup other =
      if other = location then some node else entries.lookup other := by
  have apart {one two : Location} (differ : ¬one = two) : (one == two) = false :=
    beq_eq_false_iff_ne.2 differ
  induction entries with
  | nil => by_cases same : other = location <;> simp [putEntry, List.lookup_cons, same, apart]
  | cons entry rest ih =>
    obtain ⟨place, held⟩ := entry
    by_cases here : place = location
    · subst here
      by_cases same : other = place <;> simp [putEntry, List.lookup_cons, same, apart]
    · by_cases found : other = place
      · subst found
        simp [putEntry, here]
      · simp [putEntry, List.lookup_cons, here, found, apart, ih]

/-- A look-up after a node was put finds that node at its location, and elsewhere what was
there before. -/
theorem node?_put (tree : FileTree) {location : Location} (other : Location) (node : FileNode)
    (below : location ≠ []) :
    (tree.put location node).node? other =
      if other = location then some node else tree.node? other := by
  by_cases root : other = []
  · simp [node?, root, below.symm]
  · simp [node?, put, root, lookup_putEntry]

/-- The most bytes of a name. -/
def nameLimit : Nat := 255

/-- Fewer bytes than this must spell a whole path. -/
def pathLimit : Nat := 4096

/-- Follow names from a location. The last one need not exist. -/
def walk (tree : FileTree) (here : Location) : List String → Except FileProblem Location
  | [] => .ok here
  | name :: rest =>
    match tree.node? here with
    | none => .error .notFound
    | some (.file _) => .error .notDirectory
    | some .directory =>
      if name = ".." then tree.walk here.dropLast rest
      else if nameLimit < name.utf8ByteSize then .error .nameTooLong
      else tree.walk (here ++ [name]) rest

def locate (tree : FileTree) (path : FilePath) : Except FileProblem Location :=
  if pathLimit ≤ path.text.utf8ByteSize then .error .nameTooLong
  else tree.walk (if path.isAbsolute then [] else tree.workingDirectory) path.names

def find (tree : FileTree) (path : FilePath) : Except FileProblem (Location × FileNode) := do
  let location ← tree.locate path
  match tree.node? location with
  | some node => return (location, node)
  | none => throw .notFound

/-- Where an entry is, if it exists. A name that is too long is a fault and no absence. -/
def locationOf? (tree : FileTree) (path : FilePath) : Except FileFault (Option Location) :=
  if path.hasNull then .ok none
  else match tree.find path with
    | .ok (location, _) => .ok (some location)
    | .error .nameTooLong => .error ⟨.nameTooLong, path.text⟩
    | .error _ => .ok none

def isDirectory (tree : FileTree) (path : FilePath) : Bool :=
  match tree.find path with
  | .ok (_, .directory) => true
  | _ => false

/-- Whether two paths lead to one entry that exists. The other path is only looked at if the
one exists. -/
def isSameFile (tree : FileTree) (one other : FilePath) : Except FileFault Bool := do
  match ← tree.locationOf? one with
  | none => return false
  | some location => return (← tree.locationOf? other) = some location

def fail {α : Type} (problem : FileProblem) (path : FilePath) : Filing α :=
  throw (.file ⟨problem, path.text⟩)

def requireNoNull (path : FilePath) : Filing Unit :=
  if path.hasNull then throw (.value .nullInPath) else return ()

def openFile (path : FilePath) : Filing Location := do
  requireNoNull path
  match (← get).find path with
  | .ok (location, .file _) => return location
  | .ok (_, .directory) => fail .isDirectory path
  | .error problem => fail problem path

/-- The bytes of a file; an absent one has none. -/
def bytesAt (tree : FileTree) (location : Location) : ByteArray :=
  match tree.node? location with
  | some (.file bytes) => bytes
  | _ => .empty

/-- Make a file empty, or a new one where there is none. -/
def createFile (path : FilePath) : Filing Location := do
  requireNoNull path
  let tree ← get
  match tree.locate path with
  | .error problem => fail problem path
  | .ok location =>
    match tree.node? location with
    | some .directory => fail .isDirectory path
    | _ =>
      set (tree.put location (.file .empty))
      return location

def makeDirectory (tree : FileTree) (path : FilePath) : Except FileProblem FileTree := do
  let location ← tree.locate path
  match tree.node? location with
  | some _ => throw .alreadyExists
  | none => return tree.put location .directory

def ensureDirectory (path : FilePath) : Filing Unit := do
  requireNoNull path
  let tree ← get
  match tree.makeDirectory path with
  | .ok tree => set tree
  | .error problem =>
    if tree.isDirectory path then return () else fail problem path

/-- Make a directory of a row of names, and first the ones above it that are missing. The
names come from last to first. -/
def ensureDirectoriesOf (slashes : Nat) : List String → Filing Unit
  | [] => ensureDirectory ⟨slashes, []⟩
  | name :: above => do
    let path : FilePath := ⟨slashes, (name :: above).reverse⟩
    requireNoNull path
    match (← get).makeDirectory path with
    | .error .notFound =>
      ensureDirectoriesOf slashes above
      ensureDirectory path
    | _ => ensureDirectory path

def ensureDirectories (path : FilePath) : Filing Unit :=
  ensureDirectoriesOf path.slashes path.names.reverse

end FileTree

end Atomistic
