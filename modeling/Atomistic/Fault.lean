import Atomistic.RawValue

/-! What can go wrong, by cause. A format fault is about a trajectory's text and knows the
line; a value fault is about values handed over in memory; a file fault names the path. -/

namespace Atomistic

open Number Text

inductive FormatCategory where
  | format
  | truncated
  | header
  | number
  | count
  | symbol
deriving DecidableEq, Repr

inductive FormatCause where
  | endOfInput (reading : String)
  | noFrame
  | contentAfterFrame
  | fieldCount (what : String) (expected : Int) (line : Line)
  | notReal (what : String) (token : Line)
  | notInteger (what : String) (token : Line)
  | notFlag (token : Line)
  | negativeSpeciesCount (count : Int)
  | negativeAtomCount (count : Int)
  | negativeLengths (lengths : List Binary64)
  | negativeId (id : Int)
  | repeatedSpecies (symbol : Line)
  /-- A species is named by its place among the blocks, counted from one. -/
  | countLineFields (species : Nat) (line : Line)
  | countDiffers (species : Nat) (found : Int) (declared : Nat)
  | unknownSymbol (symbol : String)
  /-- What was given for an atomic number, as it appears in messages. -/
  | unknownNumber (display : String)
deriving DecidableEq, Repr

namespace FormatCause

def category : FormatCause → FormatCategory
  | endOfInput _ | noFrame => .truncated
  | contentAfterFrame | fieldCount _ _ _ | negativeSpeciesCount _ | negativeAtomCount _
  | negativeLengths _ | negativeId _ | repeatedSpecies _ | countLineFields _ _ => .header
  | notReal _ _ | notInteger _ _ | notFlag _ => .number
  | countDiffers _ _ _ => .count
  | unknownSymbol _ | unknownNumber _ => .symbol

private def intText (value : Int) : String :=
  String.ofList (writeInt value)

def message : FormatCause → String
  | endOfInput reading => "unexpected end of input while reading " ++ reading
  | noFrame => "no frame found in input"
  | contentAfterFrame => "unexpected content after the end of the frame"
  | fieldCount what expected line =>
    what ++ ": expected " ++ intText expected ++ " field(s), got " ++
      toString (fields line).length ++ ": " ++ quoted line
  | notReal what token => what ++ ": not a real number: " ++ quoted token
  | notInteger what token => what ++ ": not an integer: " ++ quoted token
  | notFlag token => "fixed flag: expected 0 or 1, got " ++ quoted token
  | negativeSpeciesCount count =>
    "species count: must be non-negative, got " ++ intText count
  | negativeAtomCount count =>
    "atoms per species: counts must be non-negative, got " ++ intText count
  | negativeLengths lengths =>
    "cell lengths: must be non-negative, got " ++ (RawValue.list (lengths.map .real)).display
  | negativeId id => "atom_id: must be non-negative, got " ++ intText id
  | repeatedSpecies symbol => "species " ++ quoted symbol ++ " appears in more than one block"
  | countLineFields species line =>
    "species " ++ toString species ++ " count line: expected 2 fields (count, aux), got " ++
      toString (fields line).length ++ ": " ++ quoted line
  | countDiffers species found declared =>
    "species " ++ toString species ++ ": block declares " ++ intText found ++
      " atom(s) but the header declares " ++ toString declared
  | unknownSymbol symbol => "unknown element symbol " ++ quoted symbol.toList
  | unknownNumber display => "no element symbol for atomic number " ++ display

/-- The cause when a value of any kind is not in the table of elements. -/
def notInTable : RawValue → FormatCause
  | .text symbol => unknownSymbol symbol
  | given => unknownNumber given.display

end FormatCause

/-- A cause and the line, counted from one, where it was met. -/
structure FormatFault where
  cause : FormatCause
  line : Option Nat
deriving DecidableEq, Repr

def FormatFault.text (fault : FormatFault) : String :=
  match fault.line with
  | some line => "line " ++ toString line ++ ": " ++ fault.cause.message
  | none => fault.cause.message

inductive ValueCategory where
  | value
  | type
  | overflow
  | attribute
deriving DecidableEq, Repr

/-- The place says which part of what was being made up the value is. -/
inductive ValueFault where
  | notInteger (place : String) (kind : String)
  | notPositive (place : String) (value : Int)
  | negative (place : String) (value : Int)
  | notNumeral (text : String)
  | notReal (kind : String)
  | beyondReals
  | noParts (kind : String)
  | notTriple (place : String) (count : Nat)
  | textForLines (place : String)
  | notPair (place : String) (count : Nat)
  | notLine (place : String) (index : Nat) (kind : String)
  | brokenLine (place : String) (index : Nat)
  | negativeLengths (lengths : List Binary64)
  | notSite (index : Nat) (kind : String)
  | notAtom (index : Nat) (kind : String)
  | massDiffers (index : Nat) (mass declared : Binary64) (number : Nat)
  | groupMassDiffers (index : Nat) (mass declared : Binary64) (number : Nat)
  | notSection (display : String)
  | notHeaderIndex (display : String)
  | fractionalIndex
  | noRoom
  | tooManyDigits (count : Nat)
  | tooManyDigitsToWrite
  | tooWide
  | notText (place : String) (kind : String)
  | notPathOrStream (place : String) (kind : String)
  | notFrame (place : String) (kind : String)
  | loneFrame
  | closedWriter (name : String)
  | negativeSkip (display : String)
  | noCount (kind : String)
  | nullInPath
  | noAtomicNumber (kind : String)
  | notWords (kind : String)
deriving DecidableEq, Repr

namespace ValueFault

def category : ValueFault → ValueCategory
  | notReal _ | noParts _ | fractionalIndex | notText _ _ | notPathOrStream _ _
  | notFrame _ _ | loneFrame | notWords _ | noCount _ => .type
  | beyondReals | tooWide => .overflow
  | noAtomicNumber _ => .attribute
  | _ => .value

private def digitLimitText (rest : String) : String :=
  "Exceeds the limit (" ++ toString digitLimit ++
    " digits) for integer string conversion" ++ rest ++
    "; use sys.set_int_max_str_digits() to increase the limit"

private def integerText (value : Int) : String :=
  String.ofList (writeInt value)

private def realText (value : Binary64) : String :=
  String.ofList value.write

def message : ValueFault → String
  | notInteger place kind => place ++ ": expected int, got " ++ kind
  | notPositive place value => place ++ ": must be positive, got " ++ integerText value
  | negative place value => place ++ ": must be non-negative, got " ++ integerText value
  | notNumeral text => "could not convert string to float: " ++ quoted text.toList
  | notReal kind => "float() argument must be a string or a real number, not '" ++ kind ++ "'"
  | beyondReals => "int too large to convert to float"
  | noParts kind => "'" ++ kind ++ "' object is not iterable"
  | notTriple place count => place ++ ": expected 3 values, got " ++ toString count
  | textForLines place => place ++ ": expected a pair of strings, got str"
  | notPair place count => place ++ ": expected 2 lines, got " ++ toString count
  | notLine place index kind =>
    place ++ "[" ++ toString index ++ "]: expected str, got " ++ kind
  | brokenLine place index =>
    place ++ "[" ++ toString index ++ "]: header lines must not contain newlines"
  | negativeLengths lengths =>
    "Frame.cell: box lengths must be non-negative, got (" ++
      ", ".intercalate (lengths.map realText) ++ ")"
  | notSite index kind =>
    "SpeciesBlock.sites[" ++ toString index ++ "]: expected AtomSite, got " ++ kind
  | notAtom index kind =>
    "Frame.atoms[" ++ toString index ++ "]: expected Atom, got " ++ kind
  | massDiffers index mass declared number =>
    "Frame.atoms[" ++ toString index ++ "]: mass " ++ realText mass ++
      " differs from mass " ++ realText declared ++ " already declared for atomic number " ++
      toString number
  | groupMassDiffers index mass declared number =>
    "group: atoms[" ++ toString index ++ "] has mass " ++ realText mass ++
      " but atomic number " ++ toString number ++ " was first seen with mass " ++
      realText declared
  | notSection display =>
    "header_line: section must be one of ('pre', 'post'), got " ++ display
  | notHeaderIndex display => "header_line: index must be 0 or 1, got " ++ display
  | fractionalIndex => "tuple indices must be integers or slices, not float"
  | noRoom => "copy_header_line: buffer must hold at least the terminator"
  | tooManyDigits count => digitLimitText (": value has " ++ toString count ++ " digits")
  | tooManyDigitsToWrite => digitLimitText ""
  | tooWide => "Python int too large to convert to C long"
  | notText place kind => place ++ ": expected str, got " ++ kind
  | notPathOrStream place kind =>
    place ++ ": expected a path or text stream, got " ++ kind
  | notFrame place kind => place ++ ": expected Frame, got " ++ kind
  | loneFrame => "FrameWriter.append: expected an iterable of frames; use append_frame() for one"
  | closedWriter name => "FrameWriter: " ++ name ++ " is closed"
  | negativeSkip display => "skip: n must be non-negative, got " ++ display
  | noCount kind => "'<' not supported between instances of '" ++ kind ++ "' and 'int'"
  | nullInPath => "embedded null byte"
  | noAtomicNumber kind => "'" ++ kind ++ "' object has no attribute 'atomic_number'"
  | notWords kind => "__str__ returned non-string (type " ++ kind ++ ")"

end ValueFault

inductive FileProblem where
  | notFound
  | alreadyExists
  | notDirectory
  | isDirectory
  | nameTooLong
deriving DecidableEq, Repr

namespace FileProblem

def code : FileProblem → Nat
  | notFound => 2
  | alreadyExists => 17
  | notDirectory => 20
  | isDirectory => 21
  | nameTooLong => 36

def description : FileProblem → String
  | notFound => "No such file or directory"
  | alreadyExists => "File exists"
  | notDirectory => "Not a directory"
  | isDirectory => "Is a directory"
  | nameTooLong => "File name too long"

end FileProblem

structure FileFault where
  problem : FileProblem
  path : String
deriving DecidableEq, Repr

def FileFault.message (fault : FileFault) : String :=
  "[Errno " ++ toString fault.problem.code ++ "] " ++ fault.problem.description ++ ": " ++
    quoted fault.path.toList

inductive Fault where
  | format (fault : FormatFault)
  | value (fault : ValueFault)
  | file (fault : FileFault)
  /-- The bytes of a file are not text of its encoding. -/
  | undecodable
  /-- A text has a character that an encoding cannot express. -/
  | unencodable
deriving DecidableEq, Repr

/-- The same fault, met on a line of that number if it is about the format. -/
def Fault.atLine (number : Nat) : Fault → Fault
  | .format fault => .format { fault with line := some number }
  | other => other

def Fault.message : Fault → String
  | .format fault => fault.text
  | .value fault => fault.message
  | .file fault => fault.message
  | .undecodable => "the file is not text of its encoding"
  | .unencodable => "a character cannot be expressed in the encoding"

end Atomistic
