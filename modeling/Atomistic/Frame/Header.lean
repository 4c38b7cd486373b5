import Atomistic.Frame.Basic
import Atomistic.Stepwise

/-! Single header lines: picking one, and copying it into memory of limited size. -/

namespace Atomistic

open Number

inductive BoxSide where
  | before
  | after
deriving DecidableEq, Repr

structure HeaderPlace where
  side : BoxSide
  lower : Bool
deriving DecidableEq, Repr

def BoxSide.ofRaw : RawValue → Except ValueFault BoxSide
  | .text "pre" => .ok .before
  | .text "post" => .ok .after
  | given => .error (.notSection given.display)

/-- A whole real number passes for an index but cannot be used as one. -/
def isLowerIndex : RawValue → Except ValueFault Bool
  | .integer 0 => .ok false
  | .integer 1 => .ok true
  | .real value =>
    if value.equals .zero || value.equals .one then .error .fractionalIndex
    else .error (.notHeaderIndex (RawValue.real value).display)
  | given => .error (.notHeaderIndex given.display)

def HeaderPlace.ofRaw (side index : RawValue) : Except ValueFault HeaderPlace :=
  return ⟨← BoxSide.ofRaw side, ← isLowerIndex index⟩

/-- A code point of a text: a character, or one half of a surrogate pair, which stands for none. -/
inductive CodePoint where
  | character (c : Char)
  | surrogate (index : Fin 2048)
deriving DecidableEq, Repr

/-- The bytes of a text, if it is made of characters only. -/
def utf8? : List CodePoint → Option (List UInt8)
  | [] => some []
  | .character c :: rest => (utf8? rest).map (String.utf8EncodeChar c ++ ·)
  | .surrogate _ :: _ => none

theorem utf8?_characters (chars : List Char) :
    utf8? (chars.map .character) = some (chars.flatMap String.utf8EncodeChar) := by
  induction chars with
  | nil => rfl
  | cons c rest ih => rw [List.map_cons, utf8?, ih, List.flatMap_cons, Option.map_some]

/-- Whether a byte goes on with the character that was begun before it. -/
def isContinuation (byte : UInt8) : Bool :=
  byte &&& 0xc0 == 0x80

/-- Step back to where no character is cut in two. -/
def backOff (bytes : List UInt8) : Nat → Nat
  | 0 => 0
  | place + 1 => if bytes[place + 1]?.any isContinuation then backOff bytes place else place + 1

/-- The written bytes do not include the terminator. -/
structure CopyCount where
  written : Nat
  truncated : Bool
deriving DecidableEq, Repr

/-- A copy works on the memory that it copies to. -/
abbrev Copying := EStateM Fault (List UInt8)

/-- Copy bytes and a zero to the front of a memory of which only the first bytes may be used.
Characters are copied whole or not at all. -/
def copyBytes (bytes : List UInt8) (capacity : Nat) : Copying CopyCount := do
  match min capacity (← get).length with
  | 0 => throw (.value .noRoom)
  | room + 1 =>
    let written := backOff bytes (min bytes.length room)
    modify fun memory => bytes.take written ++ 0 :: memory.drop (written + 1)
    return ⟨written, written < bytes.length⟩

theorem copyBytes_eq (bytes : List UInt8) (capacity : Nat) (memory : List UInt8) :
    copyBytes bytes capacity memory =
      match min capacity memory.length with
      | 0 => .error (.value .noRoom) memory
      | room + 1 =>
        let written := backOff bytes (min bytes.length room)
        .ok ⟨written, written < bytes.length⟩
          (bytes.take written ++ 0 :: memory.drop (written + 1)) := by
  rw [copyBytes, get_bind]
  cases min capacity memory.length <;> rfl

/-- Copy one of the lines that stand in these places. -/
def copyLine (lines : HeaderPlace → List CodePoint) (side index : RawValue) (capacity : Nat) :
    Copying CopyCount :=
  match HeaderPlace.ofRaw side index with
  | .error fault => throw (.value fault)
  | .ok place =>
    match utf8? (lines place) with
    | none => throw .unencodable
    | some bytes => copyBytes bytes capacity

theorem copyLine_of_bytes {lines : HeaderPlace → List CodePoint} {side index : RawValue}
    {place : HeaderPlace} {bytes : List UInt8} (placed : HeaderPlace.ofRaw side index = .ok place)
    (encoded : utf8? (lines place) = some bytes) (capacity : Nat) :
    copyLine lines side index capacity = copyBytes bytes capacity := by
  simp only [copyLine, placed, encoded]

/-- What a copy did, and the memory after it. -/
structure HeaderCopy extends CopyCount where
  memory : List UInt8
deriving DecidableEq, Repr

def Fault.value? : Fault → Option ValueFault
  | .value fault => some fault
  | _ => none

namespace Frame

def heading (frame : Frame) : BoxSide → Heading
  | .before => frame.preBox
  | .after => frame.postBox

def headerAt (frame : Frame) (place : HeaderPlace) : HeaderLine :=
  if place.lower then (frame.heading place.side).lower else (frame.heading place.side).upper

def headerLine (frame : Frame) (side index : RawValue) : Except ValueFault HeaderLine :=
  (HeaderPlace.ofRaw side index).map frame.headerAt

/-- The text of a header line is made of characters. -/
def codePoints (frame : Frame) (place : HeaderPlace) : List CodePoint :=
  (frame.headerAt place).text.toList.map .character

theorem isValue_of_copyLine {frame : Frame} {side index : RawValue} {capacity : Nat}
    {memory after : List UInt8} {fault : Fault}
    (failed : copyLine frame.codePoints side index capacity memory = .error fault after) :
    fault.value?.isSome = true := by
  cases placed : HeaderPlace.ofRaw side index with
  | error refused =>
    simp only [copyLine, placed] at failed
    cases failed
    rfl
  | ok place =>
    rw [copyLine_of_bytes placed (utf8?_characters _), copyBytes_eq] at failed
    split at failed
    · cases failed
      rfl
    · cases failed

/-- The characters of a frame have bytes, so only what else is given can be at fault. -/
def copyHeaderLine (frame : Frame) (side index : RawValue) (capacity : Nat)
    (memory : List UInt8) : Except ValueFault HeaderCopy :=
  match copied : copyLine frame.codePoints side index capacity memory with
  | .ok count after => .ok { count with memory := after }
  | .error fault _ => .error (fault.value?.get (isValue_of_copyLine copied))

end Frame

end Atomistic
