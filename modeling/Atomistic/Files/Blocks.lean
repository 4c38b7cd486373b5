import Atomistic.Files.Encoding
import Atomistic.LineCursor

/-! The bytes of a file as lines. A line ends at a line feed, at a carriage return, and at the
two together. Bytes are decoded in blocks: where a block is no text of the encoding it is
passed over as a whole, with the line that was begun before it, and reading fails there. The
lines in front of it are read before that, and the ones behind it after that. -/

namespace Atomistic

open Text

/-- Bytes that make a character of a part of it, whatever part that is. -/
def completions : List (List UInt8) :=
  [[0x80], [0x80, 0x80], [0x80, 0x80, 0x80], [0xa0, 0x80], [0x90, 0x80, 0x80]]

/-- The first two of the three bytes of a surrogate. -/
def beginsSurrogate (bytes : ByteArray) : Bool :=
  match bytes.data.toList with
  | [first, second] => first == 0xed && 0xa0 ≤ second && second ≤ 0xbf
  | _ => false

/-- Whether bytes are the beginning of a character, and not all of it. The beginning of a
surrogate counts, although no byte after it makes a character. -/
def beginsCharacter (bytes : ByteArray) : Bool :=
  beginsSurrogate bytes || completions.any fun rest =>
    (String.fromUTF8? (bytes ++ ⟨rest.toArray⟩)).map String.length == some 1

/-- Text, and after it the first bytes of a character that is not complete. -/
structure PartlyDecoded where
  text : List Char
  unfinished : ByteArray

/-- Decode bytes that end within a character. -/
def decodeUnfinished? (bytes : ByteArray) : Option PartlyDecoded :=
  [1, 2, 3].findSome? fun count =>
    let start := bytes.size - count
    let unfinished := bytes.extract start bytes.size
    if count ≤ bytes.size && beginsCharacter unfinished then
      (String.fromUTF8? (bytes.extract 0 start)).map fun text => ⟨text.toList, unfinished⟩
    else none

def withLineFeeds (text : List Char) : List Char :=
  (text.zip (' ' :: text)).filterMap fun (c, before) =>
    if c = '\n' && before = '\r' then none
    else some (if c = '\r' then '\n' else c)

/-- Lines whose end is known for certain when more text may follow. -/
def certainLines (text : List Char) : List Line :=
  (rawLines (withLineFeeds (dropLast '\r' text))).filter (·.getLast? = some '\n')

/-- A carriage return at the end of a text, which may belong to what follows. -/
def heldReturn (text : List Char) : List Char :=
  if text.getLast? = some '\r' then ['\r'] else []

def blockSize : Nat := 8192

def blocks (bytes : ByteArray) : List ByteArray :=
  (List.range ((bytes.size + blockSize - 1) / blockSize)).map fun index =>
    bytes.extract (index * blockSize) ((index + 1) * blockSize)

namespace Encoding

/-- A block may end within a character where characters have several bytes. -/
def decodeBlock? (encoding : Encoding) (bytes : ByteArray) : Option PartlyDecoded :=
  match encoding.decode? bytes, encoding with
  | some text, _ => some ⟨text, .empty⟩
  | none, .utf8 => decodeUnfinished? bytes
  | none, _ => none

/-- The lines of what was decoded and of the blocks after it, and what happens after the
last of them. -/
def linesOfBlocks (encoding : Encoding) (before : PartlyDecoded) :
    List ByteArray → List Line × Ending
  | [] =>
    if before.unfinished.isEmpty then (rawLines (withLineFeeds before.text), .clean)
    else (certainLines before.text, .fails)
  | block :: rest =>
    match encoding.decodeBlock? (before.unfinished ++ block) with
    | some found => encoding.linesOfBlocks ⟨before.text ++ found.text, found.unfinished⟩ rest
    | none =>
      let later := encoding.linesOfBlocks ⟨heldReturn before.text, before.unfinished⟩ rest
      (certainLines before.text, .breaks later.1 later.2)

/-- The lines of a file and what happens after the last of them. -/
def lines (encoding : Encoding) (bytes : ByteArray) : List Line × Ending :=
  match encoding.decode? bytes with
  | some text => (rawLines (withLineFeeds text), .clean)
  | none => encoding.linesOfBlocks ⟨[], .empty⟩ (blocks bytes)

def cursor (encoding : Encoding) (bytes : ByteArray) : LineCursor :=
  let (lines, ending) := encoding.lines bytes
  { LineCursor.ofLines lines with ending }

end Encoding

end Atomistic
