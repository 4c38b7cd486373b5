/-! Blank characters and the fields between them. A field is a longest run of
characters that are not blank. -/

namespace Atomistic.Text

/-- A line as its characters, without the terminator. -/
abbrev Line := List Char

def isBlank (c : Char) : Bool :=
  let code := c.toNat
  (0x9 ≤ code && code ≤ 0xd) || (0x1c ≤ code && code ≤ 0x20) || code == 0x85 || code == 0xa0 ||
    code == 0x1680 || (0x2000 ≤ code && code ≤ 0x200a) || code == 0x2028 || code == 0x2029 ||
    code == 0x202f || code == 0x205f || code == 0x3000

def isBlankLine (line : Line) : Bool :=
  line.all isBlank

def fields (line : Line) : List Line :=
  (line.splitOnP isBlank).filter (!·.isEmpty)

/-- Drop the characters of a class from both ends. -/
def trim (drops : Char → Bool) (text : List Char) : List Char :=
  ((text.dropWhile drops).reverse.dropWhile drops).reverse

/-- Lines that differ only in case agree here, for ASCII letters. -/
def lowercase (text : List Char) : List Char :=
  text.map Char.toLower

end Atomistic.Text
