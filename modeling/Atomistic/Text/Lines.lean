import Atomistic.Text.Blank

/-! The lines of a text. A raw line keeps the line feed that ends it. -/

namespace Atomistic.Text

/-- Put a character in front of a text that is already cut into raw lines. -/
def addInFront (c : Char) (lines : List Line) : List Line :=
  if c = '\n' then ['\n'] :: lines
  else match lines with
    | [] => [[c]]
    | line :: rest => (c :: line) :: rest

/-- Cut a text after each line feed. -/
def rawLines (text : List Char) : List Line :=
  text.foldr addInFront []

theorem flatten_addInFront (c : Char) (lines : List Line) :
    (addInFront c lines).flatten = c :: lines.flatten := by
  unfold addInFront
  split
  next newline => simp [newline]
  next => cases lines <;> rfl

/-- Cutting a text into lines loses nothing. -/
theorem flatten_rawLines (text : List Char) : (rawLines text).flatten = text := by
  induction text with
  | nil => rfl
  | cons c rest ih =>
    change (addInFront c (rawLines rest)).flatten = c :: rest
    rw [flatten_addInFront, ih]

def dropLast (c : Char) (line : Line) : Line :=
  if line.getLast? = some c then line.dropLast else line

/-- A line without its terminator: a line feed, a carriage return before it, or both. -/
def stripTerminator (raw : Line) : Line :=
  dropLast '\r' (dropLast '\n' raw)

/-- The text of lines, each ended by a line feed. -/
def joinLines (lines : List Line) : List Char :=
  lines.flatMap (· ++ ['\n'])

end Atomistic.Text
