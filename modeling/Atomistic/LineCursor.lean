import Atomistic.Fault
import Atomistic.Text.Lines

/-! Reading line by line. A cursor pulls raw lines from its source only when they are asked
for. To see whether anything but blank lines is left it looks ahead, and keeps the lines
that it saw for later reads. -/

namespace Atomistic

open Text

/-- What follows the last line of a source. -/
inductive Ending where
  | clean
  /-- The source fails whenever it is asked for more. -/
  | fails
  /-- The source fails when it is asked for more, and has these lines after that. -/
  | breaks (later : List Line) (ending : Ending)
deriving DecidableEq, Repr

structure LineCursor where
  unread : List Line
  ending : Ending
  /-- Lines seen but not read, numbered from one and without terminators. -/
  lookahead : List (Nat × Line)
  /-- How many raw lines were taken from the source. -/
  pulled : Nat
  /-- The number of the line read last, or zero. -/
  lineNumber : Nat
deriving DecidableEq, Repr

abbrev Reading := EStateM Fault LineCursor

namespace LineCursor

def ofLines (lines : List Line) : LineCursor :=
  ⟨lines, .clean, [], 0, 0⟩

def ofText (text : String) : LineCursor :=
  ofLines (rawLines text.toList)

/-- How many lines are still to be read before the source ends or fails. -/
def remaining (cursor : LineCursor) : Nat :=
  cursor.lookahead.length + cursor.unread.length

/-- Ask an exhausted source for more. -/
def passEnd {α : Type} (atEnd : α) : Reading α := fun cursor =>
  match cursor.ending with
  | .clean => .ok atEnd cursor
  | .fails => .error .undecodable cursor
  | .breaks later ending => .error .undecodable { cursor with unread := later, ending }

/-- The next line without its terminator, or none at the end. -/
def read : Reading (Option Line) := fun cursor =>
  match cursor.lookahead, cursor.unread with
  | (number, line) :: lookahead, _ =>
    .ok (some line) { cursor with lookahead, lineNumber := number }
  | [], raw :: unread =>
    .ok (some (stripTerminator raw))
      { cursor with unread, pulled := cursor.pulled + 1, lineNumber := cursor.pulled + 1 }
  | [], [] => passEnd none cursor

/-- Move raw lines from the source to the lookahead, up to the first that is not blank. -/
def pullThroughBlank (cursor : LineCursor) : LineCursor :=
  let blank := cursor.unread.takeWhile isBlankLine
  let taken := cursor.unread.take (blank.length + 1)
  { cursor with
    unread := cursor.unread.drop (blank.length + 1)
    lookahead := cursor.lookahead ++
      (taken.zipIdx (cursor.pulled + 1)).map fun (raw, number) => (number, stripTerminator raw)
    pulled := cursor.pulled + taken.length }

/-- Whether only blank lines are left. -/
def atEnd : Reading Bool := fun cursor =>
  if cursor.lookahead.any (!isBlankLine ·.2) then .ok false cursor
  else if cursor.unread.all isBlankLine then passEnd true cursor.pullThroughBlank
  else .ok false cursor.pullThroughBlank

/-- The end of the input came too early. It counts as one line more. -/
def failAtEnd {α : Type} (reading : String) : Reading α := fun cursor =>
  .error (.format ⟨.endOfInput reading, some (cursor.lineNumber + 1)⟩) cursor

/-- A line must follow; what is being read is named if none does. -/
def require (reading : String) : Reading Line := do
  match ← read with
  | some line => return line
  | none => failAtEnd reading

/-- Go on with a result, or fail where the cursor stands. -/
def settle {α : Type} (result : Except Fault α) : Reading α := fun cursor =>
  match result with
  | .ok value => .ok value cursor
  | .error fault => .error fault cursor

/-- Read one line as what it has to hold. A fault of the format takes the line's number. -/
def readAs {α : Type} (reading : String) (parse : Line → Except Fault α) : Reading α := do
  let line ← require reading
  settle ((parse line).mapError (Fault.atLine (← get).lineNumber))

def complain {α : Type} (cause : FormatCause) (line : Nat) : Reading α :=
  throw (.format ⟨cause, some line⟩)

end LineCursor

end Atomistic
