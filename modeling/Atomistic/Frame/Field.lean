import Atomistic.Fault
import Atomistic.Text.Lines

/-! Fields of a frame's lines. A complaint about a field says nothing about its line, which
only the reader of the line knows. -/

namespace Atomistic

open Number Text

namespace FrameField

def complain {α : Type} (cause : FormatCause) : Except Fault α :=
  .error (.format ⟨cause, none⟩)

/-- One final line feed may follow a numeral. -/
def dropFinalNewline (token : Line) : Line :=
  dropLast '\n' token

/-- A token in the shape of a numeral but without a value is no fault of the format. -/
def realValue (token : Line) (numeral : RealNumeral) : Except Fault Binary64 :=
  numeral.value?.elim (.error (.value (.notNumeral (String.ofList token)))) .ok

def readReal (what : String) (token : Line) : Except Fault Binary64 :=
  match readReal? (dropFinalNewline token) with
  | some numeral => realValue token numeral
  | none => complain (.notReal what token)

def readInteger (what : String) (token : Line) : Except Fault Int :=
  match readInteger? (dropFinalNewline token) with
  | some numeral =>
    if numeral.digits.length ≤ digitLimit then .ok numeral.value
    else .error (.value (.tooManyDigits numeral.digits.length))
  | none => complain (.notInteger what token)

/-- The flag of a fixed atom: zero or one, in any spelling. -/
def readFlag (token : Line) : Except Fault Bool :=
  if token = ['0'] then .ok false
  else if token = ['1'] then .ok true
  else match readReal? (dropFinalNewline token) with
    | some numeral => do
      let value ← realValue token numeral
      if value.equals .zero then .ok false
      else if value.equals .one then .ok true
      else complain (.notFlag token)
    | none => complain (.notFlag token)

def split (what : String) (count : Int) (line : Line) : Except Fault (List Line) :=
  if (fields line).length = count then .ok (fields line)
  else complain (.fieldCount what count line)

def readReals (what : String) (count : Int) (line : Line) : Except Fault (List Binary64) := do
  (← split what count line).mapM (readReal what)

def readIntegers (what : String) (count : Int) (line : Line) : Except Fault (List Int) := do
  (← split what count line).mapM (readInteger what)

end FrameField

/-- One value of a row of fields. -/
inductive Column where
  | flag (value : Bool)
  | real (value : Binary64)
  | integer (value : Int)
  | word (text : Line)
deriving DecidableEq, Repr

namespace Column

def write : Column → Line
  | flag value => if value then ['1'] else ['0']
  | real value => value.write
  | integer value => writeInt value
  | word text => text

def ofRaw : RawValue → Column
  | .truth value => flag value
  | .real value => real value
  | .integer value => integer value
  | .text text => word text.toList
  | other => word other.display.toList

end Column

/-- The columns of a row, with one space between them. -/
def writeRow (columns : List Column) : Line :=
  [' '].intercalate (columns.map Column.write)

end Atomistic
