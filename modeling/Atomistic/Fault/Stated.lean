import Atomistic.Fault

/-! Faults of the format in a caller's own words. What the caller gives for the complaint and
for the line can be a value of any kind. -/

namespace Atomistic

/-- A message behind the line that it is about, if a line is given. -/
def onLine (line : RawValue) (message : String) : String :=
  match line with
  | .null => message
  | given => "line " ++ given.shown ++ ": " ++ message

structure StatedFault where
  category : FormatCategory
  given : RawValue
  line : RawValue

namespace StatedFault

/-- A complaint about a symbol names what was given. Any other complaint must be a text,
unless a line stands in front of it. -/
def text (fault : StatedFault) : Except ValueFault String :=
  match fault.category, fault.line, fault.given with
  | .symbol, line, given => .ok (onLine line (FormatCause.notInTable given).message)
  | _, .null, .text words => .ok words
  | _, .null, given => .error (.notWords given.kind)
  | _, line, given => .ok (onLine line given.shown)

end StatedFault

end Atomistic
