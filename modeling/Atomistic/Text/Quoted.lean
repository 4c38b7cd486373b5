import Atomistic.Text.Printable

/-! Quoted text, as it is shown inside messages. Single quotes stand around the text
unless it holds a single quote and no double quote. Characters that are not printable
are written by their code points. -/

namespace Atomistic.Text

/-- Lower-case hexadecimal digits, with zeros in front up to the width. -/
def hexadecimal (width code : Nat) : List Char :=
  let digits := Nat.toDigits 16 code
  List.replicate (width - digits.length) '0' ++ digits

def quotedChar (quote c : Char) : List Char :=
  if c = quote || c = '\\' then ['\\', c]
  else if c = '\n' then ['\\', 'n']
  else if c = '\r' then ['\\', 'r']
  else if c = '\t' then ['\\', 't']
  else if isPrintable c then [c]
  else if c.toNat < 0x100 then '\\' :: 'x' :: hexadecimal 2 c.toNat
  else if c.toNat < 0x10000 then '\\' :: 'u' :: hexadecimal 4 c.toNat
  else '\\' :: 'U' :: hexadecimal 8 c.toNat

def quoteFor (text : List Char) : Char :=
  if text.contains '\'' && !text.contains '"' then '"' else '\''

def quoted (text : List Char) : String :=
  let quote := quoteFor text
  String.ofList (quote :: text.flatMap (quotedChar quote) ++ [quote])

end Atomistic.Text
