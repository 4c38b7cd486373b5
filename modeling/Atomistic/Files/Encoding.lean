/-! Text as bytes, and bytes as text. -/

namespace Atomistic

inductive Encoding where
  | utf8
  | latin1
  | ascii
deriving DecidableEq, Repr

namespace Encoding

/-- The number of characters that an encoding of single bytes has. -/
def byteLimit? : Encoding → Option Nat
  | utf8 => none
  | latin1 => some 0x100
  | ascii => some 0x80

def encode? (encoding : Encoding) (text : List Char) : Option ByteArray :=
  match encoding.byteLimit? with
  | none => some (String.ofList text).toUTF8
  | some limit =>
    if text.all (·.toNat < limit) then
      some ⟨(text.map fun c => UInt8.ofNat c.toNat).toArray⟩
    else none

def decode? (encoding : Encoding) (bytes : ByteArray) : Option (List Char) :=
  match encoding.byteLimit? with
  | none => (String.fromUTF8? bytes).map String.toList
  | some limit =>
    if bytes.data.all (·.toNat < limit) then
      some (bytes.data.toList.map fun byte => Char.ofNat byte.toNat)
    else none

end Encoding

end Atomistic
