import Atomistic.Number.Layout
import Atomistic.Number.Numeral
import Atomistic.Text.Quoted

/-! Values of any kind, as a caller hands them over before they are checked. -/

namespace Atomistic

open Number Text

inductive RawValue where
  | null
  | truth (value : Bool)
  | integer (value : Int)
  | real (value : Binary64)
  | text (value : String)
  | list (items : List RawValue)
  | record (entries : List (String × RawValue))

namespace RawValue

def kind : RawValue → String
  | null => "NoneType"
  | truth _ => "bool"
  | integer _ => "int"
  | real _ => "float"
  | text _ => "str"
  | list _ => "list"
  | record _ => "dict"

/-- Zeros and empty values count as false; nan counts as true. -/
def isTrue : RawValue → Bool
  | null => false
  | truth value => value
  | integer value => value != 0
  | real value => !value.isZero
  | text value => !value.isEmpty
  | list items => !items.isEmpty
  | record entries => !entries.isEmpty

mutual

def display : RawValue → String
  | null => "None"
  | truth value => if value then "True" else "False"
  | integer value => String.ofList (writeInt value)
  | real value => String.ofList value.write
  | text value => quoted value.toList
  | list items => "[" ++ ", ".intercalate (displayItems items) ++ "]"
  | record entries => "\x7b" ++ ", ".intercalate (displayEntries entries) ++ "\x7d"

def displayItems : List RawValue → List String
  | [] => []
  | item :: rest => item.display :: displayItems rest

def displayEntries : List (String × RawValue) → List String
  | [] => []
  | (name, value) :: rest => (quoted name.toList ++ ": " ++ value.display) :: displayEntries rest

end

/-- A value as it stands inside a sentence: a text as it is, anything else as displayed. -/
def shown : RawValue → String
  | text value => value
  | other => other.display

/-- The parts of a value that has parts: characters of a text, names of a record. -/
def parts? : RawValue → Option (List RawValue)
  | text value => some (value.toList.map fun c => text (String.singleton c))
  | list items => some items
  | record entries => some (entries.map fun entry => text entry.1)
  | _ => none

end RawValue

/-- A value of one type, or something else in its place. -/
inductive Supplied (α : Type) where
  | proper (value : α)
  | other (value : RawValue)

/-- The values in front of the first item that is none, and that item. -/
def Supplied.leading {α : Type} : List (Supplied α) → List α × Option RawValue
  | [] => ([], none)
  | .proper value :: rest =>
    let found := leading rest
    (value :: found.1, found.2)
  | .other value :: _ => ([], some value)

end Atomistic
