import Atomistic.Number.Numeral

/-! The arguments of the command. Options of the command itself stand in front of the name of
an action; options of an action may stand among its paths. -/

namespace Atomistic.Command

open Number

inductive Action where
  | version
  | summary (path : String) (strict : Bool)
  | convert (input output : String) (skip every : Nat)
deriving DecidableEq, Repr

def Action.paths : Action → List String
  | .version => []
  | .summary path _ => [path]
  | .convert input output _ _ => [input, output]

structure Invocation where
  verbose : Bool
  action : Action
deriving DecidableEq, Repr

/-- An option of an action: one that is set by being there, or one with a value. -/
inductive OptionKind where
  | switch
  | valued
deriving DecidableEq, Repr

/-- Options in the order given, and the other arguments. A switch has no value. -/
structure Parsed where
  options : List (String × String)
  operands : List String
deriving DecidableEq, Repr

namespace Parsed

def withOption (name value : String) (parsed : Parsed) : Parsed :=
  { parsed with options := (name, value) :: parsed.options }

def withOperand (operand : String) (parsed : Parsed) : Parsed :=
  { parsed with operands := operand :: parsed.operands }

/-- An option that is given again replaces the earlier value. -/
def value? (name : String) (parsed : Parsed) : Option String :=
  parsed.options.reverse.lookup name

end Parsed

def splitAtEquals (argument : List Char) : List Char × Option (List Char) :=
  match argument.dropWhile (· != '=') with
  | [] => (argument, none)
  | _ :: value => (argument.takeWhile (· != '='), some value)

def looksLikeOption (argument : String) : Bool :=
  argument.length > 1 && argument.toList.head? = some '-'

/-- Tell options from operands. A double dash makes operands of all that follows. An option
with a value takes the next argument, whatever it is. -/
def parseOptions? (kindOf : String → Option OptionKind) : List String → Option Parsed
  | [] => some ⟨[], []⟩
  | argument :: rest =>
    if argument = "--" then some ⟨[], rest⟩
    else if looksLikeOption argument then
      let (name, attached) := splitAtEquals argument.toList
      let name := String.ofList name
      match kindOf name, attached with
      | some .switch, none => (parseOptions? kindOf rest).map (.withOption name "")
      | some .valued, some value =>
        (parseOptions? kindOf rest).map (.withOption name (String.ofList value))
      | some .valued, none =>
        match rest with
        | value :: rest => (parseOptions? kindOf rest).map (.withOption name value)
        | [] => none
      | _, _ => none
    else (parseOptions? kindOf rest).map (.withOperand argument)

/-- The number in an option, no less than the least one allowed. -/
def count? (least default : Nat) (given : Option String) : Option Nat :=
  match given with
  | none => some default
  | some text => do
    let value ← integerOfText? text.toList
    if least ≤ value then some value.toNat else none

def summaryOption : String → Option OptionKind
  | "--strict" => some .switch
  | _ => none

def convertOption : String → Option OptionKind
  | "--skip" | "--every" => some .valued
  | _ => none

def parseAction? : List String → Option Action
  | "version" :: arguments => do
    let parsed ← parseOptions? (fun _ => none) arguments
    if parsed.operands.isEmpty then some .version else none
  | "summary" :: arguments => do
    let parsed ← parseOptions? summaryOption arguments
    match parsed.operands with
    | [path] => some (.summary path (parsed.value? "--strict").isSome)
    | _ => none
  | "convert" :: arguments => do
    let parsed ← parseOptions? convertOption arguments
    let skip ← count? 0 0 (parsed.value? "--skip")
    let every ← count? 1 1 (parsed.value? "--every")
    match parsed.operands with
    | [input, output] => some (.convert input output skip every)
    | _ => none
  | _ => none

/-- The switch for more messages, in full or as letters after one dash. -/
def isVerboseSwitch (argument : String) : Bool :=
  argument = "--verbose" ||
    match argument.toList with
    | '-' :: letter :: letters => (letter :: letters).all (· == 'v')
    | _ => false

/-- The invocation that arguments spell, if they spell one. -/
def parse? : List String → Option Invocation
  | [] => none
  | argument :: rest =>
    if isVerboseSwitch argument then
      (parse? rest).map fun invocation => { invocation with verbose := true }
    else if argument = "--" then (parseAction? rest).map (⟨false, ·⟩)
    else (parseAction? (argument :: rest)).map (⟨false, ·⟩)

end Atomistic.Command
