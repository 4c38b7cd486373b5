import Atomistic.Command.Arguments
import Atomistic.Command.Convert
import Atomistic.Command.Summary

/-! The command as a whole, from its arguments to its report. -/

namespace Atomistic.Command

def versionText : String := "0.1.0"

inductive Conclusion where
  | exits (code : Nat)
  | badParameter (message : String)
  | badUsage
  | crashes (fault : Fault)

structure Report where
  conclusion : Conclusion
  stdout : String
  stderr : String
  tree : FileTree

def act : Action → Running Unit
  | .version => print versionText
  | .summary path strict => summary path strict
  | .convert input output skip every => convert input output skip every

def Stop.conclusion : Stop → Conclusion
  | .badParameter message => .badParameter message
  | .exits code => .exits code
  | .crashes fault => .crashes fault

def run (arguments : List String) (tree : FileTree) : Report :=
  match parse? arguments with
  | none => ⟨.badUsage, "", "", tree⟩
  | some invocation =>
    match act invocation.action ⟨tree, "", "", invocation.verbose⟩ with
    | .ok _ session => ⟨.exits 0, session.stdout, session.stderr, session.tree⟩
    | .error stop session => ⟨stop.conclusion, session.stdout, session.stderr, session.tree⟩

end Atomistic.Command
