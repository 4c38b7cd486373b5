import Atomistic.Files.Trajectory
import Atomistic.Text.ControlSequence

/-! Running a command: the files it works on, what it prints, and how it ends. -/

namespace Atomistic.Command

structure Session where
  tree : FileTree
  stdout : String
  stderr : String
  verbose : Bool

inductive Stop where
  | badParameter (message : String)
  | exits (code : Nat)
  | crashes (fault : Fault)

abbrev Running := EStateM Stop Session

/-- A line as it is printed: it cannot control the terminal. -/
def plainLine (line : String) : String :=
  String.ofList (Text.withoutControl line.toList) ++ "\n"

def print (line : String) : Running Unit :=
  modify fun session => { session with stdout := session.stdout ++ plainLine line }

def warn (line : String) : Running Unit :=
  modify fun session => { session with stderr := session.stderr ++ plainLine line }

/-- A message for those who want more of them. -/
def inform (message : String) : Running Unit :=
  modify fun session =>
    if session.verbose then
      { session with stderr := session.stderr ++ "  INFO   | " ++ message ++ "\n" }
    else session

theorem inform_eq (message : String) (session : Session) :
    ∃ begun, inform message session = .ok () begun ∧ begun.tree = session.tree ∧
      begun.stdout = session.stdout := by
  refine ⟨_, rfl, ?_, ?_⟩
  · dsimp only
    split <;> rfl
  · dsimp only
    split <;> rfl

/-- Work on the files; a fault there becomes a stop. -/
def withFiles {α : Type} (stop : Fault → Stop) (filing : Filing α) : Running α := fun session =>
  match filing session.tree with
  | .ok value tree => .ok value { session with tree }
  | .error fault tree => .error (stop fault) { session with tree }

end Atomistic.Command
