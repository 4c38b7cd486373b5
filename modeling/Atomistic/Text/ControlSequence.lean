/-! Sequences that control a terminal: an escape, an opening bracket, parameters, and a
letter. -/

namespace Atomistic.Text

def escape : Char := Char.ofNat 0x1b

def isControlParameter (c : Char) : Bool :=
  c.isDigit || c == ';' || c == '?'

/-- What follows the parameters and the letter of a control sequence. -/
def afterControlLetter? (text : List Char) : Option (List Char) :=
  match text.dropWhile isControlParameter with
  | letter :: rest => if letter.isAlpha then some rest else none
  | [] => none

/-- What follows a control sequence, if the text begins with one. -/
def afterControlSequence? : List Char → Option (List Char)
  | c :: '[' :: rest => if c = escape then afterControlLetter? rest else none
  | _ => none

theorem length_afterControlLetter {text rest : List Char}
    (found : afterControlLetter? text = some rest) : rest.length < text.length := by
  have shorter := (List.dropWhile_sublist isControlParameter (l := text)).length_le
  unfold afterControlLetter? at found
  split at found
  next letter later cut =>
    rw [cut] at shorter
    split at found <;> cases found
    exact shorter
  next => cases found

theorem length_afterControlSequence {text rest : List Char}
    (found : afterControlSequence? text = some rest) : rest.length < text.length := by
  unfold afterControlSequence? at found
  split at found
  next c later =>
    split at found
    next =>
      have shorter := length_afterControlLetter found
      simp only [List.length_cons]
      omega
    next => cases found
  next => cases found

/-- The text without its control sequences. What comes together where one is taken out does
not make another. -/
def withoutControl : List Char → List Char
  | [] => []
  | c :: rest =>
    match _found : afterControlSequence? (c :: rest) with
    | some later => withoutControl later
    | none => c :: withoutControl rest
termination_by text => text.length
decreasing_by
  · exact length_afterControlSequence _found
  · simp

end Atomistic.Text
