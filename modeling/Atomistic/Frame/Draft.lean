import Atomistic.Frame.Basic

/-! Frames out of unchecked parts, given with atoms or with species blocks. -/

namespace Atomistic

open Number

def Heading.ofRaw (place : String) (given : RawValue) : Except ValueFault Heading := do
  if let .text _ := given then throw (.textForLines place)
  match ← given.parts with
  | [.text upper, .text lower] => Heading.ofTexts place upper lower
  | [.text upper, other] => do
    let _ ← HeaderLine.ofText place 0 upper
    throw (.notLine place 1 other.kind)
  | [other, _] => throw (.notLine place 0 other.kind)
  | others => throw (.notPair place others.length)

def Triple.ofRaw (place : String) (given : RawValue) : Except ValueFault Triple := do
  match ← given.parts with
  | [x, y, z] => Triple.ofDraft x y z
  | others => throw (.notTriple place others.length)

structure FrameDraft where
  preBox : RawValue
  cell : RawValue
  angles : RawValue
  postBox : RawValue
  atoms : List (Supplied Atom)

namespace FrameDraft

/-- Atoms are checked up to the first item that is none, and that item after them. -/
def check (draft : FrameDraft) : Except ValueFault Frame := do
  let preBox ← Heading.ofRaw "Frame.prebox_header" draft.preBox
  let postBox ← Heading.ofRaw "Frame.postbox_header" draft.postBox
  let cell ← BoxLengths.ofTriple (← Triple.ofRaw "Frame.cell" draft.cell)
  let angles ← Triple.ofRaw "Frame.angles" draft.angles
  let (atoms, other?) := Supplied.leading draft.atoms
  let frame ← Frame.ofAtoms preBox cell angles postBox atoms
  match other? with
  | none => return frame
  | some value => throw (.notAtom atoms.length value.kind)

/-- A draft whose atoms come in blocks. Every part is taken apart before any is checked, so
here a text counts as the list of its characters. -/
def ofBlocks (preBox cell angles postBox : RawValue) (blocks : List SpeciesBlock) :
    Except ValueFault FrameDraft :=
  return {
    preBox := .list (← preBox.parts)
    cell := .list (← cell.parts)
    angles := .list (← angles.parts)
    postBox := .list (← postBox.parts)
    atoms := (flatten blocks).map .proper }

end FrameDraft

end Atomistic
