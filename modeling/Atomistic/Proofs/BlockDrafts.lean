import Atomistic.Proofs.MassChecks

/-! Frames are drafted with atoms or with blocks of them. With blocks, every part is taken apart
before any part is checked. That changes no part but a header given as a text: its characters
are its parts, and two characters pass for two lines. -/

namespace Atomistic

open Number

namespace RawValue

def IsText (given : RawValue) : Prop :=
  ∃ value, given = text value

/-- A value as the list of its parts, if it is a text; any other value as it is. -/
def unpacked : RawValue → RawValue
  | text value => list (value.toList.map fun c => text (String.singleton c))
  | other => other

theorem parts_eq_ok_iff {given : RawValue} {items : List RawValue} :
    given.parts = .ok items ↔ given.parts? = some items := by
  cases found : given.parts? <;> simp [parts, found]

theorem parts?_unpacked (given : RawValue) : given.unpacked.parts? = given.parts? := by
  cases given <;> rfl

theorem not_isText_unpacked (given : RawValue) : ¬ given.unpacked.IsText := by
  rintro ⟨value, same⟩
  cases given <;> cases same

theorem unpacked_of_not_isText {given : RawValue} (other : ¬ given.IsText) :
    given.unpacked = given := by
  cases given with
  | text value => exact absurd ⟨value, rfl⟩ other
  | _ => rfl

end RawValue

section Parts

/-- The parts are the two lines of a heading. -/
def AreLinesOf (heading : Heading) (items : List RawValue) : Prop :=
  items = [.text heading.upper.text, .text heading.lower.text]

private theorem ofTexts_eq_ok_iff {place upper lower : String} {heading : Heading} :
    Heading.ofTexts place upper lower = .ok heading ↔
      AreLinesOf heading [.text upper, .text lower] := by
  rw [heading_ofTexts_eq_ok_iff]
  constructor
  · rintro ⟨-, rfl, rfl⟩
    rfl
  · rintro ⟨⟩
    exact ⟨⟨isOneLine_iff.1 heading.upper.oneLine, isOneLine_iff.1 heading.lower.oneLine⟩,
      rfl, rfl⟩

private theorem heading_ofRaw_list {place : String} {items : List RawValue} {heading : Heading} :
    Heading.ofRaw place (.list items) = .ok heading ↔ AreLinesOf heading items := by
  simp only [Heading.ofRaw, RawValue.parts, RawValue.parts?, Option.elim_some, ok_bind]
  refine ⟨fun done => ?_, fun lines => ?_⟩
  · split at done
    next upper lower => exact ofTexts_eq_ok_iff.1 done
    next =>
      obtain ⟨_, -, done⟩ := result_bind_eq_ok_iff.1 done
      cases done
    next => cases done
    next => cases done
  · subst lines
    exact ofTexts_eq_ok_iff.2 rfl

private theorem heading_ofRaw_of_parts {given : RawValue} {items : List RawValue}
    (taken : given.parts? = some items) (other : ¬ given.IsText) (place : String) :
    Heading.ofRaw place given = Heading.ofRaw place (.list items) := by
  cases given with
  | text value => exact absurd ⟨value, rfl⟩ other
  | list items => cases taken; rfl
  | record entries => cases taken; rfl
  | _ => cases taken

/-- A heading is made of two lines, and never of a text. -/
theorem heading_ofRaw_eq_ok_iff {place : String} {given : RawValue} {heading : Heading} :
    Heading.ofRaw place given = .ok heading ↔
      ¬ given.IsText ∧ ∃ items, given.parts? = some items ∧ AreLinesOf heading items := by
  constructor
  · intro done
    have other : ¬ given.IsText := by
      rintro ⟨value, rfl⟩
      cases done
    cases taken : given.parts? with
    | none => cases given <;> cases taken <;> cases done
    | some items =>
      rw [heading_ofRaw_of_parts taken other, heading_ofRaw_list] at done
      exact ⟨other, items, rfl, done⟩
  · rintro ⟨other, items, taken, lines⟩
    rw [heading_ofRaw_of_parts taken other, heading_ofRaw_list]
    exact lines

theorem heading_ofRaw_unpacked_iff {place : String} {given : RawValue} {heading : Heading} :
    Heading.ofRaw place given.unpacked = .ok heading ↔
      ∃ items, given.parts? = some items ∧ AreLinesOf heading items := by
  rw [heading_ofRaw_eq_ok_iff, RawValue.parts?_unpacked]
  exact and_iff_right given.not_isText_unpacked

theorem triple_ofRaw_eq_ok_iff {place : String} {given : RawValue} {triple : Triple} :
    Triple.ofRaw place given = .ok triple ↔
      ∃ x y z, given.parts? = some [x, y, z] ∧ Triple.ofDraft x y z = .ok triple := by
  rw [Triple.ofRaw, result_bind_eq_ok_iff]
  simp only [RawValue.parts_eq_ok_iff]
  constructor
  · rintro ⟨items, taken, done⟩
    split at done
    next x y z => exact ⟨x, y, z, taken, done⟩
    next => cases done
  · rintro ⟨x, y, z, taken, done⟩
    exact ⟨_, taken, done⟩

end Parts

namespace FrameDraft

variable {draft : FrameDraft} {blocks : List SpeciesBlock} {atoms : List Atom} {frame : Frame}

/-- The draft with blocks in place of its atoms. -/
def withBlocks (draft : FrameDraft) (blocks : List SpeciesBlock) : Except ValueFault FrameDraft :=
  ofBlocks draft.preBox draft.cell draft.angles draft.postBox blocks

def HasTextHeader (draft : FrameDraft) : Prop :=
  draft.preBox.IsText ∨ draft.postBox.IsText

/-- The draft with the characters of a text header for its lines. -/
def unpacked (draft : FrameDraft) : FrameDraft :=
  { draft with preBox := draft.preBox.unpacked, postBox := draft.postBox.unpacked }

/-- A draft makes the frame of which each part is what the draft has for it. -/
theorem check_withAtoms_eq_frame_iff :
    (draft.withAtoms atoms).check = .ok frame ↔
      Heading.ofRaw "Frame.prebox_header" draft.preBox = .ok frame.preBox ∧
      Heading.ofRaw "Frame.postbox_header" draft.postBox = .ok frame.postBox ∧
      Triple.ofRaw "Frame.cell" draft.cell = .ok frame.cell.lengths ∧
      Triple.ofRaw "Frame.angles" draft.angles = .ok frame.angles ∧ frame.atoms = atoms := by
  simp only [check, withAtoms, Supplied.leading_map_proper, result_bind_eq_ok_iff, pure_eq_ok,
    boxLengths_ofTriple_eq_ok_iff, ofAtoms_eq_ok_iff, Except.ok.injEq]
  constructor
  · rintro ⟨preBox, before, postBox, after, lengths, sized, cell, ⟨-, rfl⟩, angles, turned, made,
      ⟨-, rfl, rfl, rfl, rfl, rfl⟩, rfl⟩
    exact ⟨before, after, sized, turned, rfl⟩
  · rintro ⟨before, after, sized, turned, rfl⟩
    exact ⟨_, before, _, after, _, sized, _, ⟨frame.cell.notNegative, rfl⟩, _, turned, frame,
      ⟨frame.massesEqual, rfl, rfl, rfl, rfl, rfl⟩, rfl⟩

private theorem withBlocks_eq_ok_iff {made : FrameDraft} :
    draft.withBlocks blocks = .ok made ↔
      ∃ before lengths angles after, draft.preBox.parts? = some before ∧
        draft.cell.parts? = some lengths ∧ draft.angles.parts? = some angles ∧
        draft.postBox.parts? = some after ∧
        made = withAtoms ⟨.list before, .list lengths, .list angles, .list after, []⟩
          (flatten blocks) := by
  simp only [withBlocks, ofBlocks, result_bind_eq_ok_iff, RawValue.parts_eq_ok_iff, pure_eq_ok,
    Except.ok.injEq]
  constructor
  · rintro ⟨before, pre, lengths, cell, angles, turned, after, post, rfl⟩
    exact ⟨before, lengths, angles, after, pre, cell, turned, post, rfl⟩
  · rintro ⟨before, lengths, angles, after, pre, cell, turned, post, rfl⟩
    exact ⟨before, pre, lengths, cell, angles, turned, after, post, rfl⟩

/-- Taking the parts apart first does to a header what unpacking does, and to the box nothing. -/
theorem check_withBlocks_eq_ok_iff :
    (draft.withBlocks blocks >>= check) = .ok frame ↔
      (draft.unpacked.withAtoms (flatten blocks)).check = .ok frame := by
  rw [result_bind_eq_ok_iff, check_withAtoms_eq_frame_iff]
  simp only [unpacked, heading_ofRaw_unpacked_iff, triple_ofRaw_eq_ok_iff]
  constructor
  · rintro ⟨made, opened, done⟩
    obtain ⟨before, lengths, angles, after, pre, cell, turned, post, rfl⟩ :=
      withBlocks_eq_ok_iff.1 opened
    rw [check_withAtoms_eq_frame_iff] at done
    simp only [heading_ofRaw_list, triple_ofRaw_eq_ok_iff, RawValue.parts?] at done
    obtain ⟨upper, lower, ⟨x, y, z, ⟨⟩, sized⟩, ⟨_, _, _, ⟨⟩, placed⟩, atoms⟩ := done
    exact ⟨⟨before, pre, upper⟩, ⟨after, post, lower⟩, ⟨x, y, z, cell, sized⟩,
      ⟨_, _, _, turned, placed⟩, atoms⟩
  · rintro ⟨⟨before, pre, upper⟩, ⟨after, post, lower⟩, ⟨x, y, z, cell, sized⟩,
      ⟨alpha, beta, gamma, turned, placed⟩, atoms⟩
    refine ⟨_, withBlocks_eq_ok_iff.2 ⟨before, _, _, after, pre, cell, turned, post, rfl⟩, ?_⟩
    rw [check_withAtoms_eq_frame_iff]
    simp only [heading_ofRaw_list, triple_ofRaw_eq_ok_iff, RawValue.parts?]
    exact ⟨upper, lower, ⟨x, y, z, rfl, sized⟩, ⟨alpha, beta, gamma, rfl, placed⟩, atoms⟩

/-- A draft with a header given as a text makes no frame with atoms. Without one it makes the
same frames with atoms as with blocks. -/
theorem check_flatten_eq_ok_iff :
    (draft.withAtoms (flatten blocks)).check = .ok frame ↔
      ¬ draft.HasTextHeader ∧ (draft.withBlocks blocks >>= check) = .ok frame := by
  rw [check_withBlocks_eq_ok_iff]
  constructor
  · intro done
    obtain ⟨before, after, -⟩ := check_withAtoms_eq_frame_iff.1 done
    have pre := (heading_ofRaw_eq_ok_iff.1 before).1
    have post := (heading_ofRaw_eq_ok_iff.1 after).1
    refine ⟨fun given => given.elim pre post, ?_⟩
    rwa [unpacked, RawValue.unpacked_of_not_isText pre, RawValue.unpacked_of_not_isText post]
  · rintro ⟨none, done⟩
    obtain ⟨pre, post⟩ := not_or.1 none
    rwa [unpacked, RawValue.unpacked_of_not_isText pre,
      RawValue.unpacked_of_not_isText post] at done

/-- A draft makes the same of blocks as of their atoms. -/
structure BuiltAlike (draft : FrameDraft) (blocks : List SpeciesBlock) : Prop where
  accepted : (∃ frame, (draft.withBlocks blocks >>= check) = .ok frame) ↔
    ∃ frame, (draft.withAtoms (flatten blocks)).check = .ok frame
  same : ∀ frame other, (draft.withBlocks blocks >>= check) = .ok frame →
    (draft.withAtoms (flatten blocks)).check = .ok other → frame = other

/-- Blocks and their atoms make the same frame of a draft, unless a header is a text and the
draft makes a frame once the characters of the text are its lines. That takes two characters
which are no line breaks. -/
theorem builtAlike_iff (draft : FrameDraft) (blocks : List SpeciesBlock) :
    (draft.BuiltAlike blocks ↔ ¬ (draft.HasTextHeader ∧
      ∃ frame, (draft.unpacked.withAtoms (flatten blocks)).check = .ok frame)) ∧
    (∀ frame, (draft.withBlocks blocks >>= check) = .ok frame ↔
      (draft.unpacked.withAtoms (flatten blocks)).check = .ok frame) ∧
    (∀ frame, (draft.withAtoms (flatten blocks)).check = .ok frame ↔
      ¬ draft.HasTextHeader ∧ (draft.withBlocks blocks >>= check) = .ok frame) ∧
    ∀ place text heading, Heading.ofRaw place (RawValue.text text).unpacked = .ok heading ↔
      text.toList.map String.singleton = [heading.upper.text, heading.lower.text] := by
  refine ⟨⟨?_, fun fits => ⟨?_, ?_⟩⟩, fun frame => check_withBlocks_eq_ok_iff,
    fun frame => check_flatten_eq_ok_iff, fun place text heading => ?_⟩
  · rintro ⟨accepted, -⟩ ⟨given, frame, done⟩
    obtain ⟨other, met⟩ := accepted.1 ⟨frame, check_withBlocks_eq_ok_iff.2 done⟩
    exact (check_flatten_eq_ok_iff.1 met).1 given
  · constructor
    · rintro ⟨frame, done⟩
      refine ⟨frame, check_flatten_eq_ok_iff.2 ⟨fun given => fits ⟨given, frame, ?_⟩, done⟩⟩
      exact check_withBlocks_eq_ok_iff.1 done
    · rintro ⟨frame, done⟩
      exact ⟨frame, (check_flatten_eq_ok_iff.1 done).2⟩
  · intro frame other fromBlocks fromAtoms
    have again := (check_flatten_eq_ok_iff.1 fromAtoms).2
    exact Except.ok.inj (fromBlocks.symm.trans again)
  · have single : Function.Injective (List.map RawValue.text) :=
      List.map_injective_iff.2 fun _ _ => RawValue.text.inj
    have lines : (text.toList.map fun c => RawValue.text (String.singleton c)) =
        (text.toList.map String.singleton).map RawValue.text := by simp
    rw [RawValue.unpacked, heading_ofRaw_list, AreLinesOf, lines]
    change _ = [heading.upper.text, heading.lower.text].map RawValue.text ↔ _
    exact single.eq_iff

/-- One hydrogen atom. -/
def hydrogenBlock : SpeciesBlock :=
  ⟨Document.hydrogen, .one, [⟨⟨.zero, .zero, .zero⟩, 7, false⟩]⟩

/-- The draft without atoms, its upper header given as a text of two characters. -/
def textHeaded : FrameDraft :=
  { bare with preBox := .text "ab" }

theorem builtAlike_iff_bare :
    bare.BuiltAlike [hydrogenBlock] ∧
      ((bare.withBlocks [hydrogenBlock] >>= check).map Frame.atoms =
        .ok (flatten [hydrogenBlock])) := by
  refine ⟨(builtAlike_iff bare [hydrogenBlock]).1.2 ?_, by decide +kernel⟩
  rintro ⟨⟨value, ⟨⟩⟩ | ⟨value, ⟨⟩⟩, -⟩

/-- Two characters pass for the two lines of a header if the atoms come in blocks. -/
theorem check_takes_text_for_lines :
    (textHeaded.withBlocks [] >>= check).isOk = true ∧
      (textHeaded.withAtoms (flatten [])).check = .error (.textForLines "Frame.prebox_header") ∧
      ¬ textHeaded.BuiltAlike [] := by
  have passes : (textHeaded.withBlocks [] >>= check).isOk = true := by decide +kernel
  have refused : (textHeaded.withAtoms (flatten [])).check =
      .error (.textForLines "Frame.prebox_header") := by decide +kernel
  refine ⟨passes, refused, fun alike => ?_⟩
  cases built : textHeaded.withBlocks [] >>= check with
  | ok frame =>
    obtain ⟨other, met⟩ := alike.accepted.1 ⟨frame, built⟩
    cases refused.symm.trans met
  | error fault =>
    rw [built] at passes
    cases passes

end FrameDraft

end Atomistic
