import Atomistic.Frame.Draft
import Atomistic.Proofs.FrameRecognition
import Atomistic.Proofs.RoundTrip

/-! Masses are checked in two places: when a frame is built and when atoms are grouped. The
checks differ in one point. Building holds each atom to what its species has declared, an
atom that declares it included; grouping does so from the second atom on. So both say the
same wherever no mass is nan, and a lone atom of mass nan can be grouped but is in no frame. -/

namespace Atomistic

open Number

/-- Two atoms of one species have different masses, an earlier one and a later one. -/
def MassesDiffer (atoms : List Atom) : Prop :=
  ∃ one other, [one, other].Sublist atoms ∧ one.number = other.number ∧
    one.mass.equals other.mass = false

/-- Every atom has a number for its mass. -/
def AreWeighed (atoms : List Atom) : Prop :=
  ∀ atom ∈ atoms, atom.mass ≠ .nan

section Conflicts

theorem groupConflict?_eq_none_iff_not_differ {atoms : List Atom} :
    groupConflict? atoms = none ↔ ¬ MassesDiffer atoms := by
  rw [groupConflict?_eq_none_iff, List.pairwise_iff_forall_sublist, MassesDiffer]
  constructor
  · rintro equal ⟨one, other, placed, same, differ⟩
    rw [equal placed same] at differ
    cases differ
  · intro alike one other placed same
    by_contra differ
    exact alike ⟨one, other, placed, same, Bool.eq_false_iff.2 differ⟩

theorem not_massesDiffer_of_nodup {atoms : List Atom}
    (distinct : (atoms.map Atom.number).Nodup) : ¬ MassesDiffer atoms := by
  rintro ⟨one, other, placed, same, -⟩
  have apart := (placed.map Atom.number).nodup distinct
  simp [same] at apart

theorem MassesAgree.weighed {atoms : List Atom} (agree : MassesAgree atoms) :
    AreWeighed atoms :=
  fun atom inside => (Binary64.equals_self_iff _).1 (agree atom inside atom inside rfl)

private theorem lookup_declarations_append {before rest : List Atom} {number : AtomicNumber} :
    (declarations (before ++ rest)).lookup number =
      ((declarations before).lookup number).or ((declarations rest).lookup number) := by
  rw [declarations, List.map_append, List.lookup_append]
  rfl

private theorem lookup_statement_cons {number stated : AtomicNumber} {mass : Binary64}
    {rest : List (AtomicNumber × Binary64)} :
    ((stated, mass) :: rest).lookup number =
      if number = stated then some mass else rest.lookup number := by
  by_cases same : number = stated
  · rw [if_pos same, same, List.lookup_cons_self]
  · rw [if_neg same, List.lookup_cons, beq_eq_false_iff_ne.2 same]

/-- What is wrong with one statement, given all that is stated. -/
private def conflictWith? (stated : List (AtomicNumber × Binary64))
    (entry : (AtomicNumber × Binary64) × Nat) : Option MassConflict :=
  (stated.lookup entry.1.1).bind fun declared =>
    if declared.equals entry.1.2 then none
    else some ⟨entry.2, entry.1.1, entry.1.2, declared⟩

/-- The pass of grouping knows the masses of the atoms before. The search through all that
is stated finds the same for them, and for an atom that declares its own mass it compares
that mass with itself. -/
private theorem laterMassConflict?_eq_findSome? {before rest : List Atom}
    {declared : List (AtomicNumber × Binary64)} (weighed : AreWeighed rest)
    (known : ∀ number, declared.lookup number = (declarations before).lookup number) :
    laterMassConflict? before.length declared rest =
      ((declarations rest).zipIdx before.length).findSome?
        (conflictWith? (declarations (before ++ rest))) := by
  induction rest generalizing before declared with
  | nil => rfl
  | cons atom rest ih =>
    obtain ⟨itself, others⟩ := List.forall_mem_cons.1 weighed
    have later {declared' : List (AtomicNumber × Binary64)}
        (known' : ∀ number, declared'.lookup number =
          (declarations (before ++ [atom])).lookup number) :
        laterMassConflict? (before.length + 1) declared' rest =
          ((declarations rest).zipIdx (before.length + 1)).findSome?
            (conflictWith? (declarations (before ++ atom :: rest))) := by
      simpa using ih others known'
    have stated : declarations (atom :: rest) =
        (atom.number, atom.mass) :: declarations rest := rfl
    have first : (declarations (before ++ atom :: rest)).lookup atom.number =
        (declared.lookup atom.number).or (some atom.mass) := by
      rw [lookup_declarations_append, ← known, stated, List.lookup_cons_self]
    rw [laterMassConflict?, stated, List.zipIdx_cons, List.findSome?_cons]
    split
    next unknown =>
      have self := (Binary64.equals_self_iff atom.mass).2 itself
      rw [later]
      · simp [conflictWith?, first, unknown, self]
      · intro number
        rw [lookup_declarations_append, lookup_statement_cons, known]
        by_cases same : number = atom.number
        · rw [same, ← known, unknown]
          simp [declarations]
        · simp [same, declarations, lookup_statement_cons]
    next mass found =>
      by_cases equal : mass.equals atom.mass = true
      · rw [if_pos equal, later]
        · simp [conflictWith?, first, found, equal]
        · intro number
          rw [lookup_declarations_append, known]
          by_cases same : number = atom.number
          · rw [same, ← known, found, Option.some_or]
          · simp [same, declarations, lookup_statement_cons]
      · simp [conflictWith?, first, found, equal]

/-- Where every mass is a number, both checks stop at the same atom with the same complaint. -/
theorem massConflict?_eq_groupConflict? {atoms : List Atom} (weighed : AreWeighed atoms) :
    massConflict? (declarations atoms) = groupConflict? atoms :=
  (@laterMassConflict?_eq_findSome? [] atoms [] weighed fun _ => rfl).symm

theorem massesAgree_iff {atoms : List Atom} :
    MassesAgree atoms ↔ ¬ MassesDiffer atoms ∧ AreWeighed atoms := by
  rw [← massConflict?_declarations, ← groupConflict?_eq_none_iff_not_differ]
  constructor
  · intro none
    have weighed := (massConflict?_declarations.1 none).weighed
    exact ⟨massConflict?_eq_groupConflict? weighed ▸ none, weighed⟩
  · rintro ⟨none, weighed⟩
    rwa [massConflict?_eq_groupConflict? weighed]

theorem exists_group_eq_ok_iff {atoms : List Atom} :
    (∃ blocks, group atoms = .ok blocks) ↔ ¬ MassesDiffer atoms := by
  simp only [group_eq_ok_iff, exists_eq_right', ← groupConflict?_eq_none_iff,
    groupConflict?_eq_none_iff_not_differ]

theorem group_eq_error_iff {atoms : List Atom} {fault : ValueFault} :
    group atoms = .error fault ↔
      ∃ conflict, groupConflict? atoms = some conflict ∧
        fault = .groupMassDiffers conflict.index conflict.mass conflict.declared
          conflict.number.value := by
  unfold group
  split
  next conflict found =>
    rw [found, Except.error.injEq]
    constructor
    · rintro rfl
      exact ⟨conflict, rfl, rfl⟩
    · rintro ⟨_, ⟨⟩, rfl⟩
      rfl
  next none => simp [none]

end Conflicts

section Drafts

@[simp]
theorem Supplied.leading_map_proper {α : Type} (values : List α) :
    Supplied.leading (values.map .proper) = (values, none) := by
  induction values with
  | nil => rfl
  | cons value rest ih => rw [List.map_cons, Supplied.leading, ih]

namespace FrameDraft

/-- The draft with these atoms in place of its own. -/
def withAtoms (draft : FrameDraft) (atoms : List Atom) : FrameDraft :=
  { draft with atoms := atoms.map .proper }

variable {draft : FrameDraft} {blank : Frame}

/-- A draft that is valid with no atoms at all fails on account of its atoms only. -/
theorem check_withAtoms (valid : (draft.withAtoms []).check = .ok blank) (atoms : List Atom) :
    (draft.withAtoms atoms).check =
      Frame.ofAtoms blank.preBox blank.cell blank.angles blank.postBox atoms := by
  simp only [check, withAtoms, Supplied.leading_map_proper, result_bind_eq_ok_iff] at valid ⊢
  obtain ⟨preBox, before, postBox, after, lengths, triple, cell, box, angles, turned, frame,
    built, done⟩ := valid
  cases done
  obtain ⟨-, rfl, rfl, rfl, rfl, -⟩ := ofAtoms_eq_ok_iff.1 built
  simp only [before, after, triple, box, turned, ok_bind]
  cases Frame.ofAtoms blank.preBox blank.cell blank.angles blank.postBox atoms <;> rfl

theorem check_withAtoms_eq_ok_iff (valid : (draft.withAtoms []).check = .ok blank)
    {atoms : List Atom} :
    (∃ frame, (draft.withAtoms atoms).check = .ok frame) ↔
      ¬ MassesDiffer atoms ∧ AreWeighed atoms := by
  rw [check_withAtoms valid, ← massesAgree_iff, ← massConflict?_declarations]
  unfold Frame.ofAtoms
  split
  next agree => simp [agree]
  next conflict found => simp [found]

theorem check_withAtoms_eq_error_iff (valid : (draft.withAtoms []).check = .ok blank)
    {atoms : List Atom} {fault : ValueFault} :
    (draft.withAtoms atoms).check = .error fault ↔
      ∃ conflict, massConflict? (declarations atoms) = some conflict ∧
        fault = .massDiffers conflict.index conflict.mass conflict.declared
          conflict.number.value := by
  rw [check_withAtoms valid]
  unfold Frame.ofAtoms
  split
  next agree => simp [agree]
  next conflict found =>
    rw [found, Except.error.injEq]
    constructor
    · rintro rfl
      exact ⟨conflict, rfl, rfl⟩
    · rintro ⟨_, ⟨⟩, rfl⟩
      rfl

/-- Building a frame and grouping judge the masses of atoms alike. -/
structure JudgedAlike (draft : FrameDraft) (atoms : List Atom) : Prop where
  accepted : (∃ frame, (draft.withAtoms atoms).check = .ok frame) ↔
    ∃ blocks, group atoms = .ok blocks
  refused : ((¬ ∃ frame, (draft.withAtoms atoms).check = .ok frame) ∧
    ¬ ∃ blocks, group atoms = .ok blocks) ↔ MassesDiffer atoms
  single : (atoms.map Atom.number).Nodup →
    (∃ frame, (draft.withAtoms atoms).check = .ok frame) ∧ ∃ blocks, group atoms = .ok blocks

/-- A lone atom of mass nan is what the checks disagree on: building a frame refuses it and
grouping does not, unless other atoms differ. -/
theorem judgedAlike_iff (valid : (draft.withAtoms []).check = .ok blank) :
    (∀ atoms, draft.JudgedAlike atoms ↔ MassesDiffer atoms ∨ AreWeighed atoms) ∧
    (∀ atoms, ((¬ ∃ frame, (draft.withAtoms atoms).check = .ok frame) ∧
      ¬ ∃ blocks, group atoms = .ok blocks) ↔ MassesDiffer atoms) ∧
    (∀ atoms, ((¬ ∃ frame, (draft.withAtoms atoms).check = .ok frame) ∧
      ∃ blocks, group atoms = .ok blocks) ↔ ¬ MassesDiffer atoms ∧ ¬ AreWeighed atoms) ∧
    (∀ atoms fault, (draft.withAtoms atoms).check = .error fault →
      ∃ index mass declared number, fault = .massDiffers index mass declared number) ∧
    (∀ atoms, AreWeighed atoms → ∀ index mass declared number,
      (draft.withAtoms atoms).check = .error (.massDiffers index mass declared number) ↔
        group atoms = .error (.groupMassDiffers index mass declared number)) ∧
    ∀ frame : Frame, group frame.atoms = .ok frame.blocks := by
  have built (atoms : List Atom) := @check_withAtoms_eq_ok_iff _ _ valid atoms
  have grouped (atoms : List Atom) := @exists_group_eq_ok_iff atoms
  refine ⟨fun atoms => ⟨fun alike => ?_, fun cause => ?_⟩, fun atoms => ?_, fun atoms => ?_,
    fun atoms fault failed => ?_, fun atoms weighed index mass declared number => ?_,
    fun frame => group_of_massesAgree frame.massesEqual⟩
  · have accepted := alike.accepted
    rw [built, grouped] at accepted
    by_cases differ : MassesDiffer atoms
    · exact .inl differ
    · exact .inr (accepted.2 differ).2
  · have same : (∃ frame, (draft.withAtoms atoms).check = .ok frame) ↔
        ∃ blocks, group atoms = .ok blocks := by
      rw [built, grouped]
      rcases cause with differ | weighed
      · simp [differ]
      · simp [weighed]
    refine ⟨same, ?_, fun distinct => ?_⟩
    · rw [same, and_self, grouped, not_not]
    · have alike := not_massesDiffer_of_nodup distinct
      exact ⟨same.2 ((grouped atoms).2 alike), (grouped atoms).2 alike⟩
  · rw [built, grouped]
    tauto
  · rw [built, grouped]
    tauto
  · obtain ⟨conflict, -, rfl⟩ := (check_withAtoms_eq_error_iff valid).1 failed
    exact ⟨_, _, _, _, rfl⟩
  · rw [check_withAtoms_eq_error_iff valid, group_eq_error_iff,
      massConflict?_eq_groupConflict? weighed]
    simp only [ValueFault.massDiffers.injEq, ValueFault.groupMassDiffers.injEq]

/-- A draft with header lines and box and no atoms. -/
def bare : FrameDraft where
  preBox := .list [.text "a", .text "b"]
  cell := .list [.real .one, .real .one, .real .zero]
  angles := .list [.real .one, .real .one, .real .one]
  postBox := .list [.text "c", .text "d"]
  atoms := []

/-- A hydrogen atom whose mass is nan. -/
def weightless : Atom :=
  ⟨Document.hydrogen, .nan, ⟨⟨.zero, .zero, .zero⟩, 0, false⟩⟩

theorem judgedAlike_iff_bare :
    (∃ blank, (bare.withAtoms []).check = .ok blank) ∧
      bare.JudgedAlike Document.scattered.atoms ∧ ¬ bare.JudgedAlike [weightless] := by
  obtain ⟨blank, valid⟩ : ∃ blank, (bare.withAtoms []).check = .ok blank := by
    have passes : (bare.withAtoms []).check.isOk = true := by decide +kernel
    cases checked : (bare.withAtoms []).check with
    | ok blank => exact ⟨blank, rfl⟩
    | error fault =>
      rw [checked] at passes
      cases passes
  obtain ⟨alike, -⟩ := judgedAlike_iff valid
  have weighed : AreWeighed Document.scattered.atoms := Document.scattered.massesEqual.weighed
  have apart : ¬ MassesDiffer [weightless] := not_massesDiffer_of_nodup (by simp)
  refine ⟨⟨blank, valid⟩, (alike _).2 (.inr weighed), fun agree => ?_⟩
  exact ((alike _).1 agree).elim apart fun numbers => numbers weightless (by simp) rfl

theorem check_refuses_weightless :
    (bare.withAtoms [weightless]).check = .error (.massDiffers 0 .nan .nan 1) ∧
      group [weightless] = .ok [⟨Document.hydrogen, .nan, [weightless.site]⟩] ∧
      ([weightless].map Atom.number).Nodup ∧ ¬ MassesDiffer [weightless] :=
  ⟨by decide +kernel, by decide +kernel, by decide +kernel,
    not_massesDiffer_of_nodup (by decide +kernel)⟩

end FrameDraft

end Drafts

end Atomistic
