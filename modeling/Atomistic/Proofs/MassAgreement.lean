import Atomistic.Frame.Basic
import Mathlib.Data.List.Nodup

/-! Atoms that agree on the mass of their species. They do so in whatever order they stand,
so what was checked for a frame lets its atoms be grouped. -/

namespace Atomistic

open Number

theorem Number.Binary64.equals_trans {x y z : Binary64} (left : x.equals y = true)
    (right : y.equals z = true) : x.equals z = true := by
  cases x with
  | nan => cases left
  | infinite negative => cases y <;> cases z <;> simp_all [Binary64.equals]
  | finite negative rank =>
    cases y with
    | nan => cases left
    | infinite negative => cases left
    | finite negative' rank' =>
      cases z with
      | nan => cases right
      | infinite negative => cases right
      | finite negative'' rank'' =>
        simp only [Binary64.equals, Bool.and_eq_true, Bool.or_eq_true, decide_eq_true_eq,
          beq_iff_eq] at left right ⊢
        obtain ⟨rfl, signs⟩ := left
        obtain ⟨rfl, signs'⟩ := right
        rcases signs with rfl | zero
        · exact ⟨rfl, signs'⟩
        · exact ⟨rfl, .inr zero⟩

/-- Atoms of one species have equal masses. An atom is held to itself as well, so nan is
the mass of none. -/
def MassesAgree (atoms : List Atom) : Prop :=
  ∀ one ∈ atoms, ∀ other ∈ atoms, one.number = other.number → one.mass.equals other.mass = true

theorem MassesAgree.tail {atom : Atom} {rest : List Atom} (agree : MassesAgree (atom :: rest)) :
    MassesAgree rest :=
  fun one inside other within =>
    agree one (List.mem_cons_of_mem _ inside) other (List.mem_cons_of_mem _ within)

private theorem massConflict?_eq_none {stated : List (AtomicNumber × Binary64)} :
    massConflict? stated = none ↔ ∀ entry ∈ stated, ∀ declared,
      stated.lookup entry.1 = some declared → declared.equals entry.2 = true := by
  unfold massConflict?
  rw [List.findSome?_eq_none_iff]
  constructor
  · intro none entry member declared found
    obtain ⟨index, inside, rfl⟩ := List.mem_iff_getElem.1 member
    have checked := none (stated[index], index) (List.mem_zipIdx_iff_getElem?.2 (by simp))
    simpa [found] using checked
  · rintro agree ⟨entry, index⟩ member
    have inside := List.mem_of_getElem? (List.mem_zipIdx_iff_getElem?.1 member)
    cases found : stated.lookup entry.1 with
    | none => simp [found]
    | some declared => simp [found, agree entry inside declared found]

private theorem lookup_declarations {atoms : List Atom} {atom : Atom} (member : atom ∈ atoms) :
    ∃ first ∈ atoms, first.number = atom.number ∧
      (declarations atoms).lookup atom.number = some first.mass := by
  have found : ((declarations atoms).lookup atom.number).isSome := by
    rw [List.lookup_isSome_iff]
    exact ⟨_, List.mem_map_of_mem member, by simp⟩
  obtain ⟨declared, found⟩ := Option.isSome_iff_exists.1 found
  obtain ⟨before, after, cut, -⟩ := List.lookup_eq_some_iff.1 found
  have inside : (atom.number, declared) ∈ declarations atoms := by simp [cut]
  obtain ⟨first, among, same⟩ := List.mem_map.1 inside
  obtain ⟨number, mass⟩ := Prod.mk.inj same
  exact ⟨first, among, number, by rw [found, mass]⟩

theorem massConflict?_declarations {atoms : List Atom} :
    massConflict? (declarations atoms) = none ↔ MassesAgree atoms := by
  rw [massConflict?_eq_none]
  constructor
  · intro agree one inside other within same
    obtain ⟨first, -, -, found⟩ := lookup_declarations inside
    have left := agree _ (List.mem_map_of_mem inside) _ found
    have right := agree _ (List.mem_map_of_mem within) _ (same ▸ found)
    rw [Binary64.equals_comm] at left
    exact Binary64.equals_trans left right
  · intro agree entry member declared found
    obtain ⟨atom, inside, rfl⟩ := List.mem_map.1 member
    obtain ⟨first, among, same, itsMass⟩ := lookup_declarations inside
    rw [found] at itsMass
    cases itsMass
    exact agree first among atom inside same

/-- What is declared holds for every atom that comes, and an atom declares the mass of its species
only if it is the first. So the atoms have to agree two by two. -/
private theorem laterMassConflict?_eq_none_iff {index : Nat}
    {declared : List (AtomicNumber × Binary64)} {atoms : List Atom}
    (distinct : (declared.map Prod.fst).Nodup) :
    laterMassConflict? index declared atoms = none ↔
      (∀ entry ∈ declared, ∀ atom ∈ atoms,
        entry.1 = atom.number → entry.2.equals atom.mass = true) ∧
      atoms.Pairwise fun one other =>
        one.number = other.number → one.mass.equals other.mass = true := by
  induction atoms generalizing index declared with
  | nil => simp [laterMassConflict?]
  | cons atom rest ih =>
    rw [List.pairwise_cons]
    unfold laterMassConflict?
    split
    next unknown =>
      have new : ∀ entry ∈ declared, entry.1 ≠ atom.number := by
        intro entry member same
        simpa [same] using List.lookup_eq_none_iff.1 unknown entry member
      have distinct' : (((atom.number, atom.mass) :: declared).map Prod.fst).Nodup := by
        refine List.nodup_cons.2 ⟨?_, distinct⟩
        intro again
        obtain ⟨entry, member, same⟩ := List.mem_map.1 again
        exact new entry member same
      rw [ih distinct', List.forall_mem_cons]
      constructor
      · rintro ⟨⟨first, earlier⟩, others⟩
        refine ⟨?_, first, others⟩
        intro entry member
        exact List.forall_mem_cons.2 ⟨fun same => absurd same (new entry member),
          earlier entry member⟩
      · rintro ⟨earlier, first, others⟩
        refine ⟨⟨first, ?_⟩, others⟩
        exact fun entry member => (List.forall_mem_cons.1 (earlier entry member)).2
    next mass found =>
      obtain ⟨before, after, cut, -⟩ := List.lookup_eq_some_iff.1 found
      have member : (atom.number, mass) ∈ declared := by simp [cut]
      split
      next equal =>
        rw [ih distinct]
        constructor
        · rintro ⟨earlier, others⟩
          refine ⟨fun entry among => List.forall_mem_cons.2 ⟨?_, earlier entry among⟩, ?_, others⟩
          · intro same
            rwa [List.inj_on_of_nodup_map distinct among member same]
          · intro other inside same
            rw [Binary64.equals_comm] at equal
            exact Binary64.equals_trans equal (earlier _ member other inside same)
        · rintro ⟨earlier, -, others⟩
          exact ⟨fun entry among => (List.forall_mem_cons.1 (earlier entry among)).2, others⟩
      next differ =>
        simp only [reduceCtorEq, false_iff, not_and]
        intro earlier
        exact absurd (earlier _ member atom List.mem_cons_self rfl) differ

theorem groupConflict?_eq_none_iff {atoms : List Atom} :
    groupConflict? atoms = none ↔ atoms.Pairwise fun one other =>
      one.number = other.number → one.mass.equals other.mass = true := by
  rw [groupConflict?, laterMassConflict?_eq_none_iff (by simp)]
  simp

theorem group_eq_ok_iff {atoms : List Atom} {blocks : List SpeciesBlock} :
    group atoms = .ok blocks ↔
      (atoms.Pairwise fun one other =>
        one.number = other.number → one.mass.equals other.mass = true) ∧
      gather atoms = blocks := by
  rw [← groupConflict?_eq_none_iff, group]
  split
  next conflict found => simp [found]
  next none => simp [none]

theorem group_of_massesAgree {atoms : List Atom} (agree : MassesAgree atoms) :
    group atoms = .ok (gather atoms) := by
  refine group_eq_ok_iff.2 ⟨List.pairwise_of_forall_mem_list ?_, rfl⟩
  exact fun one inside other within => agree one inside other within

theorem Frame.massesEqual (frame : Frame) : MassesAgree frame.atoms :=
  massConflict?_declarations.1 frame.massesAgree

end Atomistic
