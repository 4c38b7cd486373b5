import Atomistic.Proofs.MassAgreement
import Mathlib.Data.List.Forall2

/-! Atoms and their species blocks. Gathering undoes flattening, and flattening undoes
gathering when the atoms of each species stand together. -/

namespace Atomistic

open Number

section Blocks

@[simp]
theorem flatten_nil : flatten [] = [] :=
  rfl

@[simp]
theorem flatten_cons (block : SpeciesBlock) (rest : List SpeciesBlock) :
    flatten (block :: rest) = block.atoms ++ flatten rest :=
  rfl

theorem flatten_cons_cons (number : AtomicNumber) (mass : Binary64) (site : Site)
    (sites : List Site) (rest : List SpeciesBlock) :
    flatten (⟨number, mass, site :: sites⟩ :: rest) =
      ⟨number, mass, site⟩ :: ((SpeciesBlock.mk number mass sites).atoms ++ flatten rest) :=
  rfl

theorem gather_nil : gather [] = [] := by
  rw [gather]

theorem gather_cons (atom : Atom) (rest : List Atom) :
    gather (atom :: rest) =
      ⟨atom.number, atom.mass,
        atom.site :: (rest.filter (·.number == atom.number)).map Atom.site⟩ ::
        gather (rest.filter (·.number != atom.number)) := by
  rw [gather]

theorem gather_eq_nil_iff {atoms : List Atom} : gather atoms = [] ↔ atoms = [] := by
  cases atoms with
  | nil => simp [gather_nil]
  | cons atom rest => simp [gather_cons]

/-- Gathering goes on with the atoms of all other species. -/
@[elab_as_elim]
theorem gatherInduction {motive : List Atom → Prop} (nil : motive [])
    (cons : ∀ atom rest, motive (rest.filter (·.number != atom.number)) → motive (atom :: rest)) :
    ∀ atoms, motive atoms
  | [] => nil
  | atom :: rest => cons atom rest (gatherInduction nil cons _)
termination_by atoms => atoms.length
decreasing_by
  exact Nat.lt_succ_of_le (List.length_filter_le _ rest)

theorem SpeciesBlock.number_of_mem_atoms {block : SpeciesBlock} {atom : Atom}
    (member : atom ∈ block.atoms) : atom.number = block.number := by
  obtain ⟨site, -, rfl⟩ := List.mem_map.1 member
  rfl

/-- A block has the number and the mass of one of its atoms. -/
theorem exists_of_mem_gather {atoms : List Atom} {block : SpeciesBlock}
    (member : block ∈ gather atoms) :
    ∃ atom ∈ atoms, atom.number = block.number ∧ atom.mass = block.mass := by
  induction atoms using gatherInduction with
  | nil =>
    rw [gather_nil] at member
    cases member
  | cons atom rest ih =>
    rw [gather_cons] at member
    rcases List.mem_cons.1 member with rfl | later
    · exact ⟨atom, by simp, rfl, rfl⟩
    · obtain ⟨other, inside, equal⟩ := ih later
      exact ⟨other, List.mem_cons_of_mem _ (List.mem_filter.1 inside).1, equal⟩

/-- A species has a block only if it has atoms. -/
theorem count_pos_of_mem_gather {atoms : List Atom} {block : SpeciesBlock}
    (member : block ∈ gather atoms) : 0 < block.count := by
  induction atoms using gatherInduction with
  | nil =>
    rw [gather_nil] at member
    cases member
  | cons atom rest ih =>
    rw [gather_cons] at member
    rcases List.mem_cons.1 member with rfl | later
    · exact Nat.succ_pos _
    · exact ih later

theorem exists_of_mem_sites {atoms : List Atom} {block : SpeciesBlock}
    (member : block ∈ gather atoms) {site : Site} (among : site ∈ block.sites) :
    ∃ atom ∈ atoms, atom.number = block.number ∧ atom.site = site := by
  induction atoms using gatherInduction with
  | nil =>
    rw [gather_nil] at member
    cases member
  | cons atom rest ih =>
    rw [gather_cons] at member
    rcases List.mem_cons.1 member with rfl | later
    · rcases List.mem_cons.1 among with rfl | others
      · exact ⟨atom, by simp, rfl, rfl⟩
      · obtain ⟨other, inside, rfl⟩ := List.mem_map.1 others
        obtain ⟨inside, number⟩ := List.mem_filter.1 inside
        exact ⟨other, List.mem_cons_of_mem _ inside, by simpa using number, rfl⟩
    · obtain ⟨other, inside, equal⟩ := ih later
      exact ⟨other, List.mem_cons_of_mem _ (List.mem_filter.1 inside).1, equal⟩

/-- Gathering loses no atom. -/
theorem exists_block_of_mem {atoms : List Atom} {atom : Atom} (member : atom ∈ atoms) :
    ∃ block ∈ gather atoms, atom.number = block.number ∧ atom.site ∈ block.sites := by
  induction atoms using gatherInduction with
  | nil => cases member
  | cons first rest ih =>
    rw [gather_cons]
    by_cases same : atom.number = first.number
    · refine ⟨_, List.mem_cons_self, same, ?_⟩
      rcases List.mem_cons.1 member with rfl | later
      · exact List.mem_cons_self
      · exact List.mem_cons_of_mem _ (List.mem_map_of_mem (List.mem_filter.2 ⟨later, by simpa⟩))
    · have later : atom ∈ rest := by
        rcases List.mem_cons.1 member with rfl | later
        · exact absurd rfl same
        · exact later
      obtain ⟨block, among, found⟩ := ih (List.mem_filter.2 ⟨later, by simpa⟩)
      exact ⟨block, List.mem_cons_of_mem _ among, found⟩

theorem nodup_numbers_gather (atoms : List Atom) :
    ((gather atoms).map SpeciesBlock.number).Nodup := by
  induction atoms using gatherInduction with
  | nil => simp [gather_nil]
  | cons atom rest ih =>
    rw [gather_cons, List.map_cons, List.nodup_cons]
    refine ⟨?_, ih⟩
    intro again
    obtain ⟨block, member, number⟩ := List.mem_map.1 again
    obtain ⟨other, inside, equal, -⟩ := exists_of_mem_gather member
    have differs := (List.mem_filter.1 inside).2
    simp [equal, number] at differs

theorem massesAgree_flatten_gather {atoms : List Atom} (agree : MassesAgree atoms) :
    MassesAgree (flatten (gather atoms)) := by
  have source : ∀ atom ∈ flatten (gather atoms),
      ∃ first ∈ atoms, first.number = atom.number ∧ first.mass = atom.mass := by
    intro atom member
    obtain ⟨block, among, inside⟩ := List.mem_flatMap.1 member
    obtain ⟨site, -, rfl⟩ := List.mem_map.1 inside
    exact exists_of_mem_gather among
  intro one inside other within same
  obtain ⟨first, member, firstNumber, firstMass⟩ := source one inside
  obtain ⟨second, among, secondNumber, secondMass⟩ := source other within
  rw [← firstMass, ← secondMass]
  exact agree first member second among (by rw [firstNumber, secondNumber, same])

private theorem filter_atoms_same (block : SpeciesBlock) :
    block.atoms.filter (·.number == block.number) = block.atoms := by
  rw [List.filter_eq_self]
  intro atom member
  simp [SpeciesBlock.number_of_mem_atoms member]

private theorem filter_atoms_other (block : SpeciesBlock) :
    block.atoms.filter (·.number != block.number) = [] := by
  rw [List.filter_eq_nil_iff]
  intro atom member
  simp [SpeciesBlock.number_of_mem_atoms member]

private theorem filters_of_apart {number : AtomicNumber} {atoms : List Atom}
    (apart : ∀ atom ∈ atoms, atom.number ≠ number) :
    atoms.filter (·.number == number) = [] ∧ atoms.filter (·.number != number) = atoms := by
  constructor
  · rw [List.filter_eq_nil_iff]
    intro atom member
    simpa using apart atom member
  · rw [List.filter_eq_self]
    intro atom member
    simpa using apart atom member

theorem number_of_mem_flatten {blocks : List SpeciesBlock} {atom : Atom}
    (member : atom ∈ flatten blocks) : atom.number ∈ blocks.map SpeciesBlock.number := by
  obtain ⟨block, among, inside⟩ := List.mem_flatMap.1 member
  rw [SpeciesBlock.number_of_mem_atoms inside]
  exact List.mem_map_of_mem among

/-- Only blocks without atoms are lost. -/
theorem gather_flatten {blocks : List SpeciesBlock}
    (distinct : (blocks.map SpeciesBlock.number).Nodup) :
    gather (flatten blocks) = blocks.filter (!·.sites.isEmpty) := by
  induction blocks with
  | nil => exact gather_nil
  | cons block rest ih =>
    obtain ⟨number, mass, sites⟩ := block
    obtain ⟨absent, others⟩ := List.nodup_cons.1 distinct
    cases sites with
    | nil => simpa [SpeciesBlock.atoms] using ih others
    | cons site sites =>
      have apart : ∀ atom ∈ flatten rest, atom.number ≠ number := by
        intro atom member same
        exact absent (same ▸ number_of_mem_flatten member)
      obtain ⟨none, all⟩ := filters_of_apart apart
      rw [flatten_cons_cons, gather_cons]
      simp only [List.filter_append, none, all, List.append_nil,
        filter_atoms_same ⟨number, mass, sites⟩, filter_atoms_other ⟨number, mass, sites⟩,
        List.nil_append, ih others]
      simp [SpeciesBlock.atoms, Function.comp_def]

theorem flatten_gather_flatten {blocks : List SpeciesBlock}
    (distinct : (blocks.map SpeciesBlock.number).Nodup) :
    flatten (gather (flatten blocks)) = flatten blocks := by
  rw [gather_flatten distinct]
  clear distinct
  induction blocks with
  | nil => rfl
  | cons block rest ih =>
    rw [List.filter_cons]
    split
    next => simp [ih]
    next empty =>
      have none : block.atoms = [] := by
        simpa [SpeciesBlock.atoms] using empty
      simp [ih, none]

end Blocks

section Contiguity

/-- A species that was seen does not come back, except in the run that is going on. -/
private theorem fresh_of_runsAreUnique {seen : List AtomicNumber} {previous : Option AtomicNumber}
    {atoms : List Atom} (unique : runsAreUnique seen previous atoms = true)
    {number : AtomicNumber} (known : number ∈ seen) (elsewhere : previous ≠ some number) :
    ∀ atom ∈ atoms, atom.number ≠ number := by
  induction atoms generalizing seen previous with
  | nil => simp
  | cons atom rest ih =>
    unfold runsAreUnique at unique
    intro other member
    split at unique
    next going =>
      rcases List.mem_cons.1 member with rfl | inside
      · rintro rfl
        exact elsewhere going
      · exact ih unique known elsewhere other inside
    next =>
      simp only [Bool.and_eq_true, Bool.not_eq_true', List.contains_eq_mem,
        decide_eq_false_iff_not] at unique
      have differs : atom.number ≠ number := by
        rintro rfl
        exact unique.1 known
      rcases List.mem_cons.1 member with rfl | inside
      · exact differs
      · exact ih unique.2 (by simp [known]) (by simpa using differs) other inside

/-- Within a run, the rest of the run comes first and nothing of its species after it. -/
private theorem split_run {seen : List AtomicNumber} {number : AtomicNumber} {atoms : List Atom}
    (unique : runsAreUnique seen (some number) atoms = true) (known : number ∈ seen) :
    atoms = atoms.filter (·.number == number) ++ atoms.filter (·.number != number) ∧
      runsAreUnique seen none (atoms.filter (·.number != number)) = true := by
  induction atoms with
  | nil => exact ⟨rfl, rfl⟩
  | cons atom rest ih =>
    by_cases same : atom.number = number
    · have going : runsAreUnique seen (some number) rest = true := by
        simpa [runsAreUnique, same] using unique
      obtain ⟨cut, left⟩ := ih going
      constructor
      · simpa [same] using cut
      · simpa [same] using left
    · have other : some number ≠ some atom.number := fun equal => same (Option.some.inj equal).symm
      have begins : runsAreUnique seen none (atom :: rest) = true := by
        simpa [runsAreUnique, other] using unique
      have apart : ∀ other ∈ atom :: rest, other.number ≠ number :=
        fresh_of_runsAreUnique begins known (by simp)
      obtain ⟨none, all⟩ := filters_of_apart apart
      rw [none, all]
      exact ⟨rfl, begins⟩

private theorem runsAreUnique_atoms (block : SpeciesBlock) (seen : List AtomicNumber)
    (later : List Atom) :
    runsAreUnique seen (some block.number) (block.atoms ++ later) =
      runsAreUnique seen (some block.number) later := by
  obtain ⟨number, mass, sites⟩ := block
  induction sites with
  | nil => rfl
  | cons site sites ih => simpa [SpeciesBlock.atoms, runsAreUnique] using ih

private theorem runsAreUnique_flatten {blocks : List SpeciesBlock} {seen : List AtomicNumber}
    {previous : Option AtomicNumber} (distinct : (blocks.map SpeciesBlock.number).Nodup)
    (unseen : ∀ block ∈ blocks, block.number ∉ seen)
    (known : ∀ number, previous = some number → number ∈ seen) :
    runsAreUnique seen previous (flatten blocks) = true := by
  induction blocks generalizing seen previous with
  | nil => rfl
  | cons block rest ih =>
    obtain ⟨number, mass, sites⟩ := block
    obtain ⟨absent, others⟩ := List.nodup_cons.1 distinct
    have unseen' : ∀ block ∈ rest, block.number ∉ seen :=
      fun block member => unseen block (List.mem_cons_of_mem _ member)
    cases sites with
    | nil => exact ih others unseen' known
    | cons site sites =>
      have new : number ∉ seen := unseen _ List.mem_cons_self
      have begins : previous ≠ some number := fun equal => new (known _ equal)
      have later : runsAreUnique (number :: seen) (some number) (flatten rest) = true := by
        refine ih others ?_ (by simp)
        intro block member again
        rcases List.mem_cons.1 again with same | before
        · exact absent (List.mem_map.2 ⟨block, member, same⟩)
        · exact unseen' block member before
      have run := runsAreUnique_atoms ⟨number, mass, sites⟩ (number :: seen) (flatten rest)
      rw [flatten_cons_cons]
      simp [runsAreUnique, begins, new, run, later]

theorem isSpeciesContiguous_flatten {blocks : List SpeciesBlock}
    (distinct : (blocks.map SpeciesBlock.number).Nodup) :
    isSpeciesContiguous (flatten blocks) = true :=
  runsAreUnique_flatten distinct (by simp) (by simp)

/-- The same atom, but the mass may be another zero. -/
structure Atom.Alike (one other : Atom) : Prop where
  number : one.number = other.number
  mass : one.mass.equals other.mass = true
  site : one.site = other.site

theorem alike_atoms {number : AtomicNumber} {mass : Binary64} {atoms : List Atom}
    (same : ∀ atom ∈ atoms, number = atom.number ∧ mass.equals atom.mass = true) :
    List.Forall₂ Atom.Alike (SpeciesBlock.mk number mass (atoms.map Atom.site)).atoms atoms := by
  induction atoms with
  | nil => exact .nil
  | cons atom rest ih =>
    obtain ⟨sameNumber, sameMass⟩ := same atom (by simp)
    exact .cons ⟨sameNumber, sameMass, rfl⟩ (ih fun other member => same other (by simp [member]))

private theorem alike_flatten_gather {seen : List AtomicNumber} {atoms : List Atom}
    (unique : runsAreUnique seen none atoms = true) (agree : MassesAgree atoms) :
    List.Forall₂ Atom.Alike (flatten (gather atoms)) atoms := by
  induction atoms using gatherInduction generalizing seen with
  | nil =>
    rw [gather_nil]
    exact .nil
  | cons atom rest ih =>
    have later : runsAreUnique (atom.number :: seen) (some atom.number) rest = true :=
      (Bool.and_eq_true _ _ ▸ unique).2
    obtain ⟨cut, unique⟩ := split_run later (by simp)
    have run : List.Forall₂ Atom.Alike
        (SpeciesBlock.mk atom.number atom.mass
          ((atom :: rest.filter (·.number == atom.number)).map Atom.site)).atoms
        (atom :: rest.filter (·.number == atom.number)) := by
      apply alike_atoms
      intro other member
      have among : other ∈ atom :: rest ∧ atom.number = other.number := by
        rcases List.mem_cons.1 member with rfl | inside
        · simp
        · obtain ⟨inside, number⟩ := List.mem_filter.1 inside
          exact ⟨by simp [inside], (eq_of_beq number).symm⟩
      exact ⟨among.2, agree atom (by simp) other among.1 among.2⟩
    have others := ih unique fun one inside other within =>
      agree.tail one (List.mem_filter.1 inside).1 other (List.mem_filter.1 within).1
    have joined : List.Forall₂ Atom.Alike
        (flatten (gather (atom :: rest)))
        ((atom :: rest.filter (·.number == atom.number)) ++
          rest.filter (·.number != atom.number)) := by
      rw [gather_cons, flatten_cons]
      exact List.rel_append run others
    rw [List.cons_append, ← cut] at joined
    exact joined

theorem alike_of_isSpeciesContiguous {atoms : List Atom}
    (contiguous : isSpeciesContiguous atoms = true) (agree : MassesAgree atoms) :
    List.Forall₂ Atom.Alike (flatten (gather atoms)) atoms :=
  alike_flatten_gather contiguous agree

end Contiguity

end Atomistic
