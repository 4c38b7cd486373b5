import Mathlib.Algebra.GroupWithZero.Nat
import Atomistic.Proofs.RoundTrip

/-! Grouping keeps the atoms of each species in their order, and the species in the order in
which they first occur. So it is flattening undone, and grouping again changes nothing. -/

namespace Atomistic

open Number

section Order

/-- The species of the atoms, each where it first occurs. -/
def speciesOf (atoms : List Atom) : List AtomicNumber :=
  (atoms.map Atom.number).eraseDups

/-- The same atoms with those of one species together. -/
def bySpecies (atoms : List Atom) : List Atom :=
  (speciesOf atoms).flatMap fun number => atoms.filter (·.number == number)

theorem speciesOf_cons (atom : Atom) (rest : List Atom) :
    speciesOf (atom :: rest) =
      atom.number :: speciesOf (rest.filter (·.number != atom.number)) := by
  rw [speciesOf, List.map_cons, List.eraseDups_cons, List.filter_map]
  rfl

theorem mem_speciesOf {atoms : List Atom} {number : AtomicNumber} :
    number ∈ speciesOf atoms ↔ ∃ atom ∈ atoms, atom.number = number := by
  rw [speciesOf, List.mem_eraseDups, List.mem_map]

private theorem filter_filter_apart {number other : AtomicNumber} (apart : number ≠ other)
    (atoms : List Atom) :
    (atoms.filter (·.number != other)).filter (·.number == number) =
      atoms.filter (·.number == number) := by
  rw [List.filter_filter]
  apply List.filter_congr
  intro atom _
  by_cases same : atom.number = number
  · simp [same, apart]
  · simp [same]

theorem bySpecies_cons (atom : Atom) (rest : List Atom) :
    bySpecies (atom :: rest) =
      (atom :: rest.filter (·.number == atom.number)) ++
        bySpecies (rest.filter (·.number != atom.number)) := by
  rw [bySpecies, speciesOf_cons, List.flatMap_cons, List.filter_cons_of_pos (by simp)]
  congr 1
  apply List.flatMap_congr
  intro number member
  obtain ⟨other, inside, rfl⟩ := mem_speciesOf.1 member
  have apart : other.number ≠ atom.number := by
    simpa using (List.mem_filter.1 inside).2
  rw [filter_filter_apart apart, List.filter_cons_of_neg (by simpa using apart.symm)]

theorem perm_bySpecies (atoms : List Atom) : (bySpecies atoms).Perm atoms := by
  induction atoms using gatherInduction with
  | nil => exact .nil
  | cons atom rest ih =>
    rw [bySpecies_cons, List.cons_append]
    apply List.Perm.cons
    exact (ih.append_left _).trans (List.filter_append_perm (·.number == atom.number) rest)

theorem filter_bySpecies (atoms : List Atom) (number : AtomicNumber) :
    (bySpecies atoms).filter (·.number == number) = atoms.filter (·.number == number) := by
  induction atoms using gatherInduction with
  | nil => rfl
  | cons atom rest ih =>
    rw [bySpecies_cons, List.filter_append, ih]
    by_cases same : atom.number = number
    · subst same
      simp
    · rw [filter_filter_apart (Ne.symm same)]
      simp only [List.filter_cons, beq_iff_eq, same, if_false, List.filter_filter]
      rw [List.append_left_eq_self, List.filter_eq_nil_iff]
      intro other _
      simp only [Bool.and_eq_true, beq_iff_eq, not_and]
      rintro rfl
      exact Ne.symm same

end Order

section Stability

theorem numbers_gather (atoms : List Atom) :
    (gather atoms).map SpeciesBlock.number = speciesOf atoms := by
  induction atoms using gatherInduction with
  | nil => rw [gather_nil]; rfl
  | cons atom rest ih => rw [gather_cons, speciesOf_cons, List.map_cons, ih]

theorem sites_of_mem_gather {atoms : List Atom} {block : SpeciesBlock}
    (member : block ∈ gather atoms) :
    block.sites = (atoms.filter (·.number == block.number)).map Atom.site := by
  induction atoms using gatherInduction with
  | nil =>
    rw [gather_nil] at member
    cases member
  | cons atom rest ih =>
    rw [gather_cons] at member
    rcases List.mem_cons.1 member with rfl | later
    · rw [List.filter_cons_of_pos (by simp), List.map_cons]
    · obtain ⟨other, inside, same, -⟩ := exists_of_mem_gather later
      have apart : block.number ≠ atom.number := by
        simpa [same] using (List.mem_filter.1 inside).2
      rw [ih later, filter_filter_apart apart, List.filter_cons_of_neg (by simpa using apart.symm)]

theorem length_flatten (blocks : List SpeciesBlock) :
    (flatten blocks).length = (blocks.map SpeciesBlock.count).sum := by
  simp only [flatten, List.length_flatMap, SpeciesBlock.atoms, List.length_map]
  rfl

/-- Each species of the atoms has one block with just its atoms, all in their order. -/
structure GroupsInto (atoms : List Atom) (blocks : List SpeciesBlock) : Prop where
  inhabited : ∀ block ∈ blocks, block.sites ≠ []
  distinct : (blocks.map SpeciesBlock.number).Nodup
  species : blocks.map SpeciesBlock.number = speciesOf atoms
  sites : ∀ block ∈ blocks,
    block.sites = (atoms.filter (·.number == block.number)).map Atom.site
  masses : ∀ block ∈ blocks, ∀ atom ∈ atoms,
    atom.number = block.number → block.mass.equals atom.mass = true

theorem groupsInto_gather {atoms : List Atom} (agree : MassesAgree atoms) :
    GroupsInto atoms (gather atoms) where
  inhabited block member := List.length_pos_iff.1 (count_pos_of_mem_gather member)
  distinct := nodup_numbers_gather atoms
  species := numbers_gather atoms
  sites _ member := sites_of_mem_gather member
  masses := by
    intro block member atom inside same
    obtain ⟨first, among, number, mass⟩ := exists_of_mem_gather member
    rw [← mass]
    exact agree first among atom inside (number.trans same.symm)

namespace GroupsInto

variable {atoms : List Atom} {blocks : List SpeciesBlock}

theorem alike_bySpecies (groups : GroupsInto atoms blocks) :
    List.Forall₂ Atom.Alike (flatten blocks) (bySpecies atoms) := by
  have each : ∀ block ∈ blocks,
      List.Forall₂ Atom.Alike block.atoms (atoms.filter (·.number == block.number)) := by
    intro block member
    rw [SpeciesBlock.atoms, groups.sites block member]
    apply alike_atoms
    intro atom inside
    obtain ⟨inside, same⟩ := List.mem_filter.1 inside
    rw [beq_iff_eq] at same
    exact ⟨same.symm, groups.masses block member atom inside same⟩
  rw [bySpecies, ← groups.species, List.flatMap_map]
  clear groups
  induction blocks with
  | nil => exact .nil
  | cons block rest ih =>
    obtain ⟨first, others⟩ := List.forall_mem_cons.1 each
    exact List.rel_append first (ih others)

theorem sum_counts (groups : GroupsInto atoms blocks) :
    (blocks.map SpeciesBlock.count).sum = atoms.length := by
  rw [← length_flatten, groups.alike_bySpecies.length_eq, (perm_bySpecies atoms).length_eq]

end GroupsInto

theorem gather_flatten_of_inhabited {blocks : List SpeciesBlock}
    (inhabited : ∀ block ∈ blocks, block.sites ≠ [])
    (distinct : (blocks.map SpeciesBlock.number).Nodup) : gather (flatten blocks) = blocks := by
  rw [gather_flatten distinct, List.filter_eq_self]
  intro block member
  simpa using inhabited block member

/-- A block is held to its own mass as soon as it has two atoms. -/
private theorem masses_of_atoms (block : SpeciesBlock) :
    (block.atoms.Pairwise fun one other =>
      one.number = other.number → one.mass.equals other.mass = true) ↔
      (1 < block.count → block.mass ≠ .nan) := by
  obtain ⟨number, mass, sites⟩ := block
  rw [SpeciesBlock.atoms, List.pairwise_map]
  simp only [forall_const, ← Binary64.equals_self_iff, SpeciesBlock.count]
  cases sites with
  | nil => simp
  | cons first others =>
    cases others with
    | nil => simp
    | cons second rest =>
      constructor
      · intro all _
        exact List.rel_of_pairwise_cons all List.mem_cons_self
      · intro self
        exact List.pairwise_of_forall fun _ _ => self (by simp)

theorem group_flatten_iff {blocks : List SpeciesBlock}
    (inhabited : ∀ block ∈ blocks, block.sites ≠ [])
    (distinct : (blocks.map SpeciesBlock.number).Nodup) :
    group (flatten blocks) = .ok blocks ↔
      ∀ block ∈ blocks, 1 < block.count → block.mass ≠ .nan := by
  have apart : blocks.Pairwise fun block later => ∀ one ∈ block.atoms, ∀ other ∈ later.atoms,
      one.number = other.number → one.mass.equals other.mass = true := by
    refine (List.pairwise_map.1 distinct).imp ?_
    intro block later differ one first other second same
    rw [SpeciesBlock.number_of_mem_atoms first, SpeciesBlock.number_of_mem_atoms second] at same
    exact absurd same differ
  rw [group_eq_ok_iff, flatten, List.pairwise_flatMap]
  simp only [masses_of_atoms]
  exact ⟨fun done => done.1.1, fun masses =>
    ⟨⟨masses, apart⟩, gather_flatten_of_inhabited inhabited distinct⟩⟩

end Stability

section Refusal

variable {index : Nat} {declared : List (AtomicNumber × Binary64)} {block : SpeciesBlock}

/-- Atoms of the mass that is declared for them are passed. -/
private theorem laterMassConflict?_sites {number : AtomicNumber} {mass : Binary64}
    (known : declared.lookup number = some mass) (self : mass.equals mass = true)
    (sites : List Site) (rest : List Atom) :
    laterMassConflict? index declared ((SpeciesBlock.mk number mass sites).atoms ++ rest) =
      laterMassConflict? (index + sites.length) declared rest := by
  induction sites generalizing index with
  | nil => rfl
  | cons site others ih =>
    have passed := @ih (index + 1)
    rw [List.length_cons, Nat.add_comm others.length, ← Nat.add_assoc, ← passed]
    simp [SpeciesBlock.atoms, laterMassConflict?, known, self]

/-- A block of a new species declares its mass. Only from its second atom on is this compared. -/
private theorem laterMassConflict?_block (inhabited : block.sites ≠ [])
    (new : declared.lookup block.number = none) (weighed : 1 < block.count → block.mass ≠ .nan)
    (rest : List Atom) :
    laterMassConflict? index declared (block.atoms ++ rest) =
      laterMassConflict? (index + block.count) ((block.number, block.mass) :: declared) rest := by
  obtain ⟨number, mass, sites⟩ := block
  obtain ⟨first, others, rfl⟩ := List.exists_cons_of_ne_nil inhabited
  have opened : laterMassConflict? index declared
      ((SpeciesBlock.mk number mass (first :: others)).atoms ++ rest) =
        laterMassConflict? (index + 1) ((number, mass) :: declared)
          ((SpeciesBlock.mk number mass others).atoms ++ rest) := by
    simp [SpeciesBlock.atoms, laterMassConflict?, new]
  cases others with
  | nil => exact opened
  | cons second later =>
    have self := (Binary64.equals_self_iff mass).2 (weighed (by simp [SpeciesBlock.count]))
    have counted : index + (SpeciesBlock.mk number mass (first :: second :: later)).count =
        index + 1 + (second :: later).length := by
      simp only [SpeciesBlock.count, List.length_cons]
      omega
    rw [opened, laterMassConflict?_sites List.lookup_cons_self self, counted]

private theorem laterMassConflict?_unweighed (new : declared.lookup block.number = none)
    (several : 1 < block.count) (unweighed : block.mass = .nan) (rest : List Atom) :
    laterMassConflict? index declared (block.atoms ++ rest) =
      some ⟨index + 1, block.number, .nan, .nan⟩ := by
  obtain ⟨number, mass, sites⟩ := block
  cases unweighed
  obtain ⟨first, others, rfl⟩ := List.exists_cons_of_length_pos (Nat.zero_lt_of_lt several)
  obtain ⟨second, later, rfl⟩ := List.exists_cons_of_length_pos (Nat.lt_of_succ_lt_succ several)
  simp [SpeciesBlock.atoms, laterMassConflict?, new, Binary64.equals]

/-- The first of the blocks that holds two atoms to a mass of nan, and what stands around it. -/
structure FirstUnweighed (blocks front : List SpeciesBlock) (block : SpeciesBlock)
    (later : List SpeciesBlock) : Prop where
  cut : blocks = front ++ block :: later
  weighed : ∀ earlier ∈ front, 1 < earlier.count → earlier.mass ≠ .nan
  several : 1 < block.count
  unweighed : block.mass = .nan

theorem exists_firstUnweighed {blocks : List SpeciesBlock}
    (unweighed : ∃ block ∈ blocks, 1 < block.count ∧ block.mass = .nan) :
    ∃ front block later, FirstUnweighed blocks front block later := by
  induction blocks with
  | nil =>
    obtain ⟨block, member, -⟩ := unweighed
    cases member
  | cons block rest ih =>
    by_cases here : 1 < block.count ∧ block.mass = .nan
    · exact ⟨[], block, rest, rfl, by simp, here.1, here.2⟩
    · obtain ⟨front, found, later, rfl, weighed, several, nan⟩ :=
        ih (by simpa [here] using unweighed)
      refine ⟨block :: front, found, later, rfl, ?_, several, nan⟩
      exact List.forall_mem_cons.2 ⟨not_and.1 here, weighed⟩

/-- The walk passes the blocks in front and stops at the second atom of the block. -/
private theorem laterMassConflict?_flatten {front later : List SpeciesBlock}
    (inhabited : ∀ earlier ∈ front, earlier.sites ≠ [])
    (distinct : ((front ++ block :: later).map SpeciesBlock.number).Nodup)
    (new : ∀ other ∈ front ++ block :: later, declared.lookup other.number = none)
    (weighed : ∀ earlier ∈ front, 1 < earlier.count → earlier.mass ≠ .nan)
    (several : 1 < block.count) (unweighed : block.mass = .nan) :
    laterMassConflict? index declared (flatten (front ++ block :: later)) =
      some ⟨index + (flatten front).length + 1, block.number, .nan, .nan⟩ := by
  -- along the blocks in front: what each of them declares concerns no later block
  induction front generalizing index declared with
  | nil => exact laterMassConflict?_unweighed (new block (by simp)) several unweighed _
  | cons first rest ih =>
    obtain ⟨inhabitedFirst, inhabited⟩ := List.forall_mem_cons.1 inhabited
    obtain ⟨apart, distinct⟩ := List.nodup_cons.1 distinct
    obtain ⟨newFirst, new⟩ := List.forall_mem_cons.1 new
    obtain ⟨weighedFirst, weighed⟩ := List.forall_mem_cons.1 weighed
    have still : ∀ other ∈ rest ++ block :: later,
        ((first.number, first.mass) :: declared).lookup other.number = none := by
      intro other member
      have differ : other.number ≠ first.number := by
        intro same
        exact apart (same ▸ List.mem_map_of_mem member)
      rw [List.lookup_cons, beq_eq_false_iff_ne.2 differ]
      exact new other member
    rw [List.cons_append, flatten_cons,
      laterMassConflict?_block inhabitedFirst newFirst weighedFirst,
      ih inhabited distinct still weighed, length_flatten, length_flatten, List.map_cons,
      List.sum_cons, Nat.add_assoc index]

/-- Such a block makes grouping fail, at the second atom of the first of them. Its mass is the one
declared by the atom before, but nan is not even equal to itself. -/
theorem group_flatten_eq_error {blocks : List SpeciesBlock}
    (inhabited : ∀ block ∈ blocks, block.sites ≠ [])
    (distinct : (blocks.map SpeciesBlock.number).Nodup)
    (unweighed : ∃ block ∈ blocks, 1 < block.count ∧ block.mass = .nan) :
    ∃ front block later, FirstUnweighed blocks front block later ∧ group (flatten blocks) =
      .error (.groupMassDiffers ((flatten front).length + 1) .nan .nan block.number.value) := by
  obtain ⟨front, block, later, first⟩ := exists_firstUnweighed unweighed
  refine ⟨front, block, later, first, ?_⟩
  obtain ⟨rfl, weighed, several, nan⟩ := first
  have met := @laterMassConflict?_flatten 0 [] block front later
    (fun earlier member => inhabited earlier (List.mem_append_left _ member)) distinct (by simp)
    weighed several nan
  rw [group, groupConflict?, met]
  simp

end Refusal

section Contiguity

private theorem runsAreUnique_congr {atoms others : List Atom} (seen : List AtomicNumber)
    (previous : Option AtomicNumber)
    (same : List.Forall₂ (fun one other => one.number = other.number) atoms others) :
    runsAreUnique seen previous atoms = runsAreUnique seen previous others := by
  induction same generalizing seen previous with
  | nil => rfl
  | cons first _ ih => simp only [runsAreUnique, first, ih]

/-- Equal as numbers, or both nan. -/
def Number.Binary64.Matches (one other : Binary64) : Prop :=
  one.equals other = true ∨ (one = .nan ∧ other = .nan)

theorem Number.Binary64.Matches.refl (real : Binary64) : real.Matches real := by
  by_cases nan : real = .nan
  · exact .inr ⟨nan, nan⟩
  · exact .inl ((Binary64.equals_self_iff real).2 nan)

/-- Equal atoms, where a coordinate of nan counts as equal to another. -/
structure Atom.Matches (one other : Atom) : Prop where
  number : one.number = other.number
  x : one.position.x.Matches other.position.x
  y : one.position.y.Matches other.position.y
  z : one.position.z.Matches other.position.z
  id : one.id = other.id
  mass : one.mass.equals other.mass = true
  isFixed : one.isFixed = other.isFixed

theorem Atom.Alike.matches {one other : Atom} (alike : one.Alike other) : one.Matches other := by
  obtain ⟨number, mass, site⟩ := one
  obtain ⟨number', mass', site'⟩ := other
  obtain ⟨rfl, equal, rfl⟩ := alike
  exact ⟨rfl, .refl _, .refl _, .refl _, rfl, equal, rfl⟩

theorem matches_flatten_gather_iff {atoms : List Atom} (agree : MassesAgree atoms) :
    List.Forall₂ Atom.Matches (flatten (gather atoms)) atoms ↔
      isSpeciesContiguous atoms = true := by
  constructor
  · intro same
    have numbers := same.imp fun _ _ found => found.number
    rw [isSpeciesContiguous, ← runsAreUnique_congr [] none numbers]
    exact isSpeciesContiguous_flatten (nodup_numbers_gather atoms)
  · intro contiguous
    exact (alike_of_isSpeciesContiguous contiguous agree).imp fun _ _ alike => alike.matches

end Contiguity

/-- Grouping atoms that agree on their masses is a stable normal form. It undoes flattening for
blocks with atoms and with distinct species, as long as no two atoms share a mass of nan; if two
do, it fails. -/
theorem group_stable {atoms : List Atom} (agree : MassesAgree atoms) :
    (∃ blocks, group atoms = .ok blocks ∧ GroupsInto atoms blocks ∧
      (∃ arranged : List Atom, arranged.Perm atoms ∧
        (∀ number, arranged.filter (·.number == number) = atoms.filter (·.number == number)) ∧
        List.Forall₂ Atom.Alike (flatten blocks) arranged) ∧
      (blocks.map SpeciesBlock.count).sum = atoms.length ∧
      group (flatten blocks) = .ok blocks ∧
      (List.Forall₂ Atom.Matches (flatten blocks) atoms ↔ isSpeciesContiguous atoms = true)) ∧
    ∀ blocks : List SpeciesBlock, (∀ block ∈ blocks, block.sites ≠ []) →
      (blocks.map SpeciesBlock.number).Nodup →
      (group (flatten blocks) = .ok blocks ↔
        ∀ block ∈ blocks, 1 < block.count → block.mass ≠ .nan) ∧
      ((∃ block ∈ blocks, 1 < block.count ∧ block.mass = .nan) →
        ∃ front block later, FirstUnweighed blocks front block later ∧
          group (flatten blocks) = .error
            (.groupMassDiffers ((flatten front).length + 1) .nan .nan block.number.value)) := by
  have groups := groupsInto_gather agree
  have again : group (flatten (gather atoms)) = .ok (gather atoms) := by
    rw [group_of_massesAgree (massesAgree_flatten_gather agree),
      gather_flatten_of_inhabited groups.inhabited groups.distinct]
  refine ⟨⟨gather atoms, group_of_massesAgree agree, groups, ?_, groups.sum_counts, again,
    matches_flatten_gather_iff agree⟩, fun blocks inhabited distinct =>
      ⟨group_flatten_iff inhabited distinct, group_flatten_eq_error inhabited distinct⟩⟩
  exact ⟨bySpecies atoms, perm_bySpecies atoms, filter_bySpecies atoms, groups.alike_bySpecies⟩

theorem group_stable_scattered :
    MassesAgree Document.scattered.atoms ∧
    (∃ blocks, group Document.scattered.atoms = .ok blocks ∧
      GroupsInto Document.scattered.atoms blocks ∧
      (∃ arranged : List Atom, arranged.Perm Document.scattered.atoms ∧
        (∀ number, arranged.filter (·.number == number) =
          Document.scattered.atoms.filter (·.number == number)) ∧
        List.Forall₂ Atom.Alike (flatten blocks) arranged) ∧
      (blocks.map SpeciesBlock.count).sum = 3 ∧
      group (flatten blocks) = .ok blocks ∧
      (List.Forall₂ Atom.Matches (flatten blocks) Document.scattered.atoms ↔
        isSpeciesContiguous Document.scattered.atoms = true)) ∧
    ∀ blocks : List SpeciesBlock, (∀ block ∈ blocks, block.sites ≠ []) →
      (blocks.map SpeciesBlock.number).Nodup →
      (group (flatten blocks) = .ok blocks ↔
        ∀ block ∈ blocks, 1 < block.count → block.mass ≠ .nan) ∧
      ((∃ block ∈ blocks, 1 < block.count ∧ block.mass = .nan) →
        ∃ front block later, FirstUnweighed blocks front block later ∧
          group (flatten blocks) = .error
            (.groupMassDiffers ((flatten front).length + 1) .nan .nan block.number.value)) := by
  have agree : MassesAgree Document.scattered.atoms := by
    unfold MassesAgree
    decide +kernel
  exact ⟨agree, group_stable agree⟩

/-- One block of two atoms, whose mass differs from itself. -/
def unweighedPair : SpeciesBlock :=
  ⟨Document.hydrogen, .nan,
    [⟨⟨.zero, .zero, .zero⟩, 0, false⟩, ⟨⟨.one, .zero, .zero⟩, 1, false⟩]⟩

theorem group_flatten_unweighed :
    (∀ block ∈ [unweighedPair], block.sites ≠ []) ∧
      ([unweighedPair].map SpeciesBlock.number).Nodup ∧
      group (flatten [unweighedPair]) = .error (.groupMassDiffers 1 .nan .nan 1) := by
  decide +kernel

end Atomistic
