import Atomistic.Number.Numeral
import Atomistic.Proofs.TextPieces

/-! Which tokens are numerals, and of which number. Here a token is put together from its
parts: a sign, digits, a point, an exponent. The readers walk along a token instead, and find
the same parts. -/

namespace Atomistic.Number

open Text

/-- A sign or none, and whether it is a minus. -/
inductive IsSign : List Char → Bool → Prop where
  | missing : IsSign [] false
  | plus : IsSign ['+'] false
  | minus : IsSign ['-'] true

/-- Digits of any script, one for each of the numbers. -/
def SpellsDigits (text : List Char) (digits : List Nat) : Prop :=
  text.map digitValue? = digits.map some

/-- An exponent; where there is none it is zero. -/
inductive IsExponent : List Char → Int → Prop where
  | missing : IsExponent [] 0
  | written {letter : Char} {sign text : List Char} {negative : Bool} {digits : List Nat}
      (marked : letter = 'e' ∨ letter = 'E') (signed : IsSign sign negative)
      (spelled : SpellsDigits text digits) (nonempty : digits ≠ []) :
      IsExponent (letter :: (sign ++ text)) (IntegerNumeral.value ⟨negative, digits⟩)

/-- Digits with a point among them or without one, and the exponent after them. -/
inductive IsDecimal : List Char → Nat → Int → Prop where
  | whole {text scale : List Char} {digits : List Nat} {exponent : Int}
      (spelled : SpellsDigits text digits) (nonempty : digits ≠ [])
      (scaled : IsExponent scale exponent) :
      IsDecimal (text ++ scale) (ofDigits digits) exponent
  | pointed {front back scale : List Char} {digits places : List Nat} {exponent : Int}
      (before : SpellsDigits front digits) (after : SpellsDigits back places)
      (nonempty : digits ++ places ≠ []) (scaled : IsExponent scale exponent) :
      IsDecimal (front ++ '.' :: (back ++ scale)) (ofDigits (digits ++ places))
        (exponent - places.length)

/-- A token that stands for a real number. A decimal stands for the number nearest to it. -/
inductive IsReal : List Char → Binary64 → Prop where
  | decimal {sign body : List Char} {negative : Bool} {coefficient : Nat} {exponent : Int}
      (signed : IsSign sign negative) (shape : IsDecimal body coefficient exponent) :
      IsReal (sign ++ body) (.ofDecimal negative coefficient exponent)
  | infinity {sign body : List Char} {negative : Bool} (signed : IsSign sign negative)
      (word : lowercase body = "inf".toList ∨ lowercase body = "infinity".toList) :
      IsReal (sign ++ body) (.infinite negative)
  | nan {sign body : List Char} {negative : Bool} (signed : IsSign sign negative)
      (word : lowercase body = "nan".toList) : IsReal (sign ++ body) .nan

/-- A token that stands for an integer. One of too many digits stands for none. -/
inductive IsInteger : List Char → Int → Prop where
  | digits {sign text : List Char} {negative : Bool} {digits : List Nat}
      (signed : IsSign sign negative) (spelled : SpellsDigits text digits)
      (nonempty : digits ≠ []) (few : digits.length ≤ digitLimit) :
      IsInteger (sign ++ text) (IntegerNumeral.value ⟨negative, digits⟩)

section Digits

theorem spellsDigits_cons_iff {c : Char} {text : List Char} {digits : List Nat} :
    SpellsDigits (c :: text) digits ↔ ∃ digit others, digits = digit :: others ∧
      digitValue? c = some digit ∧ SpellsDigits text others := by
  cases digits with
  | nil => simp [SpellsDigits]
  | cons digit others =>
    rw [SpellsDigits, List.map_cons, List.map_cons, List.cons.injEq]
    constructor
    · rintro ⟨value, spelled⟩
      exact ⟨digit, others, rfl, value, spelled⟩
    · rintro ⟨_, _, ⟨⟩, value, spelled⟩
      exact ⟨value, spelled⟩

theorem SpellsDigits.lt {text : List Char} {digits : List Nat}
    (spelled : SpellsDigits text digits) : ∀ digit ∈ digits, digit < 10 := by
  intro digit member
  have among : some digit ∈ text.map digitValue? := spelled ▸ List.mem_map_of_mem member
  obtain ⟨c, -, value⟩ := List.mem_map.1 among
  exact digitValue?_lt value

/-- The digits that are taken are those in front of what is left. -/
theorem exists_of_takeDigits {text rest : List Char} {digits : List Nat}
    (cut : takeDigits text = (digits, rest)) :
    ∃ front, text = front ++ rest ∧ SpellsDigits front digits := by
  induction text generalizing digits with
  | nil =>
    cases cut
    exact ⟨[], rfl, rfl⟩
  | cons c text ih =>
    unfold takeDigits at cut
    cases value : digitValue? c with
    | none =>
      rw [value] at cut
      cases cut
      exact ⟨[], rfl, rfl⟩
    | some digit =>
      rw [value] at cut
      cases cut
      obtain ⟨front, whole, spelled⟩ := ih rfl
      refine ⟨c :: front, by rw [List.cons_append, ← whole], ?_⟩
      exact spellsDigits_cons_iff.2 ⟨digit, _, rfl, value, spelled⟩

theorem spells_of_takeDigits {text : List Char} {digits : List Nat}
    (cut : takeDigits text = (digits, [])) : SpellsDigits text digits := by
  obtain ⟨front, whole, spelled⟩ := exists_of_takeDigits cut
  rwa [whole, List.append_nil]

/-- Digits are taken up to the first character that is none. -/
theorem SpellsDigits.takeDigits_append {front rest : List Char} {digits : List Nat}
    (spelled : SpellsDigits front digits) (stop : ∀ c ∈ rest.head?, digitValue? c = none) :
    takeDigits (front ++ rest) = (digits, rest) := by
  induction front generalizing digits with
  | nil =>
    obtain rfl : digits = [] := List.map_eq_nil_iff.1 spelled.symm
    cases rest with
    | nil => rfl
    | cons c rest => simp [takeDigits, stop c rfl]
  | cons c front ih =>
    obtain ⟨digit, others, rfl, value, spelled⟩ := spellsDigits_cons_iff.1 spelled
    simp [takeDigits, value, ih spelled]

theorem SpellsDigits.takeDigits {text : List Char} {digits : List Nat}
    (spelled : SpellsDigits text digits) : takeDigits text = (digits, []) := by
  simpa using @takeDigits_append text [] digits spelled (by simp)

/-- A digit is one of ASCII, or of a script that comes long after the Latin letters. -/
theorem toNat_of_digit {c : Char} {value : Nat} (digit : digitValue? c = some value) :
    (48 ≤ c.toNat ∧ c.toNat < 58) ∨ 0x660 ≤ c.toNat := by
  simp only [digitValue?, Option.map_eq_some_iff] at digit
  obtain ⟨first, chosen, -⟩ := digit
  have within := List.find?_some chosen
  have listed := List.mem_of_find?_eq_some chosen
  have zeros : ∀ first ∈ digitZeros, first = 48 ∨ 0x660 ≤ first := by decide
  have zero := zeros first listed
  simp only [Bool.and_eq_true, decide_eq_true_eq] at within
  omega

/-- Where there is a digit at all, one comes first. -/
theorem SpellsDigits.exists_first {text : List Char} {digits : List Nat}
    (spelled : SpellsDigits text digits) (nonempty : digits ≠ []) :
    ∃ c rest, text = c :: rest ∧ ((48 ≤ c.toNat ∧ c.toNat < 58) ∨ 0x660 ≤ c.toNat) := by
  cases text with
  | nil => exact absurd (List.map_eq_nil_iff.1 spelled.symm) nonempty
  | cons c rest =>
    obtain ⟨digit, -, -, value, -⟩ := spellsDigits_cons_iff.1 spelled
    exact ⟨c, rest, rfl, toNat_of_digit value⟩

end Digits

section Signs

theorem exists_sign (text : List Char) :
    ∃ sign, IsSign sign (takeSign text).1 ∧ text = sign ++ (takeSign text).2 := by
  unfold takeSign
  split
  next rest => exact ⟨['-'], .minus, rfl⟩
  next rest => exact ⟨['+'], .plus, rfl⟩
  next => exact ⟨[], .missing, rfl⟩

theorem takeSign_append {sign body : List Char} {negative : Bool} (signed : IsSign sign negative)
    (unsigned : ∀ c ∈ body.head?, c ≠ '-' ∧ c ≠ '+') :
    takeSign (sign ++ body) = (negative, body) := by
  cases signed with
  | plus => rfl
  | minus => rfl
  | missing =>
    rw [List.nil_append]
    unfold takeSign
    split
    next => exact absurd rfl (unsigned '-' rfl).1
    next => exact absurd rfl (unsigned '+' rfl).2
    next => rfl

theorem unsigned_of_digit {c : Char}
    (digit : (48 ≤ c.toNat ∧ c.toNat < 58) ∨ 0x660 ≤ c.toNat) : c ≠ '-' ∧ c ≠ '+' := by
  constructor
  · rintro rfl
    exact absurd digit (by decide)
  · rintro rfl
    exact absurd digit (by decide)

theorem SpellsDigits.takeSign_append {sign text : List Char} {negative : Bool}
    {digits : List Nat} (spelled : SpellsDigits text digits) (nonempty : digits ≠ [])
    (signed : IsSign sign negative) : takeSign (sign ++ text) = (negative, text) := by
  obtain ⟨c, rest, rfl, digit⟩ := spelled.exists_first nonempty
  exact Number.takeSign_append signed (by simpa using unsigned_of_digit digit)

end Signs

section Integers

theorem readInteger?_eq_some_iff {token : List Char} {negative : Bool} {digits : List Nat} :
    readInteger? token = some ⟨negative, digits⟩ ↔ ∃ sign text, token = sign ++ text ∧
      IsSign sign negative ∧ SpellsDigits text digits ∧ digits ≠ [] := by
  unfold readInteger?
  constructor
  · intro done
    split at done
    next digit digits cut =>
      cases done
      obtain ⟨sign, signed, whole⟩ := exists_sign token
      exact ⟨sign, _, whole, signed, spells_of_takeDigits cut, List.cons_ne_nil _ _⟩
    next => cases done
  · rintro ⟨sign, text, rfl, signed, spelled, nonempty⟩
    obtain ⟨digit, digits, rfl⟩ := List.exists_cons_of_ne_nil nonempty
    rw [spelled.takeSign_append nonempty signed, spelled.takeDigits]

theorem isInteger_iff {token : List Char} {value : Int} :
    IsInteger token value ↔ ∃ numeral, readInteger? token = some numeral ∧
      numeral.digits.length ≤ digitLimit ∧ numeral.value = value := by
  constructor
  · rintro ⟨signed, spelled, nonempty, few⟩
    exact ⟨_, readInteger?_eq_some_iff.2 ⟨_, _, rfl, signed, spelled, nonempty⟩, few, rfl⟩
  · rintro ⟨⟨negative, digits⟩, read, few, rfl⟩
    obtain ⟨sign, text, rfl, signed, spelled, nonempty⟩ := readInteger?_eq_some_iff.1 read
    exact .digits signed spelled nonempty few

/-- A token stands for one integer at most. -/
theorem IsInteger.unique {token : List Char} {one other : Int} (first : IsInteger token one)
    (second : IsInteger token other) : one = other := by
  obtain ⟨numeral, read, -, rfl⟩ := isInteger_iff.1 first
  obtain ⟨again, reread, -, rfl⟩ := isInteger_iff.1 second
  cases read.symm.trans reread
  rfl

end Integers

section Reals

theorem readExponent?_eq_some_iff {text : List Char} {exponent : Int} :
    readExponent? text = some exponent ↔ IsExponent text exponent := by
  constructor
  · intro read
    unfold readExponent? at read
    split at read
    next =>
      cases read
      exact .missing
    next letter text =>
      split at read
      next marked =>
        obtain ⟨sign, signed, whole⟩ := exists_sign text
        generalize takeSign text = taken at read signed whole
        obtain ⟨negative, body⟩ := taken
        subst whole
        split at read
        next digit digits cut =>
          cases read
          exact .written (by simpa using marked) signed (spells_of_takeDigits cut)
            (List.cons_ne_nil _ _)
        next => cases read
      next => cases read
  · intro shape
    cases shape with
    | missing => rfl
    | @written letter sign text negative digits marked signed spelled nonempty =>
      obtain ⟨digit, digits, rfl⟩ := List.exists_cons_of_ne_nil nonempty
      have letter : (letter = 'e' || letter = 'E') = true := by simpa using marked
      rw [readExponent?, if_pos letter, spelled.takeSign_append nonempty signed,
        spelled.takeDigits]
      cases negative <;> rfl

theorem IsExponent.head {text : List Char} {exponent : Int} (shape : IsExponent text exponent) :
    ∀ c ∈ text.head?, c = 'e' ∨ c = 'E' := by
  cases shape with
  | missing => simp
  | written marked => simpa using marked

theorem IsExponent.stops {text : List Char} {exponent : Int} (shape : IsExponent text exponent) :
    ∀ c ∈ text.head?, digitValue? c = none := by
  intro c first
  rcases shape.head c first with rfl | rfl
  · decide
  · decide

theorem takeFraction_of_pointless {text : List Char} (pointless : ∀ c ∈ text.head?, c ≠ '.') :
    takeFraction text = ([], text) := by
  unfold takeFraction
  split
  next => exact absurd rfl (pointless '.' rfl)
  next => rfl

theorem readDecimal?_eq_some_iff {text : List Char} {coefficient : Nat} {exponent : Int} :
    readDecimal? text = some (coefficient, exponent) ↔ IsDecimal text coefficient exponent := by
  constructor
  · intro read
    obtain ⟨front, whole, before⟩ := exists_of_takeDigits (rfl : takeDigits text = (_, _))
    unfold readDecimal? at read
    generalize takeDigits text = taken at whole before read
    obtain ⟨digits, rest⟩ := taken
    dsimp only at whole before read
    subst whole
    unfold takeFraction at read
    split at read
    next more =>
      obtain ⟨back, cut, after⟩ := exists_of_takeDigits (rfl : takeDigits more = (_, _))
      generalize takeDigits more = taken at cut after read
      obtain ⟨places, scale⟩ := taken
      dsimp only at cut after read
      subst cut
      split at read
      next => cases read
      next some =>
        obtain ⟨found, scaled, same⟩ := Option.map_eq_some_iff.1 read
        cases same
        exact .pointed before after (by simpa using some) (readExponent?_eq_some_iff.1 scaled)
    next =>
      split at read
      next => cases read
      next some =>
        obtain ⟨found, scaled, same⟩ := Option.map_eq_some_iff.1 read
        cases same
        have shape := IsDecimal.whole before (by simpa using some)
          (readExponent?_eq_some_iff.1 scaled)
        simpa using shape
  · intro shape
    cases shape with
    | @whole text scale digits _ spelled nonempty scaled =>
      have pointless : ∀ c ∈ scale.head?, c ≠ '.' := by
        intro c first
        rcases scaled.head c first with rfl | rfl
        · decide
        · decide
      simp [readDecimal?, spelled.takeDigits_append scaled.stops,
        takeFraction_of_pointless pointless, nonempty, readExponent?_eq_some_iff.2 scaled]
    | @pointed front back scale digits places _ before after nonempty scaled =>
      have point : ∀ c ∈ ('.' :: (back ++ scale)).head?, digitValue? c = none := by
        simp only [List.head?_cons, Option.mem_some_iff, forall_eq']
        decide
      have some : (digits.isEmpty && places.isEmpty) = false := by
        cases digits <;> cases places <;> simp_all
      simp [readDecimal?, before.takeDigits_append point, takeFraction,
        after.takeDigits_append scaled.stops, some, readExponent?_eq_some_iff.2 scaled]

/-- A decimal begins with a digit or a point, so it is none of the words. -/
theorem IsDecimal.head {text : List Char} {coefficient : Nat} {exponent : Int}
    (shape : IsDecimal text coefficient exponent) :
    ∃ c rest, text = c :: rest ∧ (c.toNat < 58 ∨ 0x660 ≤ c.toNat) ∧ c ≠ '-' ∧ c ≠ '+' := by
  cases shape with
  | whole spelled nonempty scaled =>
    obtain ⟨c, rest, rfl, digit⟩ := spelled.exists_first nonempty
    exact ⟨c, _, rfl, by omega, unsigned_of_digit digit⟩
  | @pointed front back scale digits places _ before after nonempty scaled =>
    by_cases none : digits = []
    · subst none
      obtain rfl : front = [] := List.map_eq_nil_iff.1 before
      exact ⟨'.', _, rfl, by decide, by decide, by decide⟩
    · obtain ⟨c, rest, rfl, digit⟩ := before.exists_first none
      exact ⟨c, _, rfl, by omega, unsigned_of_digit digit⟩

theorem toLower_of_outside {c : Char} (outside : c.toNat < 58 ∨ 0x660 ≤ c.toNat) :
    c.toLower = c := by
  unfold Char.toLower
  split
  next upper =>
    have above : 65 ≤ c.toNat := UInt32.le_iff_toNat_le.1 upper.1
    have below : c.toNat ≤ 90 := UInt32.le_iff_toNat_le.1 upper.2
    omega
  next => rfl

private theorem plainLetter_of_outside {c : Char} (outside : c.toNat < 58 ∨ 0x660 ≤ c.toNat) :
    plainLetter c = c := by
  have dotted : ¬ (c.toNat = 0x130 ∨ c.toNat = 0x131) := by omega
  simp [plainLetter, dotted, toLower_of_outside outside]

theorem readReal?_decimal {c : Char} {rest token : List Char} {negative : Bool}
    (outside : c.toNat < 58 ∨ 0x660 ≤ c.toNat) (cut : takeSign token = (negative, c :: rest)) :
    readReal? token = (readDecimal? (c :: rest)).map fun (coefficient, exponent) =>
      .decimal negative coefficient exponent := by
  have notI : c ≠ 'i' := by
    rintro rfl
    exact absurd outside (by decide)
  have notN : c ≠ 'n' := by
    rintro rfl
    exact absurd outside (by decide)
  simp [readReal?, cut, lowercase, isInfinityWord, toLower_of_outside outside,
    plainLetter_of_outside outside, notI, notN]

private theorem unsigned_of_lowercase {body word : List Char} {first : Char}
    (same : lowercase body = first :: word) (letter : first.isLower = true) :
    ∀ c ∈ body.head?, c ≠ '-' ∧ c ≠ '+' := by
  cases body with
  | nil => cases same
  | cons c body =>
    have lower : c.toLower = first := (List.cons.inj same).1
    intro d head
    cases head
    constructor
    · rintro rfl
      rw [← lower] at letter
      cases letter
    · rintro rfl
      rw [← lower] at letter
      cases letter

/-- What is read is one of the words or a decimal, with its sign in front. -/
private theorem exists_of_readReal? {token : List Char} {numeral : RealNumeral}
    (read : readReal? token = some numeral) :
    ∃ sign body negative, token = sign ++ body ∧ IsSign sign negative ∧
      (isInfinityWord (lowercase body) = true ∧ numeral = .infinity negative ∨
        lowercase body = "nan".toList ∧ numeral = .nan ∨ numeral = .dottedInfinity ∨
        ∃ coefficient exponent, IsDecimal body coefficient exponent ∧
          numeral = .decimal negative coefficient exponent) := by
  obtain ⟨sign, signed, whole⟩ := exists_sign token
  unfold readReal? at read
  generalize takeSign token = taken at signed whole read
  obtain ⟨negative, body⟩ := taken
  refine ⟨sign, body, negative, whole, signed, ?_⟩
  dsimp only at read
  split at read
  next word =>
    cases read
    exact .inl ⟨word, rfl⟩
  next =>
    split at read
    next word =>
      cases read
      exact .inr (.inl ⟨by simpa using word, rfl⟩)
    next =>
      split at read
      next =>
        cases read
        exact .inr (.inr (.inl rfl))
      next =>
        obtain ⟨⟨coefficient, exponent⟩, decimal, same⟩ := Option.map_eq_some_iff.1 read
        cases same
        exact .inr (.inr (.inr ⟨_, _, readDecimal?_eq_some_iff.1 decimal, rfl⟩))

theorem readReal?_eq_decimal_iff {token : List Char} {negative : Bool} {coefficient : Nat}
    {exponent : Int} :
    readReal? token = some (.decimal negative coefficient exponent) ↔
      ∃ sign body, token = sign ++ body ∧ IsSign sign negative ∧
        IsDecimal body coefficient exponent := by
  refine ⟨fun read => ?_, fun found => ?_⟩
  · obtain ⟨sign, body, found, whole, signed, said⟩ := exists_of_readReal? read
    obtain ⟨-, other⟩ | ⟨-, other⟩ | other | ⟨_, _, shape, same⟩ := said
    · cases other
    · cases other
    · cases other
    · cases same
      exact ⟨sign, body, whole, signed, shape⟩
  · obtain ⟨sign, body, rfl, signed, shape⟩ := found
    obtain ⟨c, rest, rfl, outside, unsigned⟩ := shape.head
    have cut := @takeSign_append sign (c :: rest) _ signed (by simpa using unsigned)
    rw [readReal?_decimal outside cut, readDecimal?_eq_some_iff.2 shape]
    rfl

theorem isReal_iff {token : List Char} {value : Binary64} :
    IsReal token value ↔
      ∃ numeral, readReal? token = some numeral ∧ numeral.value? = some value := by
  constructor
  · intro shape
    cases shape with
    | decimal signed shape =>
      exact ⟨_, readReal?_eq_decimal_iff.2 ⟨_, _, rfl, signed, shape⟩, rfl⟩
    | @infinity sign body negative signed word =>
      have unsigned : ∀ c ∈ body.head?, c ≠ '-' ∧ c ≠ '+' := by
        rcases word with short | long
        · exact unsigned_of_lowercase short rfl
        · exact unsigned_of_lowercase long rfl
      have infinite : isInfinityWord (lowercase body) = true := by simpa [isInfinityWord] using word
      refine ⟨.infinity negative, ?_, rfl⟩
      simp [readReal?, takeSign_append signed unsigned, infinite]
    | @nan sign body negative signed word =>
      have unsigned := unsigned_of_lowercase word rfl
      refine ⟨.nan, ?_, rfl⟩
      simp [readReal?, takeSign_append signed unsigned, word, isInfinityWord]
  · rintro ⟨numeral, read, meant⟩
    obtain ⟨sign, body, negative, rfl, signed, said⟩ := exists_of_readReal? read
    obtain ⟨word, rfl⟩ | ⟨word, rfl⟩ | rfl | ⟨_, _, shape, rfl⟩ := said
    · cases meant
      exact .infinity signed (by simpa [isInfinityWord] using word)
    · cases meant
      exact .nan signed word
    · cases meant
    · cases meant
      exact .decimal signed shape

end Reals

end Atomistic.Number
