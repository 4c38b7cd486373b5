import Atomistic.Proofs.RowReading

/-! Element symbols. Each known number has a symbol of its own, which is a word, so the line
of a symbol is read as the number that it was written for. -/

namespace Atomistic

open Number Text

namespace Element

private theorem nodup_symbols : symbols.Nodup := by decide +kernel

private theorem words_symbols :
    (symbols.all fun symbol =>
      !symbol.toList.isEmpty && symbol.toList.all (!isBlank ·)) = true := by
  decide +kernel

theorem isWord_of_mem_symbols {symbol : String} (member : symbol ∈ symbols) :
    IsWord symbol.toList :=
  isWord_of_all (List.all_eq_true.1 words_symbols symbol member)

theorem symbolOf?_eq_some {number : AtomicNumber} (known : number.value ≤ symbols.length) :
    ∃ symbol ∈ symbols, symbolOf? number.value = some symbol ∧ numberOf? symbol = some number := by
  obtain ⟨value, positive⟩ := number
  obtain ⟨place, rfl⟩ := Nat.exists_eq_succ_of_ne_zero (Nat.ne_of_gt positive)
  have inside : place < symbols.length := known
  refine ⟨symbols[place], List.getElem_mem inside, ?_, ?_⟩
  · simp [symbolOf?, inside]
  · have found : symbols.findIdx? (· == symbols[place]) = some place := by
      rw [List.findIdx?_eq_some_iff_getElem]
      refine ⟨inside, by simp, ?_⟩
      intro earlier before same
      have equal := (List.getElem_inj nodup_symbols).1 (eq_of_beq same)
      omega
    simp [numberOf?, found]

theorem symbolOf?_of_numberOf? {symbol : String} {number : AtomicNumber}
    (found : numberOf? symbol = some number) : symbolOf? number.value = some symbol := by
  obtain ⟨place, met, rfl⟩ := Option.map_eq_some_iff.1 found
  obtain ⟨inside, same, -⟩ := List.findIdx?_eq_some_iff_getElem.1 met
  simpa [symbolOf?, inside] using same

theorem le_of_symbolOf? {symbol : String} {number : AtomicNumber}
    (found : symbolOf? number.value = some symbol) : number.value ≤ symbols.length := by
  unfold symbolOf? at found
  split at found
  next => cases found
  next =>
    obtain ⟨inside, -⟩ := List.getElem?_eq_some_iff.1 found
    omega

theorem numberOf?_of_symbolOf? {symbol : String} {number : AtomicNumber}
    (found : symbolOf? number.value = some symbol) : numberOf? symbol = some number := by
  obtain ⟨again, -, same, back⟩ := symbolOf?_eq_some (le_of_symbolOf? found)
  cases found.symm.trans same
  exact back

end Element

end Atomistic
