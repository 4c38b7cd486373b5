import Atomistic.Files.Blocks
import Atomistic.Proofs.TextPieces

/-! Text as the bytes of a file, and back again. Reading takes a carriage return for the end of
a line, while writing leaves every character as it is, so the same lines come back only if no
carriage return is in them. All other characters stay what they are. -/

namespace Atomistic

open Text

section LineEnds

/-- How the end of a line is written. -/
inductive LineEnd where
  | feed
  | returnAndFeed
  | loneReturn

def LineEnd.chars : LineEnd → List Char
  | feed => ['\n']
  | returnAndFeed => ['\r', '\n']
  | loneReturn => ['\r']

/-- The text with another end written for each of its line feeds. -/
def withLineEnds (lineEnd : LineEnd) (text : List Char) : List Char :=
  text.flatMap fun c => if c = '\n' then lineEnd.chars else [c]

variable {lineEnd : LineEnd} {text : List Char}

theorem withLineEnds_newline (lineEnd : LineEnd) (text : List Char) :
    withLineEnds lineEnd ('\n' :: text) = lineEnd.chars ++ withLineEnds lineEnd text :=
  rfl

theorem withLineEnds_cons {c : Char} (other : c ≠ '\n') (text : List Char) :
    withLineEnds lineEnd (c :: text) = c :: withLineEnds lineEnd text := by
  rw [withLineEnds, List.flatMap_cons, if_neg other]
  rfl

theorem withLineEnds_feed (text : List Char) : withLineEnds .feed text = text := by
  induction text with
  | nil => rfl
  | cons c rest ih =>
    by_cases newline : c = '\n'
    · rw [newline, withLineEnds_newline, ih]
      rfl
    · rw [withLineEnds_cons newline, ih]

/-- The text with all its line ends as line feeds, when it stands behind this character. -/
private def lineFeedsAfter (before : Char) (text : List Char) : List Char :=
  (text.zip (before :: text)).filterMap fun (c, before) =>
    if c = '\n' && before = '\r' then none
    else some (if c = '\r' then '\n' else c)

private theorem lineFeedsAfter_cons (before c : Char) (text : List Char) :
    lineFeedsAfter before (c :: text) =
      if c = '\n' && before = '\r' then lineFeedsAfter c text
      else (if c = '\r' then '\n' else c) :: lineFeedsAfter c text := by
  by_cases second : (c = '\n' && before = '\r') = true
  · rw [if_pos second]
    exact List.filterMap_cons_none (if_pos second)
  · rw [if_neg second]
    exact List.filterMap_cons_some (if_neg second)

/-- Behind a carriage return no line may begin with a line feed, so lone returns must be how the
lines of the text end. -/
private theorem lineFeedsAfter_withLineEnds (plain : '\r' ∉ text) {before : Char}
    (apart : before = '\r' → lineEnd = .loneReturn) :
    lineFeedsAfter before (withLineEnds lineEnd text) = text := by
  induction text generalizing before with
  | nil => rfl
  | cons c rest ih =>
    have others : '\r' ∉ rest := fun inside => plain (List.mem_cons_of_mem _ inside)
    by_cases newline : c = '\n'
    · subst newline
      rw [withLineEnds_newline]
      cases lineEnd with
      | feed =>
        have free : before ≠ '\r' := fun same => nomatch apart same
        simp [LineEnd.chars, lineFeedsAfter_cons, free, ih others]
      | returnAndFeed => simp [LineEnd.chars, lineFeedsAfter_cons, ih others]
      | loneReturn => simp [LineEnd.chars, lineFeedsAfter_cons, ih others]
    · have other : c ≠ '\r' := fun same => plain (by simp [same])
      rw [withLineEnds_cons newline, lineFeedsAfter_cons]
      simp [newline, other, ih others]

/-- However its lines end, a text is read as if they ended with line feeds. -/
theorem withLineFeeds_withLineEnds (plain : '\r' ∉ text) (lineEnd : LineEnd) :
    withLineFeeds (withLineEnds lineEnd text) = text :=
  lineFeedsAfter_withLineEnds plain fun same => nomatch same

theorem withLineFeeds_of_no_return (plain : '\r' ∉ text) : withLineFeeds text = text := by
  have whole := withLineFeeds_withLineEnds plain .feed
  rwa [withLineEnds_feed] at whole

theorem no_return_joinLines {lines : List Line} (unbroken : ∀ line ∈ lines, IsUnbroken line) :
    '\r' ∉ joinLines lines := by
  intro inside
  obtain ⟨line, member, here⟩ := List.mem_flatMap.1 inside
  rcases List.mem_append.1 here with within | final
  · exact (unbroken line member _ within).2 rfl
  · cases List.mem_singleton.1 final

end LineEnds

namespace Encoding

variable {encoding : Encoding} {text : List Char} {bytes : ByteArray}

private theorem fromUTF8?_toUTF8 (text : String) : String.fromUTF8? text.toUTF8 = some text := by
  simp only [String.fromUTF8?, String.toUTF8_eq_toByteArray, dif_pos text.isValidUTF8]
  rfl

theorem encode?_limited {limit : Nat} (limited : encoding.byteLimit? = some limit)
    (text : List Char) :
    encoding.encode? text =
      if text.all (·.toNat < limit) then
        some ⟨(text.map fun c => UInt8.ofNat c.toNat).toArray⟩
      else none := by
  rw [encode?, limited]

theorem encode?_utf8 (text : List Char) :
    Encoding.utf8.encode? text = some (String.ofList text).toUTF8 :=
  rfl

theorem decode?_toUTF8 (text : String) :
    Encoding.utf8.decode? text.toUTF8 = some text.toList := by
  change (String.fromUTF8? _).map String.toList = _
  rw [fromUTF8?_toUTF8, Option.map_some]

/-- Characters below the limit of an encoding fit into one byte each. -/
theorem decode?_limited {limit : Nat} (limited : encoding.byteLimit? = some limit)
    (small : limit ≤ UInt8.size) (below : text.all (·.toNat < limit) = true) :
    encoding.decode? ⟨(text.map fun c => UInt8.ofNat c.toNat).toArray⟩ = some text := by
  have back : ∀ c ∈ text, (UInt8.ofNat c.toNat).toNat = c.toNat := by
    intro c inside
    have fits : c.toNat < limit := by simpa using List.all_eq_true.1 below c inside
    exact UInt8.toNat_ofNat_of_lt' (Nat.lt_of_lt_of_le fits small)
  have same : (text.map fun c => UInt8.ofNat c.toNat).map (fun byte => Char.ofNat byte.toNat) =
      text := by
    rw [List.map_map]
    refine (List.map_congr_left fun c inside => ?_).trans (List.map_id text)
    rw [Function.comp_apply, back c inside, Char.ofNat_toNat, id_eq]
  have fits : ((text.map fun c => UInt8.ofNat c.toNat).toArray.all (·.toNat < limit)) = true := by
    rw [List.all_toArray, List.all_map, List.all_eq_true]
    intro c inside
    rw [Function.comp_apply, back c inside]
    exact List.all_eq_true.1 below c inside
  rw [decode?, limited]
  simp only [fits, if_true, same]

/-- Whatever an encoding can express is decoded as the same text. -/
theorem decode?_of_encode? (encoded : encoding.encode? text = some bytes) :
    encoding.decode? bytes = some text := by
  have single : ∀ limit, encoding.byteLimit? = some limit → limit ≤ UInt8.size →
      encoding.decode? bytes = some text := by
    intro limit limited small
    rw [encode?_limited limited] at encoded
    split at encoded
    next below =>
      cases encoded
      exact decode?_limited limited small below
    next => cases encoded
  cases encoding with
  | utf8 =>
    cases encoded
    rw [decode?_toUTF8, String.toList_ofList]
  | latin1 => exact single 0x100 rfl (by decide)
  | ascii => exact single 0x80 rfl (by decide)

/-- Texts can be expressed together exactly when each of them can. -/
theorem isSome_encode?_append (encoding : Encoding) (first second : List Char) :
    (encoding.encode? (first ++ second)).isSome =
      ((encoding.encode? first).isSome && (encoding.encode? second).isSome) := by
  cases limited : encoding.byteLimit? with
  | none => simp [encode?, limited]
  | some limit =>
    simp only [encode?_limited limited, List.all_append]
    cases first.all (·.toNat < limit) <;> cases second.all (·.toNat < limit) <;> rfl

theorem cursor_of_decode? (decoded : encoding.decode? bytes = some text) :
    encoding.cursor bytes = .ofLines (rawLines (withLineFeeds text)) := by
  rw [cursor, lines, decoded]
  rfl

/-- A file without carriage returns is read like the text in it. -/
theorem cursor_eq_ofText (plain : '\r' ∉ text) (decoded : encoding.decode? bytes = some text) :
    encoding.cursor bytes = .ofText (String.ofList text) := by
  rw [cursor_of_decode? decoded, withLineFeeds_of_no_return plain, LineCursor.ofText,
    String.toList_ofList]

end Encoding

end Atomistic
