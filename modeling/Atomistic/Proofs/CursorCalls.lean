import Atomistic.Proofs.CursorView

/-! Calls on a cursor, one after the other. A cursor is a plain list of lines with a place in it.
Each read gives the next line and moves on by one; looking ahead takes lines from the source but
puts all of them back, so that no later call can tell. -/

namespace Atomistic

open Text

namespace LineCursor

section Terminators

/-- The line that a raw line holds. One terminator is left out, and a carriage return before a
line feed belongs to it. -/
inductive Holds : Line → Line → Prop where
  | unended {line : Line} (noFeed : line.getLast? ≠ some '\n')
      (noReturn : line.getLast? ≠ some '\r') : Holds line line
  | feed {line : Line} (noReturn : line.getLast? ≠ some '\r') : Holds (line ++ ['\n']) line
  | returnAndFeed (line : Line) : Holds (line ++ ['\r', '\n']) line
  | loneReturn (line : Line) : Holds (line ++ ['\r']) line

private theorem dropLast_append (c : Char) (line : Line) : dropLast c (line ++ [c]) = line := by
  simp [dropLast]

private theorem dropLast_of_getLast? {c : Char} {line : Line} (other : line.getLast? ≠ some c) :
    dropLast c line = line :=
  if_neg other

theorem holds_iff {raw line : Line} : Holds raw line ↔ stripTerminator raw = line := by
  constructor
  · intro holds
    cases holds with
    | unended noFeed noReturn =>
      rw [stripTerminator, dropLast_of_getLast? noFeed, dropLast_of_getLast? noReturn]
    | feed noReturn => rw [stripTerminator, dropLast_append, dropLast_of_getLast? noReturn]
    | returnAndFeed =>
      have pair : line ++ ['\r', '\n'] = line ++ ['\r'] ++ ['\n'] := by simp
      rw [stripTerminator, pair, dropLast_append, dropLast_append]
    | loneReturn =>
      have noFeed : (line ++ ['\r']).getLast? ≠ some '\n' := by simp
      rw [stripTerminator, dropLast_of_getLast? noFeed, dropLast_append]
  · intro same
    subst same
    by_cases feed : raw.getLast? = some '\n'
    · obtain ⟨front, rfl⟩ := List.getLast?_eq_some_iff.1 feed
      rw [stripTerminator, dropLast_append]
      by_cases before : front.getLast? = some '\r'
      · obtain ⟨line, rfl⟩ := List.getLast?_eq_some_iff.1 before
        rw [dropLast_append, List.append_assoc]
        exact .returnAndFeed line
      · rw [dropLast_of_getLast? before]
        exact .feed before
    · rw [stripTerminator, dropLast_of_getLast? feed]
      by_cases alone : raw.getLast? = some '\r'
      · obtain ⟨line, rfl⟩ := List.getLast?_eq_some_iff.1 alone
        rw [dropLast_append]
        exact .loneReturn line
      · rw [dropLast_of_getLast? alone]
        exact .unended feed alone

theorem holds_lines (raw : List Line) : List.Forall₂ Holds raw (raw.map stripTerminator) := by
  rw [List.forall₂_map_right_iff]
  exact List.forall₂_same.2 fun _ _ => holds_iff.2 rfl

end Terminators

section LookingAhead

/-- Take the next line with its number, first of all one that was seen before. -/
def pull : Reading (Option (Nat × Line)) := fun cursor =>
  match cursor.lookahead, cursor.unread with
  | next :: lookahead, _ => .ok (some next) { cursor with lookahead }
  | [], raw :: unread =>
    .ok (some (cursor.pulled + 1, stripTerminator raw))
      { cursor with unread, pulled := cursor.pulled + 1 }
  | [], [] => passEnd none cursor

/-- A line is read by pulling it and keeping its number. -/
theorem read_eq_pull : read = (do
    match ← pull with
    | some (number, line) =>
      modify fun cursor => { cursor with lineNumber := number }
      return some line
    | none => return none) := by
  funext cursor
  obtain ⟨unread, ending, lookahead, pulled, lineNumber⟩ := cursor
  cases lookahead with
  | cons head lookahead => rfl
  | nil =>
    cases unread with
    | cons raw unread => rfl
    | nil => cases ending <;> rfl

/-- Lines are pulled one by one, up to the first that is not blank or to the end: the lines that
were seen, and whether the end was met. -/
inductive Sees : LineCursor → List (Nat × Line) → Bool → LineCursor → Prop where
  | nothing {cursor last : LineCursor} (met : pull cursor = .ok none last) :
      Sees cursor [] true last
  | content {cursor last : LineCursor} {next : Nat × Line}
      (met : pull cursor = .ok (some next) last) (content : isBlankLine next.2 = false) :
      Sees cursor [next] false last
  | blank {cursor middle last : LineCursor} {next : Nat × Line} {seen : List (Nat × Line)}
      {ended : Bool} (met : pull cursor = .ok (some next) middle)
      (blank : isBlankLine next.2 = true) (later : Sees middle seen ended last) :
      Sees cursor (next :: seen) ended last

variable {cursor last : LineCursor} {next : Nat × Line}

/-- A pulled line comes out of the lookahead or, when that is empty, from the source. -/
theorem pull_some_cases (met : pull cursor = .ok (some next) last) :
    (∃ lookahead, cursor.lookahead = next :: lookahead ∧ last = { cursor with lookahead }) ∨
    ∃ raw unread, cursor.lookahead = [] ∧ cursor.unread = raw :: unread ∧
      next = (cursor.pulled + 1, stripTerminator raw) ∧
      last = { cursor with unread, pulled := cursor.pulled + 1 } := by
  obtain ⟨unread, ending, lookahead, pulled, lineNumber⟩ := cursor
  cases lookahead with
  | cons head lookahead =>
    cases met
    exact .inl ⟨lookahead, rfl, rfl⟩
  | nil =>
    cases unread with
    | cons raw unread =>
      cases met
      exact .inr ⟨raw, unread, rfl, rfl, rfl, rfl⟩
    | nil => cases ending <;> cases met

theorem read_eq_some_iff {line : Line} :
    read cursor = .ok (some line) last ↔
      ∃ number middle, pull cursor = .ok (some (number, line)) middle ∧
        { middle with lineNumber := number } = last := by
  rw [read_eq_pull, bind_eq_ok_iff]
  constructor
  · intro ⟨found, middle, met, done⟩
    cases found with
    | none => cases done
    | some next =>
      cases done
      exact ⟨_, middle, met, rfl⟩
  · intro ⟨number, middle, met, same⟩
    subst same
    exact ⟨_, middle, met, rfl⟩

/-- Lines go back in front of those that were seen before. -/
def putBack (seen : List (Nat × Line)) (cursor : LineCursor) : LineCursor :=
  { cursor with lookahead := seen ++ cursor.lookahead }

theorem atEnd_of_nothing (met : pull cursor = .ok none last) : atEnd cursor = .ok true last := by
  obtain ⟨unread, ending, lookahead, pulled, lineNumber⟩ := cursor
  cases lookahead with
  | cons head lookahead => cases met
  | nil =>
    cases unread with
    | cons raw unread => cases met
    | nil =>
      obtain ⟨clean, -, rfl⟩ := passEnd_eq_ok_iff.1 met
      exact passEnd_eq_ok_iff.2 ⟨clean, rfl, rfl⟩

theorem atEnd_of_content (met : pull cursor = .ok (some next) last)
    (content : isBlankLine next.2 = false) : atEnd cursor = .ok false (last.putBack [next]) := by
  obtain ⟨unread, ending, lookahead, pulled, lineNumber⟩ := cursor
  rw [atEnd_eq_ok_iff]
  obtain ⟨later, seen, rfl⟩ | ⟨raw, later, empty, source, rfl, rfl⟩ := pull_some_cases met
  · subst seen
    exact .inl ⟨by simp [content], rfl, rfl⟩
  · subst empty source
    rw [isBlankLine_stripTerminator] at content
    exact .inr ⟨rfl, by simp [content], nofun, by simp [content, putBack, pullThroughBlank]⟩

theorem atEnd_of_blank {middle : LineCursor} {ended : Bool}
    (met : pull cursor = .ok (some next) middle) (blank : isBlankLine next.2 = true)
    (looked : atEnd middle = .ok ended last) : atEnd cursor = .ok ended (last.putBack [next]) := by
  obtain ⟨unread, ending, lookahead, pulled, lineNumber⟩ := cursor
  rw [atEnd_eq_ok_iff] at looked ⊢
  obtain ⟨later, seen, rfl⟩ | ⟨raw, later, empty, source, rfl, rfl⟩ := pull_some_cases met
  · subst seen
    obtain ⟨ahead, rfl, rfl⟩ | ⟨ahead, rest, clean, rfl⟩ := looked
    · exact .inl ⟨by simpa [blank] using ahead, rfl, rfl⟩
    · exact .inr ⟨by simpa [blank] using ahead, rest, clean, rfl⟩
  · subst empty source
    rw [isBlankLine_stripTerminator] at blank
    obtain ⟨ahead, -, -⟩ | ⟨-, rest, clean, rfl⟩ := looked
    · cases ahead
    · refine .inr ⟨rfl, by simpa [blank] using rest, clean, ?_⟩
      simp [blank, putBack, pullThroughBlank]
      omega

theorem atEnd_of_sees {seen : List (Nat × Line)} {ended : Bool}
    (sees : Sees cursor seen ended last) : atEnd cursor = .ok ended (last.putBack seen) := by
  -- along the pulling: a blank line that is put back changes nothing that comes after it
  induction sees with
  | nothing met => exact atEnd_of_nothing met
  | content met content => exact atEnd_of_content met content
  | blank met blank later ih => exact atEnd_of_blank met blank ih

theorem exists_pull {count : Nat} (clean : cursor.ending = .clean)
    (left : cursor.remaining = count + 1) :
    ∃ next middle, pull cursor = .ok (some next) middle ∧ middle.ending = .clean ∧
      middle.remaining = count := by
  obtain ⟨unread, ending, lookahead, pulled, lineNumber⟩ := cursor
  cases lookahead with
  | cons head lookahead =>
    refine ⟨_, _, rfl, clean, ?_⟩
    simp only [remaining, List.length_cons] at left ⊢
    omega
  | nil =>
    cases unread with
    | cons raw unread => exact ⟨_, _, rfl, clean, by simpa [remaining] using left⟩
    | nil => simp [remaining] at left

/-- Each pulled line is one less to come, so the pulling ends. -/
theorem exists_sees (clean : cursor.ending = .clean) :
    ∃ seen ended last, Sees cursor seen ended last := by
  induction left : cursor.remaining generalizing cursor with
  | zero =>
    obtain ⟨unread, ending, lookahead, pulled, lineNumber⟩ := cursor
    obtain rfl : ending = .clean := clean
    obtain ⟨rfl, rfl⟩ : lookahead = [] ∧ unread = [] := by simpa [remaining] using left
    exact ⟨_, _, _, .nothing rfl⟩
  | succ count ih =>
    obtain ⟨next, middle, met, cleanLater, fewer⟩ := exists_pull clean left
    cases blank : isBlankLine next.2 with
    | false => exact ⟨_, _, _, .content met blank⟩
    | true =>
      obtain ⟨seen, ended, last, later⟩ := ih cleanLater fewer
      exact ⟨_, _, _, .blank met blank later⟩

/-- Looking ahead pulls lines until it can tell, and puts all of them back in front. -/
theorem atEnd_eq_ok_iff_sees (clean : cursor.ending = .clean) {ended : Bool} :
    atEnd cursor = .ok ended last ↔
      ∃ seen rest, Sees cursor seen ended rest ∧ rest.putBack seen = last := by
  constructor
  · intro looked
    obtain ⟨seen, found, rest, sees⟩ := exists_sees clean
    cases looked.symm.trans (atEnd_of_sees sees)
    exact ⟨seen, rest, sees, rfl⟩
  · rintro ⟨seen, rest, sees, rfl⟩
    exact atEnd_of_sees sees

end LookingAhead

section Calls

inductive Call where
  | read
  | atEnd
deriving DecidableEq, Repr

inductive Answer where
  /-- The end of the lines is answered with no line. -/
  | line (found : Option Line)
  | ended (found : Bool)
deriving DecidableEq, Repr

def perform : Call → Reading Answer
  | .read => return .line (← read)
  | .atEnd => return .ended (← atEnd)

def Answer.line? : Answer → Option Line
  | line found => found
  | ended _ => none

namespace Call

/-- What a call is answered at a place in a list of lines. -/
def answerAt (lines : List Line) (place : Nat) : Call → Answer
  | read => .line lines[place]?
  | atEnd => .ended ((lines.drop place).all isBlankLine)

/-- Only reading moves on, and not past the end. -/
def placeAfter (lines : List Line) (place : Nat) : Call → Nat
  | read => min (place + 1) lines.length
  | atEnd => place

end Call

/-- What calls are answered one after the other. -/
def answersFrom (lines : List Line) (place : Nat) : List Call → List Answer
  | [] => []
  | call :: later =>
    call.answerAt lines place :: answersFrom lines (call.placeAfter lines place) later

/-- So many lines are taken, and the others are those behind them. -/
structure StandsAt (lines : List Line) (place : Nat) (cursor : LineCursor) : Prop where
  inside : place ≤ lines.length
  shows : cursor.Shows place (lines.drop place)

variable {lines : List Line} {place : Nat} {cursor : LineCursor}

theorem standsAt_ofLines (raw : List Line) :
    StandsAt (raw.map stripTerminator) 0 (ofLines raw) :=
  ⟨Nat.zero_le _, shows_ofLines raw⟩

theorem StandsAt.read (stands : StandsAt lines place cursor) :
    ∃ after, read cursor = .ok lines[place]? after ∧
      StandsAt lines (min (place + 1) lines.length) after := by
  obtain ⟨inside, shows⟩ := stands
  by_cases more : place < lines.length
  · rw [List.drop_eq_getElem_cons more] at shows
    obtain ⟨after, met, shows⟩ := shows.read_cons
    rw [List.getElem?_eq_getElem more, Nat.min_eq_left more]
    exact ⟨after, met, more, shows⟩
  · obtain rfl : place = lines.length := by omega
    rw [List.getElem?_eq_none (Nat.le_refl _), Nat.min_eq_right (Nat.le_succ _)]
    refine ⟨cursor, ?_, inside, shows⟩
    rw [List.drop_length] at shows
    exact shows.read_nil

theorem StandsAt.perform (stands : StandsAt lines place cursor) (call : Call) :
    ∃ after, perform call cursor = .ok (call.answerAt lines place) after ∧
      StandsAt lines (call.placeAfter lines place) after := by
  cases call with
  | read =>
    obtain ⟨after, met, stands⟩ := stands.read
    exact ⟨after, bind_of_ok met _, stands⟩
  | atEnd =>
    obtain ⟨after, looked, shows⟩ := stands.shows.atEnd
    exact ⟨after, bind_of_ok looked _, stands.inside, shows⟩

theorem StandsAt.performAll (stands : StandsAt lines place cursor) (calls : List Call) :
    ∃ last, calls.mapM LineCursor.perform cursor = .ok (answersFrom lines place calls) last ∧
      StandsAt lines (min (place + calls.count .read) lines.length) last := by
  induction calls generalizing place cursor with
  | nil =>
    rw [List.count_nil, Nat.add_zero, Nat.min_eq_left stands.inside]
    exact ⟨cursor, rfl, stands⟩
  | cons call later ih =>
    obtain ⟨middle, met, stands⟩ := stands.perform call
    obtain ⟨last, done, stands⟩ := ih stands
    have reached : min (call.placeAfter lines place + later.count .read) lines.length =
        min (place + (call :: later).count .read) lines.length := by
      cases call with
      | read =>
        rw [Call.placeAfter, List.count_cons_self]
        omega
      | atEnd => rw [Call.placeAfter, List.count_cons_of_ne (by decide)]
    refine ⟨last, ?_, reached ▸ stands⟩
    rw [List.mapM_cons, bind_of_ok met, bind_of_ok done]
    rfl

/-- The lines come in order, none of them twice. -/
theorem lines_answersFrom (calls : List Call) :
    (answersFrom lines place calls).filterMap Answer.line? =
      (lines.drop place).take (calls.count .read) := by
  induction calls generalizing place with
  | nil => rfl
  | cons call later ih =>
    cases call with
    | atEnd =>
      rw [List.count_cons_of_ne (by decide)]
      exact ih
    | read =>
      rw [List.count_cons_self, answersFrom, Call.answerAt, Call.placeAfter]
      by_cases more : place < lines.length
      · rw [List.getElem?_eq_getElem more, List.drop_eq_getElem_cons more, Nat.min_eq_left more,
          List.take_succ_cons]
        exact congrArg (lines[place] :: ·) ih
      · have none := List.drop_eq_nil_of_le (Nat.le_of_not_lt more)
        rw [List.getElem?_eq_none (Nat.le_of_not_lt more), none, List.take_nil,
          Nat.min_eq_right (by omega)]
        exact ih.trans (by rw [List.drop_length, List.take_nil])

/-- A cursor is a plain list of lines, whatever calls are made and in whatever order. Reading gives
the lines without their terminators, one after the other, and numbers them from one; at the end it
gives no line and the number stays. Looking ahead tells whether the lines not yet read are all
blank. It pulls lines until it can tell and puts all of them back in front, and so it leaves the
number and all later answers as they are. -/
theorem calls_follow_lines (raw : List Line) :
    ∃ lines, List.Forall₂ Holds raw lines ∧ ∀ calls : List Call, ∃ answers cursor,
      calls.mapM perform (ofLines raw) = .ok answers cursor ∧
      answers.filterMap Answer.line? = lines.take (calls.count .read) ∧
      cursor.lineNumber = min (calls.count .read) lines.length ∧
      (∃ after, read cursor = .ok lines[cursor.lineNumber]? after ∧
        after.lineNumber = min (cursor.lineNumber + 1) lines.length) ∧
      ∃ after ended, atEnd cursor = .ok ended after ∧
        (ended = true ↔ ∀ line ∈ raw.drop cursor.lineNumber, isBlankLine line = true) ∧
        (∃ seen rest, Sees cursor seen ended rest ∧ rest.putBack seen = after) ∧
        after.lineNumber = cursor.lineNumber ∧
        ∀ later : List Call, ∃ same last other, later.mapM perform after = .ok same last ∧
          later.mapM perform cursor = .ok same other ∧ last.lineNumber = other.lineNumber := by
  refine ⟨raw.map stripTerminator, holds_lines raw, fun calls => ?_⟩
  obtain ⟨cursor, done, stands⟩ := (standsAt_ofLines raw).performAll calls
  rw [Nat.zero_add] at stands
  have place := stands.shows.lineNumber
  rw [← place] at stands
  obtain ⟨next, met, moved⟩ := stands.read
  obtain ⟨after, looked, shows⟩ := stands.shows.atEnd
  have same : StandsAt (raw.map stripTerminator) cursor.lineNumber after := ⟨stands.inside, shows⟩
  refine ⟨_, cursor, done, lines_answersFrom calls, place,
    ⟨next, met, moved.shows.lineNumber⟩, after, _, looked, ?_,
    (atEnd_eq_ok_iff_sees stands.shows.clean).1 looked, shows.lineNumber, ?_⟩
  · rw [← List.map_drop, all_isBlankLine_stripTerminator, List.all_eq_true]
  · intro later
    obtain ⟨last, answered, ends⟩ := same.performAll later
    obtain ⟨other, again, endsToo⟩ := stands.performAll later
    have number := ends.shows.lineNumber.trans endsToo.shows.lineNumber.symm
    exact ⟨_, last, other, answered, again, number⟩

end Calls

end LineCursor

end Atomistic
