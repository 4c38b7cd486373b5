import Atomistic.Proofs.CursorCalls
import Atomistic.Proofs.FrameExtent
import Atomistic.Proofs.StreamCalls
import Atomistic.Proofs.StreamView

/-! How far a stream has asked its source. Before each frame it looks ahead for a line that is
not blank, and the lines it sees on the way are kept for the frame. A frame has such a line in it,
so when a frame has been taken nothing is kept any more, and no line behind it has been asked
for. -/

namespace Atomistic

open Text LineCursor

section Passing

variable {count : Nat} {cursor rest : LineCursor} {raw : List Line}

/-- The lines that are unread are those behind the ones that were pulled. -/
def LineCursor.Draws (cursor : LineCursor) (raw : List Line) : Prop :=
  cursor.unread = raw.drop cursor.pulled

/-- A line comes out of the lookahead or, when that is empty, from the source. -/
theorem LineCursor.read_some_cases {line : Line}
    (met : LineCursor.read cursor = .ok (some line) rest) :
    (∃ number lookahead, cursor.lookahead = (number, line) :: lookahead ∧
      rest = { cursor with lookahead, lineNumber := number }) ∨
    ∃ first unread, cursor.lookahead = [] ∧ cursor.unread = first :: unread ∧
      rest = { cursor with
        unread, pulled := cursor.pulled + 1, lineNumber := cursor.pulled + 1 } := by
  obtain ⟨number, middle, taken, rfl⟩ := read_eq_some_iff.1 met
  obtain ⟨lookahead, seen, rfl⟩ | ⟨first, unread, empty, source, same, rfl⟩ :=
    pull_some_cases taken
  · exact .inl ⟨number, lookahead, seen, rfl⟩
  · cases same
    exact .inr ⟨first, unread, empty, source, rfl⟩

theorem LineCursor.lookahead_of_read_some {line : Line}
    (met : LineCursor.read cursor = .ok (some line) rest) :
    rest.lookahead = cursor.lookahead.drop 1 := by
  obtain ⟨_, _, seen, rfl⟩ | ⟨_, _, seen, -, rfl⟩ := read_some_cases met
  · rw [seen, List.drop_one, List.tail_cons]
  · rw [seen, List.drop_nil]

theorem LineCursor.Draws.read {line : Line} (draws : cursor.Draws raw)
    (met : LineCursor.read cursor = .ok (some line) rest) : rest.Draws raw := by
  obtain ⟨_, _, -, rfl⟩ | ⟨first, unread, -, seen, rfl⟩ := read_some_cases met
  · exact draws
  · rw [Draws, seen] at draws
    exact (congrArg List.tail draws).trans List.tail_drop

theorem LineCursor.Draws.pullThroughBlank (draws : cursor.Draws raw) :
    cursor.pullThroughBlank.Draws raw := by
  refine (List.drop_eq_drop_iff.2 ?_).trans ((congrArg _ draws).trans List.drop_drop)
  rw [List.length_take, Nat.min_assoc, Nat.min_self]

theorem Passes.lookahead (passes : Passes count cursor rest) :
    rest.lookahead = cursor.lookahead.drop count := by
  induction passes with
  | nil => rfl
  | cons met later ih =>
    rw [ih, lookahead_of_read_some met, List.drop_drop, Nat.add_comm]

theorem Passes.draws (passes : Passes count cursor rest) (draws : cursor.Draws raw) :
    rest.Draws raw := by
  induction passes with
  | nil => exact draws
  | cons met later ih => exact ih (draws.read met)

theorem Passes.lineNumber (passes : Passes count cursor rest) {taken : Nat} {left : List Line}
    (shows : cursor.Shows taken left) : rest.lineNumber = taken + count := by
  induction passes generalizing taken left with
  | nil => exact shows.lineNumber
  | cons met later ih =>
    cases left with
    | nil => cases shows.read_nil.symm.trans met
    | cons line left =>
      obtain ⟨middle, read, shows⟩ := shows.read_cons
      cases read.symm.trans met
      rw [ih shows]
      omega

/-- Where a reading succeeds it has passed some lines and done nothing else to the cursor. -/
def OnlyPasses {α : Type} (reading : Reading α) : Prop :=
  ∀ cursor value rest, reading cursor = .ok value rest → ∃ count, Passes count cursor rest

theorem OnlyPasses.bind {α β : Type} {reading : Reading α} {next : α → Reading β}
    (first : OnlyPasses reading) (second : ∀ value, OnlyPasses (next value)) :
    OnlyPasses (reading >>= next) := by
  intro cursor value rest done
  obtain ⟨found, middle, met, done⟩ := bind_eq_ok_iff.1 done
  obtain ⟨before, passed⟩ := first cursor found middle met
  obtain ⟨after, passedLater⟩ := second found middle value rest done
  exact ⟨before + after, passed.trans passedLater⟩

theorem OnlyPasses.readAs {α : Type} (reading : String) (parse : Line → Except Fault α) :
    OnlyPasses (readAs reading parse) :=
  fun _ _ _ done => ⟨1, .of_readAs done⟩

namespace Frame

theorem onlyPasses_skipLines (reading : String) (count : Nat) :
    OnlyPasses (skipLines reading count) := by
  induction count with
  | zero =>
    intro cursor value rest done
    cases done
    exact ⟨0, .nil _⟩
  | succ count ih =>
    apply OnlyPasses.bind
    · intro cursor line rest done
      exact ⟨1, .cons (require_eq_ok_iff.1 done) (.nil rest)⟩
    · exact fun _ => ih

theorem onlyPasses_skip : OnlyPasses Frame.skip := by
  apply (onlyPasses_skipLines _ 6).bind
  intro counts
  apply OnlyPasses.bind
  · exact (OnlyPasses.readAs _ _).bind fun _ => .readAs _ _
  · exact fun counts => (onlyPasses_skipLines _ 1).bind fun _ => onlyPasses_skipLines _ _

end Frame

end Passing

section Idle

/-- The cursor on these lines when so many are taken and none more has been asked for. -/
def LineCursor.idle (raw : List Line) (taken : Nat) : LineCursor :=
  ⟨raw.drop taken, .clean, [], taken, taken⟩

variable {raw : List Line} {taken : Nat}

theorem LineCursor.shows_idle (raw : List Line) (taken : Nat) :
    (idle raw taken).Shows taken ((raw.drop taken).map stripTerminator) :=
  ⟨rfl, rfl, rfl, rfl, rfl⟩

theorem LineCursor.eq_idle {cursor : LineCursor} {left : List Line}
    (shows : cursor.Shows taken left) (draws : cursor.Draws raw) (empty : cursor.lookahead = []) :
    cursor = idle raw taken := by
  obtain ⟨unread, ending, lookahead, pulled, lineNumber⟩ := cursor
  obtain ⟨clean, -, -, pulled, lineNumber⟩ := shows
  simp only at clean pulled lineNumber empty
  subst empty clean lineNumber
  obtain rfl : _ = lineNumber := pulled
  rw [idle]
  congr 1

/-- Blank lines in front of a piece are fewer than its lines when it is not blank. -/
theorem length_takeWhile_lt {lines : List Line} {count : Nat}
    (content : (lines.take count).all isBlankLine = false) :
    (lines.takeWhile isBlankLine).length < count := by
  by_contra many
  have front : lines.take count <+: lines.takeWhile isBlankLine :=
    List.prefix_of_prefix_length_le (List.take_prefix ..) (List.takeWhile_prefix _)
      (by rw [List.length_take]; omega)
  have blank : (lines.take count).all isBlankLine = true :=
    List.all_eq_true.2 fun line member =>
      List.all_eq_true.1 List.all_takeWhile line (front.subset member)
  rw [blank] at content
  cases content

/-- Looking ahead from there, a stream keeps only lines of the frame that it goes on to pass. -/
theorem LineCursor.idle_of_skip {middle last : LineCursor}
    (looked : atEnd (idle raw taken) = .ok false middle)
    (passed : Frame.skip middle = .ok () last) :
    ∃ piece, raw.drop taken = piece ++ raw.drop (taken + piece.length) ∧ Frame.Spans piece ∧
      last = idle raw (taken + piece.length) := by
  obtain rfl : (idle raw taken).pullThroughBlank = middle := by
    obtain ⟨ahead, -⟩ | ⟨-, -, -, pulled⟩ := atEnd_eq_ok_iff.1 looked
    · cases ahead
    · exact pulled
  have shows := (shows_idle raw taken).pullThroughBlank
  obtain ⟨lines, later, cut, extent, showsLater⟩ := Frame.recognises_skip.spelled shows passed
  obtain ⟨count, passes⟩ := Frame.onlyPasses_skip _ _ _ passed
  obtain rfl : lines.length = count := by
    have number := passes.lineNumber shows
    rw [showsLater.lineNumber] at number
    omega
  have spelled : ((raw.drop taken).take lines.length).map stripTerminator = lines := by
    rw [List.map_take, cut, List.take_left]
  have sized : ((raw.drop taken).take lines.length).length = lines.length := by
    rw [← List.length_map stripTerminator, spelled]
  have kept : ((raw.drop taken).takeWhile isBlankLine).length < lines.length := by
    apply length_takeWhile_lt
    have content := extent.not_blank
    rwa [← spelled, all_isBlankLine_stripTerminator] at content
  have draws : (idle raw taken).Draws raw := rfl
  refine ⟨(raw.drop taken).take lines.length, ?_, ?_, ?_⟩
  · rw [sized, ← List.drop_drop, List.take_append_drop]
  · rwa [Frame.Spans, spelled]
  · rw [sized]
    apply eq_idle showsLater (passes.draws draws.pullThroughBlank)
    rw [passes.lookahead, List.drop_eq_nil_iff]
    simp only [LineCursor.pullThroughBlank, idle, List.nil_append, List.length_map,
      List.length_zipIdx, List.length_take]
    omega

end Idle

namespace FrameStream

section Runs

/-- The lines that were taken for a frame, be it read or only passed over. -/
inductive TakenFrom : List Line → Option Frame → Prop where
  | read {piece : List Line} {frame : Frame} (spans : Frame.Spans piece)
      (reads : ReadsAs piece frame) : TakenFrom piece (some frame)
  | passed {piece : List Line} (spans : Frame.Spans piece) : TakenFrom piece none

/-- One call after the other has taken a frame. Those passed over are not known. -/
inductive TakesFrames : FrameStream → List (Option Frame) → FrameStream → Prop where
  | none (stream : FrameStream) : TakesFrames stream [] stream
  | next {stream middle last : FrameStream} {frame : Frame} {taken : List (Option Frame)}
      (met : next stream = .ok (some frame) middle) (later : TakesFrames middle taken last) :
      TakesFrames stream (some frame :: taken) last
  | forward {stream middle last : FrameStream} {taken : List (Option Frame)}
      (met : forward stream = .ok true middle) (later : TakesFrames middle taken last) :
      TakesFrames stream (none :: taken) last

variable {raw : List Line} {count : Nat} {stream rest : FrameStream}

theorem idle_of_takeFrame {α : Type} {reading : Reading α} {value : α}
    (idle : stream.cursor = .idle raw count)
    (met : takeFrame reading stream = .ok (some value) rest)
    (passes : ∀ middle last, reading middle = .ok value last →
      Frame.skip middle = .ok () last) :
    ∃ piece, raw.drop count = piece ++ raw.drop (count + piece.length) ∧ Frame.Spans piece ∧
      rest.cursor = .idle raw (count + piece.length) := by
  obtain ⟨-, -, middle, last, looked, done, rfl⟩ := takeFrame_eq_some_iff.1 met
  rw [idle] at looked
  exact idle_of_skip looked (passes middle last done)

/-- Behind the lines counted, the cursor has taken those of some frames and asked for no others. -/
def TookOnly (raw : List Line) (count : Nat) (taken : List (Option Frame))
    (cursor : LineCursor) : Prop :=
  ∃ pieces, raw.drop count = pieces.flatten ++ raw.drop (count + pieces.flatten.length) ∧
    List.Forall₂ TakenFrom pieces taken ∧ cursor = .idle raw (count + pieces.flatten.length)

theorem tookOnly_of_piece {piece : List Line} {frame : Option Frame} {cursor : LineCursor}
    (cut : raw.drop count = piece ++ raw.drop (count + piece.length))
    (takenFrom : TakenFrom piece frame) (idle : cursor = .idle raw (count + piece.length)) :
    TookOnly raw count [frame] cursor := by
  refine ⟨[piece], ?_, .cons takenFrom .nil, ?_⟩
  · rwa [List.flatten_singleton]
  · rwa [List.flatten_singleton]

theorem TookOnly.trans {before after : List (Option Frame)} {middle last : LineCursor}
    (first : TookOnly raw count before middle)
    (second : ∀ {further}, middle = .idle raw further → TookOnly raw further after last) :
    TookOnly raw count (before ++ after) last := by
  obtain ⟨pieces, cut, takenFrom, idle⟩ := first
  obtain ⟨others, cutLater, takenLater, idleLater⟩ := second idle
  refine ⟨pieces ++ others, ?_, List.rel_append takenFrom takenLater, ?_⟩
  · rw [cut, cutLater, List.flatten_append, List.length_append, List.append_assoc, Nat.add_assoc]
  · rw [idleLater, List.flatten_append, List.length_append, Nat.add_assoc]

theorem tookOnly_of_forward (idle : stream.cursor = .idle raw count)
    (met : forward stream = .ok true rest) : TookOnly raw count [none] rest.cursor := by
  rw [forward_eq] at met
  split at met
  next => cases met
  next => cases met
  next middle taken =>
    cases met
    obtain ⟨piece, cut, spans, after⟩ := idle_of_takeFrame idle taken fun _ _ => id
    exact tookOnly_of_piece cut (.passed spans) after

theorem tookOnly_of_next {frame : Frame} (idle : stream.cursor = .idle raw count)
    (met : next stream = .ok (some frame) rest) : TookOnly raw count [some frame] rest.cursor := by
  obtain ⟨middle, taken, rfl⟩ := next_eq_some_iff.1 met
  obtain ⟨piece, cut, spans, after⟩ := idle_of_takeFrame idle taken fun _ _ => Frame.skip_of_read
  refine tookOnly_of_piece cut (.read spans ?_) after
  -- the lines that spell the frame are as many as those that were passed
  obtain ⟨unstopped, unended, -⟩ := takeFrame_eq_some_iff.1 taken
  have running : stream.Running count ((raw.drop count).map stripTerminator) :=
    ⟨unstopped, unended, idle ▸ shows_idle raw count⟩
  obtain ⟨-, lines, later, cutLines, spelled, runs⟩ :=
    running.takeFrame_recognised Frame.recognises_read taken
  have number : count + piece.length = count + lines.length := by
    rw [← runs.shows.lineNumber, after]
    rfl
  rw [cut, List.map_append] at cutLines
  obtain ⟨rfl, -⟩ := List.append_inj cutLines (by rw [List.length_map]; omega)
  obtain ⟨last, alone, -⟩ := (Frame.recognises_read.takes spelled).ofLines []
  rw [List.append_nil] at alone
  exact ⟨last, alone⟩

theorem TakesFrames.tookOnly {taken : List (Option Frame)} (run : TakesFrames stream taken rest)
    (idle : stream.cursor = .idle raw count) : TookOnly raw count taken rest.cursor := by
  induction run generalizing count with
  | none => exact ⟨[], rfl, .nil, idle⟩
  | next met later ih => exact (tookOnly_of_next idle met).trans ih
  | forward met later ih => exact (tookOnly_of_forward idle met).trans ih

/-- A stream of a text has pulled just the lines of the frames it has taken. The lookahead is
empty, and what stands behind those frames is still unread. -/
theorem pulls_only_taken {text : String} {taken : List (Option Frame)} {last : FrameStream}
    (run : TakesFrames (ofText text) taken last) :
    ∃ pieces, rawLines text.toList = pieces.flatten ++ last.cursor.unread ∧
      List.Forall₂ TakenFrom pieces taken ∧
      last.cursor.pulled = (pieces.map List.length).sum ∧ last.cursor.lookahead = [] := by
  have start : (ofText text).cursor = .idle (rawLines text.toList) 0 := rfl
  obtain ⟨pieces, cut, takenFrom, idle⟩ := run.tookOnly start
  rw [List.drop_zero, Nat.zero_add] at cut
  refine ⟨pieces, ?_, takenFrom, ?_, by rw [idle]; rfl⟩
  · rw [idle, Nat.zero_add]
    exact cut
  · rw [idle, Nat.zero_add, List.length_flatten]
    rfl

theorem pulls_only_taken_labelled :
    ∃ last, TakesFrames (ofText Document.labelledText) [none, some Document.labelledFrame] last ∧
      ∃ pieces, rawLines Document.labelledText.toList = pieces.flatten ++ last.cursor.unread ∧
        List.Forall₂ TakenFrom pieces [none, some Document.labelledFrame] ∧
        last.cursor.pulled = (pieces.map List.length).sum ∧ last.cursor.lookahead = [] := by
  obtain ⟨middle, passed, left, -⟩ := (leaves_ofText Document.frames_labelledText).forward
  obtain ⟨last, read, -⟩ := left.next
  have run : TakesFrames (ofText Document.labelledText) [none, some Document.labelledFrame] last :=
    .forward passed (.next read (.none last))
  exact ⟨last, run, pulls_only_taken run⟩

end Runs

end FrameStream

end Atomistic
