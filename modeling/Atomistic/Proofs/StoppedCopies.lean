import Atomistic.Proofs.ConvertOutput

/-! Conversions that do not come to an end. Whatever stops one, the output holds the frames that
were copied before that, each of them whole. An input that cannot be opened stops it before the
output is made. -/

namespace Atomistic.Command

open FileTree FrameWriter

/-- The frame in this place, counted from zero, is one of those that are asked for. -/
def Keeps (skip every index : Nat) : Prop :=
  skip ≤ index ∧ every ∣ index - skip

/-- What is copied from a stream that stands in front of the frame with this index. A frame that is
asked for is read, and any other one is passed over; that goes on until there are no more frames
or one of them is at fault. -/
inductive Copies (skip every : Nat) :
    Nat → FrameStream → List Frame → Option Fault → Prop where
  | reads {index : Nat} {stream rest : FrameStream} {frame : Frame} {frames : List Frame}
      {fault? : Option Fault} (keeps : Keeps skip every index)
      (read : stream.next = .ok (some frame) rest)
      (later : Copies skip every (index + 1) rest frames fault?) :
      Copies skip every index stream (frame :: frames) fault?
  | passes {index : Nat} {stream rest : FrameStream} {frames : List Frame}
      {fault? : Option Fault} (leaves : ¬ Keeps skip every index)
      (passed : stream.forward = .ok true rest)
      (later : Copies skip every (index + 1) rest frames fault?) :
      Copies skip every index stream frames fault?
  | readsNone {index : Nat} {stream rest : FrameStream} (keeps : Keeps skip every index)
      (ended : stream.next = .ok none rest) : Copies skip every index stream [] none
  | passesNone {index : Nat} {stream rest : FrameStream} (leaves : ¬ Keeps skip every index)
      (ended : stream.forward = .ok false rest) : Copies skip every index stream [] none
  | cannotRead {index : Nat} {stream rest : FrameStream} {fault : Fault}
      (keeps : Keeps skip every index) (failed : stream.next = .error fault rest) :
      Copies skip every index stream [] (some fault)
  | cannotPass {index : Nat} {stream rest : FrameStream} {fault : Fault}
      (leaves : ¬ Keeps skip every index) (failed : stream.forward = .error fault rest) :
      Copies skip every index stream [] (some fault)

section Gaps

variable {skip passing index gap : Nat}

/-- So many frames are passed over before one is kept. -/
structure NextKept (skip every index gap : Nat) : Prop where
  keeps : Keeps skip every (index + gap)
  leaves : ∀ between < gap, ¬ Keeps skip every (index + between)

theorem nextKept_skip (skip every : Nat) : NextKept skip every 0 skip where
  keeps := by simp [Keeps]
  leaves := by
    rintro between short ⟨enough, -⟩
    omega

theorem NextKept.eq_zero {every : Nat} (next : NextKept skip every index gap)
    (keeps : Keeps skip every index) : gap = 0 := by
  by_contra positive
  exact next.leaves 0 (Nat.pos_of_ne_zero positive) keeps

theorem NextKept.exists_eq_succ {every : Nat} (next : NextKept skip every index gap)
    (leaves : ¬ Keeps skip every index) :
    ∃ less, gap = less + 1 ∧ NextKept skip every (index + 1) less := by
  cases gap with
  | zero => exact absurd next.keeps leaves
  | succ less =>
    refine ⟨less, rfl, ?_, fun between short => ?_⟩
    · rw [Nat.add_right_comm]
      exact next.keeps
    · rw [Nat.add_right_comm]
      exact next.leaves (between + 1) (by omega)

/-- Behind a frame that is kept there is the gap that was asked for. -/
theorem Keeps.nextKept (keeps : Keeps skip (passing + 1) index) :
    NextKept skip (passing + 1) (index + 1) passing := by
  obtain ⟨enough, multiple⟩ := keeps
  constructor
  · refine ⟨by omega, ?_⟩
    have place : index + 1 + passing - skip = index - skip + (passing + 1) := by omega
    rw [place]
    exact Nat.dvd_add multiple (Nat.dvd_refl _)
  · rintro between short ⟨-, again⟩
    have place : index + 1 + between - skip = index - skip + (between + 1) := by omega
    rw [place, Nat.dvd_add_right multiple] at again
    have bound := Nat.le_of_dvd (Nat.succ_pos between) again
    omega

end Gaps

section Steps

variable {passing gap : Nat} {stream rest : FrameStream} {writer : FrameWriter}

theorem copyBehind_zero (passing : Nat) (stream : FrameStream) (writer : FrameWriter) :
    copyBehind passing 0 stream writer = copySelected passing stream writer :=
  rfl

theorem copyBehind_of_passed (passed : stream.forward = .ok true rest) :
    copyBehind passing (gap + 1) stream writer = copyBehind passing gap rest writer := by
  have unfolded : FrameStream.forwardUpTo (gap + 1) stream =
      (do return (← FrameStream.forwardUpTo gap) + 1) rest :=
    bind_of_ok passed _
  unfold copyBehind
  rw [unfolded]
  cases moved : FrameStream.forwardUpTo gap rest with
  | error fault last => rw [bind_of_error moved]
  | ok count last =>
    rw [bind_of_ok moved]
    change (if count + 1 < gap + 1 then _ else _ : Copy) = _
    simp only [Nat.add_lt_add_iff_right]

theorem copyBehind_of_ended (ended : stream.forward = .ok false rest) :
    copyBehind passing (gap + 1) stream writer = ⟨none, rest, writer⟩ := by
  have moved : FrameStream.forwardUpTo (gap + 1) stream = .ok 0 rest := bind_of_ok ended _
  rw [copyBehind, moved]
  exact if_pos (Nat.succ_pos gap)

theorem copyBehind_of_failed {fault : Fault} (failed : stream.forward = .error fault rest) :
    copyBehind passing (gap + 1) stream writer = ⟨some fault, rest, writer⟩ := by
  have stopped : FrameStream.forwardUpTo (gap + 1) stream = .error fault rest :=
    bind_of_error failed _
  rw [copyBehind, stopped]

/-- A frame that was read can be written. -/
theorem accepts_of_next {frame : Frame} (read : stream.next = .ok (some frame) rest) :
    accepts (some .utf8) frame = true := by
  obtain ⟨middle, taken, -⟩ := FrameStream.next_eq_some_iff.1 read
  obtain ⟨-, -, cursor, last, -, done, -⟩ := FrameStream.takeFrame_eq_some_iff.1 taken
  obtain ⟨blocks, grouped⟩ := Frame.grouped_of_read done
  obtain ⟨rows, writes, -⟩ := Frame.exists_lines grouped.writable
  exact accepts_utf8_iff.2 ⟨_, Frame.write_eq_ok writes⟩

/-- Where fewer frames are left than were to be passed over, there is none to read. -/
theorem next_of_short {count passed : Nat}
    (moved : FrameStream.forwardUpTo count stream = .ok passed rest) (short : passed < count) :
    rest.next = .ok none rest := by
  induction count generalizing stream passed with
  | zero => exact absurd short (Nat.not_lt_zero _)
  | succ count ih =>
    obtain ⟨found, middle, met, moved⟩ := bind_eq_ok_iff.1 moved
    cases found with
    | true =>
      obtain ⟨more, last, later, done⟩ := bind_eq_ok_iff.1 moved
      cases done
      exact ih later (Nat.lt_of_succ_lt_succ short)
    | false =>
      cases moved
      rw [FrameStream.forward_eq] at met
      split at met
      next => cases met
      next ended =>
        cases met
        apply FrameStream.next_eq_none_iff.2
        rcases FrameStream.takeFrame_eq_none_iff.1 ended with
          ⟨unstopped, ⟨before, rfl⟩ | ⟨-, cursor, -, rfl⟩⟩
        · exact FrameStream.takeFrame_eq_none_iff.2 ⟨unstopped, .inl ⟨before, rfl⟩⟩
        · exact FrameStream.takeFrame_eq_none_iff.2 ⟨unstopped, .inl ⟨rfl, rfl⟩⟩
      next => cases met

theorem copyFrames_eq (skip passing : Nat) (stream : FrameStream) (writer : FrameWriter) :
    copyFrames skip (passing + 1) stream writer = copyBehind passing skip stream writer := by
  unfold copyFrames copyBehind
  cases moved : FrameStream.forwardUpTo skip stream with
  | error fault rest => rfl
  | ok passed rest =>
    dsimp only
    split
    next short => exact copySelected_of_none (next_of_short moved short) writer
    next => rfl

end Steps

section Runs

variable {skip every passing index gap : Nat} {stream : FrameStream} {frames : List Frame}
  {fault? : Option Fault}

/-- The copy does come to an end, in one way or another. -/
theorem exists_copies (skip every index : Nat) (stream : FrameStream) :
    ∃ frames fault?, Copies skip every index stream frames fault? := by
  by_cases keeps : Keeps skip every index
  · cases read : stream.next with
    | error fault rest => exact ⟨[], some fault, .cannotRead keeps read⟩
    | ok found rest =>
      cases found with
      | none => exact ⟨[], none, .readsNone keeps read⟩
      | some frame =>
        have fewer := FrameStream.remaining_next read
        obtain ⟨frames, fault?, later⟩ := exists_copies skip every (index + 1) rest
        exact ⟨frame :: frames, fault?, .reads keeps read later⟩
  · cases passed : stream.forward with
    | error fault rest => exact ⟨[], some fault, .cannotPass keeps passed⟩
    | ok found rest =>
      cases found with
      | false => exact ⟨[], none, .passesNone keeps passed⟩
      | true =>
        have fewer := FrameStream.remaining_passed passed
        obtain ⟨frames, fault?, later⟩ := exists_copies skip every (index + 1) rest
        exact ⟨frames, fault?, .passes keeps passed later⟩
termination_by stream.cursor.remaining

/-- The writer has taken the frames that were read, and no part of any other. -/
theorem copyBehind_of_copies (copies : Copies skip (passing + 1) index stream frames fault?)
    (next : NextKept skip (passing + 1) index gap) {writer : FrameWriter}
    (opened : writer.closed = false) (encoding : writer.encoding? = some .utf8) :
    ∃ text last, Document.write frames = .ok text ∧
      copyBehind passing gap stream writer = ⟨fault?, last, writer.extended frames text⟩ := by
  induction copies generalizing gap writer with
  | @reads index stream rest frame frames fault? keeps read later ih =>
    obtain rfl := next.eq_zero keeps
    have accepted : accepts writer.encoding? frame = true := by
      rw [encoding]
      exact accepts_of_next read
    obtain ⟨first, written, appended⟩ := appendFrame_of_accepts opened accepted
    obtain ⟨text, last, joined, copied⟩ :=
      @ih _ keeps.nextKept (writer.extended [frame] first) opened encoding
    refine ⟨first ++ text, last, Document.write_cons written joined, ?_⟩
    rw [copyBehind_zero, copySelected_of_some read appended, copied, extended_cons]
  | passes leaves passed later ih =>
    obtain ⟨less, rfl, after⟩ := next.exists_eq_succ leaves
    rw [copyBehind_of_passed passed]
    exact ih after opened encoding
  | @readsNone index stream rest keeps ended =>
    obtain rfl := next.eq_zero keeps
    exact ⟨"", rest, rfl, by rw [copyBehind_zero, copySelected_of_none ended, extended_nil]⟩
  | @passesNone index stream rest leaves ended =>
    obtain ⟨less, rfl, -⟩ := next.exists_eq_succ leaves
    exact ⟨"", rest, rfl, by rw [copyBehind_of_ended ended, extended_nil]⟩
  | @cannotRead index stream rest fault keeps failed =>
    obtain rfl := next.eq_zero keeps
    exact ⟨"", rest, rfl, by rw [copyBehind_zero, copySelected_eq, failed, extended_nil]⟩
  | @cannotPass index stream rest fault leaves failed =>
    obtain ⟨less, rfl, -⟩ := next.exists_eq_succ leaves
    exact ⟨"", rest, rfl, by rw [copyBehind_of_failed failed, extended_nil]⟩

theorem copyFrames_of_copies (positive : 0 < every)
    (copies : Copies skip every 0 stream frames fault?) (name : String) :
    ∃ text last, Document.write frames = .ok text ∧
      copyFrames skip every stream (.ofName name (some .utf8)) =
        ⟨fault?, last, (FrameWriter.ofName name (some .utf8)).extended frames text⟩ := by
  obtain ⟨passing, rfl⟩ := Nat.exists_eq_add_of_lt positive
  rw [Nat.zero_add] at copies ⊢
  rw [copyFrames_eq]
  exact copyBehind_of_copies copies (nextKept_skip _ _) rfl rfl

end Runs

section Stops

variable {arguments : List String} {verbose : Bool} {input output : String} {skip every : Nat}
  {tree made : FileTree} {file : FileWriter}

/-- The input is opened first. A name that is too long stops the command even before that, when
input and output are compared. -/
theorem run_of_unopened {fault : Fault}
    (asked : parse? arguments = some ⟨verbose, .convert input output skip every⟩)
    (created : FileWriter.create (.ofText output) .utf8 tree = .ok file made)
    (failed : openFile (.ofText input) tree = .error fault tree) :
    (run arguments tree).tree = tree ∧
      (∀ problem : FileFault, fault = .file problem → problem.problem ≠ .nameTooLong →
        (run arguments tree).conclusion = .badParameter problem.message) ∧
      ((∀ problem : FileFault, fault = .file problem → problem.problem = .nameTooLong) →
        (run arguments tree).conclusion = .crashes fault) := by
  have stopped : copyFile (.ofText input) (.ofText output) skip every tree =
      .error fault tree := bind_of_error failed _
  rcases openFile_eq_error failed with
    ⟨nowhere, why⟩ | ⟨long, rfl⟩ | ⟨location, found, held, rfl⟩
  · have different : tree.isSameFile (.ofText input) (.ofText output) = .ok false := by
      rw [isSameFile, nowhere]
      rfl
    obtain ⟨concluded, kept⟩ := run_of_failure asked different stopped
    refine ⟨kept, ?_, ?_⟩
    · rintro problem rfl -
      exact concluded
    · intro tooLong
      rcases why with rfl | ⟨problem, short, rfl⟩
      · exact concluded
      · exact absurd (tooLong _ rfl) short
  · have refused : tree.isSameFile (.ofText input) (.ofText output) =
        .error ⟨.nameTooLong, (FilePath.ofText input).text⟩ := by
      rw [isSameFile, long]
      rfl
    have crashed : convert input output skip every ⟨tree, "", "", verbose⟩ =
        .error (.crashes (.file ⟨.nameTooLong, (FilePath.ofText input).text⟩))
          ⟨tree, "", "", verbose⟩ := by
      rw [convert, get_bind, refused]
      rfl
    rw [run_of_stop asked crashed]
    refine ⟨rfl, ?_, fun _ => rfl⟩
    rintro problem ⟨⟩ short
    exact absurd rfl short
  · obtain ⟨-, grown, opens, -⟩ := FileWriter.opens_of_create created
    have apart : file.location ≠ location := by
      rintro rfl
      exact opens.notDirectory (opens.grows.kept _ _ held)
    obtain ⟨concluded, kept⟩ :=
      run_of_failure asked (isSameFile_of_create found created apart) stopped
    refine ⟨kept, ?_, ?_⟩
    · rintro problem ⟨⟩ -
      exact concluded
    · intro tooLong
      cases tooLong _ rfl

/-- A conversion to a file that is not its input copies frames one by one until it comes to the end
or to a fault. If a frame is at fault in its format, the output holds the frames asked for in front
of it, and no more. If the input cannot be opened nothing is made or changed, and the command says
why, unless the name of the input is too long: then it crashes. -/
theorem convert_stops_between_frames
    (asked : parse? arguments = some ⟨verbose, .convert input output skip every⟩)
    (positive : 0 < every)
    (created : FileWriter.create (.ofText output) .utf8 tree = .ok file made) :
    (∀ location, openFile (.ofText input) tree = .ok location tree → file.location ≠ location →
      (∃ frames fault?, Copies skip every 0
        (.ofCursor (Encoding.utf8.cursor (tree.bytesAt location))) frames fault?) ∧
      ∀ frames fault, Copies skip every 0
          (.ofCursor (Encoding.utf8.cursor (tree.bytesAt location))) frames
          (some (.format fault)) →
        ∃ text, Document.write frames = .ok text ∧
          (run arguments tree).conclusion =
            .badParameter ((FilePath.ofText input).text ++ ": " ++ fault.text) ∧
          (run arguments tree).tree.find (.ofText output) =
            .ok (file.location, .file text.toUTF8) ∧
          (run arguments tree).tree.find (.ofText input) =
            .ok (location, .file (tree.bytesAt location))) ∧
    ∀ fault, openFile (.ofText input) tree = .error fault tree →
      (run arguments tree).tree = tree ∧
        (∀ problem : FileFault, fault = .file problem → problem.problem ≠ .nameTooLong →
          (run arguments tree).conclusion = .badParameter problem.message) ∧
        ((∀ problem : FileFault, fault = .file problem → problem.problem = .nameTooLong) →
          (run arguments tree).conclusion = .crashes fault) := by
  refine ⟨fun location opened apart => ⟨exists_copies _ _ _ _, ?_⟩,
    fun fault failed => run_of_unopened asked created failed⟩
  intro frames fault copies
  obtain ⟨found, ⟨bytes, held⟩, -⟩ := openFile_eq_ok_iff.1 opened
  have content : tree.bytesAt location = bytes := by
    rw [bytesAt, held]
  rw [content] at copies ⊢
  obtain ⟨begun, -⟩ := FileWriter.opens_of_create created
  obtain ⟨text, last, written, copied⟩ :=
    copyFrames_of_copies positive copies (FilePath.ofText output).text
  rw [← begun] at copied
  obtain ⟨grown, opens, concluded, result⟩ :=
    run_of_copyFrames asked found held created apart copied
  rw [result]
  exact ⟨text, written, concluded, opens.find_put _, opens.find_other found held apart _⟩

/-- A frame that can be read, and the beginning of another. -/
def brokenBack : FileTree :=
  ⟨["work"], [(["work"], .directory),
    (["work", "in.con"], .file (String.ofList (readablePiece.flatten ++ ['x'])).toUTF8)]⟩

theorem convert_stops_between_frames_brokenBack :
    (∃ text, Document.write [FrameStream.innerFrame] = .ok text ∧
      (run ["convert", "in.con", "out.con"] brokenBack).conclusion =
        .badParameter ((FilePath.ofText "in.con").text ++ ": " ++
          (⟨.endOfInput "prebox header", some 11⟩ : FormatFault).text) ∧
      (run ["convert", "in.con", "out.con"] brokenBack).tree.find (.ofText "out.con") =
        .ok (["work", "out.con"], .file text.toUTF8)) ∧
    (run ["convert", "gone.con", "out.con"] brokenBack).tree = brokenBack := by
  have created : FileWriter.create (.ofText "out.con") .utf8 brokenBack =
      .ok ⟨.ofName "out.con" (some .utf8), ["work", "out.con"]⟩
        (brokenBack.put ["work", "out.con"] (.file .empty)) := by
    rfl
  have copies : Copies 0 1 0
      (.ofCursor (Encoding.utf8.cursor (brokenBack.bytesAt ["work", "in.con"])))
      [FrameStream.innerFrame] (some (.format ⟨.endOfInput "prebox header", some 11⟩)) := by
    refine @Copies.reads _ _ _ _ ⟨⟨[['x']], .clean, [], 9, 9⟩, none, false, false, 1, 0⟩ _ _ _
      ⟨Nat.le_refl 0, Nat.one_dvd _⟩ (by decide +kernel) ?_
    refine @Copies.cannotRead _ _ _ _ ⟨⟨[], .clean, [], 10, 10⟩,
      some ⟨.endOfInput "prebox header", some 11⟩, false, false, 1, 0⟩ _
      ⟨Nat.zero_le _, Nat.one_dvd _⟩ (by decide +kernel)
  constructor
  · obtain ⟨-, stops⟩ := (@convert_stops_between_frames ["convert", "in.con", "out.con"] false
      "in.con" "out.con" 0 1 brokenBack _ _ (by decide +kernel) Nat.one_pos created).1
        ["work", "in.con"] rfl (by decide +kernel)
    obtain ⟨text, written, concluded, result, -⟩ := stops _ _ copies
    exact ⟨text, written, concluded, result⟩
  · exact ((@convert_stops_between_frames ["convert", "gone.con", "out.con"] false
      "gone.con" "out.con" 0 1 brokenBack _ _ (by decide +kernel) Nat.one_pos created).2
        (.file ⟨.notFound, "gone.con"⟩) rfl).1

/-- A name of one byte more than a name can have. -/
def longName : String :=
  String.ofList (List.replicate 256 'a')

private theorem toList_longName : longName.toList = List.replicate 256 'a' :=
  String.toList_ofList

private theorem ofText_longName : FilePath.ofText longName = ⟨0, [longName]⟩ := by
  unfold FilePath.ofText
  rw [toList_longName]
  decide +kernel

private theorem parse?_longName :
    parse? ["convert", longName, "out.con"] =
      some ⟨false, .convert longName "out.con" 0 1⟩ := by
  have command : isVerboseSwitch "convert" = false := by decide +kernel
  have notDashes : longName ≠ "--" := by decide +kernel
  have first : looksLikeOption longName = false := by
    unfold looksLikeOption
    rw [toList_longName, Bool.and_eq_false_iff]
    exact .inr (by decide +kernel)
  have second : looksLikeOption "out.con" = false := by decide +kernel
  simp [parse?, command, parseAction?, parseOptions?, notDashes, first, second,
    Parsed.withOperand, Parsed.value?, count?]

private theorem openFile_longName :
    openFile (.ofText longName) (.ofDirectory ["work"]) =
      .error (.file ⟨.nameTooLong, longName⟩) (.ofDirectory ["work"]) := by
  have whole : (FilePath.mk 0 [longName]).hasNull = false := by
    simp only [FilePath.hasNull, List.any_cons, toList_longName]
    decide +kernel
  have long : (ofDirectory ["work"]).find ⟨0, [longName]⟩ = .error .nameTooLong := by
    decide +kernel
  have text : (FilePath.mk 0 [longName]).text = longName := by
    decide +kernel
  rw [ofText_longName, openFile_eq, whole, long, text]
  rfl

theorem convert_crashes_on_long_name :
    (∃ file made, FileWriter.create (.ofText "out.con") .utf8 (.ofDirectory ["work"]) =
      .ok file made) ∧
    openFile (.ofText longName) (.ofDirectory ["work"]) =
      .error (.file ⟨.nameTooLong, longName⟩) (.ofDirectory ["work"]) ∧
    (run ["convert", longName, "out.con"] (.ofDirectory ["work"])).conclusion =
      .crashes (.file ⟨.nameTooLong, longName⟩) := by
  have created : ∃ file made, FileWriter.create (.ofText "out.con") .utf8 (.ofDirectory ["work"]) =
      .ok file made := ⟨_, _, rfl⟩
  refine ⟨created, openFile_longName, ?_⟩
  obtain ⟨file, made, created⟩ := created
  obtain ⟨-, -, crashes⟩ := run_of_unopened parse?_longName created openFile_longName
  apply crashes
  rintro problem ⟨⟩
  rfl

end Stops

end Atomistic.Command
