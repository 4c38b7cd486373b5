import Atomistic.Proofs.StoppedCopies

/-! What a summary tells of a file. It goes through the frames in front of the end or of the
first fault, and tells their number and the last of them. Written by themselves, those frames have
the same summary, since they are read back as they are. -/

namespace Atomistic

open Text

namespace FrameStream

section Deliveries

/-- These frames come one after the other, and then the end of the input or a fault. -/
inductive Delivers : FrameStream → List Frame → Option Fault → Prop where
  | ends {stream rest : FrameStream} (met : next stream = .ok none rest) :
      Delivers stream [] none
  | fails {stream rest : FrameStream} {fault : Fault} (met : next stream = .error fault rest) :
      Delivers stream [] (some fault)
  | gives {stream rest : FrameStream} {frame : Frame} {later : List Frame} {fault? : Option Fault}
      (met : next stream = .ok (some frame) rest) (others : Delivers rest later fault?) :
      Delivers stream (frame :: later) fault?

theorem delivers_of_drain {stream last : FrameStream} {frames : List Frame}
    (drained : stream.drain = .ok frames last) : stream.Delivers frames none := by
  induction frames generalizing stream with
  | nil => exact .ends (drain_eq_ok_iff.1 drained)
  | cons frame later ih =>
    obtain ⟨rest, met, drained⟩ := drain_eq_ok_iff.1 drained
    exact .gives met (ih drained)

theorem Delivers.grouped {stream : FrameStream} {frames : List Frame} {fault? : Option Fault}
    (delivers : stream.Delivers frames fault?) :
    ∀ frame ∈ frames, ∃ blocks, frame.Grouped blocks := by
  induction delivers with
  | ends => simp
  | fails => simp
  | gives met others ih => exact List.forall_mem_cons.2 ⟨grouped_of_next met, ih⟩

end Deliveries

end FrameStream

namespace Command

section Surveys

theorem survey_eq (count : Nat) (last? : Option Frame) (stream : FrameStream) :
    survey count last? stream =
      match stream.next with
      | .error fault _ => ⟨count, last?, some fault⟩
      | .ok none _ => ⟨count, last?, none⟩
      | .ok (some frame) rest => survey (count + 1) (some frame) rest := by
  rw [survey]
  split
  next failed => rw [failed]
  next ended => rw [ended]
  next frame rest met => rw [met]

/-- A survey counts what is delivered and keeps the last frame of it, also in front of a fault. -/
theorem survey_of_delivers {stream : FrameStream} {frames : List Frame} {fault? : Option Fault}
    (delivers : stream.Delivers frames fault?) (count : Nat) (last? : Option Frame) :
    survey count last? stream = ⟨count + frames.length, frames.getLast?.or last?, fault?⟩ := by
  induction delivers generalizing count last? with
  | ends met =>
    rw [survey_eq, met]
    rfl
  | fails met =>
    rw [survey_eq, met]
    rfl
  | @gives _ _ frame later _ met others ih =>
    have last : (frame :: later).getLast?.or last? = later.getLast?.or (some frame) := by
      rw [List.getLast?_cons]
      cases later.getLast? <;> rfl
    rw [survey_eq, met]
    dsimp only
    rw [ih, last, List.length_cons]
    congr 1
    omega

end Surveys

section Lines

theorem speciesText_of_known {block : SpeciesBlock}
    (known : block.number.value ≤ Element.symbols.length) :
    ∃ text, speciesText block = .ok text := by
  obtain ⟨symbol, -, found, -⟩ := Frame.symbol_of_known known
  exact ⟨_, by rw [speciesText, found, ok_bind]; rfl⟩

/-- The species of a frame that was read are known, so every line of its summary can be told. -/
theorem summaryLines_of_grouped {frame : Frame} {blocks : List SpeciesBlock}
    (grouped : frame.Grouped blocks) : ∃ lines, summaryLines frame = .ok lines := by
  have known := fun block member => (grouped.writable.block block member).known
  obtain ⟨species, told⟩ :=
    exists_mapM_eq_ok fun block member => speciesText_of_known (known block member)
  exact ⟨_, by rw [summaryLines, told, ok_bind]; rfl⟩

end Lines

section Telling

variable {path : FilePath} {count : Nat}

theorem forM_print (lines : List String) (session : Session) :
    ∃ ended, lines.forM print session = .ok () ended ∧
      ended.stdout = session.stdout ++ String.join (lines.map plainLine) := by
  induction lines generalizing session with
  | nil => exact ⟨session, rfl, by simp⟩
  | cons line rest ih =>
    obtain ⟨ended, printed, out⟩ :=
      ih { session with stdout := session.stdout ++ plainLine line }
    refine ⟨ended, (bind_of_ok rfl _).trans printed, ?_⟩
    rw [out, List.map_cons, String.join_cons, ← String.append_assoc]

theorem tellFault_lenient (path : FilePath) (fault? : Option FormatFault) (session : Session) :
    ∃ told, tellFault path false (fault?.map .format) session = .ok () told ∧
      told.stdout = session.stdout := by
  cases fault? with
  | none => exact ⟨session, rfl, rfl⟩
  | some fault => exact ⟨_, rfl, rfl⟩

theorem tellFrames_none (path : FilePath) (count : Nat) (session : Session) :
    ∃ ended, tellFrames path count none session = .error (.exits 1) ended ∧
      ended.stdout = session.stdout :=
  ⟨_, rfl, rfl⟩

theorem tellFrames_some {frame : Frame} {lines : List String}
    (told : summaryLines frame = .ok lines) (session : Session) :
    ∃ ended, tellFrames path count (some frame) session = .ok () ended ∧
      ended.stdout = session.stdout ++
        String.join ((("frames: " ++ toString count) :: lines).map plainLine) := by
  obtain ⟨begun, informed, -, same⟩ := inform_eq
    ("Parsed " ++ toString count ++ " frame(s)") session
  obtain ⟨ended, printed, out⟩ := forM_print (("frames: " ++ toString count) :: lines) begun
  refine ⟨ended, ?_, by rw [out, same]⟩
  rw [tellFrames, told]
  exact (bind_of_ok informed _).trans printed

end Telling

section Runs

variable {tree : FileTree} {location : Location} {bytes : ByteArray} {arguments : List String}
  {verbose strict : Bool} {path : String} {frames : List Frame} {fault? : Option Fault}

/-- What a summary has found before it tells anything does not depend on whether it is strict. -/
theorem summary_eq_tell (found : tree.locationOf? (.ofText path) = .ok (some location))
    (held : tree.node? location = some (.file bytes))
    (delivers : (FrameStream.ofCursor (Encoding.utf8.cursor bytes)).Delivers frames fault?)
    (verbose : Bool) :
    ∃ begun : Session, begun.stdout = "" ∧ begun.tree = tree ∧ ∀ strict,
      summary path strict ⟨tree, "", "", verbose⟩ =
        (tellFault (.ofText path) strict fault? >>= fun _ =>
          tellFrames (.ofText path) frames.length frames.getLast?) begun := by
  obtain ⟨begun, informed, same, quiet⟩ := inform_eq
    ("Reading " ++ (FilePath.ofText path).text) ⟨tree, "", "", verbose⟩
  have opened : withFiles (cannotRead (.ofText path))
      (FrameStream.openFile (.ofText path) .utf8) begun =
        .ok (.ofCursor (Encoding.utf8.cursor bytes)) begun := by
    have same : begun.tree = tree := same
    rw [withFiles, same, openStream_eq found held, ← same]
  refine ⟨begun, quiet, same, fun strict => ?_⟩
  refine (bind_of_ok informed _).trans ((bind_of_ok opened _).trans ?_)
  rw [survey_of_delivers delivers, Nat.zero_add, Option.or_none]

theorem run_summary_of_last {fault? : Option FormatFault} {last : Frame} {lines : List String}
    (asked : parse? arguments = some ⟨verbose, .summary path false⟩)
    (found : tree.locationOf? (.ofText path) = .ok (some location))
    (held : tree.node? location = some (.file bytes))
    (delivers : (FrameStream.ofCursor (Encoding.utf8.cursor bytes)).Delivers frames
      (fault?.map .format))
    (ends : frames.getLast? = some last) (told : summaryLines last = .ok lines) :
    (run arguments tree).conclusion = .exits 0 ∧
      (run arguments tree).stdout =
        String.join ((("frames: " ++ toString frames.length) :: lines).map plainLine) := by
  obtain ⟨begun, quiet, -, begins⟩ := summary_eq_tell found held delivers verbose
  obtain ⟨noted, passed, silent⟩ := tellFault_lenient (.ofText path) fault? begun
  obtain ⟨ended, done, out⟩ := @tellFrames_some (.ofText path) frames.length _ _ told noted
  rw [← ends] at done
  rw [run_of_ok asked ((begins false).trans ((bind_of_ok passed _).trans done))]
  refine ⟨rfl, ?_⟩
  rw [out, silent, quiet, String.empty_append]

theorem run_summary_of_nil {fault? : Option FormatFault}
    (asked : parse? arguments = some ⟨verbose, .summary path false⟩)
    (found : tree.locationOf? (.ofText path) = .ok (some location))
    (held : tree.node? location = some (.file bytes))
    (delivers : (FrameStream.ofCursor (Encoding.utf8.cursor bytes)).Delivers []
      (fault?.map .format)) :
    (run arguments tree).conclusion = .exits 1 ∧ (run arguments tree).stdout = "" := by
  obtain ⟨begun, quiet, -, begins⟩ := summary_eq_tell found held delivers verbose
  obtain ⟨noted, passed, silent⟩ := tellFault_lenient (.ofText path) fault? begun
  obtain ⟨ended, stopped, out⟩ := tellFrames_none (.ofText path) 0 noted
  rw [run_of_stop asked ((begins false).trans ((bind_of_ok passed _).trans stopped))]
  exact ⟨rfl, by rw [out, silent, quiet]⟩

theorem run_summary_strict_of_end {strictly : List String}
    (asked : parse? arguments = some ⟨verbose, .summary path false⟩)
    (askedStrictly : parse? strictly = some ⟨verbose, .summary path true⟩)
    (found : tree.locationOf? (.ofText path) = .ok (some location))
    (held : tree.node? location = some (.file bytes))
    (delivers : (FrameStream.ofCursor (Encoding.utf8.cursor bytes)).Delivers frames none) :
    run strictly tree = run arguments tree := by
  obtain ⟨begun, -, -, begins⟩ := summary_eq_tell found held delivers verbose
  have same : summary path true ⟨tree, "", "", verbose⟩ =
      summary path false ⟨tree, "", "", verbose⟩ := (begins true).trans (begins false).symm
  simp only [run, asked, askedStrictly, act, same]

theorem run_summary_strict_of_fault {strictly : List String} {fault : FormatFault}
    (askedStrictly : parse? strictly = some ⟨verbose, .summary path true⟩)
    (found : tree.locationOf? (.ofText path) = .ok (some location))
    (held : tree.node? location = some (.file bytes))
    (delivers : (FrameStream.ofCursor (Encoding.utf8.cursor bytes)).Delivers frames
      (some (.format fault))) :
    (run strictly tree).conclusion =
        .badParameter ((FilePath.ofText path).text ++ ": " ++ fault.text) ∧
      (run strictly tree).stdout = "" := by
  obtain ⟨begun, quiet, -, begins⟩ := summary_eq_tell found held delivers verbose
  rw [run_of_stop askedStrictly ((begins true).trans rfl)]
  exact ⟨rfl, quiet⟩

/-- The text of frames that were read, in a file by itself, delivers these frames. -/
theorem exists_text_of_delivers {stream : FrameStream}
    (delivers : stream.Delivers frames fault?) :
    ∃ text, Document.write frames = .ok text ∧
      (FrameStream.ofCursor (Encoding.utf8.cursor text.toUTF8)).Delivers frames none := by
  obtain ⟨writable, text, written, read⟩ := Document.frames_of_grouped delivers.grouped
  have encoded : Encoding.utf8.encode? text.toList = some text.toUTF8 := by
    rw [Encoding.encode?_utf8, String.ofList_toList]
  obtain ⟨last, drained⟩ := Document.frames_eq_ok_iff.1 read
  refine ⟨text, written, ?_⟩
  rw [cursor_of_write writable written encoded]
  exact FrameStream.delivers_of_drain drained

/-- A summary reports the frames in front of the end or of the first fault. What it prints is
what it prints for a file with the text of just those frames. When strict it prints the same if
no fault was met, and nothing if one was. -/
theorem summary_reports_delivered {strictly : List String} {fault? : Option FormatFault}
    (asked : parse? arguments = some ⟨verbose, .summary path false⟩)
    (askedStrictly : parse? strictly = some ⟨verbose, .summary path true⟩)
    (found : tree.locationOf? (.ofText path) = .ok (some location))
    (held : tree.node? location = some (.file bytes))
    (delivers : (FrameStream.ofCursor (Encoding.utf8.cursor bytes)).Delivers frames
      (fault?.map .format)) :
    (∀ last, frames.getLast? = some last →
      (run arguments tree).conclusion = .exits 0 ∧
      (∃ lines, summaryLines last = .ok lines ∧ (run arguments tree).stdout =
        String.join ((("frames: " ++ toString frames.length) :: lines).map plainLine)) ∧
      ∃ text, Document.write frames = .ok text ∧
        ∀ again loud copy beside place,
          parse? again = some ⟨loud, .summary copy false⟩ →
          beside.locationOf? (.ofText copy) = .ok (some place) →
          beside.node? place = some (.file text.toUTF8) →
          (run arguments tree).stdout = (run again beside).stdout) ∧
    (frames = [] →
      (run arguments tree).conclusion = .exits 1 ∧ (run arguments tree).stdout = "") ∧
    (fault? = none → run strictly tree = run arguments tree) ∧
    (∀ fault, fault? = some fault →
      (run strictly tree).conclusion =
          .badParameter ((FilePath.ofText path).text ++ ": " ++ fault.text) ∧
        (run strictly tree).stdout = "") ∧
    ∀ cursor frame rest, Frame.read cursor = .ok frame rest →
      ∃ lines, summaryLines frame = .ok lines := by
  refine ⟨fun last ends => ?_, fun none => ?_, fun clean => ?_, fun fault failed => ?_,
    fun cursor frame rest read => ?_⟩
  · obtain ⟨blocks, grouped⟩ := delivers.grouped last (List.mem_of_getLast? ends)
    obtain ⟨lines, told⟩ := summaryLines_of_grouped grouped
    obtain ⟨exits, out⟩ := run_summary_of_last asked found held delivers ends told
    obtain ⟨text, written, deliversAgain⟩ := exists_text_of_delivers delivers
    refine ⟨exits, ⟨lines, told, out⟩, text, written, ?_⟩
    intro again loud copy beside place askedAgain foundAgain heldAgain
    obtain ⟨-, outAgain⟩ :=
      @run_summary_of_last _ _ _ _ _ _ _ none _ _ askedAgain foundAgain heldAgain deliversAgain
        ends told
    rw [out, outAgain]
  · rw [none] at delivers
    exact run_summary_of_nil asked found held delivers
  · rw [clean] at delivers
    exact run_summary_strict_of_end asked askedStrictly found held delivers
  · rw [failed] at delivers
    exact run_summary_strict_of_fault askedStrictly found held delivers
  · obtain ⟨blocks, grouped⟩ := Frame.grouped_of_read read
    exact summaryLines_of_grouped grouped

theorem summary_reports_delivered_brokenBack :
    (∃ lines text, summaryLines FrameStream.innerFrame = .ok lines ∧
      Document.write [FrameStream.innerFrame] = .ok text ∧
      (run ["summary", "in.con"] brokenBack).conclusion = .exits 0 ∧
      (run ["summary", "in.con"] brokenBack).stdout =
        String.join (("frames: 1" :: lines).map plainLine) ∧
      (run ["summary", "in.con"] brokenBack).stdout = (run ["-v", "summary", "only.con"]
        (brokenBack.put ["work", "only.con"] (.file text.toUTF8))).stdout) ∧
    (run ["summary", "--strict", "in.con"] brokenBack).conclusion =
      .badParameter ((FilePath.ofText "in.con").text ++ ": " ++
        (⟨.endOfInput "prebox header", some 11⟩ : FormatFault).text) ∧
    (run ["summary", "--strict", "in.con"] brokenBack).stdout = "" := by
  have delivers : (FrameStream.ofCursor (Encoding.utf8.cursor
      (String.ofList (readablePiece.flatten ++ ['x'])).toUTF8)).Delivers
      [FrameStream.innerFrame] ((some ⟨.endOfInput "prebox header", some 11⟩ :
        Option FormatFault).map .format) := by
    refine @FrameStream.Delivers.gives _
      ⟨⟨[['x']], .clean, [], 9, 9⟩, none, false, false, 1, 0⟩ _ _ _ (by decide +kernel) ?_
    exact @FrameStream.Delivers.fails _ ⟨⟨[], .clean, [], 10, 10⟩,
      some ⟨.endOfInput "prebox header", some 11⟩, false, false, 1, 0⟩ _ (by decide +kernel)
  obtain ⟨reports, -, -, stops, -⟩ :=
    @summary_reports_delivered brokenBack ["work", "in.con"] _ ["summary", "in.con"] false
      "in.con" _ ["summary", "--strict", "in.con"] _ (by decide +kernel) (by decide +kernel)
      (by decide +kernel) rfl delivers
  obtain ⟨exits, ⟨lines, told, out⟩, text, written, same⟩ := reports _ rfl
  refine ⟨⟨lines, text, told, written, exits, out, ?_⟩, stops _ rfl⟩
  exact same ["-v", "summary", "only.con"] true "only.con" _ ["work", "only.con"]
    (by decide +kernel) rfl rfl

end Runs

end Command

end Atomistic
