import Atomistic.FrameStream.Progress

/-! All frames of a stream. -/

namespace Atomistic.FrameStream

/-- All frames that are left. Frames in front of one that cannot be read are lost. -/
def drain (stream : FrameStream) : EStateM.Result Fault FrameStream (List Frame) :=
  match _taken : next stream with
  | .error fault rest => .error fault rest
  | .ok none rest => .ok [] rest
  | .ok (some frame) rest =>
    match drain rest with
    | .ok frames last => .ok (frame :: frames) last
    | .error fault last => .error fault last
termination_by stream.cursor.remaining
decreasing_by exact remaining_next _taken

/-- All frames that are left, with the stream closed in the end whatever happens. -/
def drainAndClose : Streaming (List Frame) := fun stream =>
  match drain stream with
  | .ok frames rest => .ok frames { rest with ended := true, closed := true }
  | .error fault rest => .error fault { rest with ended := true, closed := true }

end Atomistic.FrameStream
