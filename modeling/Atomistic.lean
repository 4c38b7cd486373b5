import Atomistic.Document
import Atomistic.Fault.Stated
import Atomistic.Frame.Header
import Atomistic.Frame.Table
import Atomistic.Main
import Atomistic.Number.ReadBack
import Atomistic.Proofs.CursorCalls
import Atomistic.Proofs.CursorView
import Atomistic.Proofs.Grouping
import Atomistic.Proofs.RowReading
import Atomistic.Proofs.Symbols
import Atomistic.Proofs.FrameReading
import Atomistic.Proofs.StreamView
import Atomistic.Proofs.RoundTrip
import Atomistic.Proofs.ParsedFrames
import Atomistic.Proofs.NormalForm
import Atomistic.Proofs.StreamCalls
import Atomistic.Proofs.TextFaults
import Atomistic.Proofs.StreamFaults
import Atomistic.Proofs.FrameRecognition
import Atomistic.Proofs.ConvertInput
import Atomistic.Proofs.CutText
import Atomistic.Proofs.WriterCalls
import Atomistic.Proofs.FileWriting
import Atomistic.Proofs.FileRoundTrip
import Atomistic.Proofs.Relocation
import Atomistic.Proofs.Concatenation
import Atomistic.Proofs.FrameExtent
import Atomistic.Proofs.CopiedFrames
import Atomistic.Proofs.ConvertOutput
import Atomistic.Proofs.EncodedText
import Atomistic.Proofs.FramePassing
import Atomistic.Proofs.LineEnds
import Atomistic.Proofs.StreamEnd
import Atomistic.Proofs.FirstFault
import Atomistic.Proofs.StableGrouping
import Atomistic.Proofs.SpeciesViews
import Atomistic.Proofs.StoppedCopies
import Atomistic.Proofs.MassChecks
import Atomistic.Proofs.LazyReading
import Atomistic.Proofs.SummarisedFrames
import Atomistic.Proofs.HeaderCopies
import Atomistic.Proofs.SingleFrames
import Atomistic.Proofs.BlockDrafts
import Atomistic.Proofs.FrameTables
import Atomistic.Proofs.NearestRank
import Atomistic.Proofs.FlagNumerals
