import Atomistic.Frame.Grammar
import Atomistic.LineCursor.Progress

/-! A frame that is read, or passed over, leaves fewer lines than before. -/

namespace Atomistic

namespace Frame

open LineCursor

theorem neverGrows_readSites (reading : String) (count : Nat) :
    NeverGrows (readSites reading count) := by
  induction count with
  | zero => exact NeverGrows.pure _
  | succ count ih =>
    refine .bind (.of_consumes (consumes_readAs _ _)) fun site => ?_
    exact .bind ih fun sites => .pure _

theorem neverGrows_readBlocks (species : Nat) (seen : List AtomicNumber)
    (declared : List (Nat × Number.Binary64)) :
    NeverGrows (readBlocks species seen declared) := by
  induction declared generalizing species seen with
  | nil => exact NeverGrows.pure _
  | cons head rest ih =>
    refine .bind (.of_consumes (consumes_readAs _ _)) fun number => ?_
    refine .bind (.of_consumes (consumes_readAs _ _)) fun _ => ?_
    refine .bind (neverGrows_readSites _ _) fun sites => ?_
    exact .bind (ih _ _) fun blocks => .pure _

theorem consumes_readCounts : Consumes readCounts :=
  .bind (consumes_readAs _ _) fun _ => .of_consumes (consumes_readAs _ _)

theorem consumes_readSpeciesHead : Consumes readSpeciesHead := by
  refine consumes_readCounts.bind fun counts => ?_
  exact .bind (.of_consumes (consumes_readAs _ _)) fun masses => .pure _

theorem consumes_read : Consumes Frame.read := by
  refine (consumes_readAs _ _).bind fun _ => ?_
  refine .bind (.of_consumes (consumes_readAs _ _)) fun _ => ?_
  refine .bind (.of_consumes (consumes_readAs _ _)) fun _ => ?_
  refine .bind (.of_consumes (consumes_readAs _ _)) fun _ => ?_
  refine .bind (.of_consumes (consumes_readAs _ _)) fun _ => ?_
  refine .bind (.of_consumes (consumes_readAs _ _)) fun _ => ?_
  refine .bind (.of_consumes consumes_readSpeciesHead) fun _ => ?_
  refine .bind (neverGrows_readBlocks _ _ _) fun _ => ?_
  exact .settle _

theorem neverGrows_skipLines (reading : String) (count : Nat) :
    NeverGrows (skipLines reading count) := by
  induction count with
  | zero => exact NeverGrows.pure _
  | succ count ih => exact .bind (.of_consumes (consumes_require _)) fun _ => ih

theorem consumes_skipLines (reading : String) (count : Nat) :
    Consumes (skipLines reading (count + 1)) :=
  (consumes_require _).bind fun _ => neverGrows_skipLines _ _

theorem consumes_skip : Consumes Frame.skip := by
  refine Consumes.bind (consumes_skipLines _ _) fun _ => ?_
  refine .bind (.of_consumes consumes_readCounts) fun counts => ?_
  exact .bind (neverGrows_skipLines _ _) fun _ => neverGrows_skipLines _ _

end Frame

end Atomistic
