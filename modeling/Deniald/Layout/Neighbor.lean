/-
The tile next to a window in one of four directions (`directional_neighbor`): of those whose centre lies that way, the
aligned ones first, then the nearest. Centres are halves of integers, which doubles hold exactly.
-/
import Deniald.Layout.Partition
import Deniald.Lib.FirstMin
import Mathlib.Data.Prod.Lex

namespace Deniald.Layout

open Deniald.Lib
open Deniald.Topology (OutputId)

inductive LayoutDirection where
  | left | right | up | down

def rectangleCenter (g : Rect) : ℚ × ℚ := (g.x + g.w / 2, g.y + g.h / 2)

def rangesOverlap (firstStart firstEnd secondStart secondEnd : Int) : Bool :=
  firstStart < secondEnd && secondStart < firstEnd

namespace LayoutDirection

def horizontal : LayoutDirection → Bool
  | .left | .right => true
  | .up | .down => false

/-- The candidate's centre lies that way. -/
def reaches (direction : LayoutDirection) (current candidate : Rect) : Bool :=
  let center := rectangleCenter candidate
  let currentCenter := rectangleCenter current
  match direction with
  | .left => center.1 < currentCenter.1
  | .right => currentCenter.1 < center.1
  | .up => center.2 < currentCenter.2
  | .down => currentCenter.2 < center.2

def aligned (direction : LayoutDirection) (current candidate : Rect) : Bool :=
  if direction.horizontal then
    rangesOverlap current.y (satAdd current.y current.h) candidate.y (satAdd candidate.y candidate.h)
  else rangesOverlap current.x (satAdd current.x current.w) candidate.x (satAdd candidate.x candidate.w)

/-- What candidates are compared by: alignment, the distance that way, and the distance across. -/
def rank (direction : LayoutDirection) (current candidate : Rect) : Bool ×ₗ ℚ ×ₗ ℚ :=
  let center := rectangleCenter candidate
  let currentCenter := rectangleCenter current
  let along := |center.1 - currentCenter.1|
  let across := |center.2 - currentCenter.2|
  toLex (!direction.aligned current candidate, toLex (if direction.horizontal then (along, across) else (across, along)))

end LayoutDirection

section Neighbor

variable {W : Type} [DecidableEq W]

/-- Another window's tile that lies that way. -/
def isCandidate (focused : W) (current : Rect) (direction : LayoutDirection) (placement : LayoutPlacement W) : Bool :=
  placement.window ≠ focused && direction.reaches current placement.geometry

def directionalNeighbor (focused : W) (placements : List (LayoutPlacement W)) (direction : LayoutDirection) : Option W := do
  let current := (← placements.find? fun placement => placement.window = focused).geometry
  let nearest ← (placements.filter (isCandidate focused current direction)).argmin fun placement =>
    direction.rank current placement.geometry
  return nearest.window

/-- Every candidate of another kind is beaten by one of the kind: by one before it that ranks no worse, or by one behind
it that ranks better. -/
def Beaten (p : W → Prop) (focused : W) (placements : List (LayoutPlacement W)) (direction : LayoutDirection) : Prop :=
  ∀ current, placements.find? (fun placement => placement.window = focused) = some current →
    Unrivalled (fun placement => direction.rank current.geometry placement.geometry) (fun placement => p placement.window)
      (placements.filter (isCandidate focused current.geometry direction))

variable {placements : List (LayoutPlacement W)} {direction : LayoutDirection}

theorem beaten_iff {p : W → Prop} {f : W} :
    Beaten p f placements direction ↔ ∀ w, directionalNeighbor f placements direction = some w → p w := by
  unfold Beaten directionalNeighbor
  constructor
  · intro h w hw
    obtain ⟨current, hr, hw⟩ := Option.bind_eq_some_iff.1 hw
    obtain ⟨n, hn, hw⟩ := Option.bind_eq_some_iff.1 hw; cases hw
    exact unrivalled_iff.1 (h current hr) n hn
  · intro h current hr
    refine unrivalled_iff.2 fun n hn => h n.window ?_; rw [hr]
    show (List.argmin _ _).bind _ = _
    rw [hn]; rfl

/-- Where only windows of a kind count, the others may as well not be there. -/
theorem directionalNeighbor_filter {p : W → Prop} [DecidablePred p] {focused : W} (hfo : p focused)
    (h : Beaten p focused placements direction) :
    directionalNeighbor focused (placements.filter fun placement => p placement.window) direction =
      directionalNeighbor focused placements direction := by
  have hf : (placements.filter fun placement => p placement.window).find? (fun placement => placement.window = focused) =
      placements.find? fun placement => placement.window = focused := by
    rw [List.find?_filter]
    refine congrArg (fun q => placements.find? q) (funext fun placement => ?_)
    by_cases hw : placement.window = focused
    · simp [hw, hfo]
    · simp [hw]
  unfold directionalNeighbor; rw [hf]
  cases hr : placements.find? fun placement => placement.window = focused with
  | none => rfl
  | some current =>
    have hn := argmin_filter_of_unrivalled (h current hr)
    have hm : (placements.filter fun placement => p placement.window).filter
          (isCandidate focused current.geometry direction) =
        (placements.filter (isCandidate focused current.geometry direction)).filter fun placement =>
          p placement.window := List.filter_comm ..
    show (List.argmin _ _).bind _ = (List.argmin _ _).bind _; rw [hm, hn]

end Neighbor

end Deniald.Layout
