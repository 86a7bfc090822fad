/-
Interactive resizing (window_grab.rs): a pointer motion asks for an extent of the initial window, the client's hints
constrain it, and the origin of a side grabbed at its left or top is computed again from the constrained extent.
-/
import Deniald.Placement.Store
import Deniald.Screencopy.Regions

namespace Deniald.WindowGrab

open Deniald.Lib
open Deniald.Layout (Rect)
open Deniald.Placement (I32)
open Deniald.Screencopy.Regions (toI64)

/-! ## Model -/

def maxWindowDimension : Int := 16384

def lowerHint (minimum : Int) : Int := clamp minimum 1 maxWindowDimension

def upperHint (minimum maximum : Int) : Int :=
  if maximum = 0 then maxWindowDimension
  else if maximum < lowerHint minimum then lowerHint minimum
  else min maximum maxWindowDimension

def constrainDimension (requested minimum maximum : Int) : Int :=
  min (max requested (lowerHint minimum)) (upperHint minimum maximum)

def roundToI32Saturating (value : ℚ) : Int :=
  if value ≤ -2 ^ 31 then -2 ^ 31 else if 2 ^ 31 - 1 ≤ value then 2 ^ 31 - 1 else roundHalfAway value

def requestedResizeDimension (initial : Int) (delta : F64) (growsWithPointer : Bool) : Int :=
  match delta with
  | .finite delta => roundToI32Saturating (initial + if growsWithPointer then delta else -delta)
  | .infinite _ | .nan => initial

/-- `none` is an overflow of `i64`. -/
def anchoredResizeOrigin (origin initialExtent resizedExtent : Int) : Option Int := do
  let sum ← toI64 (origin + initialExtent)
  let anchored ← toI64 (sum - resizedExtent)
  some (clamp anchored (-2 ^ 31) (2 ^ 31 - 1))

structure ResizeEdges where
  top : Bool
  bottom : Bool
  left : Bool
  right : Bool

/-- A motion: how far the pointer is from where the grab began, and the hints committed by then. -/
structure Motion where
  delta : F64 × F64
  minimum : I32 × I32
  maximum : I32 × I32

/-- The extent a motion asks for along an axis, `near` being its left or top edge. -/
def requestedExtent (near far : Bool) (extent : Int) (delta : F64) : Int :=
  if near then requestedResizeDimension extent delta false
  else if far then requestedResizeDimension extent delta true
  else extent

/-- One axis of a motion: the origin and the extent. -/
def resizeAxis (near far : Bool) (location extent : Int) (delta : F64) (minimum maximum : Int) : Option (Int × Int) :=
  let size := constrainDimension (requestedExtent near far extent delta) minimum maximum
  (if near then anchoredResizeOrigin location extent size else some location).map fun origin => (origin, size)

structure ResizeSurfaceGrab where
  edges : ResizeEdges
  initial : Rect
  last : Rect

namespace ResizeSurfaceGrab

def new (edges : ResizeEdges) (location size : I32 × I32) : ResizeSurfaceGrab :=
  let initial : Rect :=
    ⟨location.1, location.2, clamp size.1.1 1 maxWindowDimension, clamp size.2.1 1 maxWindowDimension⟩
  ⟨edges, initial, initial⟩

/-- A motion the window accepts; it publishes `last`. -/
def motion (g : ResizeSurfaceGrab) (m : Motion) : Option ResizeSurfaceGrab := do
  let x ← resizeAxis g.edges.left g.edges.right g.initial.x g.initial.w m.delta.1 m.minimum.1 m.maximum.1
  let y ← resizeAxis g.edges.top g.edges.bottom g.initial.y g.initial.h m.delta.2 m.minimum.2 m.maximum.2
  some { g with last := ⟨x.1, y.1, x.2, y.2⟩ }

/-- What the end of the grab publishes. -/
def finish (g : ResizeSurfaceGrab) (constrained mapped : Bool) : Option Rect :=
  if constrained || !mapped then none else some g.last

end ResizeSurfaceGrab

structure WindowGeometry where
  x : ℚ
  y : ℚ
  width : ℚ
  height : ℚ

def constrainLocalDimension (requested : ℚ) : ℚ := clamp (roundHalfAway requested : ℚ) 64 maxWindowDimension

/-- A resize of a window that is local to the shell; each motion publishes `last`, and so does the end. -/
structure LocalFlutterWindowGrab where
  start : F64 × F64
  initial : WindowGeometry
  last : WindowGeometry
  edges : ResizeEdges

/-- How far the pointer is from where the grab began, with both positions finite. -/
def pointerDelta : F64 × F64 → F64 × F64 → Option (ℚ × ℚ)
  | (.finite x₀, .finite y₀), (.finite x, .finite y) => some (x - x₀, y - y₀)
  | _, _ => none

def resizeLocalAxis (near far : Bool) (origin extent delta : ℚ) : ℚ × ℚ :=
  let size := constrainLocalDimension (if near then extent - delta else if far then extent + delta else extent)
  (if near then origin + extent - size else origin, size)

def resizeLocal (edges : ResizeEdges) (initial : WindowGeometry) (delta : ℚ × ℚ) : WindowGeometry :=
  let x := resizeLocalAxis edges.left edges.right initial.x initial.width delta.1
  let y := resizeLocalAxis edges.top edges.bottom initial.y initial.height delta.2
  ⟨x.1, y.1, x.2, y.2⟩

def LocalFlutterWindowGrab.updateGeometry (g : LocalFlutterWindowGrab) (location : F64 × F64) : LocalFlutterWindowGrab :=
  (pointerDelta g.start location).elim g fun delta => { g with last := resizeLocal g.edges g.initial delta }

/-! ## One axis -/

theorem lowerHint_mem (m : Int) : 1 ≤ lowerHint m ∧ lowerHint m ≤ maxWindowDimension := clamp_mem (by decide)

theorem upperHint_mem (m mx : Int) : lowerHint m ≤ upperHint m mx ∧ upperHint m mx ≤ maxWindowDimension := by
  have h := lowerHint_mem m
  unfold upperHint
  split_ifs with hz hlt
  · exact ⟨h.2, le_rfl⟩
  · exact ⟨le_rfl, h.2⟩
  · exact ⟨le_min (not_lt.1 hlt) h.2, min_le_right ..⟩

theorem constrainDimension_mem (r m maximum : Int) : lowerHint m ≤ constrainDimension r m maximum ∧
      constrainDimension r m maximum ≤ upperHint m maximum :=
  ⟨le_min (le_max_right ..) (upperHint_mem m maximum).1, min_le_right ..⟩

/-- What one axis of a published rectangle has of the initial one. -/
structure AxisKept (near far : Bool) (location extent minimum maximum : Int) (axis : Int × Int) : Prop where
  size : 1 ≤ axis.2 ∧ axis.2 ≤ maxWindowDimension
  hints : lowerHint minimum ≤ axis.2 ∧ axis.2 ≤ upperHint minimum maximum
  far_edge : near → -2 ^ 31 ≤ location + extent - axis.2 → location + extent - axis.2 < 2 ^ 31 →
    axis.1 + axis.2 = location + extent
  near_edge : ¬near → axis.1 = location
  free : ¬near → ¬far → lowerHint minimum ≤ extent → extent ≤ upperHint minimum maximum → axis.2 = extent

theorem resizeAxis_kept (near far : Bool) (d : F64) {loc extent : Int} (m mx : Int)
    (hlc : -2 ^ 31 ≤ loc ∧ loc < 2 ^ 31) (he : 1 ≤ extent ∧ extent ≤ maxWindowDimension) :
    ∃ axis, resizeAxis near far loc extent d m mx = some axis ∧ AxisKept near far loc extent m mx axis := by
  have hm : maxWindowDimension = 16384 := rfl
  have hmem := constrainDimension_mem (requestedExtent near far extent d) m mx
  have hw := lowerHint_mem m
  have hup := upperHint_mem m mx
  unfold resizeAxis
  generalize hs : constrainDimension _ m mx = size at hmem ⊢
  have hs' : 1 ≤ size ∧ size ≤ maxWindowDimension := by omega
  cases near with
  | true =>
    have h64 : ∀ n : Int, -2 ^ 32 ≤ n → n ≤ 2 ^ 32 → toI64 n = some n := fun n h h' => if_pos ⟨by omega, by omega⟩
    refine ⟨(clamp (loc + extent - size) (-2 ^ 31) (2 ^ 31 - 1), size), ?_, hs', hmem, fun _ hlo hhi => ?_,
      fun h => absurd rfl h, fun h => absurd rfl h⟩
    · simp [anchoredResizeOrigin, h64 _ (show -2 ^ 32 ≤ loc + extent by omega) (by omega),
        h64 _ (show -2 ^ 32 ≤ loc + extent - size by omega) (by omega)]
    · have hin : clamp (loc + extent - size) (-2 ^ 31) (2 ^ 31 - 1) = loc + extent - size :=
        satI32_of_mem hlo (by omega)
      rw [hin]; omega
  | false =>
    refine ⟨(loc, size), rfl, hs', hmem, fun h => absurd h (by decide), fun _ => rfl, fun _ hf hlo hhi => ?_⟩
    rw [← hs, requestedExtent, if_neg (by decide), if_neg hf, constrainDimension, max_eq_left hlo, min_eq_left hhi]

structure LocalAxisKept (near far : Bool) (origin extent : ℚ) (axis : ℚ × ℚ) : Prop where
  size : 64 ≤ axis.2 ∧ axis.2 ≤ maxWindowDimension
  far_edge : near → axis.1 + axis.2 = origin + extent
  near_edge : ¬near → axis.1 = origin
  free : ¬near → ¬far → axis.2 = constrainLocalDimension extent

theorem resizeLocalAxis_kept (near far : Bool) (org extent d : ℚ) :
    LocalAxisKept near far org extent (resizeLocalAxis near far org extent d) := by
  unfold resizeLocalAxis
  refine ⟨clamp_mem (by norm_num [maxWindowDimension]), fun hn => ?_, fun hn => if_neg hn, fun hn hf => ?_⟩
  · simp [hn]
  · simp only [if_neg hn, if_neg hf]

/-! ## Whole grabs -/

structure Kept (edges : ResizeEdges) (initial : Rect) (m : Motion) (rect : Rect) : Prop where
  horizontal : AxisKept edges.left edges.right initial.x initial.w m.minimum.1 m.maximum.1 (rect.x, rect.w)
  vertical : AxisKept edges.top edges.bottom initial.y initial.h m.minimum.2 m.maximum.2 (rect.y, rect.h)

structure LocalKept (edges : ResizeEdges) (initial geometry : WindowGeometry) : Prop where
  horizontal : LocalAxisKept edges.left edges.right initial.x initial.width (geometry.x, geometry.width)
  vertical : LocalAxisKept edges.top edges.bottom initial.y initial.height (geometry.y, geometry.height)

theorem motion_kept (edges : ResizeEdges) (loc size : I32 × I32) (m : Motion) : ∃ target : Rect,
    Kept edges (ResizeSurfaceGrab.new edges loc size).initial m target ∧ ∀ last,
      ResizeSurfaceGrab.motion ⟨edges, (ResizeSurfaceGrab.new edges loc size).initial, last⟩ m =
        some ⟨edges, (ResizeSurfaceGrab.new edges loc size).initial, target⟩ := by
  obtain ⟨x, hx, hkx⟩ := resizeAxis_kept edges.left edges.right m.delta.1 m.minimum.1 m.maximum.1 loc.1.2
    (clamp_mem (x := size.1.1) (by decide))
  obtain ⟨y, hy, hky⟩ := resizeAxis_kept edges.top edges.bottom m.delta.2 m.minimum.2 m.maximum.2 loc.2.2
    (clamp_mem (x := size.2.1) (by decide))
  refine ⟨⟨x.1, y.1, x.2, y.2⟩, ⟨hkx, hky⟩, fun last => ?_⟩
  unfold ResizeSurfaceGrab.motion ResizeSurfaceGrab.new
  simp only [hx, hy, Option.bind_eq_bind, Option.bind_some]

/-- A fold that only ever replaces a part of its state keeps the last replacement. -/
theorem foldl_last {α σ γ : Type} {f : σ → α → σ} {k : γ → σ} {r : α → Option γ}
    (h : ∀ a last, f (k last) a = k ((r a).getD last)) : ∀ (es : List α) (last : γ),
    es.foldl f (k last) = k ((es.filterMap r).getLast?.getD last)
  | [], _ => rfl
  | a :: es, last => by
    rw [List.foldl_cons, h, foldl_last h es, List.filterMap_cons]
    cases r a with
    | none => rfl
    | some last' => simp only [List.getLast?_cons]; cases List.getLast? _ <;> rfl

/-- What a resize publishes depends on the motion alone, stays in range and in the hints, and keeps the edge opposite to
one that was grabbed; the end publishes the last target. A local window keeps its rectangle at an invalid position. -/
theorem resize_keeps_opposite_edges :
    (∀ (edges : ResizeEdges) (location size : I32 × I32), ∃ target : Motion → Rect,
      (∀ m, Kept edges (ResizeSurfaceGrab.new edges location size).initial m (target m)) ∧
      ∀ motions : List Motion, ∃ g : ResizeSurfaceGrab,
        motions.foldl (fun g m => Option.bind g (ResizeSurfaceGrab.motion · m)) (some (.new edges location size)) = some g ∧
        g.last = (motions.map target).getLast?.getD g.initial ∧
        ∀ constrained mapped rect, g.finish constrained mapped = some rect → rect = g.last) ∧
    ∀ (edges : ResizeEdges) (start : F64 × F64) (initial : WindowGeometry), ∃ target : ℚ × ℚ → WindowGeometry,
      (∀ delta, LocalKept edges initial (target delta)) ∧
      ∀ locations : List (F64 × F64), locations.foldl LocalFlutterWindowGrab.updateGeometry ⟨start, initial, initial, edges⟩ =
        ⟨start, initial, ((locations.filterMap (pointerDelta start)).map target).getLast?.getD initial, edges⟩ := by
  constructor
  · intro edges location size
    choose target hkep hmot using motion_kept edges location size
    refine ⟨target, hkep, fun motions => ?_⟩
    have hrun := foldl_last (f := fun g m => Option.bind g (ResizeSurfaceGrab.motion · m))
      (k := fun last => some (ResizeSurfaceGrab.mk edges _ last)) (r := some ∘ target) hmot motions
      (ResizeSurfaceGrab.new edges location size).initial
    rw [List.filterMap_eq_map] at hrun
    refine ⟨_, hrun, rfl, fun constrained mapped rect h => ?_⟩
    unfold ResizeSurfaceGrab.finish at h; split at h
    · cases h
    · exact (Option.some.inj h).symm
  · intro edges start initial
    refine ⟨resizeLocal edges initial, fun delta =>
      ⟨resizeLocalAxis_kept _ _ _ _ delta.1, resizeLocalAxis_kept _ _ _ _ delta.2⟩, fun locations => ?_⟩
    rw [List.map_filterMap]
    refine foldl_last (k := fun last => LocalFlutterWindowGrab.mk start initial last edges) (fun location last => ?_)
      locations initial
    unfold LocalFlutterWindowGrab.updateGeometry
    cases pointerDelta start location <;> rfl

/-- The right edge is grabbed and the client's greatest height comes below the initial one: the bottom edge moves. -/
theorem hint_moves_bottom_edge : ∃ (edges : ResizeEdges) (location size : I32 × I32) (m : Motion) (rect : Rect),
    ((ResizeSurfaceGrab.new edges location size).motion m).map (·.last) = some rect ∧ ¬edges.bottom ∧
      rect.y + rect.h ≠ location.2 + size.2 :=
  ⟨⟨false, false, false, true⟩, (⟨0, by decide⟩, ⟨0, by decide⟩), (⟨500, by decide⟩, ⟨500, by decide⟩),
    ⟨(.finite 10, .finite 0), (⟨0, by decide⟩, ⟨0, by decide⟩), ⟨0, by decide⟩, ⟨400, by decide⟩⟩, ⟨0, 0, 510, 400⟩,
    by decide +kernel, by decide, by decide⟩

end Deniald.WindowGrab
