/-
The dwindle layout (window_layout.rs): a binary tree of windows for each output, edited by inserting,
removing, swapping and resizing windows, and arranged into rectangles by recursive subdivision. Ratios
are finite doubles; the literals 0.1, 0.5 and 0.9 denote their roundings.
-/
import Deniald.Lib.Keyed
import Deniald.Lib.Number
import Deniald.Topology.Output

namespace Deniald.Layout

open Deniald.Lib
open Deniald.Topology (OutputId)

/-! ## Geometry -/

/-- `Rectangle<i32, Logical>`. -/
structure Rect where
  x : Int
  y : Int
  w : Int
  h : Int
  deriving DecidableEq

section

variable (r : Rounding)

/-- The least ratio of a split, `0.1`. -/
def minRatio : ℚ := r.fl (1 / 10)

/-- The ratio of a fresh split, `0.5`. -/
def halfRatio : ℚ := r.fl (1 / 2)

/-- The greatest ratio of a split, `0.9`. -/
def maxRatio : ℚ := r.fl (9 / 10)

def splitGeometry (geometry : Rect) (requestedGap : Int) (requestedRatio : F64) : Rect × Rect :=
  let horizontal : Bool := geometry.w ≥ geometry.h
  let extent := max (if horizontal then geometry.w else geometry.h) 2
  let gap := clamp requestedGap 0 (satSub extent 2)
  let available := satSub extent gap
  let ratio := match requestedRatio with
    | .finite q => clamp q (minRatio r) (maxRatio r)
    | _ => halfRatio r
  let firstExtent := satI32 (roundHalfAway (r.fl (available * ratio)))
  let firstExtent := clamp firstExtent 1 (max (satSub available 1) 1)
  let secondExtent := max (satSub available firstExtent) 1
  if horizontal then
    (⟨geometry.x, geometry.y, firstExtent, geometry.h⟩,
      ⟨satAdd (satAdd geometry.x firstExtent) gap, geometry.y, secondExtent, geometry.h⟩)
  else
    (⟨geometry.x, geometry.y, geometry.w, firstExtent⟩,
      ⟨geometry.x, satAdd (satAdd geometry.y firstExtent) gap, geometry.w, secondExtent⟩)

end

/-! ## Trees -/

inductive DwindleNode (W : Type) where
  | window (w : W)
  | split (ratio : ℚ) (first second : DwindleNode W)
  deriving DecidableEq

structure LayoutPlacement (W : Type) where
  window : W
  geometry : Rect

structure LayoutResizeEdges where
  top : Bool
  bottom : Bool
  left : Bool
  right : Bool

structure ResizedAxes where
  horizontal : Bool := false
  vertical : Bool := false
  changed : Bool := false

namespace DwindleNode

variable {W : Type} [DecidableEq W]

def contains : DwindleNode W → W → Bool
  | .window candidate, w => candidate = w
  | .split _ first second, w => first.contains w || second.contains w

omit [DecidableEq W] in
def lastWindow : DwindleNode W → W
  | .window w => w
  | .split _ _ second => second.lastWindow

variable (r : Rounding)

def splitWindow : DwindleNode W → W → W → DwindleNode W × Bool
  | .window candidate, anchor, w =>
    if candidate = anchor then (.split (halfRatio r) (.window candidate) (.window w), true)
    else (.window candidate, false)
  | .split ratio first second, anchor, w =>
    match first.splitWindow anchor w with
    | (first, true) => (.split ratio first second, true)
    | (first, false) =>
      let (second, inserted) := second.splitWindow anchor w
      (.split ratio first second, inserted)

/-- The tree without the window, or none when the window was all of it, and whether it was there. A
missing child stands for a failed `expect`, which a child left unchanged cannot fail. -/
def remove : DwindleNode W → W → Option (DwindleNode W) × Bool
  | .window candidate, w => if candidate = w then (none, true) else (some (.window candidate), false)
  | .split ratio first second, w =>
    match first.remove w with
    | (some first, true) => (some (.split ratio first second), true)
    | (none, true) => (some second, true)
    | (first, false) =>
      match second.remove w with
      | (second, false) => (Option.map₂ (.split ratio) first second, false)
      | (some second, true) => (first.map fun first => .split ratio first second, true)
      | (none, true) => (first, true)

omit [DecidableEq W] in
def arrange : DwindleNode W → Rect → Int → List (LayoutPlacement W)
  | .window w, geometry, _ => [⟨w, geometry⟩]
  | .split ratio first second, geometry, gap =>
    let (firstGeometry, secondGeometry) := splitGeometry r geometry gap (.finite ratio)
    first.arrange firstGeometry gap ++ second.arrange secondGeometry gap

/-- The ratio of a split after its boundary moved by `delta`, when that changes it. -/
def resizedRatio (ratio : ℚ) (delta : F64) (available : Int) : Option ℚ :=
  match delta with
  | .finite d =>
    if d ≠ 0 then
      let next := clamp (r.fl (ratio + r.fl (d / available))) (minRatio r) (maxRatio r)
      if epsilon < |r.fl (next - ratio)| then some next else none
    else none
  | _ => none

/-- The end of `resize_window`: a split moves its own boundary when the edges ask for it and no split
below has moved that axis. -/
def resizeBoundary (ratio : ℚ) (windowInFirst : Bool) (geometry : Rect) (gap : Int) (edges : LayoutResizeEdges)
    (deltaX deltaY : F64) (resized : ResizedAxes) : ℚ × ResizedAxes :=
  let windowInSecond := !windowInFirst
  let horizontalSplit : Bool := geometry.w ≥ geometry.h
  let handlesBoundary :=
    if horizontalSplit then
      !resized.horizontal && ((windowInFirst && edges.right) || (windowInSecond && edges.left))
    else
      !resized.vertical && ((windowInFirst && edges.bottom) || (windowInSecond && edges.top))
  if !handlesBoundary then (ratio, resized)
  else
    let extent := if horizontalSplit then geometry.w else geometry.h
    let available := max (satSub extent (max gap 0)) 2
    let delta := if horizontalSplit then deltaX else deltaY
    let next := resizedRatio r ratio delta available
    let resized := if next.isSome then { resized with changed := true } else resized
    (next.getD ratio,
      if horizontalSplit then { resized with horizontal := true } else { resized with vertical := true })

def resizeWindow : DwindleNode W → W → Rect → Int → LayoutResizeEdges → F64 → F64 → DwindleNode W × ResizedAxes
  | .window candidate, _, _, _, _, _, _ => (.window candidate, {})
  | .split ratio first second, w, geometry, gap, edges, deltaX, deltaY =>
    let (firstGeometry, secondGeometry) := splitGeometry r geometry gap (.finite ratio)
    if first.contains w then
      let (first, resized) := first.resizeWindow w firstGeometry gap edges deltaX deltaY
      let (ratio, resized) := resizeBoundary r ratio true geometry gap edges deltaX deltaY resized
      (.split ratio first second, resized)
    else if second.contains w then
      let (second, resized) := second.resizeWindow w secondGeometry gap edges deltaX deltaY
      let (ratio, resized) := resizeBoundary r ratio false geometry gap edges deltaX deltaY resized
      (.split ratio first second, resized)
    else (.split ratio first second, {})

def swapWindows : DwindleNode W → W → W → DwindleNode W
  | .window w, first, second =>
    if w = first then .window second else if w = second then .window first else .window w
  | .split ratio firstChild secondChild, first, second =>
    .split ratio (firstChild.swapWindows first second) (secondChild.swapWindows first second)

end DwindleNode

/-! ## The layout -/

structure LayoutInsertion (W : Type) where
  window : W
  output : OutputId
  anchor : Option W

structure LayoutResizeRequest (W : Type) where
  window : W
  workArea : Rect
  gap : Int
  deltaX : F64
  deltaY : F64
  edges : LayoutResizeEdges

/-- `roots: HashMap<OutputId, DwindleNode>`; the order of its entries is the map's iteration order,
which the source leaves open. -/
structure DwindleLayout (W : Type) where
  roots : AList fun _ : OutputId => DwindleNode W

namespace DwindleLayout

variable {W : Type} [DecidableEq W]

omit [DecidableEq W] in
/-- `DwindleLayout::default`, and what `clear` leaves. -/
def empty : DwindleLayout W := ⟨∅⟩

/-- The first output in iteration order whose tree contains the window. -/
def locate (layout : DwindleLayout W) (w : W) : Option OutputId :=
  (layout.roots.entries.find? fun entry => entry.2.contains w).map (·.1)

def remove (layout : DwindleLayout W) (w : W) : DwindleLayout W × Bool :=
  match layout.locate w with
  | none => (layout, false)
  | some output =>
    match layout.roots.lookup output with
    -- the located output has a tree
    | none => (layout, false)
    | some root =>
      let roots := layout.roots.erase output
      let (root, removed) := root.remove w
      (⟨match root with
        | some root => roots.insert output root
        | none => roots⟩, removed)

def insert (r : Rounding) (layout : DwindleLayout W) (insertion : LayoutInsertion W) : DwindleLayout W :=
  let layout := (layout.remove insertion.window).1
  match layout.roots.lookup insertion.output with
  | none => ⟨layout.roots.insert insertion.output (.window insertion.window)⟩
  | some root =>
    let anchor := (insertion.anchor.filter fun anchor => root.contains anchor).getD root.lastWindow
    ⟨layout.roots.insert insertion.output (root.splitWindow r anchor insertion.window).1⟩

def contains (layout : DwindleLayout W) (w : W) : Bool := layout.roots.entries.any fun entry => entry.2.contains w

def swap (layout : DwindleLayout W) (first second : W) : DwindleLayout W × Bool :=
  if first = second ∨ !layout.contains first ∨ !layout.contains second then (layout, false)
  else
    (⟨mapValues (fun root => root.swapWindows first second) layout.roots⟩, true)

def resize (r : Rounding) (layout : DwindleLayout W) (request : LayoutResizeRequest W) : DwindleLayout W × Bool :=
  match request.deltaX, request.deltaY with
  | .finite _, .finite _ =>
    match layout.roots.entries.find? fun entry => entry.2.contains request.window with
    | none => (layout, false)
    | some ⟨output, root⟩ =>
      let (root, resized) := root.resizeWindow r request.window request.workArea (max request.gap 0) request.edges
        request.deltaX request.deltaY
      (⟨layout.roots.insert output root⟩, resized.changed)
  | _, _ => (layout, false)

omit [DecidableEq W] in
def arrange (r : Rounding) (layout : DwindleLayout W) (output : OutputId) (workArea : Rect) (gap : Int) :
    List (LayoutPlacement W) :=
  match layout.roots.lookup output with
  | none => []
  | some root => root.arrange r workArea (max gap 0)

end DwindleLayout

end Deniald.Layout
