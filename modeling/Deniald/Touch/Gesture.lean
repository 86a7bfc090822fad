/-
The window gestures of direct touch (touch_gestures.rs): which contacts the recognizer captures, and the window actions
it takes for them. Coordinates are `f64` in the source; the model is over any `TouchArith`.
-/
import Deniald.Lib.Keyed
import Deniald.Shortcut.Keys
import Mathlib.Data.List.Sort

namespace Deniald.Touch

open Deniald.Shortcut (ShortcutGesture)

/-! ## Arithmetic -/

/-- The operations on coordinates. -/
class TouchArith (F : Type) extends Add F, Sub F, Mul F, Div F, Neg F where
  ofNat : Nat → F
  abs : F → F
  hypot : F → F → F
  round : F → F
  lt : F → F → Bool
  le : F → F → Bool
  isFinite : F → Bool

/-- The source's arithmetic; how precise `hypot` is is left to the platform. -/
instance : TouchArith Float where
  ofNat := Float.ofNat
  abs := Float.abs
  hypot x y := (x * x + y * y).sqrt
  round := Float.round
  lt a b := a < b
  le a b := a ≤ b
  isFinite := Float.isFinite

variable {F : Type} [TouchArith F]

open TouchArith (ofNat hypot lt le)

structure Point (F : Type) where
  x : F
  y : F

def Point.sub (a b : Point F) : Point F := ⟨a.x - b.x, a.y - b.y⟩

structure WindowGeometry (F : Type) where
  x : F
  y : F
  width : F
  height : F

/-- `0.5`. -/
def half : F := ofNat 1 / ofNat 2

/-- `PINCH_TRANSLATION_DOMINANCE` and `SWIPE_DIRECTION_DOMINANCE`: `1.5`. -/
def dominance : F := ofNat 3 / ofNat 2

def moveSlop : F := ofNat 4

def minimizeSwipeDistance : F := ofNat 96

def pinchSlop : F := ofNat 16

def threeFingerSwipeDistance : F := ofNat 100

def fourFingerInwardSlop : F := ofNat 8

def fourFingerCrushDistance : F := ofNat 32

def minLocalWindowDimension : F := ofNat 64

def maxWindowDimension : F := ofNat 16384

def centerOfTwo (a b : Point F) : Point F := ⟨(a.x + b.x) * half, (a.y + b.y) * half⟩

def pointDistance (first second : Point F) : F := hypot (second.x - first.x) (second.y - first.y)

def intentionalPinch (initial current : Point F × Point F) : Bool :=
  let firstMotion := current.1.sub initial.1
  let secondMotion := current.2.sub initial.2
  let opposingMotion := le (firstMotion.x * secondMotion.x + firstMotion.y * secondMotion.y) (ofNat 0)
  let initialDistance := pointDistance initial.1 initial.2
  let currentDistance := pointDistance current.1 current.2
  let separationChange := TouchArith.abs (currentDistance - initialDistance)
  let translation := (centerOfTwo current.1 current.2).sub (centerOfTwo initial.1 initial.2)
  opposingMotion && le pinchSlop separationChange && le (hypot translation.x translation.y * dominance) separationChange

def finiteDimension (value minimum : F) : F :=
  if TouchArith.isFinite value then
    let value := TouchArith.round value
    if lt value minimum then minimum else if lt maxWindowDimension value then maxWindowDimension else value
  else minimum

def directionalPinchGeometry (geometry : WindowGeometry F) (initial current : Point F × Point F) : WindowGeometry F :=
  let centerDelta := (centerOfTwo current.1 current.2).sub (centerOfTwo initial.1 initial.2)
  let initialSeparation := initial.2.sub initial.1
  let currentSeparation := current.2.sub current.1
  let width := finiteDimension
    (geometry.width + TouchArith.abs currentSeparation.x - TouchArith.abs initialSeparation.x) minLocalWindowDimension
  let height := finiteDimension
    (geometry.height + TouchArith.abs currentSeparation.y - TouchArith.abs initialSeparation.y) minLocalWindowDimension
  let centerX := geometry.x + geometry.width * half + centerDelta.x
  let centerY := geometry.y + geometry.height * half + centerDelta.y
  ⟨centerX - width * half, centerY - height * half, width, height⟩

def inwardCrush (initial current : List F) : Bool :=
  let travel := List.zipWith (· - ·) initial current
  travel.all (fun inwardTravel => !lt inwardTravel fourFingerInwardSlop) &&
    le fourFingerCrushDistance (travel.foldl (· + ·) (ofNat 0) / ofNat 4)

/-! ## Windows and actions -/

structure TouchWindowTarget (F : Type) where
  windowId : UInt64
  geometry : WindowGeometry F
  inGestureStrip : Bool
  inMoveCorner : Bool
  geometryLocked : Bool

inductive WindowPlacementPhase where
  | begins
  | updates
  | ends
  deriving DecidableEq

inductive WindowPlacementChange where
  | move
  | resize
  | layoutPreview
  deriving DecidableEq

inductive TouchWindowAction (F : Type) where
  | placement (windowId : UInt64) (phase : WindowPlacementPhase) (change : WindowPlacementChange)
    (geometry : WindowGeometry F)
  | minimize (windowId : UInt64)
  | close (windowId : UInt64)
  | gesture (gesture : ShortcutGesture)

structure TouchGestureUpdate (F : Type) where
  consume : Bool := false
  capturedSlots : List Int := []
  actions : List (TouchWindowAction F) := []

/-! ## Contacts -/

structure Contact (F : Type) where
  position : Point F
  target : Option (TouchWindowTarget F)
  captured : Bool

def Contact.windowId (contact : Contact F) : Option UInt64 := contact.target.map (·.windowId)

abbrev Contacts (F : Type) : Type := AList fun _ : Int => Contact F

namespace Contacts

/-- `window_slots`: in order. -/
def windowSlots (contacts : Contacts F) (windowId : UInt64) : List Int :=
  (contacts.entries.filterMap fun e => if e.2.windowId = some windowId then some e.1 else none).insertionSort (· ≤ ·)

/-- `capture_slots`: the slots that were not captured before. -/
def captureSlots (contacts : Contacts F) : List Int → List Int × Contacts F
  | [] => ([], contacts)
  | slot :: slots =>
    match contacts.lookup slot with
    | none => captureSlots contacts slots
    | some contact =>
      let (captured, contacts) := captureSlots (contacts.insert slot { contact with captured := true }) slots
      (if contact.captured then captured else slot :: captured, contacts)

def inGestureStrip (contacts : Contacts F) (slots : List Int) : Bool :=
  slots.all fun slot => (contacts.lookup slot).any fun contact => contact.target.any (·.inGestureStrip)

def contactPositions (contacts : Contacts F) (first second : Int) : Option (Point F × Point F) := do
  let a ← contacts.lookup first
  let b ← contacts.lookup second
  return (a.position, b.position)

def contactCenter (contacts : Contacts F) (first second : Int) : Option (Point F) :=
  (contacts.contactPositions first second).map fun positions => centerOfTwo positions.1 positions.2

def threeContactCenter (contacts : Contacts F) (first second third : Int) : Option (Point F) := do
  let a ← contacts.lookup first
  let b ← contacts.lookup second
  let c ← contacts.lookup third
  return ⟨(a.position.x + b.position.x + c.position.x) / ofNat 3, (a.position.y + b.position.y + c.position.y) / ofNat 3⟩

def contactDistances (contacts : Contacts F) (slots : List Int) (center : Point F) : Option (List F) :=
  slots.mapM fun slot => (contacts.lookup slot).map fun contact => pointDistance contact.position center

def hasCapturedWindowContact (contacts : Contacts F) (windowId : UInt64) : Bool :=
  contacts.entries.any fun e => e.2.captured && e.2.windowId = some windowId

end Contacts

end Deniald.Touch
