/-
The recognizer of the window gestures: its state, and what it does for a contact that is put down, moves or is lifted.
-/
import Deniald.Touch.Gesture

namespace Deniald.Touch

variable {F : Type} [TouchArith F]

open TouchArith (ofNat le)

inductive Gesture (F : Type) where
  | move (slot : Int) (windowId : UInt64) (origin : Point F) (initialGeometry lastGeometry : WindowGeometry F)
    (started geometryLocked : Bool)
  | pinchCandidate (slots : Int × Int) (windowId : UInt64) (initialPositions : Point F × Point F)
    (initialGeometry : WindowGeometry F) (moved : Bool × Bool)
  | pinch (slots : Int × Int) (windowId : UInt64) (initialPositions : Point F × Point F)
    (initialGeometry lastGeometry : WindowGeometry F)
  | minimizeSwipe (slots : Int × Int) (windowId : UInt64) (origin : Point F)
  | threeFinger (slots : Int × Int × Int) (windowId : UInt64) (origin : Point F)
  | fourFinger (slots : List Int) (windowId : UInt64) (center : Point F) (initialDistances : List F) (moved : List Bool)
  /-- Every participant stays with the compositor until all fingers are lifted. -/
  | blocked (windowId : UInt64)

namespace Gesture

def windowId : Gesture F → UInt64
  | move _ windowId .. | pinchCandidate _ windowId .. | pinch _ windowId .. | minimizeSwipe _ windowId _
  | threeFinger _ windowId _ | fourFinger _ windowId .. | blocked windowId => windowId

/-- The contacts a gesture is about. -/
def slots : Gesture F → List Int
  | move slot .. => [slot]
  | pinchCandidate slots .. | pinch slots .. | minimizeSwipe slots .. => [slots.1, slots.2]
  | threeFinger slots .. => [slots.1, slots.2.1, slots.2.2]
  | fourFinger slots .. => slots
  | blocked _ => []

def includes (gesture : Gesture F) (slot : Int) : Bool :=
  match gesture with
  | blocked _ => true
  | gesture => gesture.slots.contains slot

def finishAction : Gesture F → Option (TouchWindowAction F)
  | move _ windowId _ _ lastGeometry true _ => some (.placement windowId .ends .move lastGeometry)
  | pinch _ windowId _ _ lastGeometry => some (.placement windowId .ends .resize lastGeometry)
  | _ => none

def isBlocked : Gesture F → Bool
  | blocked _ => true
  | _ => false

def isMove : Gesture F → Bool
  | move .. => true
  | _ => false

def isThreeFinger : Gesture F → Bool
  | threeFinger .. => true
  | _ => false

def isFourFinger : Gesture F → Bool
  | fourFinger .. => true
  | _ => false

end Gesture

structure TouchGestureState (F : Type) where
  contacts : Contacts F := ∅
  gesture : Option (Gesture F) := none

namespace TouchGestureState

/-- `gesture.take().and_then(Gesture::finish_action)`. -/
def finishActions (gesture : Option (Gesture F)) : List (TouchWindowAction F) := (gesture.bind Gesture.finishAction).toList

def capture (s : TouchGestureState F) (slots : List Int) : TouchGestureState F × TouchGestureUpdate F :=
  let (captured, contacts) := s.contacts.captureSlots slots
  ({ s with contacts := contacts }, { consume := true, capturedSlots := captured })

def beginGesture (s : TouchGestureState F) (gesture : Gesture F) : TouchGestureState F × TouchGestureUpdate F :=
  let (captured, contacts) := s.contacts.captureSlots gesture.slots
  (⟨contacts, some gesture⟩, { consume := true, capturedSlots := captured, actions := finishActions s.gesture })

/-- The contacts are there, so the source's `expect` does not fail. -/
def beginFourFinger (s : TouchGestureState F) (slots : List Int) (target : TouchWindowTarget F) :
    TouchGestureState F × TouchGestureUpdate F :=
  let slots := slots.take 4
  let center : Point F :=
    ⟨target.geometry.x + target.geometry.width * half, target.geometry.y + target.geometry.height * half⟩
  match s.contacts.contactDistances slots center with
  | some initialDistances =>
    s.beginGesture (.fourFinger slots target.windowId center initialDistances [false, false, false, false])
  | none => (s, {})

def beginThreeFinger (s : TouchGestureState F) (slots : List Int) (windowId : UInt64) :
    TouchGestureState F × TouchGestureUpdate F :=
  match slots with
  | a :: b :: c :: _ =>
    match s.contacts.threeContactCenter a b c with
    | some origin => s.beginGesture (.threeFinger (a, b, c) windowId origin)
    | none => (s, {})
  | _ => (s, {})

def beginMinimizeSwipe (s : TouchGestureState F) (slots : Int × Int) (windowId : UInt64) :
    TouchGestureState F × TouchGestureUpdate F :=
  match s.contacts.contactCenter slots.1 slots.2 with
  | some origin => s.beginGesture (.minimizeSwipe slots windowId origin)
  | none => (s, {})

/-- A pinch candidate captures nothing yet. -/
def beginPinchCandidate (s : TouchGestureState F) (slots : Int × Int) (initialGeometry : WindowGeometry F) :
    TouchGestureState F :=
  match s.contacts.contactPositions slots.1 slots.2, (s.contacts.lookup slots.1).bind (·.windowId) with
  | some initialPositions, some windowId =>
    { s with gesture := some (.pinchCandidate slots windowId initialPositions initialGeometry (false, false)) }
  | _, _ => s

def promoteMoveToTwoFingers (s : TouchGestureState F) (moveGesture : Gesture F) (slots : Int × Int)
    (target : TouchWindowTarget F) : TouchGestureState F × TouchGestureUpdate F :=
  let bothInGestureStrip := s.contacts.inGestureStrip [slots.1, slots.2]
  if !bothInGestureStrip && target.geometryLocked then (s, {})
  else if bothInGestureStrip then s.beginMinimizeSwipe slots target.windowId
  else match moveGesture with
    | .move _ _ _ _ lastGeometry _ _ =>
      (s.beginPinchCandidate slots lastGeometry, { actions := finishActions (some moveGesture) })
    | _ => (s, {})

def downFree (s : TouchGestureState F) (slot : Int) (position : Point F) (target : TouchWindowTarget F)
    (sameWindow : List Int) : TouchGestureState F × TouchGestureUpdate F :=
  let uncaptured := sameWindow.filter fun candidate => (s.contacts.lookup candidate).any fun contact => !contact.captured
  match uncaptured with
  | [a, b] =>
    if s.contacts.inGestureStrip [a, b] then s.beginMinimizeSwipe (a, b) target.windowId
    else if target.geometryLocked then (s, {})
    else (s.beginPinchCandidate (a, b) target.geometry, {})
  | _ =>
    if target.inMoveCorner then
      s.beginGesture (.move slot target.windowId position target.geometry target.geometry false target.geometryLocked)
    else (s, {})

def downOn (s : TouchGestureState F) (slot : Int) (position : Point F) (target : TouchWindowTarget F) :
    TouchGestureState F × TouchGestureUpdate F :=
  let sameWindow := s.contacts.windowSlots target.windowId
  let onWindow := s.gesture.all fun gesture => gesture.windowId = target.windowId
  if s.gesture.any fun gesture => gesture.isBlocked && gesture.windowId = target.windowId then s.capture [slot]
  else if 4 ≤ sameWindow.length ∧ onWindow then
    if s.gesture.any (·.isFourFinger) then s.capture [slot] else s.beginFourFinger sameWindow target
  else if 3 ≤ sameWindow.length ∧ onWindow then
    if s.gesture.any (·.isThreeFinger) then s.capture [slot] else s.beginThreeFinger sameWindow target.windowId
  else match s.gesture with
    | some gesture =>
      if gesture.windowId = target.windowId then
        match sameWindow with
        | [a, b] =>
          if gesture.isMove then s.promoteMoveToTwoFingers gesture (a, b) target
          else (s, { consume := (s.contacts.lookup slot).any (·.captured) })
        | _ => (s, { consume := (s.contacts.lookup slot).any (·.captured) })
      else (s, {})
    | none => s.downFree slot position target sameWindow

def down (s : TouchGestureState F) (slot : Int) (position : Point F) (target : Option (TouchWindowTarget F)) :
    TouchGestureState F × TouchGestureUpdate F :=
  let s := { s with contacts := s.contacts.insert slot ⟨position, target, false⟩ }
  match target with
  | none => (s, {})
  | some target => s.downOn slot position target

def motionCandidate (s : TouchGestureState F) (slot : Int) (captured : Bool) (slots : Int × Int) (windowId : UInt64)
    (initialPositions : Point F × Point F) (initialGeometry : WindowGeometry F) (moved : Bool × Bool) :
    TouchGestureState F × TouchGestureUpdate F :=
  let moved := if slots.1 = slot then (true, moved.2) else (moved.1, true)
  let waits := ({ s with gesture := some (.pinchCandidate slots windowId initialPositions initialGeometry moved) },
    { consume := captured })
  match s.contacts.contactPositions slots.1 slots.2 with
  | some currentPositions =>
    if moved.1 && moved.2 && intentionalPinch initialPositions currentPositions then
      let geometry := directionalPinchGeometry initialGeometry initialPositions currentPositions
      let (capturedSlots, contacts) := s.contacts.captureSlots [slots.1, slots.2]
      (⟨contacts, some (.pinch slots windowId initialPositions initialGeometry geometry)⟩,
        { consume := true
          capturedSlots := capturedSlots
          actions := [.placement windowId .begins .resize initialGeometry, .placement windowId .updates .resize geometry] })
    else waits
  | none => waits

/-- What a gesture makes of the motion of a captured contact: how it goes on, and its actions. -/
def motionGesture (contacts : Contacts F) (slot : Int) (position : Point F) (gesture : Gesture F) :
    Gesture F × List (TouchWindowAction F) :=
  match gesture with
  | .move gestureSlot windowId origin initialGeometry lastGeometry started geometryLocked =>
    let delta := position.sub origin
    if gestureSlot = slot ∧ geometryLocked = false ∧
        (started || le (moveSlop * moveSlop) (delta.x * delta.x + delta.y * delta.y)) then
      let geometry := { initialGeometry with x := initialGeometry.x + delta.x, y := initialGeometry.y + delta.y }
      (.move gestureSlot windowId origin initialGeometry geometry true geometryLocked,
        (if started then [] else [.placement windowId .begins .move initialGeometry]) ++
          [.placement windowId .updates .move geometry])
    else (.move gestureSlot windowId origin initialGeometry lastGeometry started geometryLocked, [])
  | .pinch slots windowId initialPositions initialGeometry lastGeometry =>
    match if [slots.1, slots.2].contains slot then contacts.contactPositions slots.1 slots.2 else none with
    | some currentPositions =>
      let geometry := directionalPinchGeometry initialGeometry initialPositions currentPositions
      (.pinch slots windowId initialPositions initialGeometry geometry, [.placement windowId .updates .resize geometry])
    | none => (.pinch slots windowId initialPositions initialGeometry lastGeometry, [])
  | .minimizeSwipe slots windowId origin =>
    match if [slots.1, slots.2].contains slot then contacts.contactCenter slots.1 slots.2 else none with
    | some center =>
      let delta := center.sub origin
      if le minimizeSwipeDistance delta.y && le (TouchArith.abs delta.x) delta.y then
        (.blocked windowId, [.minimize windowId])
      else (.minimizeSwipe slots windowId origin, [])
    | none => (.minimizeSwipe slots windowId origin, [])
  | .threeFinger slots windowId origin =>
    match if [slots.1, slots.2.1, slots.2.2].contains slot then
        contacts.threeContactCenter slots.1 slots.2.1 slots.2.2 else none with
    | some center =>
      let delta := center.sub origin
      let upward := -delta.y
      if le threeFingerSwipeDistance upward && le (TouchArith.abs delta.x * dominance) upward then
        (.blocked windowId, [.gesture .threeFingerSwipeUp])
      else (.threeFinger slots windowId origin, [])
    | none => (.threeFinger slots windowId origin, [])
  | .fourFinger slots windowId center initialDistances moved =>
    if slots.contains slot then
      let moved := moved.set (slots.idxOf slot) true
      if moved.all id ∧ (contacts.contactDistances slots center).any (inwardCrush initialDistances) then
        (.blocked windowId, [.close windowId])
      else (.fourFinger slots windowId center initialDistances moved, [])
    else (.fourFinger slots windowId center initialDistances moved, [])
  | gesture => (gesture, [])

def motionOf (s : TouchGestureState F) (slot : Int) (position : Point F) (captured : Bool) :
    TouchGestureState F × TouchGestureUpdate F :=
  match s.gesture with
  | some (.pinchCandidate slots windowId initialPositions initialGeometry moved) =>
    if [slots.1, slots.2].contains slot then
      s.motionCandidate slot captured slots windowId initialPositions initialGeometry moved
    else (s, { consume := captured })
  | some gesture =>
    if captured then
      let (gesture, actions) := motionGesture s.contacts slot position gesture
      ({ s with gesture := some gesture }, { consume := true, actions := actions })
    else (s, {})
  | none => (s, { consume := captured })

def motion (s : TouchGestureState F) (slot : Int) (position : Point F) :
    TouchGestureState F × TouchGestureUpdate F :=
  match s.contacts.lookup slot with
  | none => (s, {})
  | some contact =>
    { s with contacts := s.contacts.insert slot { contact with position := position } }.motionOf slot position
      contact.captured

def lifted (contacts : Contacts F) (gesture : Gesture F) : Option (Gesture F) :=
  if contacts.hasCapturedWindowContact gesture.windowId then
    match gesture with
    | .move .. | .pinchCandidate .. => none
    | gesture => some (.blocked gesture.windowId)
  else none

/-- `finish_contact`, of a contact lifted or cancelled. -/
def finishContact (s : TouchGestureState F) (slot : Int) : TouchGestureState F × TouchGestureUpdate F :=
  match s.contacts.lookup slot with
  | none => (s, {})
  | some contact =>
    let contacts := s.contacts.erase slot
    match s.gesture with
    | none => (⟨contacts, none⟩, { consume := contact.captured })
    | some gesture =>
      if !gesture.includes slot then (⟨contacts, some gesture⟩, { consume := contact.captured })
      else (⟨contacts, lifted contacts gesture⟩,
        { consume := contact.captured, actions := finishActions (some gesture) })

def cancelAll (s : TouchGestureState F) : TouchGestureState F × List (TouchWindowAction F) :=
  (⟨∅, none⟩, finishActions s.gesture)

end TouchGestureState

end Deniald.Touch
