/-
The keyboard grab of input methods (input_method.rs): which keys the route of a grab takes for the input method, and
where the release of each key goes. One visible slip: the keys an input method was sent are not forgotten with its grab.
-/
import Deniald.Lib.Run
import Mathlib.Data.Finset.Basic

namespace Deniald.InputMethod

open Deniald.Lib

/-! ## The route -/

inductive KeyState where
  | released
  | pressed
  deriving DecidableEq

/-- `ModifiersState::serialized`. -/
structure SerializedMods where
  depressed : UInt32
  latched : UInt32
  locked : UInt32
  layoutEffective : UInt32

/-- A key of the keyboard, by its code; the backend adds the XKB offset. -/
structure KeyEvent where
  code : Nat
  state : KeyState
  modifiers : Option SerializedMods := none
  serial : UInt32 := 0
  time : UInt32 := 0

def xkbKeycodeOffset : Nat := 8

/-- A keyboard grab object, with the input method it belongs to. -/
structure KeyboardGrabResource where
  id : Nat
  owner : Nat
  accepted : Bool
  grabSerial : Option UInt32
  deriving DecidableEq

/-- What a key event sends: to an input method, or to the focused client. -/
inductive Delivery where
  | key (owner : Nat) (serial time : UInt32) (raw : Nat) (state : KeyState)
  | modifiers (owner : Nat) (serial : UInt32) (serialized : SerializedMods)
  | input (keycode : Nat) (state : KeyState) (modifiers : Option SerializedMods) (serial time : UInt32)

structure KeyboardRouteState where
  resource : Option KeyboardGrabResource := none
  active : Bool := false
  inputMethodKeys : Finset Nat := ∅

namespace KeyboardRouteState

def install (r : KeyboardRouteState) (resource : KeyboardGrabResource) : KeyboardRouteState :=
  { r with resource := some resource }

def remove (r : KeyboardRouteState) (resource : KeyboardGrabResource) : KeyboardRouteState :=
  if r.resource = some resource then { r with resource := none, active := false } else r

def setActive (r : KeyboardRouteState) (active : Bool) : KeyboardRouteState := { r with active := active }

/-- `handle.input`: the focused client's. -/
def toClient (keycode : Nat) (e : KeyEvent) : List Delivery := [.input keycode e.state e.modifiers e.serial e.time]

def toInputMethod (resource : Option KeyboardGrabResource) (raw : Nat) (e : KeyEvent) : List Delivery :=
  match resource with
  | none => []
  | some resource =>
    .key resource.owner e.serial e.time raw e.state ::
      e.modifiers.toList.map fun serialized => .modifiers resource.owner e.serial serialized

/-- `KeyboardGrab::input`, where a grab object is alive unless its client is gone. -/
def input (r : KeyboardRouteState) (gone : Finset Nat) (forwardingVirtualKey : Bool) (e : KeyEvent) :
    KeyboardRouteState × List Delivery :=
  let keycode := e.code + xkbKeycodeOffset
  if forwardingVirtualKey then (r, toClient keycode e)
  else
    let raw := keycode - 8
    let resource := r.resource.filter fun resource => resource.owner ∉ gone
    match e.state with
    | .pressed =>
      if r.active ∧ resource.isSome then
        ({ r with inputMethodKeys := insert raw r.inputMethodKeys }, toInputMethod resource raw e)
      else (r, toClient keycode e)
    | .released =>
      if raw ∈ r.inputMethodKeys then
        ({ r with inputMethodKeys := r.inputMethodKeys.erase raw }, toInputMethod resource raw e)
      else (r, toClient keycode e)

end KeyboardRouteState

/-! ## The seat -/

/-- The keyboard of the seat: the route, the serial of its grab while one is set, and the input methods whose client has
disconnected. -/
structure KeyboardSeat where
  route : KeyboardRouteState := {}
  grab : Option UInt32 := none
  gone : Finset Nat := ∅

inductive KeyboardEvent where
  /-- A grab is asked for, with a new serial; `current` where the input method is the instance of the seat. -/
  | install (id owner : Nat) (current : Bool) (serial : UInt32)
  | destroyed (resource : KeyboardGrabResource)
  | disconnected (owner : Nat)
  | setActive (active : Bool)
  | key (e : KeyEvent)
  | virtualKey (e : KeyEvent)

namespace KeyboardSeat

/-- `InputMethodManager::accepts`. -/
def accepts (s : KeyboardSeat) (owner : Nat) (current : Bool) : Bool := current && owner ∉ s.gone

/-- `install_keyboard_grab`; `set_grab` replaces the seat's grab. -/
def install (s : KeyboardSeat) (id owner : Nat) (current : Bool) (serial : UInt32) : KeyboardSeat :=
  if s.accepts owner current then
    { s with route := s.route.install ⟨id, owner, true, some serial⟩, grab := some serial }
  else s

/-- `destroyed` of a keyboard grab. -/
def destroyed (s : KeyboardSeat) (resource : KeyboardGrabResource) : KeyboardSeat :=
  if !resource.accepted then s
  else
    { s with
      route := s.route.remove resource
      grab := if resource.grabSerial.isSome ∧ s.grab = resource.grabSerial then none else s.grab }

def input (s : KeyboardSeat) (forwardingVirtualKey : Bool) (e : KeyEvent) : KeyboardSeat × List Delivery :=
  match s.grab with
  | none => (s, KeyboardRouteState.toClient (e.code + xkbKeycodeOffset) e)
  | some _ =>
    let (route, deliveries) := s.route.input s.gone forwardingVirtualKey e
    ({ s with route := route }, deliveries)

def handle (s : KeyboardSeat) : KeyboardEvent → KeyboardSeat × List Delivery
  | .install id owner current serial => (s.install id owner current serial, [])
  | .destroyed resource => (s.destroyed resource, [])
  | .disconnected owner => ({ s with gone := insert owner s.gone }, [])
  | .setActive active => ({ s with route := s.route.setActive active }, [])
  | .key e => s.input false e
  | .virtualKey e => s.input true e

theorem input_pressed (s : KeyboardSeat) {e : KeyEvent} (hs : e.state = .pressed) : s.input false e =
    if s.grab.isSome ∧ s.route.active ∧ (s.route.resource.filter fun res => res.owner ∉ s.gone).isSome then
      ({ s with route := { s.route with inputMethodKeys := insert e.code s.route.inputMethodKeys } },
        KeyboardRouteState.toInputMethod (s.route.resource.filter fun res => res.owner ∉ s.gone) e.code e)
    else (s, KeyboardRouteState.toClient (e.code + xkbKeycodeOffset) e) := by
  unfold input; split
  · rename_i hr
    simp [hr]
  rename_i ser hr; unfold KeyboardRouteState.input
  simp only [hr, hs, Option.isSome_some, true_and, Bool.false_eq_true, if_false, xkbKeycodeOffset,
    Nat.add_sub_cancel]
  split
  · rfl
  · rw [← hr]

theorem input_released (s : KeyboardSeat) {e : KeyEvent} (hs : e.state = .released) : s.input false e =
    if s.grab.isSome ∧ e.code ∈ s.route.inputMethodKeys then
      ({ s with route := { s.route with inputMethodKeys := s.route.inputMethodKeys.erase e.code } },
        KeyboardRouteState.toInputMethod (s.route.resource.filter fun res => res.owner ∉ s.gone) e.code e)
    else (s, KeyboardRouteState.toClient (e.code + xkbKeycodeOffset) e) := by
  unfold input; split
  · rename_i hr
    simp [hr]
  rename_i ser hr; unfold KeyboardRouteState.input
  simp only [hr, hs, Option.isSome_some, true_and, Bool.false_eq_true, if_false, xkbKeycodeOffset,
    Nat.add_sub_cancel]
  split
  · rfl
  · rw [← hr]

end KeyboardSeat

/-! ## Receivers -/

inductive Receiver where
  | inputMethod (owner : Nat)
  | client
  deriving DecidableEq

/-- Who is sent a key. -/
def Delivery.keyReceiver : Delivery → Option Receiver
  | .key owner .. => some (.inputMethod owner)
  | .modifiers .. => none
  | .input .. => some .client

def receivers (deliveries : List Delivery) : List Receiver := deliveries.filterMap Delivery.keyReceiver

@[simp] theorem receivers_toInputMethod (res : Option KeyboardGrabResource) (raw : Nat) (e : KeyEvent) :
    receivers (KeyboardRouteState.toInputMethod res raw e) = res.toList.map fun res => .inputMethod res.owner := by
  cases res with
  | none => rfl
  | some res =>
    unfold KeyboardRouteState.toInputMethod receivers
    cases e.modifiers <;> rfl

end Deniald.InputMethod
