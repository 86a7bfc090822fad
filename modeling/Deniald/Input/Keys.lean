/-
Key routing between Flutter and the clients (wayland_frontend/input.rs): which keys Flutter, the input method and the
shell's keyboard hold, and what a reset of the keyboard retires. One visible slip: a reset releases in Flutter only the
keys the seat has pressed, and those of the virtual keyboard need not be.
-/
import Deniald.Input.Queue
import Deniald.Shortcut.Engine
import Mathlib.Data.Finset.Sort

namespace Deniald.Input

open Deniald.InputMethod (KeyState)
open Deniald.Lib
open Deniald.Shortcut (ShortcutEngine)

/-! ## Transitions -/

inductive FlutterKeyDisposition where
  | dispatch | consumeRetired | forward

def retiredKeyConsumesTransition (retired : Finset Nat) (keycode : Nat) : KeyState → Finset Nat × Bool
  | .pressed => (retired, keycode ∈ retired)
  | .released => (retired.erase keycode, keycode ∈ retired)

def routeFlutterKeyTransition (active retired : Finset Nat) (keycode : Nat) (state : KeyState)
    (captureNewPress : Bool) : Finset Nat × Finset Nat × FlutterKeyDisposition :=
  let (retired, consumes) := retiredKeyConsumesTransition retired keycode state
  if consumes then (if state = .released then active.erase keycode else active, retired, .consumeRetired)
  else
    match state with
    | .pressed =>
      if keycode ∈ active ∨ captureNewPress then (insert keycode active, retired, .dispatch)
      else (active, retired, .forward)
    | .released =>
      if keycode ∈ active then (active.erase keycode, retired, .dispatch) else (active, retired, .forward)

def routeInputMethodKeyTransition (active retired : Finset Nat) (keycode : Nat) (state : KeyState)
    (flutterEditorActive : Bool) : Finset Nat × Finset Nat × FlutterKeyDisposition :=
  routeFlutterKeyTransition active retired keycode state (flutterEditorActive && state == .pressed)

def routeShellKeyTransition (held : Finset Nat) (keycode : Nat) (state : KeyState) (seatPressed : Bool) :
    Finset Nat × Bool :=
  match state with
  | .pressed => if !seatPressed && keycode ∉ held then (insert keycode held, true) else (held, false)
  | .released => (held.erase keycode, keycode ∈ held)

/-! ## The frontend -/

variable {F : Type}

/-- What the rest of the compositor makes of a key at the time: whether the action of its shortcut is taken, whether the
keymap repeats it and how often repeats come, and its character and modifiers. -/
structure KeyContext where
  answer : Bool := true
  repeats : Bool := true
  repeatRateHz : Nat := 25
  unicode : UInt32 := 0
  modifiers : UInt32 := 0

/-- The keys of the frontend, of the seat and of the shell. Key codes are XKB's, the evdev code plus 8. -/
structure KeyFrontend (F : Type) where
  flutterActive : Bool
  nativeEscapeShortcut : ShortcutEngine
  secureSessionLocked : Bool := false
  shellCapture : Bool := false
  keyboardGrabbed : Bool := false
  flutterEditorActive : Bool := false
  flutterKeyboardKeys : Finset Nat := ∅
  flutterInputMethodKeys : Finset Nat := ∅
  shellKeyboardKeys : Finset Nat := ∅
  retiredKeyboardKeys : Finset Nat := ∅
  retiredInputMethodKeys : Finset Nat := ∅
  /-- Of the seat's keyboard. -/
  pressedKeys : Finset Nat := ∅
  flutterRepeatKey : Option Nat := none
  flutterRepeatGeneration : UInt64 := 0
  flutterInput : InputQueue F
  /-- What this engine has been given. -/
  seen : List (InputRecord F) := []
  /-- What the focus of the seat, or its grab, has been given. -/
  forwarded : List (Nat × KeyState) := []

inductive KeyboardEvent (F : Type) where
  /-- A physical key, or one of a complete stroke of the shell's keyboard, by its evdev code. -/
  | key (code : Nat) (state : KeyState) (context : KeyContext)
  /-- A key held on the shell's keyboard. -/
  | shellKey (code : Nat) (state : KeyState) (context : KeyContext)
  /-- A key of the input method's virtual keyboard that is accepted from it. -/
  | virtualKey (code : Nat) (state : KeyState) (context : KeyContext)
  | repeatTimer (generation : UInt64) (keycode : Nat) (context : KeyContext)
  | reset (context : Nat → KeyContext)
  | replaceGeneration (width height : Nat)
  | drain
  /-- Other input for Flutter. -/
  | pointer (record : PointerRecord F)
  | setLocked (locked : Bool)
  | setShellCapture (capture : Bool)
  | setGrab (grabbed : Bool)
  | setEditor (active : Bool)
  /-- Shortcuts are replaced, or observe something other than a key. -/
  | setShortcuts (engine : ShortcutEngine)

namespace KeyFrontend

variable (s : KeyFrontend F)

/-- `keyboard.input`: the seat follows every key; the filter tells whether its focus or its grab is given it. -/
def seatInput (keycode : Nat) (state : KeyState) (forward : Bool) : KeyFrontend F :=
  { s with
    pressedKeys := match state with
      | .pressed => insert keycode s.pressedKeys
      | .released => s.pressedKeys.erase keycode
    forwarded := if forward then s.forwarded ++ [(keycode, state)] else s.forwarded }

def dispatchToFlutter (keycode : Nat) (state : KeyState) (context : KeyContext) : KeyFrontend F :=
  { s with flutterInput := s.flutterInput.handleKeyboardWithUnicode keycode state context.modifiers context.unicode }

def cancelFlutterRepeat : KeyFrontend F :=
  { s with flutterRepeatGeneration := s.flutterRepeatGeneration + 1, flutterRepeatKey := none }

def startFlutterRepeat (keycode repeatRateHz : Nat) : KeyFrontend F :=
  let s := s.cancelFlutterRepeat
  if repeatRateHz = 0 then s
  else { s with flutterRepeatGeneration := s.flutterRepeatGeneration + 1, flutterRepeatKey := some keycode }

/-- What a dispatched transition makes of the repeats. -/
def followRepeat (keycode : Nat) (state : KeyState) (context : KeyContext) : KeyFrontend F :=
  if state = .pressed ∧ context.repeats then s.startFlutterRepeat keycode context.repeatRateHz
  else if state = .released ∧ s.flutterRepeatKey = some keycode then s.cancelFlutterRepeat
  else s

/-- A new press is Flutter's: `capture_new_press`, but for the press. -/
def capturesNewPress : Bool := s.secureSessionLocked || (s.shellCapture && !s.keyboardGrabbed)

def processFlutterKeyboardTransition (keycode : Nat) (state : KeyState) (context : KeyContext) : KeyFrontend F :=
  let (active, retired, disposition) := routeFlutterKeyTransition s.flutterKeyboardKeys s.retiredKeyboardKeys keycode
    state (state == .pressed && s.capturesNewPress)
  let s := { s with flutterKeyboardKeys := active, retiredKeyboardKeys := retired }
  match disposition with
  | .dispatch =>
    ((s.seatInput keycode state false).dispatchToFlutter keycode state context).followRepeat keycode state context
  | .consumeRetired => s.seatInput keycode state false
  | .forward => s.seatInput keycode state true

def processWaylandKeyboardTransition (keycode : Nat) (state : KeyState) : KeyFrontend F :=
  let (retired, consumes) := retiredKeyConsumesTransition s.retiredKeyboardKeys keycode state
  { s with retiredKeyboardKeys := retired }.seatInput keycode state !consumes

/-- Whether `intercept_native_escape` takes the key. -/
def intercepts (code : Nat) (state : KeyState) (context : KeyContext) : Bool :=
  (s.nativeEscapeShortcut.intercept code (state == .pressed) s.secureSessionLocked context.answer).2

def processKeyboardTransition (code : Nat) (state : KeyState) (context : KeyContext) : KeyFrontend F :=
  let intercepted := s.nativeEscapeShortcut.intercept code (state == .pressed) s.secureSessionLocked context.answer
  let s := { s with nativeEscapeShortcut := intercepted.1 }
  if intercepted.2 then s
  else if s.flutterActive then s.processFlutterKeyboardTransition (code + 8) state context
  else if s.secureSessionLocked then s
  else s.processWaylandKeyboardTransition (code + 8) state

/-- `KEY_POWER` is the power button's. -/
def keyPower : Nat := 116

def processKey (code : Nat) (state : KeyState) (context : KeyContext) : KeyFrontend F :=
  if code = keyPower then s else s.processKeyboardTransition code state context

/-- `inject_shell_key_transition`. -/
def injectShellKeyTransition (code : Nat) (state : KeyState) (context : KeyContext) : KeyFrontend F :=
  let (held, accepted) := routeShellKeyTransition s.shellKeyboardKeys (code + 8) state (code + 8 ∈ s.pressedKeys)
  let s := { s with shellKeyboardKeys := held }
  if accepted then s.processKeyboardTransition code state context else s

/-- `dispatch_input_method_key_to_flutter`; the route of the input method is given what it leaves, past the state of
the seat. -/
def dispatchInputMethodKey (keycode : Nat) (state : KeyState) (context : KeyContext) : KeyFrontend F :=
  let (active, retired, disposition) := routeInputMethodKeyTransition s.flutterInputMethodKeys s.retiredInputMethodKeys
    keycode state (s.flutterActive && s.flutterEditorActive)
  let s := { s with flutterInputMethodKeys := active, retiredInputMethodKeys := retired }
  match disposition with
  | .forward => { s with forwarded := s.forwarded ++ [(keycode, state)] }
  | .consumeRetired => s
  | .dispatch => if s.flutterActive then s.dispatchToFlutter keycode state context else s

/-- `dispatch_flutter_repeat`, from the timer of a repeat that was started. -/
def dispatchFlutterRepeat (generation : UInt64) (keycode : Nat) (context : KeyContext) : KeyFrontend F :=
  if s.flutterRepeatGeneration = generation ∧ s.flutterRepeatKey = some keycode ∧ s.flutterActive ∧
      keycode ∈ s.flutterKeyboardKeys then
    s.dispatchToFlutter keycode .pressed context
  else s

def releasePressed (wasFlutter wasFlutterInputMethod wasRetired : Bool) (keycode : Nat) (context : KeyContext) :
    KeyFrontend F :=
  let s := s.seatInput keycode .released !(wasFlutter || wasRetired)
  if (wasFlutter || wasFlutterInputMethod) && s.flutterActive then s.dispatchToFlutter keycode .released context else s

/-- The sets of a reset: what was held is retired. -/
def retireKeys : KeyFrontend F :=
  { s with
    flutterKeyboardKeys := ∅
    flutterInputMethodKeys := ∅
    shellKeyboardKeys := ∅
    retiredKeyboardKeys := s.retiredKeyboardKeys ∪ s.pressedKeys ∪ s.flutterKeyboardKeys
    retiredInputMethodKeys := s.retiredInputMethodKeys ∪ s.flutterInputMethodKeys }

/-- `ShortcutEngine::reset`. -/
def resetShortcuts (e : ShortcutEngine) : ShortcutEngine := .fromBindings e.bindings

/-- `reset_input_devices` of the keyboard. -/
def resetKeyboard (context : Nat → KeyContext) : KeyFrontend F :=
  let cancelled := { s with nativeEscapeShortcut := resetShortcuts s.nativeEscapeShortcut }.cancelFlutterRepeat
  let released := (s.pressedKeys.sort (· ≤ ·)).foldl
    (fun t keycode => t.releasePressed (keycode ∈ s.flutterKeyboardKeys)
    (keycode ∈ s.flutterInputMethodKeys) (keycode ∈ s.retiredKeyboardKeys) keycode (context keycode))
    cancelled.retireKeys
  { released with keyboardGrabbed := false }

/-- `begin_replacement_flutter_generation`. -/
def replaceGeneration [InputArith F] (width height : Nat) : KeyFrontend F :=
  { s with
    flutterInput := s.flutterInput.resize width height
    seen := []
    shellCapture := false
    flutterKeyboardKeys := ∅
    retiredKeyboardKeys := s.retiredKeyboardKeys ∪ s.flutterKeyboardKeys
    flutterInputMethodKeys := ∅
    retiredInputMethodKeys := s.retiredInputMethodKeys ∪ s.flutterInputMethodKeys }

/-- `process_input_batch`. -/
def drain : KeyFrontend F :=
  { s with
    seen := s.seen ++ s.flutterInput.events.take maxInputEventsPerIteration
    flutterInput := { s.flutterInput with events := s.flutterInput.events.drop maxInputEventsPerIteration } }

def next [InputArith F] (s : KeyFrontend F) : KeyboardEvent F → KeyFrontend F
  | .key code state context => s.processKey code state context
  | .shellKey code state context => s.injectShellKeyTransition code state context
  | .virtualKey code state context => s.dispatchInputMethodKey (code + 8) state context
  | .repeatTimer generation keycode context => s.dispatchFlutterRepeat generation keycode context
  | .reset context => s.resetKeyboard context
  | .replaceGeneration width height => s.replaceGeneration width height
  | .drain => s.drain
  | .pointer record => { s with flutterInput := s.flutterInput.push (.pointer record) }
  | .setLocked locked => { s with secureSessionLocked := locked }
  | .setShellCapture capture => { s with shellCapture := capture }
  | .setGrab grabbed => { s with keyboardGrabbed := grabbed }
  | .setEditor active => { s with flutterEditorActive := active }
  | .setShortcuts engine => { s with nativeEscapeShortcut := engine }

/-- The keys given to this engine, those of the queue last. -/
def keys : List KeyboardRecord := (s.seen ++ s.flutterInput.events).filterMap InputRecord.keyboard?

def flutterKeys : Finset Nat := s.flutterKeyboardKeys ∪ s.flutterInputMethodKeys

end KeyFrontend

end Deniald.Input
