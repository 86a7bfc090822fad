/-
The bounded queue of input for Flutter (flutter_runtime/input.rs): its records, the devices it tracks, and how it is
drained. Coordinates are `f64` in the source; the model is over any `InputArith`.
-/
import Deniald.InputMethod.Keyboard
import Deniald.Lib.Number
import Deniald.Lib.Stream
import Deniald.Touch.Gesture

namespace Deniald.Input

open Deniald.InputMethod (KeyState)
open Deniald.Lib
open Deniald.Touch (TouchArith)

/-- The operations on coordinates; `zero` is `== 0.0`. -/
class InputArith (F : Type) extends TouchArith F where
  zero : F → Bool

instance : InputArith Float where
  zero a := a == 0

open Deniald.Touch.TouchArith (ofNat lt)

variable {F : Type}

/-! ## Records -/

inductive PointerPhase where
  | cancel | up | down | move | add | remove | hover | panZoomStart | panZoomUpdate | panZoomEnd

inductive SignalKind where
  | none | scroll

inductive DeviceKind where
  | mouse | touch | trackpad

structure PointerRecord (F : Type) where
  phase : PointerPhase
  x : F
  y : F
  device : Int
  signalKind : SignalKind
  scrollX : F
  scrollY : F
  panX : F
  panY : F
  scale : F
  rotation : F
  deviceKind : DeviceKind
  buttons : BitVec 64
  replaceableMotion : Bool

structure KeyboardRecord where
  keycode : Nat
  unicode : UInt32
  modifiers : UInt32
  pressed : Bool

inductive InputRecord (F : Type) where
  | pointer (record : PointerRecord F)
  | keyboard (record : KeyboardRecord)

namespace InputRecord

def replaceableMotionDevice : InputRecord F → Option Int
  | .pointer record => if record.replaceableMotion then some record.device else none
  | .keyboard _ => none

def keyboard? : InputRecord F → Option KeyboardRecord
  | .pointer _ => none
  | .keyboard record => some record

end InputRecord

/-! ## The queue -/

def maxQueuedInputEvents : Nat := 4096

/-- `MAX_INPUT_EVENTS_PER_COMPOSITOR_ITERATION`. -/
def maxInputEventsPerIteration : Nat := 64

structure TrackpadPan (F : Type) where
  panX : F
  panY : F
  horizontalActive : Bool := false
  verticalActive : Bool := false

structure InputQueue (F : Type) where
  width : Nat
  height : Nat
  pointerX : F
  pointerY : F
  pointerButtons : BitVec 64 := 0
  mouseAdded : Bool := false
  trackpadPan : Option (TrackpadPan F) := none
  touchPositions : AList fun _ : Int => F × F := ∅
  events : List (InputRecord F) := []

namespace InputQueue

/-- A size of the desktop, as the queue has it. -/
def dimension (size : Nat) : Nat := max (min size (2 ^ 31 - 1)) 1

section Arith

variable [InputArith F]

def clampTo (x : F) (size : Nat) : F :=
  if lt x (ofNat 0) then ofNat 0 else if lt (ofNat size) x then ofNat size else x

def new (width height : Nat) : InputQueue F where
  width := dimension width
  height := dimension height
  pointerX := ofNat (dimension width) / ofNat 2
  pointerY := ofNat (dimension height) / ofNat 2

/-- A new engine has observed no device. -/
def resize (q : InputQueue F) (width height : Nat) : InputQueue F where
  width := dimension width
  height := dimension height
  pointerX := clampTo q.pointerX (dimension width)
  pointerY := clampTo q.pointerY (dimension height)

end Arith

def push (q : InputQueue F) (event : InputRecord F) : InputQueue F :=
  { q with events := pushBounded InputRecord.replaceableMotionDevice q.events event maxQueuedInputEvents }

def handleKeyboardWithUnicode (q : InputQueue F) (xkbKeycode : Nat) (state : KeyState) (modifiers unicode : UInt32) :
    InputQueue F :=
  q.push (.keyboard ⟨xkbKeycode - 8, unicode, modifiers, state == .pressed⟩)

end InputQueue

/-! ## Keys pressed in a stream -/

def keyStep (keycode : Nat) (down : Bool) (record : KeyboardRecord) : Option Bool :=
  if record.keycode = keycode then if record.pressed then some true else if down then some false else none
  else some down

/-- For each key, presses and a release take turns. -/
def Alternates (records : List KeyboardRecord) : Prop := ∀ keycode, (reads (keyStep keycode) false records).isSome

/-- The key is pressed and not yet released. -/
def Held (records : List KeyboardRecord) (keycode : Nat) : Prop := reads (keyStep keycode) false records = some true

instance (records : List KeyboardRecord) (keycode : Nat) : Decidable (Held records keycode) :=
  inferInstanceAs (Decidable (_ = _))

/-- Reads the keyboard records of a stream one after the other. -/
def collectKeys (records : List KeyboardRecord) (event : InputRecord F) : Option (List KeyboardRecord) :=
  some (records ++ event.keyboard?.toList)

theorem reads_collectKeys : ∀ (evs : List (InputRecord F)) (recs : List KeyboardRecord),
    reads collectKeys recs evs = some (recs ++ evs.filterMap InputRecord.keyboard?)
  | [], recs => by simp
  | event :: evs, recs => by
    show reads collectKeys (recs ++ event.keyboard?.toList) evs = _; rw [reads_collectKeys evs]
    cases event with
    | pointer => simp [InputRecord.keyboard?, List.filterMap_cons]
    | keyboard => simp [InputRecord.keyboard?]

theorem collectKeys_idle (event : InputRecord F) (h : event.replaceableMotionDevice.isSome) :
    Idle collectKeys event := by
  intro recs recs' hstep
  cases event with
  | pointer record => simpa [collectKeys, InputRecord.keyboard?] using hstep.symm
  | keyboard record => simp [InputRecord.replaceableMotionDevice] at h

def InputQueue.fixed (q : InputQueue F) : Nat := Lib.fixed InputRecord.replaceableMotionDevice q.events

theorem keys_pushAll (seen : List (InputRecord F)) (q : InputQueue F) (recs : List (InputRecord F))
    (hm : q.fixed + recs.length ≤ maxQueuedInputEvents) :
    (seen ++ (recs.foldl InputQueue.push q).events).filterMap InputRecord.keyboard? =
      (seen ++ q.events).filterMap InputRecord.keyboard? ++ recs.filterMap InputRecord.keyboard? := by
  have he : ∀ (recs : List (InputRecord F)) (q : InputQueue F), (recs.foldl InputQueue.push q).events =
      recs.foldl (fun evs event => pushBounded InputRecord.replaceableMotionDevice evs event
        maxQueuedInputEvents) q.events := by
    intro recs
    induction recs with
    | nil => intro q; rfl
    | cons record recs ih => intro q; exact ih (q.push record)
  have hr := reads_collectKeys (seen ++ q.events ++ recs) []
  have hs := reads_pushAll (collectKeys_idle (F := F)) hm hr
  rw [← he, reads_collectKeys, Option.some.injEq] at hs
  simpa using hs

theorem keys_push (seen : List (InputRecord F)) (q : InputQueue F) (record : InputRecord F)
    (hr : q.fixed < maxQueuedInputEvents) : (seen ++ (q.push record).events).filterMap InputRecord.keyboard? =
      (seen ++ q.events).filterMap InputRecord.keyboard? ++ record.keyboard?.toList := by
  have := keys_pushAll seen q [record] hr
  rw [List.foldl_cons, List.foldl_nil] at this; rw [this]
  cases record <;> rfl

/-! ## Held keys -/

variable {keycode : Nat} {record : KeyboardRecord}

theorem keyStep_other (h : record.keycode ≠ keycode) (down : Bool) : keyStep keycode down record = some down := if_neg h

theorem keyStep_pressed (h : record.keycode = keycode) (hr : record.pressed = true) (down : Bool) :
    keyStep keycode down record = some true := by
  unfold keyStep; rw [if_pos h, if_pos hr]

theorem keyStep_released (h : record.keycode = keycode) (hr : record.pressed = false) :
    keyStep keycode true record = some false := by
  unfold keyStep
  rw [if_pos h, if_neg (by rw [hr]; decide), if_pos rfl]

theorem reads_releases {keycode : Nat} : ∀ {recs : List KeyboardRecord} {down : Bool},
    (∀ record ∈ recs, record.pressed = false) → (recs.map KeyboardRecord.keycode).Nodup →
      (keycode ∈ recs.map KeyboardRecord.keycode → down = true) →
      reads (keyStep keycode) down recs = some (down && decide (keycode ∉ recs.map KeyboardRecord.keycode))
  | [], down, _, _, _ => by simp
  | record :: recs, down, hre, hn, hd => by
    have hs : ∀ r ∈ recs, r.pressed = false := fun r hr => hre r (List.mem_cons_of_mem _ hr)
    obtain ⟨hf, hn⟩ := List.nodup_cons.1 hn; rw [reads_cons, List.map_cons]
    by_cases hk : record.keycode = keycode
    · subst hk
      obtain rfl := hd (List.mem_cons_self ..)
      rw [keyStep_released rfl (hre record (List.mem_cons_self ..)), Option.bind_some,
        reads_releases hs hn (fun h => absurd h hf)]
      simp
    · rw [keyStep_other hk, Option.bind_some,
        reads_releases hs hn fun h => hd (List.mem_cons_of_mem _ h)]
      have : keycode ≠ record.keycode := fun h => hk h.symm
      simp [this]

end Deniald.Input
