/-
The touchpad's swipes (touchpad_gestures.rs) and the input that reaches them: motion adds up until it is far enough
one way, which triggers a shortcut, and every triggered shortcut is ended when its swipe is. A reset, and a swipe that
begins over another, discard what they find without an event.
-/
import Deniald.Lib.History
import Deniald.Touch.Gesture

namespace Deniald.Touch

open Deniald.Lib
open Deniald.Shortcut (ShortcutGesture)
open TouchArith (ofNat lt le)

/-! ## Swipes -/

inductive SwipeDirection where
  | up
  | down
  | left
  | right
  deriving DecidableEq

structure SwipeBinding (F : Type) where
  fingers : Nat
  direction : SwipeDirection
  minimumDistance : F
  gesture : ShortcutGesture

inductive TouchpadGestureEvent where
  | trigger (gesture : ShortcutGesture)
  | repeats (gesture : ShortcutGesture)
  | ends (gesture : ShortcutGesture)
  deriving DecidableEq

section

variable {F : Type} [TouchArith F]

/-- `THREE_FINGER_SWIPE_DISTANCE` and `FOUR_FINGER_SWIPE_DISTANCE`. -/
def swipeDistance : F := ofNat 100

def swipeBindings : List (SwipeBinding F) :=
  [⟨3, .up, swipeDistance, .threeFingerSwipeUp⟩,
    ⟨3, .left, swipeDistance, .threeFingerSwipeLeft⟩,
    ⟨3, .right, swipeDistance, .threeFingerSwipeRight⟩,
    ⟨4, .left, swipeDistance, .fourFingerSwipeLeft⟩,
    ⟨4, .right, swipeDistance, .fourFingerSwipeRight⟩]

end

structure ActiveSwipe (F : Type) where
  fingers : Nat
  deltaX : F
  deltaY : F
  triggered : Option ShortcutGesture

namespace ActiveSwipe

variable {F : Type} [TouchArith F]

def new (fingers : Nat) : ActiveSwipe F := ⟨fingers, ofNat 0, ofNat 0, none⟩

def directionAndDistance (s : ActiveSwipe F) : Option (SwipeDirection × F) :=
  let absoluteX := TouchArith.abs s.deltaX
  let absoluteY := TouchArith.abs s.deltaY
  let (direction, primary, crossAxis) :=
    if lt absoluteY absoluteX then
      (if lt s.deltaX (ofNat 0) then SwipeDirection.left else .right, absoluteX, absoluteY)
    else (if lt s.deltaY (ofNat 0) then .up else .down, absoluteY, absoluteX)
  if le (crossAxis * dominance) primary then some (direction, primary) else none

def recognizedGesture (s : ActiveSwipe F) : Option ShortcutGesture := do
  let (direction, distance) ← s.directionAndDistance
  (swipeBindings.find? fun binding =>
    binding.fingers = s.fingers && binding.direction = direction && le binding.minimumDistance distance).map (·.gesture)

/-- The shortcuts that are triggered again while their swipe goes on. -/
def repeatable : ShortcutGesture → Bool
  | .threeFingerSwipeLeft | .threeFingerSwipeRight => true
  | .threeFingerSwipeUp | .fourFingerSwipeLeft | .fourFingerSwipeRight => false

def update (s : ActiveSwipe F) (deltaX deltaY : F) : Option (ActiveSwipe F × Option TouchpadGestureEvent) :=
  let s := { s with deltaX := s.deltaX + deltaX, deltaY := s.deltaY + deltaY }
  if !TouchArith.isFinite s.deltaX || !TouchArith.isFinite s.deltaY then none
  else
    match s.recognizedGesture with
    | none => some (s, none)
    | some gesture =>
      if s.triggered.isNone then
        some ({ s with triggered := some gesture, deltaX := ofNat 0, deltaY := ofNat 0 }, some (.trigger gesture))
      else if repeatable gesture then some ({ s with deltaX := ofNat 0, deltaY := ofNat 0 }, some (.repeats gesture))
      else some (s, none)

def endEvent (s : ActiveSwipe F) : Option TouchpadGestureEvent := s.triggered.map .ends

theorem update_spec {s t : ActiveSwipe F} {dx dy : F} {ev : Option TouchpadGestureEvent}
    (h : s.update dx dy = some (t, ev)) :
    (∃ gesture, s.triggered = none ∧ t.triggered = some gesture ∧ ev = some (.trigger gesture)) ∨
      (∃ gesture, s.triggered.isSome = true ∧ t.triggered = s.triggered ∧ ev = some (.repeats gesture)) ∨
        t.triggered = s.triggered ∧ ev = none := by
  unfold update at h
  simp only at h
  split at h
  · cases h
  split at h
  · obtain ⟨rfl, rfl⟩ := Prod.mk.inj (Option.some.inj h); exact .inr (.inr ⟨rfl, rfl⟩)
  rename_i gesture _
  split_ifs at h with hn hr
  · obtain ⟨rfl, rfl⟩ := Prod.mk.inj (Option.some.inj h)
    exact .inl ⟨gesture, Option.isNone_iff_eq_none.1 hn, rfl, rfl⟩
  · obtain ⟨rfl, rfl⟩ := Prod.mk.inj (Option.some.inj h)
    exact .inr (.inl ⟨gesture, by simpa [Option.isSome_iff_ne_none] using hn, rfl, rfl⟩)
  · obtain ⟨rfl, rfl⟩ := Prod.mk.inj (Option.some.inj h); exact .inr (.inr ⟨rfl, rfl⟩)

end ActiveSwipe

/-! ## Devices -/

/-- `TouchpadGestureRecognizer`: the swipe in progress on each device. -/
abbrev ActiveSwipes (F : Type) : Type := AList fun _ : String => ActiveSwipe F

namespace ActiveSwipes

variable {F : Type} [TouchArith F] (swipes : ActiveSwipes F) (device : String)

def beginSwipe (fingers : Nat) : ActiveSwipes F := swipes.insert device (.new fingers)

def endSwipe : ActiveSwipes F × Option TouchpadGestureEvent :=
  (swipes.erase device, (swipes.lookup device).bind ActiveSwipe.endEvent)

def updateSwipe (deltaX deltaY : F) : ActiveSwipes F × Option TouchpadGestureEvent :=
  match swipes.lookup device with
  | none => (swipes, none)
  | some swipe =>
    match swipe.update deltaX deltaY with
    | some (swipe, event) => (swipes.insert device swipe, event)
    | none => swipes.endSwipe device

end ActiveSwipes

/-! ## Input -/

/-- What reaches the recognizer: gestures of the devices, and the reset of the input devices. The shell is `away` while
Flutter is not active or the session is locked. -/
inductive TouchpadInput (F : Type) where
  | swipeBegin (away : Bool) (device : String) (fingers : Nat)
  | swipeUpdate (away : Bool) (device : String) (deltaX deltaY : F)
  | swipeEnd (away : Bool) (device : String) (cancelled : Bool)
  | pinch (away : Bool) (device : String)
  | resetDevices

/-- What happened, to whoever follows the gestures. -/
inductive SwipeOccurrence where
  | gesture (device : String) (event : TouchpadGestureEvent)
  /-- A swipe began over one in progress on the device. -/
  | restarted (device : String)
  | reset
  deriving DecidableEq

structure Touchpads (F : Type) where
  swipes : ActiveSwipes F := ∅
  log : List SwipeOccurrence := []

namespace Touchpads

variable {F : Type} [TouchArith F] (s : Touchpads F)

/-- The event that the recognizer gave for a device, sent. -/
def send (device : String) (answer : ActiveSwipes F × Option TouchpadGestureEvent) : Touchpads F :=
  { swipes := answer.1, log := s.log ++ (answer.2.map (SwipeOccurrence.gesture device)).toList }

def reset : Touchpads F := { swipes := ∅, log := s.log ++ [.reset] }

/-- `process_touchpad_gesture_event` and `reset_input_devices`; how a swipe ended is not looked at. -/
def next (s : Touchpads F) : TouchpadInput F → Touchpads F
  | .swipeBegin away device fingers =>
    if away then s.reset
    else
      { swipes := s.swipes.beginSwipe device fingers
        log := s.log ++ if (s.swipes.lookup device).isSome then [.restarted device] else [] }
  | .swipeUpdate away device deltaX deltaY =>
    if away then s.reset else s.send device (s.swipes.updateSwipe device deltaX deltaY)
  | .swipeEnd away device _ => if away then s.reset else s.send device (s.swipes.endSwipe device)
  | .pinch _ _ => s
  | .resetDevices => s.reset

end Touchpads

/-! ## Balance -/

def openAfter (device : String) (shortcut : Option ShortcutGesture) : SwipeOccurrence → Option ShortcutGesture
  | .gesture other (.trigger gesture) => if other = device then some gesture else shortcut
  | .gesture _ (.repeats _) => shortcut
  | .gesture other (.ends _) => if other = device then none else shortcut
  | .restarted other => if other = device then none else shortcut
  | .reset => none

def openOn (device : String) (log : List SwipeOccurrence) : Option ShortcutGesture := log.foldl (openAfter device) none

theorem openOn_snoc (device : String) (log : List SwipeOccurrence) (occurrence : SwipeOccurrence) :
    openOn device (log ++ [occurrence]) = openAfter device (openOn device log) occurrence := by
  unfold openOn
  rw [List.foldl_append]; rfl

/-- A shortcut is triggered where none is open, repeated where one is, and ended where it is. -/
def Follows (shortcut : Option ShortcutGesture) : TouchpadGestureEvent → Prop
  | .trigger _ => shortcut = none
  | .repeats _ => shortcut.isSome = true
  | .ends gesture => shortcut = some gesture

def Balanced (log : List SwipeOccurrence) : Prop :=
  EachAfter (fun earlier occurrence => ∀ device event, occurrence = .gesture device event →
    Follows (openOn device earlier) event) log

namespace Touchpads

variable {F : Type} {s : Touchpads F}

structure Sound (s : Touchpads F) : Prop where
  balanced : Balanced s.log
  tracked : ∀ device, openOn device s.log = (s.swipes.lookup device).bind (·.triggered)

theorem sound_start : Sound ({} : Touchpads F) := by
  refine ⟨eachAfter_nil, fun device => ?_⟩
  rw [AList.lookup_empty]; rfl

theorem Sound.reset (h : s.Sound) : s.reset.Sound := by
  refine ⟨h.balanced.snoc fun _ _ hs => (by cases hs), fun device => ?_⟩; unfold Touchpads.reset
  rw [openOn_snoc, AList.lookup_empty]; rfl

theorem Sound.sent (h : s.Sound) {device : String} {swipes : ActiveSwipes F} {ev : TouchpadGestureEvent}
    (hf : Follows ((s.swipes.lookup device).bind (·.triggered)) ev)
    (hr : openAfter device ((s.swipes.lookup device).bind (·.triggered)) (.gesture device ev) =
      (swipes.lookup device).bind (·.triggered)) (hh : ∀ other ≠ device, swipes.lookup other = s.swipes.lookup other) :
    (s.send device (swipes, some ev)).Sound := by
  refine ⟨h.balanced.snoc ?_, fun other => ?_⟩
  · intro other ev' hs
    obtain ⟨rfl, rfl⟩ := SwipeOccurrence.gesture.inj hs
    rw [h.tracked]; exact hf
  · change openOn other (s.log ++ [.gesture device ev]) = (swipes.lookup other).bind (·.triggered)
    rw [openOn_snoc, h.tracked]
    by_cases ho : other = device
    · rw [ho]; exact hr
    · rw [hh other ho]
      cases ev <;> simp [openAfter, Ne.symm ho]

theorem Sound.silent (h : s.Sound) {device : String} {swipes : ActiveSwipes F}
    (hr : (swipes.lookup device).bind (·.triggered) = (s.swipes.lookup device).bind (·.triggered))
    (hh : ∀ other ≠ device, swipes.lookup other = s.swipes.lookup other) : (s.send device (swipes, none)).Sound := by
  refine ⟨by simpa [send] using h.balanced, fun other => ?_⟩
  have hs : openOn other (s.send device (swipes, none)).log = openOn other s.log := by simp [send]
  rw [hs, h.tracked]
  by_cases ho : other = device
  · rw [ho]; exact hr.symm
  · exact congrArg (Option.bind · (·.triggered)) (hh other ho).symm

theorem Sound.endSwipe (h : s.Sound) (device : String) : (s.send device (s.swipes.endSwipe device)).Sound := by
  have he : ((s.swipes.erase device).lookup device).bind (·.triggered) = none := by
    rw [AList.lookup_erase]; rfl
  have hh : ∀ other ≠ device, (s.swipes.erase device).lookup other = s.swipes.lookup other :=
    fun other hot => AList.lookup_erase_ne hot
  unfold ActiveSwipes.endSwipe
  cases ho : (s.swipes.lookup device).bind (·.triggered) with
  | none =>
    have hsi : (s.swipes.lookup device).bind ActiveSwipe.endEvent = none := by
      cases hs : s.swipes.lookup device with
      | none => rfl
      | some sw =>
        rw [hs, Option.bind_some] at ho; simp [ActiveSwipe.endEvent, ho]
    rw [hsi]; exact h.silent (he.trans ho.symm) hh
  | some gesture =>
    have hn : (s.swipes.lookup device).bind ActiveSwipe.endEvent = some (.ends gesture) := by
      cases hs : s.swipes.lookup device with
      | none =>
        rw [hs] at ho; cases ho
      | some sw =>
        rw [hs, Option.bind_some] at ho; simp [ActiveSwipe.endEvent, ho]
    rw [hn]
    refine h.sent ho ?_ hh
    rw [he]; simp [openAfter]

variable [TouchArith F]

theorem Sound.updateSwipe (h : s.Sound) (device : String) (dx dy : F) :
    (s.send device (s.swipes.updateSwipe device dx dy)).Sound := by
  unfold ActiveSwipes.updateSwipe
  cases hs : s.swipes.lookup device with
  | none => exact h.silent rfl fun _ _ => rfl
  | some sw =>
    simp only
    cases hu : sw.update dx dy with
    | none => exact h.endSwipe device
    | some m =>
      obtain ⟨m, event⟩ := m
      have ho : ∀ other ≠ device, (s.swipes.insert device m).lookup other = s.swipes.lookup other :=
        fun other hh => AList.lookup_insert_ne hh
      rcases ActiveSwipe.update_spec hu with ⟨gesture, hn, hso, rfl⟩ | ⟨gesture, hso, hm, rfl⟩ |
        ⟨hm, rfl⟩
      · refine h.sent ?_ ?_ ho
        · rw [hs]; exact hn
        · rw [AList.lookup_insert, Option.bind_some, hso]; simp [openAfter]
      · refine h.sent ?_ ?_ ho
        · rw [hs]; exact hso
        · rw [AList.lookup_insert, Option.bind_some, hm, hs]; rfl
      · refine h.silent ?_ ho
        rw [AList.lookup_insert, hs, Option.bind_some, Option.bind_some, hm]

theorem Sound.beginSwipe (h : s.Sound) (device : String) (fs : Nat) :
    Sound { swipes := s.swipes.beginSwipe device fs
            log := s.log ++ if (s.swipes.lookup device).isSome then [SwipeOccurrence.restarted device] else [] } := by
  have hbe : ((s.swipes.beginSwipe device fs).lookup device).bind (·.triggered) = none := by
    unfold ActiveSwipes.beginSwipe
    rw [AList.lookup_insert]; rfl
  have hh : ∀ other ≠ device, (s.swipes.beginSwipe device fs).lookup other = s.swipes.lookup other :=
    fun other ho => AList.lookup_insert_ne ho
  split
  · refine ⟨h.balanced.snoc fun _ _ hs => (by cases hs), fun other => ?_⟩
    simp only
    rw [openOn_snoc, h.tracked]
    by_cases ho : other = device
    · rw [ho, hbe]; simp [openAfter]
    · rw [hh other ho]; simp [openAfter, Ne.symm ho]
  · rename_i hf
    refine ⟨by simpa using h.balanced, fun other => ?_⟩
    simp only [List.append_nil]; rw [h.tracked]
    by_cases ho : other = device
    · rw [ho, hbe, Option.not_isSome_iff_eq_none.1 hf]; rfl
    · rw [hh other ho]

theorem Sound.next (h : s.Sound) (input : TouchpadInput F) : (s.next input).Sound := by
  cases input with
  | swipeBegin away device fs =>
    cases away with
    | true => exact h.reset
    | false => exact h.beginSwipe device fs
  | swipeUpdate away device dx dy =>
    cases away with
    | true => exact h.reset
    | false => exact h.updateSwipe device dx dy
  | swipeEnd away device cancelled =>
    cases away with
    | true => exact h.reset
    | false => exact h.endSwipe device
  | pinch => exact h
  | resetDevices => exact h.reset

/-- Whatever reaches the recognizer, the events of a device are balanced up to what a reset or another swipe discards,
and no shortcut is open on a device with no swipe in progress. -/
theorem swipes_balanced (inputs : List (TouchpadInput F)) :
    Balanced (exec next {} inputs).log ∧
      ∀ device, (exec next {} inputs).swipes.lookup device = none → openOn device (exec next {} inputs).log = none := by
  have hsoun : (exec next {} inputs).Sound := exec_invariant (fun _ input h => h.next input) inputs sound_start
  refine ⟨hsoun.balanced, fun device hnon => ?_⟩
  rw [hsoun.tracked, hnon]; rfl

end Touchpads

/-! ## A reset between two shortcuts -/

def SwipeOccurrence.isGesture : SwipeOccurrence → Bool
  | .gesture _ _ => true
  | .restarted _ | .reset => false

/-- Exact arithmetic; no swipe measures a hypotenuse. -/
@[reducible] def exactTouch : TouchArith ℚ where
  ofNat n := n
  abs q := |q|
  hypot x y := |x| + |y|
  round q := (q + 1 / 2).floor
  lt a b := a < b
  le a b := a ≤ b
  isFinite _ := true

section

attribute [local instance] exactTouch

/-- A swipe that triggers, what the session lock makes of its next motion, and another swipe that triggers. -/
def lockedBetween : List (TouchpadInput ℚ) :=
  [.swipeBegin false "event5" 3, .swipeUpdate false "event5" (-101) 0, .swipeUpdate true "event5" (-1) 0,
    .swipeBegin false "event5" 3, .swipeUpdate false "event5" 101 0]

/-- The first shortcut is never ended. -/
theorem locked_between_not_ended :
    ¬Balanced ((exec Touchpads.next {} lockedBetween).log.filter SwipeOccurrence.isGesture) := by
  intro h
  have hlog : (exec Touchpads.next {} lockedBetween).log.filter SwipeOccurrence.isGesture =
      [.gesture "event5" (.trigger .threeFingerSwipeLeft)] ++
        .gesture "event5" (.trigger .threeFingerSwipeRight) :: [] := by
    decide +kernel
  have hnon : openOn "event5" [.gesture "event5" (.trigger .threeFingerSwipeLeft)] = none :=
    h _ _ _ hlog "event5" _ rfl
  exact absurd hnon (by decide)

end

end Deniald.Touch
