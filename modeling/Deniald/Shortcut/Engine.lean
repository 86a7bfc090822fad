/-
The shortcut engine (native_shortcut.rs, `ShortcutEngine`) as the compositor asks it about every key before anyone
else sees it (wayland_frontend/input.rs, `intercept_native_escape`). A key that is no modifier is released to the
client when its press went to the client, also where an action declined the press. A window switcher that a key
starts is ended once, by the release of the key or a modifier it was started with; one that the tap of Super starts
has no release that ends it.
-/
import Deniald.Shortcut.File
import Deniald.Lib.Run
import Mathlib.Data.Finset.Basic

namespace Deniald.Shortcut

open Deniald.Lib

/-! ## Dispositions -/

inductive LayoutDirection where
  | left
  | right
  | up
  | down
  deriving DecidableEq

inductive ShortcutDisposition where
  | forward
  | consume
  | requestShutdown
  | requestApplications
  | requestDashboard
  | requestOverview
  | requestToggleVerticalMaximize
  | requestWindowSwitcherNext
  | requestWindowSwitcherPrevious
  | requestWindowSwitcherEnd (forward : Bool)
  | requestClipboard
  | requestScreenshotRegion
  | requestClose
  | requestMinimize
  | requestMinimizeAll
  | requestToggleMaximize
  | requestToggleFullscreen
  | requestReleasePointer
  | requestLock
  | requestVolumeUp
  | requestVolumeDown
  | requestMute
  | requestBrightnessUp
  | requestBrightnessDown
  | requestNextKeyboardLayout
  | requestPreviousKeyboardLayout
  | requestOpenSettings
  | requestFocus (direction : LayoutDirection)
  | requestSwap (direction : LayoutDirection)
  | requestPreviousWorkspace
  | requestNextWorkspace
  | requestMoveToPreviousWorkspace
  | requestMoveToNextWorkspace
  | requestSwitchWorkspace (workspaceId : UInt8)
  | requestMoveToWorkspace (workspaceId : UInt8)
  | spawn (command : List String) (desktopFileId : Option String)
  | spawnSh (command : String)
  deriving DecidableEq

/-- `ShortcutDisposition::from(action)`. -/
def ShortcutAction.disposition : ShortcutAction → ShortcutDisposition
  | .shutdown => .requestShutdown
  | .openApplications => .requestApplications
  | .openDashboard => .requestDashboard
  | .openOverview => .requestOverview
  | .toggleVerticalMaximize => .requestToggleVerticalMaximize
  | .windowSwitcher => .requestWindowSwitcherNext
  | .openClipboard => .requestClipboard
  | .captureRegion => .requestScreenshotRegion
  | .closeWindow => .requestClose
  | .minimizeWindow => .requestMinimize
  | .minimizeAllWindows => .requestMinimizeAll
  | .toggleMaximize => .requestToggleMaximize
  | .toggleFullscreen => .requestToggleFullscreen
  | .releasePointer => .requestReleasePointer
  | .lockScreen => .requestLock
  | .volumeUp => .requestVolumeUp
  | .volumeDown => .requestVolumeDown
  | .volumeMute => .requestMute
  | .brightnessUp => .requestBrightnessUp
  | .brightnessDown => .requestBrightnessDown
  | .nextKeyboardLayout => .requestNextKeyboardLayout
  | .previousKeyboardLayout => .requestPreviousKeyboardLayout
  | .openSettings => .requestOpenSettings
  | .focusLeft => .requestFocus .left
  | .focusRight => .requestFocus .right
  | .focusUp => .requestFocus .up
  | .focusDown => .requestFocus .down
  | .swapLeft => .requestSwap .left
  | .swapRight => .requestSwap .right
  | .swapUp => .requestSwap .up
  | .swapDown => .requestSwap .down
  | .previousWorkspace => .requestPreviousWorkspace
  | .nextWorkspace => .requestNextWorkspace
  | .moveToPreviousWorkspace => .requestMoveToPreviousWorkspace
  | .moveToNextWorkspace => .requestMoveToNextWorkspace
  | .switchWorkspace1 => .requestSwitchWorkspace 1
  | .switchWorkspace2 => .requestSwitchWorkspace 2
  | .switchWorkspace3 => .requestSwitchWorkspace 3
  | .switchWorkspace4 => .requestSwitchWorkspace 4
  | .switchWorkspace5 => .requestSwitchWorkspace 5
  | .switchWorkspace6 => .requestSwitchWorkspace 6
  | .switchWorkspace7 => .requestSwitchWorkspace 7
  | .switchWorkspace8 => .requestSwitchWorkspace 8
  | .switchWorkspace9 => .requestSwitchWorkspace 9
  | .moveToWorkspace1 => .requestMoveToWorkspace 1
  | .moveToWorkspace2 => .requestMoveToWorkspace 2
  | .moveToWorkspace3 => .requestMoveToWorkspace 3
  | .moveToWorkspace4 => .requestMoveToWorkspace 4
  | .moveToWorkspace5 => .requestMoveToWorkspace 5
  | .moveToWorkspace6 => .requestMoveToWorkspace 6
  | .moveToWorkspace7 => .requestMoveToWorkspace 7
  | .moveToWorkspace8 => .requestMoveToWorkspace 8
  | .moveToWorkspace9 => .requestMoveToWorkspace 9

/-- `ShortcutDisposition::from(target)`. -/
def ShortcutTarget.disposition : ShortcutTarget → ShortcutDisposition
  | .denialAction action => action.disposition
  | .spawn command desktopFileId => .spawn command desktopFileId
  | .spawnSh command => .spawnSh command

def ShortcutTarget.repeats : ShortcutTarget → Bool
  | .denialAction action =>
    action ∈ [ShortcutAction.volumeUp, .volumeDown, .brightnessUp, .brightnessDown, .focusLeft, .focusRight, .focusUp,
      .focusDown, .swapLeft, .swapRight, .swapUp, .swapDown, .previousWorkspace, .nextWorkspace,
      .moveToPreviousWorkspace, .moveToNextWorkspace]
  | _ => false

/-! ## Engine -/

def leftModifier : UInt8 := 1

def rightModifier : UInt8 := 2

inductive WindowSwitcherRelease where
  | modifier (modifier : Modifier)
  | key (keycode : Nat)
  | gesture (owner : ShortcutGesture) (repeatAfter : Int)
  deriving DecidableEq

structure ShortcutEngine where
  bindings : List CompiledShortcut
  ctrlKeys : UInt8
  altKeys : UInt8
  shiftKeys : UInt8
  logoKeys : UInt8
  logoChorded : Bool
  windowSwitcherRelease : Option WindowSwitcherRelease
  capturedKeys : AList fun _ : Nat => ShortcutTarget

namespace ShortcutEngine

/-- `from_file`, once the file is compiled. -/
def fromBindings (bindings : List CompiledShortcut) : ShortcutEngine := ⟨bindings, 0, 0, 0, 0, false, none, ∅⟩

def keys (e : ShortcutEngine) : Modifier → UInt8
  | .super => e.logoKeys
  | .ctrl => e.ctrlKeys
  | .alt => e.altKeys
  | .shift => e.shiftKeys

def setKeys (e : ShortcutEngine) (modifier : Modifier) (keys : UInt8) : ShortcutEngine :=
  match modifier with
  | .super => { e with logoKeys := keys }
  | .ctrl => { e with ctrlKeys := keys }
  | .alt => { e with altKeys := keys }
  | .shift => { e with shiftKeys := keys }

def activeModifiers (e : ShortcutEngine) : UInt8 :=
  Modifier.all.foldl (fun modifiers modifier =>
    if e.keys modifier ≠ 0 then modifiers ||| modifier.flag else modifiers) 0

def targetForKey (e : ShortcutEngine) (keycode : Nat) : Option (ShortcutTarget × UInt8) :=
  (e.bindings.find? fun binding => binding.matchesKey e.activeModifiers keycode).map fun binding =>
    (binding.target, binding.trigger.modifiers)

def modifierTapTarget (e : ShortcutEngine) (modifier : Modifier) : Option ShortcutTarget :=
  (e.bindings.find? fun binding => binding.trigger.key == .modifierTap modifier).map (·.target)

def logoModifier (keycode : Nat) : Option UInt8 :=
  if keycode = keyLeftMeta then some leftModifier
  else if keycode = keyRightMeta then some rightModifier
  else none

def otherModifier (keycode : Nat) : Option (Modifier × UInt8) :=
  if keycode = keyLeftCtrl then some (.ctrl, leftModifier)
  else if keycode = keyRightCtrl then some (.ctrl, rightModifier)
  else if keycode = keyLeftAlt then some (.alt, leftModifier)
  else if keycode = keyRightAlt then some (.alt, rightModifier)
  else if keycode = keyLeftShift then some (.shift, leftModifier)
  else if keycode = keyRightShift then some (.shift, rightModifier)
  else none

/-- What the last Super key's release asks for: the tap, unless it was chorded. -/
def tapDisposition (e : ShortcutEngine) : ShortcutDisposition :=
  match e.modifierTapTarget .super with
  | some target => if e.logoChorded then .consume else target.disposition
  | none => .consume

/-- `observe`, for a Super key. -/
def observeLogo (e : ShortcutEngine) (bit : UInt8) (pressed : Bool) : ShortcutEngine × ShortcutDisposition :=
  if pressed then
    ({ e with
        logoChorded := if e.logoKeys = 0 then false else e.logoChorded
        logoKeys := e.logoKeys ||| bit },
      .consume)
  else
    let logoKeys := e.logoKeys &&& ~~~bit
    if e.windowSwitcherRelease = some (.modifier .super) then
      ({ e with
          logoKeys := logoKeys
          windowSwitcherRelease := none
          logoChorded := if logoKeys = 0 then false else e.logoChorded },
        .requestWindowSwitcherEnd false)
    else if logoKeys = 0 then ({ e with logoKeys := logoKeys, logoChorded := false }, e.tapDisposition)
    else ({ e with logoKeys := logoKeys }, .consume)

/-- `observe`, for another modifier. -/
def observeModifier (e : ShortcutEngine) (modifier : Modifier) (bit : UInt8) (pressed : Bool) :
    ShortcutEngine × ShortcutDisposition :=
  let e := e.setKeys modifier (if pressed then e.keys modifier ||| bit else e.keys modifier &&& ~~~bit)
  if !pressed ∧ e.windowSwitcherRelease = some (.modifier modifier) then
    ({ e with windowSwitcherRelease := none }, .requestWindowSwitcherEnd true)
  else (e, .forward)

/-- `observe`, for the release of another key. -/
def observeRelease (e : ShortcutEngine) (keycode : Nat) : ShortcutEngine × ShortcutDisposition :=
  let captured := (e.capturedKeys.lookup keycode).isSome
  let e := { e with capturedKeys := e.capturedKeys.erase keycode }
  if e.windowSwitcherRelease = some (.key keycode) then
    ({ e with windowSwitcherRelease := none }, .requestWindowSwitcherEnd false)
  else (e, if captured then .consume else .forward)

def switcherRelease (modifiers : UInt8) (keycode : Nat) : WindowSwitcherRelease :=
  match Modifier.all.find? fun modifier => modifiers &&& modifier.flag ≠ 0 with
  | some modifier => .modifier modifier
  | none => .key keycode

/-- `observe`, for the press of another key. -/
def observePress (e : ShortcutEngine) (keycode : Nat) : ShortcutEngine × ShortcutDisposition :=
  match e.capturedKeys.lookup keycode with
  | some target => (e, if target.repeats then target.disposition else .consume)
  | none =>
    match e.targetForKey keycode with
    | none => (e, .forward)
    | some (target, modifiers) =>
      ({ e with
          capturedKeys := e.capturedKeys.insert keycode target
          windowSwitcherRelease :=
            if target = .denialAction .windowSwitcher ∧ e.windowSwitcherRelease.isNone then
              some (switcherRelease modifiers keycode)
            else e.windowSwitcherRelease },
        target.disposition)

def observe (e : ShortcutEngine) (keycode : Nat) (pressed : Bool) : ShortcutEngine × ShortcutDisposition :=
  match logoModifier keycode with
  | some bit => e.observeLogo bit pressed
  | none =>
    let e := if pressed ∧ e.logoKeys ≠ 0 then { e with logoChorded := true } else e
    match otherModifier keycode with
    | some (modifier, bit) => e.observeModifier modifier bit pressed
    | none => if pressed then e.observePress keycode else e.observeRelease keycode

def notePointerButton (e : ShortcutEngine) (pressed : Bool) : ShortcutEngine :=
  if pressed ∧ e.logoKeys ≠ 0 then { e with logoChorded := true } else e

def passThroughKey (e : ShortcutEngine) (keycode : Nat) : ShortcutEngine :=
  { e with capturedKeys := e.capturedKeys.erase keycode }

/-- What `execute_shortcut_disposition` returns, given what the workspaces answer. -/
def handled (answer : Bool) : ShortcutDisposition → Bool
  | .forward => false
  | .requestPreviousWorkspace | .requestNextWorkspace | .requestSwitchWorkspace _ => answer
  | .requestMoveToPreviousWorkspace | .requestMoveToNextWorkspace | .requestMoveToWorkspace _ => answer
  | .requestWindowSwitcherEnd forward => !forward
  | _ => true

/-- `intercept_native_escape`, once the key has an evdev code: whether the key is kept from the client. -/
def intercept (e : ShortcutEngine) (keycode : Nat) (pressed locked answer : Bool) : ShortcutEngine × Bool :=
  let (e, disposition) := e.observe keycode pressed
  if locked then (e, disposition != .forward)
  else if !handled answer disposition && pressed then (e.passThroughKey keycode, handled answer disposition)
  else (e, handled answer disposition)

end ShortcutEngine

/-! ## Runs -/

def ShortcutDisposition.isNext : ShortcutDisposition → Bool
  | .requestWindowSwitcherNext => true
  | _ => false

def ShortcutDisposition.isEnd : ShortcutDisposition → Bool
  | .requestWindowSwitcherEnd _ => true
  | _ => false

/-- A key, with whether the session is locked and what the workspaces would answer; or a pointer button. -/
inductive KeyEvent where
  | key (keycode : Nat) (pressed locked answer : Bool)
  | pointerButton (pressed : Bool)

/-- The engine with the keys held, those of them whose press went to the client, whether a window switcher is open,
and how many were started and ended. -/
structure KeySession where
  engine : ShortcutEngine
  down : Finset Nat
  forwarded : Finset Nat
  switching : Bool
  starts : Nat
  ends : Nat

namespace KeySession

def start (bindings : List CompiledShortcut) : KeySession := ⟨.fromBindings bindings, ∅, ∅, false, 0, 0⟩

def next (s : KeySession) : KeyEvent → KeySession
  | .key keycode pressed locked answer =>
    let disposition := (s.engine.observe keycode pressed).2
    let intercepted := s.engine.intercept keycode pressed locked answer
    { engine := intercepted.1
      down := if pressed then insert keycode s.down else s.down.erase keycode
      forwarded :=
        if pressed then if intercepted.2 then s.forwarded else insert keycode s.forwarded
        else s.forwarded.erase keycode
      switching := !disposition.isEnd && (s.switching || disposition.isNext)
      starts := s.starts + if disposition.isNext && !s.switching then 1 else 0
      ends := s.ends + if disposition.isEnd then 1 else 0 }
  | .pointerButton pressed => { s with engine := s.engine.notePointerButton pressed }

def Alternates (s : KeySession) : KeyEvent → Prop
  | .key keycode true _ _ => keycode ∉ s.down
  | .key keycode false _ _ => keycode ∈ s.down
  | .pointerButton _ => True

end KeySession

namespace ShortcutEngine

/-! ## Modifier keys -/

def isModifier (keycode : Nat) : Bool := (logoModifier keycode).isSome || (otherModifier keycode).isSome

def leftKey : Modifier → Nat
  | .super => keyLeftMeta
  | .ctrl => keyLeftCtrl
  | .alt => keyLeftAlt
  | .shift => keyLeftShift

def rightKey : Modifier → Nat
  | .super => keyRightMeta
  | .ctrl => keyRightCtrl
  | .alt => keyRightAlt
  | .shift => keyRightShift

def IsKeyOf (keycode : Nat) (modifier : Modifier) (bit : UInt8) : Prop :=
  keycode = leftKey modifier ∧ bit = leftModifier ∨ keycode = rightKey modifier ∧ bit = rightModifier

variable {keycode : Nat} {bit : UInt8}

theorem logoModifier_some (h : logoModifier keycode = some bit) : IsKeyOf keycode .super bit := by
  unfold logoModifier at h
  split_ifs at h with hf hr
  · exact .inl ⟨hf, (Option.some.inj h).symm⟩
  · exact .inr ⟨hr, (Option.some.inj h).symm⟩

variable {m modifier : Modifier}

theorem otherModifier_some (h : otherModifier keycode = some (modifier, bit)) : IsKeyOf keycode modifier bit := by
  unfold otherModifier at h
  split_ifs at h with h1 h2 h3 h4 h5 h6
  all_goals
    obtain ⟨rfl, rfl⟩ := Prod.mk.inj (Option.some.inj h)
    first
      | exact .inl ⟨by assumption, rfl⟩
      | exact .inr ⟨by assumption, rfl⟩

theorem isModifier_leftKey (m : Modifier) : isModifier (leftKey m) = true := by cases m <;> decide

theorem isModifier_rightKey (m : Modifier) : isModifier (rightKey m) = true := by cases m <;> decide

theorem leftKey_inj {m' : Modifier} : leftKey m = leftKey m' ↔ m = m' := by
  cases m <;> cases m' <;> decide

theorem rightKey_inj {m' : Modifier} : rightKey m = rightKey m' ↔ m = m' := by
  cases m <;> cases m' <;> decide

theorem leftKey_ne_rightKey (m m' : Modifier) : leftKey m ≠ rightKey m' := by
  cases m <;> cases m' <;> decide

theorem key_ne_modifier (h : isModifier keycode = false) (m : Modifier) :
    leftKey m ≠ keycode ∧ rightKey m ≠ keycode := by
  constructor
  · rintro rfl
    rw [isModifier_leftKey] at h; cases h
  · rintro rfl
    rw [isModifier_rightKey] at h; cases h

def heldBits (left right : Bool) : UInt8 :=
  (if left then leftModifier else 0) ||| if right then rightModifier else 0

def Masks (keys : Modifier → UInt8) (down : Finset Nat) : Prop :=
  ∀ m, keys m = heldBits (decide (leftKey m ∈ down)) (decide (rightKey m ∈ down))

variable {keys : Modifier → UInt8} {down : Finset Nat}

theorem masks_press (h : Masks keys down) (hk : IsKeyOf keycode modifier bit) :
    Masks (fun m => if m = modifier then keys m ||| bit else keys m) (insert keycode down) := by
  have hf : ∀ l r, heldBits l r ||| leftModifier = heldBits true r := by decide
  have hr : ∀ l r, heldBits l r ||| rightModifier = heldBits l true := by decide
  intro m
  rcases hk with ⟨rfl, rfl⟩ | ⟨rfl, rfl⟩
  · by_cases hm : m = modifier
    · subst hm
      simp [h m, hf, (leftKey_ne_rightKey m m).symm]
    · simp [h m, hm, leftKey_inj, (leftKey_ne_rightKey modifier m).symm]
  by_cases hm : m = modifier
  · subst hm
    simp [h m, hr, leftKey_ne_rightKey m m]
  · simp [h m, hm, rightKey_inj, leftKey_ne_rightKey m modifier]

theorem masks_release (h : Masks keys down) (hk : IsKeyOf keycode modifier bit) :
    Masks (fun m => if m = modifier then keys m &&& ~~~bit else keys m) (down.erase keycode) := by
  have hf : ∀ l r, heldBits l r &&& ~~~leftModifier = heldBits false r := by decide
  have hr : ∀ l r, heldBits l r &&& ~~~rightModifier = heldBits l false := by decide
  intro m
  rcases hk with ⟨rfl, rfl⟩ | ⟨rfl, rfl⟩
  · by_cases hm : m = modifier
    · subst hm
      simp [h m, hf, (leftKey_ne_rightKey m m).symm]
    · simp [h m, hm, leftKey_inj, (leftKey_ne_rightKey modifier m).symm]
  by_cases hm : m = modifier
  · subst hm
    simp [h m, hr, leftKey_ne_rightKey m m]
  · simp [h m, hm, rightKey_inj, leftKey_ne_rightKey m modifier]

theorem masks_held (h : Masks keys down) (hm : keys m ≠ 0) : leftKey m ∈ down ∨ rightKey m ∈ down := by
  by_contra hn
  obtain ⟨hf, hr⟩ := not_or.1 hn
  rw [h m, decide_eq_false hf, decide_eq_false hr] at hm; exact hm rfl

theorem masks_other (h : Masks keys down) (hk : isModifier keycode = false) :
    Masks keys (insert keycode down) ∧ Masks keys (down.erase keycode) := by
  have hf := fun m => (key_ne_modifier hk m).1
  have hr := fun m => (key_ne_modifier hk m).2
  refine ⟨fun m => ?_, fun m => ?_⟩
  · simp [h m, hf m, hr m]
  · simp [h m, hf m, hr m]

/-! ## What observing a key does -/

theorem keys_setKeys (e : ShortcutEngine) (modifier : Modifier) (value : UInt8) (m : Modifier) :
    (e.setKeys modifier value).keys m = if m = modifier then value else e.keys m := by
  cases modifier <;> cases m <;> rfl

theorem setKeys_frame (e : ShortcutEngine) (modifier : Modifier) (value : UInt8) :
    (e.setKeys modifier value).bindings = e.bindings ∧ (e.setKeys modifier value).capturedKeys = e.capturedKeys ∧
      (e.setKeys modifier value).windowSwitcherRelease = e.windowSwitcherRelease := by
  cases modifier <;> exact ⟨rfl, rfl, rfl⟩

def TapSwitches (e : ShortcutEngine) : Prop := e.modifierTapTarget .super = some (.denialAction .windowSwitcher)

inductive Switches (e : ShortcutEngine) (o : ShortcutEngine × ShortcutDisposition) : Prop
  | kept (hrelease : o.1.windowSwitcherRelease.isSome = e.windowSwitcherRelease.isSome)
    (hnext : o.2.isNext = true → e.windowSwitcherRelease.isSome = true) (hend : o.2.isEnd = false)
  | started (hbefore : e.windowSwitcherRelease.isSome = false) (hafter : o.1.windowSwitcherRelease.isSome = true)
    (hnext : o.2.isNext = true) (hend : o.2.isEnd = false)
  | ended (hbefore : e.windowSwitcherRelease.isSome = true) (hafter : o.1.windowSwitcherRelease.isSome = false)
    (hnext : o.2.isNext = false) (hend : o.2.isEnd = true)

/-- What observing a modifier's key does: its mask changes, and its release ends the window switcher it owns. -/
structure ModifierStep (e : ShortcutEngine) (modifier : Modifier) (bit : UInt8) (pressed : Bool)
    (o : ShortcutEngine × ShortcutDisposition) : Prop where
  bindings : o.1.bindings = e.bindings
  keys : ∀ m, o.1.keys m =
    if m = modifier then if pressed then e.keys m ||| bit else e.keys m &&& ~~~bit else e.keys m
  captured : o.1.capturedKeys = e.capturedKeys
  switches : ¬TapSwitches e → Switches e o
  release : ∀ r, o.1.windowSwitcherRelease = some r →
    e.windowSwitcherRelease = some r ∧ (pressed = false → r ≠ .modifier modifier)

theorem target_not_end (tgt : ShortcutTarget) : tgt.disposition.isEnd = false := by
  cases tgt with
  | denialAction action => cases action <;> rfl
  | spawn cmd desktopFileId => rfl
  | spawnSh cmd => rfl

theorem target_isNext (tgt : ShortcutTarget) : tgt.disposition.isNext = true ↔ tgt = .denialAction .windowSwitcher := by
  cases tgt with
  | denialAction action => cases action <;> decide
  | spawn cmd desktopFileId => exact ⟨(fun h => by cases h), fun h => by cases h⟩
  | spawnSh cmd => exact ⟨(fun h => by cases h), fun h => by cases h⟩

theorem target_ne_forward (tgt : ShortcutTarget) : tgt.disposition ≠ .forward := by
  cases tgt with
  | denialAction action => cases action <;> exact fun h => by cases h
  | spawn cmd desktopFileId => exact fun h => by cases h
  | spawnSh cmd => exact fun h => by cases h

theorem tap_not_end (e : ShortcutEngine) : e.tapDisposition.isEnd = false := by
  unfold tapDisposition
  cases e.modifierTapTarget .super with
  | none => rfl
  | some target =>
    cases e.logoChorded
    · exact target_not_end target
    · rfl

variable {e : ShortcutEngine}

theorem tap_not_next (h : ¬TapSwitches e) : e.tapDisposition.isNext = false := by
  unfold TapSwitches at h; unfold tapDisposition
  cases hr : e.modifierTapTarget .super with
  | none => rfl
  | some target =>
    cases e.logoChorded
    · refine Bool.eq_false_iff.2 fun hnext => h ?_; rw [hr, (target_isNext target).1 hnext]
    · rfl

theorem keys_of_logo {e' : ShortcutEngine} {pressed : Bool}
    (hlo : e'.logoKeys = if pressed then e.logoKeys ||| bit else e.logoKeys &&& ~~~bit)
    (hr : e'.ctrlKeys = e.ctrlKeys) (hal : e'.altKeys = e.altKeys) (hs : e'.shiftKeys = e.shiftKeys) (m : Modifier) :
    e'.keys m = if m = .super then if pressed then e.keys m ||| bit else e.keys m &&& ~~~bit else e.keys m := by
  cases m
  · exact hlo
  · exact hr
  · exact hal
  · exact hs

theorem observeLogo_step (e : ShortcutEngine) (bit : UInt8) (pressed : Bool) :
    ModifierStep e .super bit pressed (e.observeLogo bit pressed) := by
  cases pressed with
  | true =>
    exact ⟨rfl, keys_of_logo rfl rfl rfl rfl, rfl, fun _ => .kept rfl (fun h => by cases h) rfl,
      fun r hr => ⟨hr, fun hp => by cases hp⟩⟩
  | false =>
    by_cases ho : e.windowSwitcherRelease = some (.modifier .super)
    · simp only [observeLogo, Bool.false_eq_true, if_false, if_pos ho]
      exact ⟨rfl, keys_of_logo rfl rfl rfl rfl, rfl, fun _ => .ended (by rw [ho]; rfl) rfl rfl rfl,
        fun r hr => by cases hr⟩
    simp only [observeLogo, Bool.false_eq_true, if_false, if_neg ho]
    by_cases hn : e.logoKeys &&& ~~~bit = 0
    · rw [if_pos hn]
      refine ⟨rfl, keys_of_logo rfl rfl rfl rfl, rfl, fun hta => ?_,
        fun r hr => ⟨hr, fun _ hr' => ho (hr' ▸ hr)⟩⟩
      exact .kept rfl (fun hnext => by rw [tap_not_next hta] at hnext; cases hnext) (tap_not_end e)
    rw [if_neg hn]
    exact ⟨rfl, keys_of_logo rfl rfl rfl rfl, rfl, fun _ => .kept rfl (fun h => by cases h) rfl,
      fun r hr => ⟨hr, fun _ hr' => ho (hr' ▸ hr)⟩⟩

theorem observeModifier_step (e : ShortcutEngine) (modifier : Modifier) (bit : UInt8) (pressed : Bool) :
    ModifierStep e modifier bit pressed (e.observeModifier modifier bit pressed) := by
  have hk : ∀ m,
      (e.setKeys modifier (if pressed then e.keys modifier ||| bit else e.keys modifier &&& ~~~bit)).keys m =
        if m = modifier then if pressed then e.keys m ||| bit else e.keys m &&& ~~~bit else e.keys m := by
    intro m; rw [keys_setKeys]
    by_cases hm : m = modifier
    · subst hm; rfl
    · rw [if_neg hm, if_neg hm]
  obtain ⟨hn, hca, hrelease⟩ := setKeys_frame e modifier
    (if pressed then e.keys modifier ||| bit else e.keys modifier &&& ~~~bit)
  unfold observeModifier
  generalize e.setKeys modifier (if pressed then e.keys modifier ||| bit else e.keys modifier &&& ~~~bit) = e' at *
  by_cases ho : (!pressed) = true ∧ e'.windowSwitcherRelease = some (.modifier modifier)
  · simp only [if_pos ho]
    refine ⟨hn, fun m => ?_, hca, fun _ => .ended (by rw [← hrelease, ho.2]; rfl) rfl rfl rfl,
      fun r hr => by cases hr⟩
    rw [← hk m]
    cases m <;> rfl
  · simp only [if_neg ho]
    refine ⟨hn, hk, hca, fun _ => .kept (by rw [hrelease]) (fun h => by cases h) rfl,
      fun r hr => ⟨hrelease.symm.trans hr, ?_⟩⟩
    rintro rfl rfl; exact ho ⟨rfl, hr⟩

/-- What observing the press of another key does, where it is not captured: nothing, or its binding captures it. -/
structure PressStep (e : ShortcutEngine) (keycode : Nat) (o : ShortcutEngine × ShortcutDisposition) : Prop where
  bindings : o.1.bindings = e.bindings
  keys : o.1.keys = e.keys
  switches : Switches e o
  captured : o.1.capturedKeys = e.capturedKeys ∧ o.2 = .forward ∨
    ∃ target : ShortcutTarget, o.1.capturedKeys = e.capturedKeys.insert keycode target ∧ o.2 = target.disposition
  release : ∀ r, o.1.windowSwitcherRelease = some r → e.windowSwitcherRelease = some r ∨
    o.2 = .requestWindowSwitcherNext ∧ ((∃ m, r = .modifier m ∧ e.keys m ≠ 0) ∨ r = .key keycode)

theorem activeModifiers_flag (e : ShortcutEngine) (m : Modifier) (h : e.activeModifiers &&& m.flag ≠ 0) :
    e.keys m ≠ 0 := by
  intro hz
  refine h ?_; unfold activeModifiers
  simp only [Modifier.all, List.foldl_cons, List.foldl_nil]; cases m
  all_goals
    split_ifs
    all_goals first | decide | contradiction

theorem observePress_step (hf : e.capturedKeys.lookup keycode = none) :
    PressStep e keycode (e.observePress keycode) := by
  unfold observePress; rw [hf]
  cases hta : e.targetForKey keycode with
  | none => exact ⟨rfl, rfl, .kept rfl (fun h => by cases h) rfl, .inl ⟨rfl, rfl⟩, fun r hr => .inl hr⟩
  | some f =>
    obtain ⟨target, modifiers⟩ := f
    obtain ⟨b, hbi, heq⟩ := Option.map_eq_some_iff.1 hta
    obtain ⟨rfl, rfl⟩ := Prod.mk.inj heq
    have hd : b.trigger.modifiers = e.activeModifiers := by
      have hma := List.find?_some hbi
      simp only [CompiledShortcut.matchesKey, Bool.and_eq_true, beq_iff_eq] at hma; exact hma.1
    by_cases hs : b.target = .denialAction .windowSwitcher ∧ e.windowSwitcherRelease.isNone
    · simp only [if_pos hs]
      obtain ⟨ht', hn⟩ := hs
      refine ⟨rfl, rfl, .started (by simpa using hn) rfl ((target_isNext _).2 ht') (target_not_end _),
        .inr ⟨_, rfl, rfl⟩, fun r hr => .inr ⟨?_, ?_⟩⟩
      · rw [ht']; rfl
      · cases hr; unfold switcherRelease
        split
        · rename_i m hm
          refine .inl ⟨m, rfl, activeModifiers_flag e m ?_⟩; rw [← hd]
          simpa using List.find?_some hm
        · exact .inr rfl
    · simp only [if_neg hs]
      refine ⟨rfl, rfl, .kept rfl (fun hnext => ?_) (target_not_end _), .inr ⟨_, rfl, rfl⟩, fun r hr => .inl hr⟩
      by_contra hn
      exact hs ⟨(target_isNext _).1 hnext, by simpa using hn⟩

/-- What observing the release of another key does: the key is not captured any more, and ends the window switcher
it owns. -/
structure ReleaseStep (e : ShortcutEngine) (keycode : Nat) (o : ShortcutEngine × ShortcutDisposition) : Prop where
  bindings : o.1.bindings = e.bindings
  keys : o.1.keys = e.keys
  switches : Switches e o
  captured : o.1.capturedKeys = e.capturedKeys.erase keycode
  forwards : o.2 = .forward ↔
    (e.capturedKeys.lookup keycode).isSome = false ∧ e.windowSwitcherRelease ≠ some (.key keycode)
  kept : o.2.isEnd = false → o.2 = .forward ∨ o.2 = .consume
  ended : o.2.isEnd = true → o.2 = .requestWindowSwitcherEnd false
  release : ∀ r, o.1.windowSwitcherRelease = some r → e.windowSwitcherRelease = some r ∧ r ≠ .key keycode

theorem observeRelease_step (e : ShortcutEngine) (keycode : Nat) :
    ReleaseStep e keycode (e.observeRelease keycode) := by
  by_cases ho : e.windowSwitcherRelease = some (.key keycode)
  · simp only [observeRelease, if_pos ho]
    exact ⟨rfl, rfl, .ended (by rw [ho]; rfl) rfl rfl rfl, rfl,
      ⟨(fun h => by cases h), fun h => absurd ho h.2⟩, (fun h => by cases h), fun _ => rfl, fun r hr => by cases hr⟩
  simp only [observeRelease, if_neg ho]
  have hk : ∀ r, e.windowSwitcherRelease = some r → e.windowSwitcherRelease = some r ∧ r ≠ .key keycode :=
    fun r hr => ⟨hr, fun hr' => ho (hr' ▸ hr)⟩
  cases hca : (e.capturedKeys.lookup keycode).isSome
  · exact ⟨rfl, rfl, .kept rfl (fun h => by cases h) rfl, rfl, ⟨fun _ => ⟨hca, ho⟩, fun _ => rfl⟩,
      fun _ => .inl rfl, (fun h => by cases h), hk⟩
  refine ⟨rfl, rfl, .kept rfl (fun h => by cases h) rfl, rfl, ⟨(fun h => by cases h), fun h => ?_⟩,
    fun _ => .inr rfl, (fun h => by cases h), hk⟩
  rw [hca] at h; cases h.1

/-! ## What a key does -/

section Chorded

variable {e : ShortcutEngine} {chorded : Bool} {o : ShortcutEngine × ShortcutDisposition}

theorem keys_chorded : ({ e with logoChorded := chorded } : ShortcutEngine).keys = e.keys := by
  funext m
  cases m <;> rfl

theorem Switches.of_chorded (h : Switches { e with logoChorded := chorded } o) : Switches e o := by
  cases h with
  | kept hrelease hnext hend => exact .kept hrelease hnext hend
  | started hbefore hafter hnext hend => exact .started hbefore hafter hnext hend
  | ended hbefore hafter hnext hend => exact .ended hbefore hafter hnext hend

theorem ModifierStep.of_chorded {modifier : Modifier} {bit : UInt8} {pressed : Bool}
    (h : ModifierStep { e with logoChorded := chorded } modifier bit pressed o) :
    ModifierStep e modifier bit pressed o := by
  have hk : ({ e with logoChorded := chorded } : ShortcutEngine).keys = e.keys := keys_chorded
  refine ⟨h.bindings, ?_, h.captured, fun hta => (h.switches hta).of_chorded, h.release⟩; exact h.keys

theorem PressStep.of_chorded {keycode : Nat} (h : PressStep { e with logoChorded := chorded } keycode o) :
    PressStep e keycode o := by
  have hk : ({ e with logoChorded := chorded } : ShortcutEngine).keys = e.keys := keys_chorded
  refine ⟨h.bindings, h.keys.trans hk, h.switches.of_chorded, h.captured, ?_⟩; exact h.release

end Chorded

theorem observe_notLogo (h : logoModifier keycode = none) (e : ShortcutEngine) (pressed : Bool) :
    ∃ chorded, e.observe keycode pressed =
      match otherModifier keycode with
      | some (modifier, bit) => { e with logoChorded := chorded }.observeModifier modifier bit pressed
      | none => if pressed then { e with logoChorded := chorded }.observePress keycode
        else { e with logoChorded := chorded }.observeRelease keycode := by
  unfold observe; rw [h]
  by_cases hh : pressed = true ∧ e.logoKeys ≠ 0
  · exact ⟨true, by simp [if_pos hh]⟩
  · exact ⟨e.logoChorded, by simp [if_neg hh]⟩

theorem observe_modifier (h : isModifier keycode = true) (e : ShortcutEngine) (pressed : Bool) :
    ∃ modifier bit, IsKeyOf keycode modifier bit ∧ ModifierStep e modifier bit pressed (e.observe keycode pressed) := by
  cases hlo : logoModifier keycode with
  | some bit =>
    refine ⟨.super, bit, logoModifier_some hlo, ?_⟩; unfold observe
    rw [hlo]; exact observeLogo_step e bit pressed
  | none =>
    obtain ⟨chorded, hs⟩ := observe_notLogo hlo e pressed
    cases ho : otherModifier keycode with
    | none =>
      unfold isModifier at h
      rw [hlo, ho] at h; cases h
    | some f =>
      obtain ⟨modifier, bit⟩ := f
      refine ⟨modifier, bit, otherModifier_some ho, ?_⟩; rw [hs, ho]
      exact (observeModifier_step _ modifier bit pressed).of_chorded

theorem notModifier (h : isModifier keycode = false) : logoModifier keycode = none ∧ otherModifier keycode = none := by
  unfold isModifier at h
  simpa using h

theorem observe_press (h : isModifier keycode = false) (hf : e.capturedKeys.lookup keycode = none) :
    PressStep e keycode (e.observe keycode true) := by
  obtain ⟨hlo, hh⟩ := notModifier h
  obtain ⟨chorded, ho⟩ := observe_notLogo hlo e true; rw [ho, hh]
  have hstep : PressStep { e with logoChorded := chorded } keycode _ := observePress_step hf
  exact hstep.of_chorded

theorem observe_release (h : isModifier keycode = false) (e : ShortcutEngine) :
    ReleaseStep e keycode (e.observe keycode false) := by
  obtain ⟨hlo, ho⟩ := notModifier h; unfold observe
  rw [hlo, ho]; exact observeRelease_step e keycode

/-- A key is kept from the client when its disposition does not forward it, unless an action declines the press: then
the engine lets go of the key. -/
theorem intercept_cases (e : ShortcutEngine) (keycode : Nat) (pressed locked answer : Bool) :
    (e.intercept keycode pressed locked answer).1 = (e.observe keycode pressed).1 ∧
        (pressed = true → (e.intercept keycode pressed locked answer).2 = ((e.observe keycode pressed).2 != .forward)) ∨
      pressed = true ∧ (e.observe keycode pressed).2 ≠ .requestWindowSwitcherNext ∧
        e.intercept keycode pressed locked answer = ((e.observe keycode pressed).1.passThroughKey keycode, false) := by
  unfold intercept
  cases locked with
  | true => exact .inl ⟨rfl, fun _ => rfl⟩
  | false =>
    generalize e.observe keycode pressed = o
    cases hh : handled answer o.2 with
    | true =>
      have hf : o.2 ≠ .forward := by
        intro hf
        rw [hf] at hh; cases hh
      simp [hh, hf]
    | false =>
      cases pressed with
      | true =>
        refine .inr ⟨rfl, fun hnext => ?_, by simp [hh]⟩
        rw [hnext] at hh; cases hh
      | false => simp [hh]

theorem intercept_release (h : isModifier keycode = false) (e : ShortcutEngine) (locked answer : Bool) :
    (e.intercept keycode false locked answer).2 = false ↔
      (e.capturedKeys.lookup keycode).isSome = false ∧ e.windowSwitcherRelease ≠ some (.key keycode) := by
  have hstep := observe_release h e; rw [← hstep.forwards]
  unfold intercept
  generalize e.observe keycode false = o at hstep
  cases locked with
  | true => simp
  | false =>
    simp only [Bool.false_eq_true, if_false, Bool.and_false]
    cases hend : o.2.isEnd with
    | true =>
      rw [hstep.ended hend]; exact ⟨(fun h => by cases h), fun h => by cases h⟩
    | false =>
      rcases hstep.kept hend with hk | hk
      · rw [hk]; exact ⟨fun _ => rfl, fun _ => rfl⟩
      · rw [hk]; exact ⟨(fun h => by cases h), fun h => by cases h⟩

theorem intercept_frame (e : ShortcutEngine) (keycode : Nat) (pressed locked answer : Bool) :
    (e.intercept keycode pressed locked answer).1.bindings = (e.observe keycode pressed).1.bindings ∧
      (e.intercept keycode pressed locked answer).1.keys = (e.observe keycode pressed).1.keys ∧
      (e.intercept keycode pressed locked answer).1.windowSwitcherRelease =
        (e.observe keycode pressed).1.windowSwitcherRelease := by
  rcases intercept_cases e keycode pressed locked answer with ⟨heq, -⟩ | ⟨-, -, heq⟩
  · rw [heq]; exact ⟨rfl, rfl, rfl⟩
  rw [heq]
  refine ⟨rfl, ?_, rfl⟩
  funext m
  cases m <;> rfl

theorem intercept_press (h : isModifier keycode = false) (hf : e.capturedKeys.lookup keycode = none)
    (locked answer : Bool) (k : Nat) :
    ((e.intercept keycode true locked answer).1.capturedKeys.lookup k).isSome = true ↔
      (e.capturedKeys.lookup k).isSome = true ∨ k = keycode ∧ (e.intercept keycode true locked answer).2 = true := by
  have hstep := observe_press h hf
  have hy : ∀ {l : AList fun _ : Nat => ShortcutTarget} {tgt : ShortcutTarget},
      ((l.insert keycode tgt).lookup k).isSome = true ↔ (l.lookup k).isSome = true ∨ k = keycode := by
    intro l tgt
    by_cases hk : k = keycode
    · subst hk; simp
    · simp [AList.lookup_insert_ne hk, hk]
  rcases intercept_cases e keycode true locked answer with ⟨heq, hke⟩ | ⟨-, -, heq⟩
  · rw [heq, hke rfl]
    rcases hstep.captured with ⟨hca, hr⟩ | ⟨tgt, hca, hta⟩
    · rw [hca, hr]; simp
    · rw [hca, hta, hy]; simp [target_ne_forward]
  rw [heq]
  simp only [Bool.false_eq_true, and_false, or_false]
  show ((AList.erase keycode (e.observe keycode true).1.capturedKeys).lookup k).isSome = true ↔ _
  by_cases hk : k = keycode
  · subst hk; rw [AList.lookup_erase, hf]
  rw [AList.lookup_erase_ne hk]
  rcases hstep.captured with ⟨hca, -⟩ | ⟨tgt, hca, -⟩
  · rw [hca]
  · rw [hca, hy]; simp [hk]

end ShortcutEngine

namespace KeySession

open ShortcutEngine

/-! ## What a run keeps -/

def Owned (s : KeySession) : WindowSwitcherRelease → Prop
  | .modifier m => leftKey m ∈ s.down ∨ rightKey m ∈ s.down
  | .key keycode => (s.engine.capturedKeys.lookup keycode).isSome = true
  | .gesture _ _ => False

/-- The masks say which modifiers are held, the engine has captured the other keys that are held and did not go to the
client, and an open window switcher waits for one that is held. -/
structure Balanced (s : KeySession) : Prop where
  masks : Masks s.engine.keys s.down
  captured : ∀ k, (s.engine.capturedKeys.lookup k).isSome = true ↔ k ∈ s.down ∧ isModifier k = false ∧ k ∉ s.forwarded
  held : s.forwarded ⊆ s.down
  owned : ∀ r, s.engine.windowSwitcherRelease = some r → s.Owned r

theorem balanced_start (bindings : List CompiledShortcut) : Balanced (start bindings) := by
  refine ⟨fun m => ?_, fun k => ?_, Finset.Subset.refl _, fun r hr => by cases hr⟩
  · cases m <;> simp [start, fromBindings, ShortcutEngine.keys, heldBits]
  · simp [start, fromBindings]

variable {s : KeySession}

variable {keycode : Nat} {bindings : List CompiledShortcut}

theorem Balanced.free (h : Balanced s) (hup : keycode ∉ s.down) : s.engine.capturedKeys.lookup keycode = none := by
  rw [← Option.not_isSome_iff_eq_none, h.captured]; exact fun hca => hup hca.1

theorem balanced_pointerButton (h : Balanced s) (pressed : Bool) : Balanced (next s (.pointerButton pressed)) := by
  have hf : (s.engine.notePointerButton pressed).keys = s.engine.keys ∧
      (s.engine.notePointerButton pressed).capturedKeys = s.engine.capturedKeys ∧
      (s.engine.notePointerButton pressed).windowSwitcherRelease = s.engine.windowSwitcherRelease := by
    unfold notePointerButton
    split_ifs
    · exact ⟨keys_chorded, rfl, rfl⟩
    · exact ⟨rfl, rfl, rfl⟩
  obtain ⟨hk, hca, hrelease⟩ := hf
  refine ⟨?_, fun k => ?_, h.held, fun r hr => ?_⟩
  · show Masks (s.engine.notePointerButton pressed).keys s.down
    rw [hk]; exact h.masks
  · show ((s.engine.notePointerButton pressed).capturedKeys.lookup k).isSome = true ↔ _
    rw [hca]; exact h.captured k
  · have ho := h.owned r (hrelease ▸ hr)
    cases r with
    | modifier m => exact ho
    | key keycode =>
      show ((s.engine.notePointerButton pressed).capturedKeys.lookup keycode).isSome = true
      rw [hca]; exact ho
    | gesture owner post => exact ho

theorem mem_forwarded_next {k : Nat} (pressed locked answer : Bool) (hk : k ≠ keycode) :
    k ∈ (next s (.key keycode pressed locked answer)).forwarded ↔ k ∈ s.forwarded := by
  cases pressed with
  | true =>
    simp only [next, if_true]
    split_ifs
    · exact Iff.rfl
    · rw [Finset.mem_insert, or_iff_right hk]
  | false => exact Finset.mem_erase.trans (and_iff_right hk)

theorem mem_down_next {k : Nat} (pressed locked answer : Bool) (hk : k ≠ keycode) :
    k ∈ (next s (.key keycode pressed locked answer)).down ↔ k ∈ s.down := by
  cases pressed with
  | true => exact Finset.mem_insert.trans (or_iff_right hk)
  | false => exact Finset.mem_erase.trans (and_iff_right hk)

theorem forwarded_subset_next (h : s.forwarded ⊆ s.down) (keycode : Nat) (pressed locked answer : Bool) :
    (next s (.key keycode pressed locked answer)).forwarded ⊆ (next s (.key keycode pressed locked answer)).down := by
  intro k hmem
  by_cases hk : k = keycode
  · subst hk
    cases pressed with
    | true => exact Finset.mem_insert_self ..
    | false => exact absurd rfl (Finset.mem_erase.1 hmem).1
  · rw [mem_down_next pressed locked answer hk]
    exact h ((mem_forwarded_next pressed locked answer hk).1 hmem)

theorem modifier_lookup (h : Balanced s) (hy : isModifier keycode = true) (pressed locked answer : Bool) (k : Nat) :
    (next s (.key keycode pressed locked answer)).engine.capturedKeys.lookup k = s.engine.capturedKeys.lookup k := by
  obtain ⟨modifier, bit, -, hstep⟩ := observe_modifier hy s.engine pressed
  show (s.engine.intercept keycode pressed locked answer).1.capturedKeys.lookup k = _
  rcases intercept_cases s.engine keycode pressed locked answer with ⟨heq, -⟩ | ⟨-, -, heq⟩
  · rw [heq, hstep.captured]
  rw [heq]
  show (AList.erase keycode (s.engine.observe keycode pressed).1.capturedKeys).lookup k = _
  rw [hstep.captured]
  by_cases hk : k = keycode
  · subst hk
    rw [AList.lookup_erase, eq_comm, ← Option.not_isSome_iff_eq_none, h.captured, hy]
    exact fun hca => by cases hca.2.1
  · exact AList.lookup_erase_ne hk

theorem balanced_modifier (h : Balanced s) (hy : isModifier keycode = true) (pressed locked answer : Bool) :
    Balanced (next s (.key keycode pressed locked answer)) := by
  obtain ⟨modifier, bit, hof, hstep⟩ := observe_modifier hy s.engine pressed
  obtain ⟨-, hs, hrelease⟩ := intercept_frame s.engine keycode pressed locked answer
  refine ⟨?_, fun k => ?_, forwarded_subset_next h.held .., fun r hr => ?_⟩
  · show Masks (s.engine.intercept keycode pressed locked answer).1.keys _; rw [hs, funext hstep.keys]
    cases pressed with
    | true => exact masks_press h.masks hof
    | false => exact masks_release h.masks hof
  · rw [modifier_lookup h hy, h.captured]
    by_cases hk : k = keycode
    · subst hk; simp [hy]
    · rw [mem_down_next pressed locked answer hk, mem_forwarded_next pressed locked answer hk]
  · obtain ⟨hbefore, hh⟩ := hstep.release r (hrelease ▸ hr)
    have ho := h.owned r hbefore
    cases r with
    | modifier m =>
      cases pressed with
      | true => exact ho.imp (Finset.mem_insert_of_mem ·) (Finset.mem_insert_of_mem ·)
      | false =>
        -- the key is another modifier's, so the ones of `m` stay held
        have hne : m ≠ modifier := fun hm => hh rfl (hm ▸ rfl)
        refine ho.imp (fun hf => Finset.mem_erase.2 ⟨?_, hf⟩) fun hri => Finset.mem_erase.2 ⟨?_, hri⟩
        · rcases hof with ⟨rfl, -⟩ | ⟨rfl, -⟩
          · exact mt leftKey_inj.1 hne
          · exact leftKey_ne_rightKey m modifier
        · rcases hof with ⟨rfl, -⟩ | ⟨rfl, -⟩
          · exact (leftKey_ne_rightKey modifier m).symm
          · exact mt rightKey_inj.1 hne
    | key k =>
      show (AList.lookup k _).isSome = true
      rw [modifier_lookup h hy]; exact ho
    | gesture owner post => exact ho

theorem balanced_press (h : Balanced s) (hy : isModifier keycode = false) (locked answer : Bool)
    (hup : keycode ∉ s.down) : Balanced (next s (.key keycode true locked answer)) := by
  have hf := h.free hup
  have hstep := observe_press hy hf
  have hca := intercept_press hy hf locked answer
  obtain ⟨-, hs, hrelease⟩ := intercept_frame s.engine keycode true locked answer
  refine ⟨?_, fun k => ?_, forwarded_subset_next h.held .., fun r hr => ?_⟩
  · show Masks (s.engine.intercept keycode true locked answer).1.keys _
    rw [hs, hstep.keys]; exact (masks_other h.masks hy).1
  · refine (hca k).trans ?_; rw [h.captured]
    by_cases hk : k = keycode
    · subst hk
      have hn : k ∉ s.forwarded := fun hmem => hup (h.held hmem)
      cases hke : (s.engine.intercept k true locked answer).2 <;> simp [next, hke, hup, hy, hn]
    · rw [mem_down_next true locked answer hk, mem_forwarded_next true locked answer hk]; simp [hk]
  · rcases hstep.release r (hrelease ▸ hr) with hbefore | ⟨hnext, hw⟩
    · have ho := h.owned r hbefore
      cases r with
      | modifier m => exact ho.imp (Finset.mem_insert_of_mem ·) (Finset.mem_insert_of_mem ·)
      | key k => exact (hca k).2 (.inl ho)
      | gesture owner post => exact ho
    · rcases hw with ⟨m, rfl, hm⟩ | rfl
      · exact (masks_held h.masks hm).imp (Finset.mem_insert_of_mem ·) (Finset.mem_insert_of_mem ·)
      -- a press that starts the switcher is never declined
      refine (hca keycode).2 (.inr ⟨rfl, ?_⟩)
      rcases intercept_cases s.engine keycode true locked answer with ⟨-, hke⟩ | ⟨-, hd, -⟩
      · rw [hke rfl, hnext]; rfl
      · exact absurd hnext hd

theorem balanced_release (h : Balanced s) (hy : isModifier keycode = false) (locked answer : Bool) :
    Balanced (next s (.key keycode false locked answer)) := by
  have hstep := observe_release hy s.engine
  have he : (next s (.key keycode false locked answer)).engine = (s.engine.observe keycode false).1 := by
    rcases intercept_cases s.engine keycode false locked answer with ⟨heq, -⟩ | ⟨hs, -⟩
    · exact heq
    · cases hs
  refine ⟨?_, fun k => ?_, forwarded_subset_next h.held .., fun r hr => ?_⟩
  · rw [he, hstep.keys]; exact (masks_other h.masks hy).2
  · rw [he, hstep.captured]
    by_cases hk : k = keycode
    · subst hk; simp [next]
    · rw [AList.lookup_erase_ne hk, h.captured, mem_down_next false locked answer hk,
        mem_forwarded_next false locked answer hk]
  · rw [he] at hr
    obtain ⟨hbefore, hh⟩ := hstep.release r hr
    have ho := h.owned r hbefore
    cases r with
    | modifier m =>
      obtain ⟨hf, hri⟩ := key_ne_modifier hy m
      exact ho.imp (fun hmem => Finset.mem_erase.2 ⟨hf, hmem⟩) fun hmem => Finset.mem_erase.2 ⟨hri, hmem⟩
    | key k =>
      have hk : k ≠ keycode := fun hk => hh (hk ▸ rfl)
      show (AList.lookup k _).isSome = true
      rw [he, hstep.captured, AList.lookup_erase_ne hk]; exact ho
    | gesture owner post => exact ho

theorem balanced_next (s : KeySession) (e : KeyEvent) (h : Balanced s) (hr : Alternates s e) : Balanced (next s e) := by
  cases e with
  | pointerButton pressed => exact balanced_pointerButton h pressed
  | key keycode pressed locked answer =>
    cases hk : isModifier keycode with
    | true => exact balanced_modifier h hk pressed locked answer
    | false =>
      cases pressed with
      | true => exact balanced_press h hk locked answer hr
      | false => exact balanced_release h hk locked answer

theorem balanced_reachable {es : List KeyEvent} (h : Along next Alternates (start bindings) es) :
    Balanced (exec next (start bindings) es) :=
  exec_invariant_along balanced_next (balanced_start bindings) h

/-! ## Window switchers -/

/-- What holds of the window switchers where the tap of Super is not one's: the open one is the one the engine waits to
end, and the others are ended. -/
structure Sessions (s : KeySession) : Prop where
  tap : ¬TapSwitches s.engine
  switching : s.switching = s.engine.windowSwitcherRelease.isSome
  counted : s.starts = s.ends + if s.switching then 1 else 0

theorem tapSwitches_of_bindings {e e' : ShortcutEngine} (h : e'.bindings = e.bindings) :
    TapSwitches e' ↔ TapSwitches e := by
  unfold TapSwitches modifierTapTarget; rw [h]

theorem observe_switches (h : Balanced s) {pressed locked answer : Bool}
    (hr : Alternates s (.key keycode pressed locked answer)) :
    (s.engine.observe keycode pressed).1.bindings = s.engine.bindings ∧
      (¬TapSwitches s.engine → Switches s.engine (s.engine.observe keycode pressed)) := by
  cases hk : isModifier keycode with
  | true =>
    obtain ⟨modifier, bit, -, hstep⟩ := observe_modifier hk s.engine pressed
    exact ⟨hstep.bindings, hstep.switches⟩
  | false =>
    cases pressed with
    | true =>
      have hstep := observe_press hk (h.free hr); exact ⟨hstep.bindings, fun _ => hstep.switches⟩
    | false =>
      have hstep := observe_release hk s.engine; exact ⟨hstep.bindings, fun _ => hstep.switches⟩

theorem sessions_next (h : Balanced s) (hs : Sessions s) {e : KeyEvent} (hr : Alternates s e) :
    Sessions (next s e) := by
  cases e with
  | pointerButton pressed =>
    have hf : (s.engine.notePointerButton pressed).bindings = s.engine.bindings ∧
        (s.engine.notePointerButton pressed).windowSwitcherRelease = s.engine.windowSwitcherRelease := by
      unfold notePointerButton
      split_ifs <;> exact ⟨rfl, rfl⟩
    refine ⟨(tapSwitches_of_bindings hf.1).not.2 hs.tap, ?_, hs.counted⟩
    show s.switching = (s.engine.notePointerButton pressed).windowSwitcherRelease.isSome
    rw [hf.2]; exact hs.switching
  | key keycode pressed locked answer =>
    obtain ⟨hbi, hsw⟩ := observe_switches h hr
    obtain ⟨hm, -, hrelease⟩ := intercept_frame s.engine keycode pressed locked answer
    obtain ⟨hta, hw, hn⟩ := hs
    have hstep := hsw hta
    have ht' : ¬TapSwitches (next s (.key keycode pressed locked answer)).engine :=
      (tapSwitches_of_bindings (hm.trans hbi)).not.2 hta
    refine ⟨ht', ?_, ?_⟩
    · show (!(s.engine.observe keycode pressed).2.isEnd &&
          (s.switching || (s.engine.observe keycode pressed).2.isNext)) =
        (s.engine.intercept keycode pressed locked answer).1.windowSwitcherRelease.isSome
      rw [hrelease, hw]
      cases hstep with
      | kept hke hnext hend =>
        rw [hke, hend]
        cases hk : (s.engine.observe keycode pressed).2.isNext
        · simp
        · simp [hnext hk]
      | started hbefore hafter hnext hend => simp [hafter, hnext, hend]
      | ended hbefore hafter hnext hend => simp [hafter, hend]
    · show s.starts + (if ((s.engine.observe keycode pressed).2.isNext && !s.switching) = true then 1 else 0) =
        s.ends + (if (s.engine.observe keycode pressed).2.isEnd = true then 1 else 0) +
          if (!(s.engine.observe keycode pressed).2.isEnd &&
            (s.switching || (s.engine.observe keycode pressed).2.isNext)) = true then 1 else 0
      rw [hn, hw]
      cases hstep with
      | kept hke hnext hend =>
        rw [hend]
        cases hk : (s.engine.observe keycode pressed).2.isNext
        · simp
        · simp [hnext hk]
      | started hbefore hafter hnext hend => simp [hbefore, hnext, hend]
      | ended hbefore hafter hnext hend => simp [hbefore, hnext, hend]

theorem sessions_reachable (hta : ¬TapSwitches (fromBindings bindings)) {es : List KeyEvent}
    (h : Along next Alternates (start bindings) es) : Sessions (exec next (start bindings) es) := by
  refine (exec_invariant_along (I := fun s => Balanced s ∧ Sessions s) (fun s e hs hr => ?_) ?_ h).2
  · exact ⟨balanced_next s e hs.1 hr, sessions_next hs.1 hs.2 hr⟩
  · exact ⟨balanced_start bindings, hta, rfl, rfl⟩

/-! ## Presses and releases -/

/-- The release of a held key that is no modifier goes to the client exactly when its press did. -/
def ReleasesFollow (s : KeySession) : Prop :=
  ∀ keycode ∈ s.down, isModifier keycode = false → ∀ locked answer,
    ((s.engine.intercept keycode false locked answer).2 = false ↔ keycode ∈ s.forwarded)

/-- All the window switchers started are ended once, but an open one, and none is open when no key is held. -/
def SwitchersEnd (s : KeySession) : Prop :=
  (s.starts = s.ends + if s.switching then 1 else 0) ∧ (s.down = ∅ → s.switching = false)

theorem releasesFollow_of_balanced (h : Balanced s) : ReleasesFollow s := by
  intro keycode hd hk locked answer; rw [intercept_release hk]
  constructor
  · rintro ⟨hf, -⟩
    by_contra hke
    rw [(h.captured keycode).2 ⟨hd, hk, hke⟩] at hf; cases hf
  · intro hr
    have hf : ¬(s.engine.capturedKeys.lookup keycode).isSome = true :=
      fun hca => ((h.captured keycode).1 hca).2.2 hr
    exact ⟨Bool.eq_false_iff.2 hf, fun ho => hf (h.owned _ ho)⟩

theorem switchersEnd_of_sessions (h : Balanced s) (hs : Sessions s) : SwitchersEnd s := by
  refine ⟨hs.counted, fun hup => ?_⟩; rw [hs.switching]
  cases hrelease : s.engine.windowSwitcherRelease with
  | none => rfl
  | some r =>
    have ho := h.owned r hrelease
    cases r with
    | modifier m => simp [Owned, hup] at ho
    | key keycode =>
      have hd := ((h.captured keycode).1 ho).1
      rw [hup] at hd; cases hd
    | gesture owner post => exact ho.elim

def superTap : List KeyEvent := [.key keyLeftMeta true false false, .key keyLeftMeta false false false]

theorem superTap_alternates (bindings : List CompiledShortcut) : Along next Alternates (start bindings) superTap := by
  refine ⟨Finset.notMem_empty _, ?_, trivial⟩; exact Finset.mem_insert_self ..

theorem observe_tap {e : ShortcutEngine} (hs : e.logoKeys = leftModifier) (hf : e.windowSwitcherRelease = none) :
    (e.observe keyLeftMeta false).2 = e.tapDisposition := by
  have hn : e.logoKeys &&& ~~~leftModifier = 0 := by
    rw [hs]; decide
  show (e.observeLogo leftModifier false).2 = _; simp [observeLogo, hf, hn]

theorem superTap_switching (hta : TapSwitches (fromBindings bindings)) :
    (exec next (start bindings) superTap).down = ∅ ∧ (exec next (start bindings) superTap).switching = true := by
  have hr : next (start bindings) (.key keyLeftMeta true false false) =
      ⟨{ fromBindings bindings with logoKeys := 0 ||| leftModifier }, insert keyLeftMeta ∅, ∅, false, 0, 0⟩ := rfl
  simp only [superTap, exec_cons, exec_nil, hr]
  have htr : ({ fromBindings bindings with logoKeys := 0 ||| leftModifier } : ShortcutEngine).tapDisposition =
      .requestWindowSwitcherNext := by
    have ht' : ({ fromBindings bindings with logoKeys := 0 ||| leftModifier } : ShortcutEngine).modifierTapTarget
        .super = some (.denialAction .windowSwitcher) := hta
    unfold tapDisposition
    rw [ht']; rfl
  refine ⟨?_, ?_⟩
  · simp [next]
  · simp only [next]
    have hs : 0 ||| leftModifier = leftModifier := by decide
    rw [observe_tap hs rfl, htr]; rfl

/-- Presses and releases follow each other whatever is bound; and all that is promised holds in every run exactly when
the tap of Super is not bound to the window switcher. -/
theorem shortcut_engine_balanced (bindings : List CompiledShortcut) :
    (∀ es, Along next Alternates (start bindings) es → ReleasesFollow (exec next (start bindings) es)) ∧
      ((∀ es, Along next Alternates (start bindings) es →
          ReleasesFollow (exec next (start bindings) es) ∧ SwitchersEnd (exec next (start bindings) es)) ↔
        (fromBindings bindings).modifierTapTarget .super ≠ some (.denialAction .windowSwitcher)) := by
  have hrel : ∀ es, Along next Alternates (start bindings) es → ReleasesFollow (exec next (start bindings) es) :=
    fun es h => releasesFollow_of_balanced (balanced_reachable h)
  refine ⟨hrel, fun hrun htap => ?_, fun htap es h => ⟨hrel es h, ?_⟩⟩
  · obtain ⟨hup, hopen⟩ := superTap_switching htap
    rw [(hrun superTap (superTap_alternates bindings)).2.2 hup] at hopen; cases hopen
  · exact switchersEnd_of_sessions (balanced_reachable h) (sessions_reachable htap h)

def superSwitcherFile : ShortcutFile := ⟨6, 1, [⟨"Super", .denialAction .windowSwitcher⟩]⟩

/-- It compiles, and the tap of Super opens a window switcher that is never ended. -/
theorem tapped_switcher_left_open : ∃ bindings, compileShortcuts superSwitcherFile = .ok bindings ∧
    Along next Alternates (start bindings) superTap ∧ ¬SwitchersEnd (exec next (start bindings) superTap) := by
  refine ⟨[⟨⟨0, .modifierTap .super, "Super"⟩, .denialAction .windowSwitcher⟩], by decide +kernel,
    superTap_alternates _, fun hend => ?_⟩
  have htap : TapSwitches (fromBindings [⟨⟨0, .modifierTap .super, "Super"⟩, .denialAction .windowSwitcher⟩]) := rfl
  obtain ⟨hup, hopen⟩ := superTap_switching htap
  rw [hend.2 hup] at hopen; cases hopen

end KeySession

end Deniald.Shortcut
