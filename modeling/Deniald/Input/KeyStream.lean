/-
What Flutter sees of the keys: over every run in which no key is held in Flutter by both keyboards and a reset finds the
keys of the virtual keyboard pressed on the seat, presses and releases of each key take turns, and a reset releases each
key once and keeps its physical release from everyone.
-/
import Deniald.Input.Keys

namespace Deniald.Input

open Deniald.InputMethod (KeyState)
open Deniald.Lib
open Deniald.Shortcut (ShortcutEngine)

variable {F : Type}

/-! ## Routes -/

theorem routeFlutterKeyTransition_cases (active retired : Finset Nat) (code : Nat) (state : KeyState)
    (capture : Bool) (hr : Disjoint active retired) :
    (code ∈ retired ∧ routeFlutterKeyTransition active retired code state capture =
        (active, if state = .released then retired.erase code else retired, .consumeRetired)) ∨
      (code ∉ retired ∧ state = .pressed ∧ (code ∈ active ∨ capture = true) ∧
        routeFlutterKeyTransition active retired code state capture = (insert code active, retired, .dispatch)) ∨
      (code ∉ retired ∧ state = .released ∧ code ∈ active ∧
        routeFlutterKeyTransition active retired code state capture = (active.erase code, retired, .dispatch)) ∨
      (code ∉ retired ∧ code ∉ active ∧
        routeFlutterKeyTransition active retired code state capture = (active, retired, .forward)) := by
  unfold routeFlutterKeyTransition retiredKeyConsumesTransition
  by_cases hretired : code ∈ retired
  · have hactive : code ∉ active := fun h => Finset.disjoint_left.1 hr h hretired
    refine .inl ⟨hretired, ?_⟩
    cases state <;> simp [hretired, hactive]
  refine .inr ?_
  cases state with
  | pressed =>
    by_cases hca : code ∈ active ∨ capture = true
    · exact .inl ⟨hretired, rfl, hca, by simp [hretired, hca]⟩
    · refine .inr (.inr ⟨hretired, fun h => hca (.inl h), ?_⟩); simp [hretired, hca]
  | released =>
    by_cases hactive : code ∈ active
    · exact .inr (.inl ⟨hretired, rfl, hactive, by simp [hretired, hactive]⟩)
    · exact .inr (.inr ⟨hretired, hactive, by simp [hretired, hactive]⟩)

/-! ## Holdings -/

structure Holdings where
  flutterActive : Bool
  keyboard : Finset Nat
  inputMethod : Finset Nat
  retiredKeyboard : Finset Nat
  retiredInputMethod : Finset Nat
  pressed : Finset Nat
  keys : List KeyboardRecord

def KeyFrontend.holdings (s : KeyFrontend F) : Holdings where
  flutterActive := s.flutterActive
  keyboard := s.flutterKeyboardKeys
  inputMethod := s.flutterInputMethodKeys
  retiredKeyboard := s.retiredKeyboardKeys
  retiredInputMethod := s.retiredInputMethodKeys
  pressed := s.pressedKeys
  keys := s.keys

namespace Holdings

structure Tidy (h : Holdings) : Prop where
  seat : h.keyboard ⊆ h.pressed
  keyboardApart : Disjoint h.keyboard h.retiredKeyboard
  inputMethodApart : Disjoint h.inputMethod h.retiredInputMethod
  inactive : h.flutterActive = false → h.keyboard = ∅ ∧ h.inputMethod = ∅
  pressedCoded : ∀ keycode ∈ h.pressed, 8 ≤ keycode
  inputMethodCoded : ∀ keycode ∈ h.inputMethod, 8 ≤ keycode

/-- Flutter has been told of exactly the keys that are held there, by one keyboard each. -/
structure Told (h : Holdings) : Prop extends Tidy h where
  exclusive : Disjoint h.keyboard h.inputMethod
  told : ∀ keycode, reads (keyStep keycode) false h.keys = some (decide (keycode + 8 ∈ h.keyboard ∪ h.inputMethod))

/-- What a key of the seat may do; `takes` where Flutter captures a new press of it. -/
inductive Transition (h : Holdings) (raw : Nat) (takes : Prop) : KeyState → Holdings → Bool → Prop
  | ignored (state : KeyState) : Transition h raw takes state h false
  | dispatchPress (record : KeyboardRecord) (hactive : h.flutterActive = true) (hfresh : raw ∉ h.retiredKeyboard)
      (htakes : raw ∈ h.keyboard ∨ takes) (hcode : record.keycode = raw - 8) (hpressed : record.pressed = true) :
      Transition h raw takes .pressed { h with
        keyboard := insert raw h.keyboard
        pressed := insert raw h.pressed
        keys := h.keys ++ [record] } false
  | dispatchRelease (record : KeyboardRecord) (hheld : raw ∈ h.keyboard) (hcode : record.keycode = raw - 8)
      (hreleased : record.pressed = false) :
      Transition h raw takes .released { h with
        keyboard := h.keyboard.erase raw
        pressed := h.pressed.erase raw
        keys := h.keys ++ [record] } false
  | consumePress (hretired : raw ∈ h.retiredKeyboard) :
      Transition h raw takes .pressed { h with pressed := insert raw h.pressed } false
  | consumeRelease (hretired : raw ∈ h.retiredKeyboard) :
      Transition h raw takes .released { h with
        retiredKeyboard := h.retiredKeyboard.erase raw
        pressed := h.pressed.erase raw } false
  | forwardPress (hfresh : raw ∉ h.retiredKeyboard) :
      Transition h raw takes .pressed { h with pressed := insert raw h.pressed } true
  | forwardRelease (hfresh : raw ∉ h.retiredKeyboard) (hheld : raw ∉ h.keyboard) :
      Transition h raw takes .released { h with pressed := h.pressed.erase raw } true

variable {h h' : Holdings} {raw : Nat} {takes : Prop} {state : KeyState} {forwarded : Bool}

theorem Tidy.transition (ht : h.Tidy) (hr : 8 ≤ raw) (hstep : Transition h raw takes state h' forwarded) : h'.Tidy := by
  have hn : ∀ keycode ∈ insert raw h.pressed, 8 ≤ keycode := by
    intro keycode hmem
    rcases Finset.mem_insert.1 hmem with rfl | hmem
    · exact hr
    · exact ht.pressedCoded keycode hmem
  have he : ∀ keycode ∈ h.pressed.erase raw, 8 ≤ keycode := fun keycode hmem =>
    ht.pressedCoded keycode (Finset.mem_of_mem_erase hmem)
  -- a key that is not held leaves the held ones pressed when it is released
  have hs : raw ∉ h.keyboard → h.keyboard ⊆ h.pressed.erase raw := fun hheld keycode hmem =>
    Finset.mem_erase.2 ⟨fun heq => hheld (heq ▸ hmem), ht.seat hmem⟩
  cases hstep with
  | ignored => exact ht
  | dispatchPress record hactive hfresh =>
    refine ⟨Finset.insert_subset_insert _ ht.seat, ?_, ht.inputMethodApart, fun h => ?_, hn, ht.inputMethodCoded⟩
    · exact Finset.disjoint_insert_left.2 ⟨hfresh, ht.keyboardApart⟩
    · rw [hactive] at h; cases h
  | dispatchRelease record hheld =>
    refine ⟨Finset.erase_subset_erase _ ht.seat, ?_, ht.inputMethodApart, fun h => ?_, he, ht.inputMethodCoded⟩
    · exact ht.keyboardApart.mono_left (Finset.erase_subset _ _)
    · rw [(ht.inactive h).1] at hheld; exact absurd hheld (Finset.notMem_empty _)
  | consumePress =>
    exact ⟨ht.seat.trans (Finset.subset_insert _ _), ht.keyboardApart, ht.inputMethodApart, ht.inactive, hn,
      ht.inputMethodCoded⟩
  | consumeRelease hretired =>
    have hheld : raw ∉ h.keyboard := fun hmem => Finset.disjoint_left.1 ht.keyboardApart hmem hretired
    exact ⟨hs hheld, ht.keyboardApart.mono_right (Finset.erase_subset _ _), ht.inputMethodApart, ht.inactive, he,
      ht.inputMethodCoded⟩
  | forwardPress =>
    exact ⟨ht.seat.trans (Finset.subset_insert _ _), ht.keyboardApart, ht.inputMethodApart, ht.inactive, hn,
      ht.inputMethodCoded⟩
  | forwardRelease hfresh hheld =>
    exact ⟨hs hheld, ht.keyboardApart, ht.inputMethodApart, ht.inactive, he, ht.inputMethodCoded⟩

variable {keys : List KeyboardRecord} {record : KeyboardRecord}

theorem told_press {held : Finset Nat}
    (hto : ∀ code, reads (keyStep code) false keys = some (decide (code + 8 ∈ held))) (hr : 8 ≤ raw)
    (hcode : record.keycode = raw - 8) (hpressed : record.pressed = true) (code : Nat) :
    reads (keyStep code) false (keys ++ [record]) = some (decide (code + 8 ∈ insert raw held)) := by
  rw [reads_concat (hto code)]
  by_cases hk : record.keycode = code
  · have : code + 8 = raw := by omega
    rw [keyStep_pressed hk hpressed, this]; simp
  · have : code + 8 ≠ raw := by omega
    rw [keyStep_other hk]; simp [this]

theorem told_release {held : Finset Nat}
    (hto : ∀ code, reads (keyStep code) false keys = some (decide (code + 8 ∈ held))) (hr : 8 ≤ raw)
    (hheld : raw ∈ held) (hcode : record.keycode = raw - 8) (hreleased : record.pressed = false) (code : Nat) :
    reads (keyStep code) false (keys ++ [record]) = some (decide (code + 8 ∈ held.erase raw)) := by
  rw [reads_concat (hto code)]
  by_cases hk : record.keycode = code
  · have : code + 8 = raw := by omega
    rw [this, decide_eq_true hheld, keyStep_released hk hreleased]; simp
  · have : code + 8 ≠ raw := by omega
    rw [keyStep_other hk]; simp [this]

theorem Told.transition (ht : h.Told) (hr : 8 ≤ raw) (hstep : Transition h raw takes state h' forwarded)
    (ho : takes → raw ∉ h.inputMethod) : h'.Told := by
  have hd := ht.toTidy.transition hr hstep
  cases hstep with
  | ignored => exact ht
  | dispatchPress record hactive hfresh htakes hcode hpressed =>
    have hf : raw ∉ h.inputMethod := by
      rcases htakes with hheld | htakes
      · exact Finset.disjoint_left.1 ht.exclusive hheld
      · exact ho htakes
    refine ⟨hd, Finset.disjoint_insert_left.2 ⟨hf, ht.exclusive⟩, fun code => ?_⟩; dsimp only
    rw [told_press ht.told hr hcode hpressed, Finset.insert_union]
  | dispatchRelease record hheld hcode hreleased =>
    have hf : raw ∉ h.inputMethod := Finset.disjoint_left.1 ht.exclusive hheld
    refine ⟨hd, ht.exclusive.mono_left (Finset.erase_subset _ _), fun code => ?_⟩; dsimp only
    rw [told_release ht.told hr (Finset.mem_union_left _ hheld) hcode hreleased, Finset.erase_union_distrib,
      Finset.erase_eq_of_notMem hf]
  | consumePress | consumeRelease | forwardPress | forwardRelease => exact ⟨hd, ht.exclusive, ht.told⟩

theorem Told.virtualPress (ht : h.Told) (record : KeyboardRecord) (hr : 8 ≤ raw) (hactive : h.flutterActive = true)
    (hfresh : raw ∉ h.retiredInputMethod) (hf : raw ∉ h.keyboard) (hcode : record.keycode = raw - 8)
    (hpressed : record.pressed = true) :
    Told { h with inputMethod := insert raw h.inputMethod, keys := h.keys ++ [record] } := by
  refine ⟨⟨ht.seat, ht.keyboardApart, ?_, fun h => ?_, ht.pressedCoded, fun code hmem => ?_⟩, ?_, fun code => ?_⟩
  · exact Finset.disjoint_insert_left.2 ⟨hfresh, ht.inputMethodApart⟩
  · cases hactive.symm.trans h
  · rcases Finset.mem_insert.1 hmem with rfl | hmem
    · exact hr
    · exact ht.inputMethodCoded code hmem
  · exact Finset.disjoint_insert_right.2 ⟨hf, ht.exclusive⟩
  · dsimp only
    rw [told_press ht.told hr hcode hpressed, Finset.union_insert]

theorem Told.virtualRelease (ht : h.Told) (record : KeyboardRecord) (hr : 8 ≤ raw) (hheld : raw ∈ h.inputMethod)
    (hcode : record.keycode = raw - 8) (hreleased : record.pressed = false) :
    Told { h with inputMethod := h.inputMethod.erase raw, keys := h.keys ++ [record] } := by
  have hf : raw ∉ h.keyboard := Finset.disjoint_right.1 ht.exclusive hheld
  refine ⟨⟨ht.seat, ht.keyboardApart, ?_, fun hn => ?_, ht.pressedCoded, fun code hmem => ?_⟩, ?_,
    fun code => ?_⟩
  · exact ht.inputMethodApart.mono_left (Finset.erase_subset _ _)
  · rw [(ht.inactive hn).2] at hheld; exact absurd hheld (Finset.notMem_empty _)
  · exact ht.inputMethodCoded code (Finset.mem_of_mem_erase hmem)
  · exact ht.exclusive.mono_right (Finset.erase_subset _ _)
  · dsimp only
    rw [told_release ht.told hr (Finset.mem_union_right _ hheld) hcode hreleased, Finset.erase_union_distrib,
      Finset.erase_eq_of_notMem hf]

theorem Told.repeated (ht : h.Told) (record : KeyboardRecord) (hheld : raw ∈ h.keyboard)
    (hcode : record.keycode = raw - 8) (hpressed : record.pressed = true) :
    Told { h with keys := h.keys ++ [record] } := by
  have hr : 8 ≤ raw := ht.pressedCoded raw (ht.seat hheld)
  refine ⟨⟨ht.seat, ht.keyboardApart, ht.inputMethodApart, ht.inactive, ht.pressedCoded, ht.inputMethodCoded⟩,
    ht.exclusive, fun code => ?_⟩
  dsimp only
  rw [told_press ht.told hr hcode hpressed, Finset.insert_eq_self.2 (Finset.mem_union_left _ hheld)]

theorem Told.reset (ht : h.Told) {recs : List KeyboardRecord} {pressed retiredKeyboard retiredInputMethod : Finset Nat}
    (hpressed : pressed ⊆ h.pressed) (hreleased : ∀ record ∈ recs, record.pressed = false)
    (hn : (recs.map KeyboardRecord.keycode).Nodup)
    (hmem : ∀ code, code ∈ recs.map KeyboardRecord.keycode ↔ code + 8 ∈ h.keyboard ∪ h.inputMethod) :
    Told ⟨h.flutterActive, ∅, ∅, retiredKeyboard, retiredInputMethod, pressed, h.keys ++ recs⟩ := by
  refine ⟨⟨Finset.empty_subset _, Finset.disjoint_empty_left _, Finset.disjoint_empty_left _, fun _ => ⟨rfl, rfl⟩,
    fun code h => ht.pressedCoded code (hpressed h), fun code h => absurd h (Finset.notMem_empty _)⟩,
    Finset.disjoint_empty_left _, fun code => ?_⟩
  dsimp only
  rw [reads_append, ht.told, Option.bind_some, reads_releases hreleased hn]
  · by_cases hheld : code + 8 ∈ h.keyboard ∪ h.inputMethod
    · rw [decide_eq_true hheld, decide_eq_false (not_not.2 ((hmem code).2 hheld))]; rfl
    · rw [decide_eq_false hheld]; rfl
  · exact fun h => decide_eq_true ((hmem code).1 h)

theorem Transition.retired (hstep : Transition h raw takes state h' forwarded) {code : Nat}
    (hretired : code ∈ h.retiredKeyboard) (ho : code = raw → state = .pressed) : code ∈ h'.retiredKeyboard := by
  cases hstep with
  | consumeRelease => exact Finset.mem_erase.2 ⟨fun heq => (nomatch ho heq), hretired⟩
  | ignored | dispatchPress | dispatchRelease | consumePress | forwardPress | forwardRelease => exact hretired

theorem Transition.swallowed (hstep : Transition h raw takes .released h' forwarded) (ht : h.Tidy)
    (hretired : raw ∈ h.retiredKeyboard) : h'.keys = h.keys ∧ forwarded = false := by
  cases hstep with
  | ignored | consumeRelease => exact ⟨rfl, rfl⟩
  | dispatchRelease record hheld => exact absurd hretired (Finset.disjoint_left.1 ht.keyboardApart hheld)
  | forwardRelease hfresh => exact absurd hretired hfresh

end Holdings

/-! ## Steps -/

namespace KeyFrontend

variable (s : KeyFrontend F)

def Takes (code : Nat) (context : KeyContext) : Prop :=
  s.flutterActive = true ∧ s.intercepts code .pressed context = false ∧ code + 8 ∉ s.retiredKeyboardKeys ∧
    s.capturesNewPress = true

instance (code : Nat) (context : KeyContext) : Decidable (s.Takes code context) :=
  inferInstanceAs (Decidable (_ ∧ _))

def Room (records : Nat) : Prop := s.flutterInput.fixed + records ≤ maxQueuedInputEvents

instance (records : Nat) : Decidable (s.Room records) := inferInstanceAs (Decidable (_ ≤ _))

/-- No key is pressed into Flutter by one keyboard while the other holds it there, a reset finds every key that the
virtual keyboard holds in Flutter pressed on the seat, and the queue has room. -/
def Meets : KeyboardEvent F → Prop
  | .key code .pressed context | .shellKey code .pressed context =>
    (s.Takes code context → code + 8 ∉ s.flutterInputMethodKeys) ∧ s.Room 1
  | .virtualKey code .pressed _ =>
    (s.flutterActive = true ∧ s.flutterEditorActive = true ∧ code + 8 ∉ s.retiredInputMethodKeys →
      code + 8 ∉ s.flutterKeyboardKeys) ∧ s.Room 1
  | .key _ .released _ | .shellKey _ .released _ | .virtualKey _ .released _ | .repeatTimer .. | .pointer _ => s.Room 1
  | .reset _ => s.flutterInputMethodKeys ⊆ s.pressedKeys ∧ s.Room s.pressedKeys.card
  | .replaceGeneration .. | .drain | .setLocked _ | .setShellCapture _ | .setGrab _ | .setEditor _
  | .setShortcuts _ => True

instance (e : KeyboardEvent F) : Decidable (s.Meets e) :=
  match e with
  | .key _ .pressed _ | .shellKey _ .pressed _ => inferInstanceAs (Decidable (_ ∧ _))
  | .virtualKey _ .pressed _ => inferInstanceAs (Decidable (_ ∧ _))
  | .key _ .released _ | .shellKey _ .released _ | .virtualKey _ .released _ | .repeatTimer .. | .pointer _ =>
    inferInstanceAs (Decidable (s.Room 1))
  | .reset _ => inferInstanceAs (Decidable (_ ∧ _))
  | .replaceGeneration .. | .drain | .setLocked _ | .setShellCapture _ | .setGrab _ | .setEditor _
  | .setShortcuts _ => inferInstanceAs (Decidable True)

def ReleasesAt (code : Nat) : KeyboardEvent F → Prop
  | .key code' .released _ | .shellKey code' .released _ => code' = code
  | _ => False

def keyRecord (keycode : Nat) (state : KeyState) (context : KeyContext) : KeyboardRecord :=
  ⟨keycode - 8, context.unicode, context.modifiers, state == .pressed⟩

variable {s}

theorem followRepeat_frame (code : Nat) (state : KeyState) (ctx : KeyContext) :
    (s.followRepeat code state ctx).holdings = s.holdings ∧
      (s.followRepeat code state ctx).forwarded = s.forwarded := by
  unfold followRepeat startFlutterRepeat cancelFlutterRepeat; split
  · split <;> exact ⟨rfl, rfl⟩
  · split <;> exact ⟨rfl, rfl⟩

theorem holdings_dispatch (hr : s.Room 1) (code : Nat) (state : KeyState) (ctx : KeyContext) :
    (s.dispatchToFlutter code state ctx).holdings =
      { s.holdings with keys := s.keys ++ [keyRecord code state ctx] } := by
  have hk : (s.dispatchToFlutter code state ctx).keys = s.keys ++ [keyRecord code state ctx] :=
    keys_push s.seen s.flutterInput _ hr
  rw [← hk]; rfl

theorem processFlutterKeyboardTransition_spec (ht : s.holdings.Tidy) (hactive : s.flutterActive = true)
    (hm : s.Room 1) {raw : Nat} {state : KeyState} {ctx : KeyContext} {takes : Prop}
    (htakes : raw ∉ s.retiredKeyboardKeys → s.capturesNewPress = true → state = .pressed → takes) :
    ∃ forwarded, s.holdings.Transition raw takes state
        (s.processFlutterKeyboardTransition raw state ctx).holdings forwarded ∧
      (s.processFlutterKeyboardTransition raw state ctx).forwarded =
        if forwarded then s.forwarded ++ [(raw, state)] else s.forwarded := by
  unfold processFlutterKeyboardTransition
  rcases routeFlutterKeyTransition_cases s.flutterKeyboardKeys s.retiredKeyboardKeys raw state
    (state == .pressed && s.capturesNewPress) ht.keyboardApart with
    ⟨hretired, hr⟩ | ⟨hfresh, rfl, hca, hr⟩ | ⟨hfresh, rfl, hheld, hr⟩ | ⟨hfresh, hheld, hr⟩
  · rw [hr]
    refine ⟨false, ?_, rfl⟩
    cases state with
    | pressed => exact .consumePress hretired
    | released => exact .consumeRelease hretired
  · rw [hr]
    refine ⟨false, ?_, (followRepeat_frame ..).2⟩; dsimp only
    rw [(followRepeat_frame ..).1, holdings_dispatch]
    · have hs : raw ∈ s.flutterKeyboardKeys ∨ takes :=
        hca.imp_right fun h => htakes hfresh (by simpa using h) rfl
      exact .dispatchPress (keyRecord raw .pressed ctx) hactive hfresh hs rfl rfl
    · exact hm
  · rw [hr]
    refine ⟨false, ?_, (followRepeat_frame ..).2⟩; dsimp only
    rw [(followRepeat_frame ..).1, holdings_dispatch]
    · exact .dispatchRelease (keyRecord raw .released ctx) hheld rfl rfl
    · exact hm
  · rw [hr]
    refine ⟨true, ?_, rfl⟩
    cases state with
    | pressed => exact .forwardPress hfresh
    | released => exact .forwardRelease hfresh hheld

theorem processWaylandKeyboardTransition_spec (ht : s.holdings.Tidy) (hn : s.flutterActive = false) {raw : Nat}
    {state : KeyState} {takes : Prop} : ∃ forwarded, s.holdings.Transition raw takes state
        (s.processWaylandKeyboardTransition raw state).holdings forwarded ∧
      (s.processWaylandKeyboardTransition raw state).forwarded =
        if forwarded then s.forwarded ++ [(raw, state)] else s.forwarded := by
  have hheld : raw ∉ s.flutterKeyboardKeys := by
    have := (ht.inactive hn).1
    intro hmem
    rw [show s.flutterKeyboardKeys = ∅ from this] at hmem; exact absurd hmem (Finset.notMem_empty _)
  unfold processWaylandKeyboardTransition retiredKeyConsumesTransition
  by_cases hretired : raw ∈ s.retiredKeyboardKeys
  · refine ⟨false, ?_, ?_⟩
    · cases state with
      | pressed => exact .consumePress hretired
      | released => exact .consumeRelease hretired
    · cases state <;> simp [seatInput, hretired]
  · refine ⟨true, ?_, ?_⟩
    · cases state with
      | pressed => exact .forwardPress hretired
      | released =>
        have hs : s.retiredKeyboardKeys.erase raw = s.retiredKeyboardKeys := Finset.erase_eq_of_notMem hretired
        dsimp only
        rw [hs]; exact .forwardRelease hretired hheld
    · cases state <;> simp [seatInput, hretired]

theorem processKeyboardTransition_spec (ht : s.holdings.Tidy) (hr : s.Room 1) (code : Nat) (state : KeyState)
    (ctx : KeyContext) : ∃ forwarded, s.holdings.Transition (code + 8) (state = .pressed ∧ s.Takes code ctx) state
        (s.processKeyboardTransition code state ctx).holdings forwarded ∧
      (s.processKeyboardTransition code state ctx).forwarded =
        if forwarded then s.forwarded ++ [(code + 8, state)] else s.forwarded := by
  unfold processKeyboardTransition; dsimp only
  generalize hn : s.nativeEscapeShortcut.intercept code (state == .pressed) s.secureSessionLocked
    ctx.answer = intercepted
  split
  · exact ⟨false, .ignored state, rfl⟩
  rename_i hs; split
  · rename_i hactive
    refine processFlutterKeyboardTransition_spec (s := { s with nativeEscapeShortcut := intercepted.1 }) ht hactive
      hr ?_
    rintro hfresh hca rfl
    refine ⟨rfl, hactive, ?_, hfresh, hca⟩; unfold intercepts
    rw [hn]
    simpa using hs
  · rename_i hin; split
    · exact ⟨false, .ignored state, rfl⟩
    · exact processWaylandKeyboardTransition_spec (s := { s with nativeEscapeShortcut := intercepted.1 }) ht
        (by simpa using hin)

theorem processKey_spec (ht : s.holdings.Tidy) (hr : s.Room 1) (code : Nat) (state : KeyState)
    (ctx : KeyContext) : ∃ forwarded, s.holdings.Transition (code + 8) (state = .pressed ∧ s.Takes code ctx) state
        (s.processKey code state ctx).holdings forwarded ∧ (s.processKey code state ctx).forwarded =
        if forwarded then s.forwarded ++ [(code + 8, state)] else s.forwarded := by
  unfold processKey; split
  · exact ⟨false, .ignored state, rfl⟩
  · exact processKeyboardTransition_spec ht hr code state ctx

theorem injectShellKeyTransition_spec (ht : s.holdings.Tidy) (hr : s.Room 1) (code : Nat) (state : KeyState)
    (ctx : KeyContext) : ∃ forwarded, s.holdings.Transition (code + 8) (state = .pressed ∧ s.Takes code ctx) state
        (s.injectShellKeyTransition code state ctx).holdings forwarded := by
  unfold injectShellKeyTransition; dsimp only
  generalize routeShellKeyTransition s.shellKeyboardKeys (code + 8) state (code + 8 ∈ s.pressedKeys) = route
  split
  · obtain ⟨forwarded, hstep, -⟩ := processKeyboardTransition_spec (s := { s with shellKeyboardKeys := route.1 }) ht
      hr code state ctx
    exact ⟨forwarded, hstep⟩
  · exact ⟨false, .ignored state⟩

theorem dispatchInputMethodKey_told (ht : s.holdings.Told) (hm : s.Room 1) (code : Nat) (state : KeyState)
    (ctx : KeyContext) (ho : state = .pressed ∧ s.flutterActive = true ∧ s.flutterEditorActive = true ∧
      code + 8 ∉ s.retiredInputMethodKeys → code + 8 ∉ s.flutterKeyboardKeys) :
    (s.dispatchInputMethodKey (code + 8) state ctx).holdings.Told := by
  have hactive : code + 8 ∈ s.flutterInputMethodKeys → s.flutterActive = true := by
    intro hmem
    by_contra hn
    have hno := (ht.inactive (Bool.eq_false_iff.2 hn)).2
    rw [show s.flutterInputMethodKeys = ∅ from hno] at hmem; exact absurd hmem (Finset.notMem_empty _)
  unfold dispatchInputMethodKey routeInputMethodKeyTransition
  rcases routeFlutterKeyTransition_cases s.flutterInputMethodKeys s.retiredInputMethodKeys (code + 8) state
    ((s.flutterActive && s.flutterEditorActive) && state == .pressed) ht.inputMethodApart with
    ⟨hretired, hr⟩ | ⟨hfresh, rfl, hca, hr⟩ | ⟨hfresh, rfl, hheld, hr⟩ | ⟨hfresh, hheld, hr⟩
  · rw [hr]
    refine ⟨⟨ht.seat, ht.keyboardApart, ?_, ht.inactive, ht.pressedCoded, ht.inputMethodCoded⟩, ht.exclusive, ht.told⟩
    refine ht.inputMethodApart.mono_right ?_
    dsimp only [holdings]; split
    · exact Finset.erase_subset _ _
    · exact Finset.Subset.refl _
  · have hk : s.flutterActive = true ∧ code + 8 ∉ s.flutterKeyboardKeys := by
      rcases hca with hheld | hca
      · exact ⟨hactive hheld, Finset.disjoint_right.1 ht.exclusive hheld⟩
      · simp only [Bool.and_eq_true] at hca
        exact ⟨hca.1.1, ho ⟨rfl, hca.1.1, hca.1.2, hfresh⟩⟩
    rw [hr]; dsimp only
    rw [if_pos hk.1, holdings_dispatch]
    swap
    · exact hm
    exact ht.virtualPress (keyRecord (code + 8) .pressed ctx) (Nat.le_add_left 8 code) hk.1 hfresh
      hk.2 rfl rfl
  · rw [hr]; dsimp only
    rw [if_pos (hactive hheld), holdings_dispatch]
    swap
    · exact hm
    exact ht.virtualRelease (keyRecord (code + 8) .released ctx) (Nat.le_add_left 8 code) hheld rfl rfl
  · rw [hr]; exact ht

theorem Room.mono {n m : Nat} (h : s.Room m) (hle : n ≤ m) : s.Room n := le_trans (Nat.add_le_add_left hle _) h

theorem room_dispatch {records : Nat} (hr : s.Room (records + 1)) (code : Nat) (state : KeyState)
    (ctx : KeyContext) : (s.dispatchToFlutter code state ctx).Room records := by
  unfold Room InputQueue.fixed at *
  have hlt : fixed InputRecord.replaceableMotionDevice s.flutterInput.events < maxQueuedInputEvents := by omega
  have hs := fixed_pushBounded_le (.keyboard (keyRecord code state ctx) : InputRecord F) hlt
  exact le_trans (Nat.add_le_add_right hs _) (by omega)

def released (s : KeyFrontend F) (context : Nat → KeyContext) (keycodes : List Nat) : List KeyboardRecord :=
  (keycodes.filter fun keycode => (keycode ∈ s.flutterKeyboardKeys || keycode ∈ s.flutterInputMethodKeys) &&
    s.flutterActive).map fun keycode => keyRecord keycode .released (context keycode)

theorem releasePressed_loop (ctx : Nat → KeyContext) : ∀ (ks : List Nat) (t : KeyFrontend F),
    t.Room ks.length → t.flutterActive = s.flutterActive → ∃ pressed ⊆ t.pressedKeys,
      (ks.foldl (fun t keycode => t.releasePressed (keycode ∈ s.flutterKeyboardKeys)
          (keycode ∈ s.flutterInputMethodKeys) (keycode ∈ s.retiredKeyboardKeys) keycode (ctx keycode)) t).holdings
          =
        { t.holdings with pressed := pressed, keys := t.keys ++ s.released ctx ks }
  | [], t, _, _ => ⟨t.pressedKeys, Finset.Subset.refl _, by simp [released, holdings]⟩
  | keycode :: ks, t, hr, hactive => by
    rw [List.foldl_cons]
    generalize hstep : t.releasePressed (keycode ∈ s.flutterKeyboardKeys) (keycode ∈ s.flutterInputMethodKeys)
      (keycode ∈ s.retiredKeyboardKeys) keycode (ctx keycode) = t'
    have ho : t.Room 1 := hr.mono (by simp)
    have hf : t'.holdings = { t.holdings with
        pressed := t.pressedKeys.erase keycode
        keys := t.keys ++ s.released ctx [keycode] } ∧ t'.Room ks.length := by
      subst hstep; unfold releasePressed
      dsimp only
      by_cases hto : ((decide (keycode ∈ s.flutterKeyboardKeys) || decide (keycode ∈ s.flutterInputMethodKeys)) &&
          s.flutterActive) = true
      · rw [if_pos (by rw [← hto, ← hactive]; rfl), holdings_dispatch]
        swap
        · exact ho
        refine ⟨?_, room_dispatch hr keycode .released (ctx keycode)⟩
        simp only [released, List.filter_cons, hto, if_true]; rfl
      · rw [if_neg (by rw [hactive.symm] at hto; exact hto)]
        refine ⟨?_, hr.mono (Nat.le_succ _)⟩
        simp only [released, List.filter_cons, hto, Bool.false_eq_true, if_false, List.filter_nil, List.map_nil,
          List.append_nil]
        rfl
    obtain ⟨pressed, hsu, hs⟩ := releasePressed_loop ctx ks t' hf.2
      (by rw [← hactive]; exact congrArg Holdings.flutterActive hf.1)
    have hpressed : t'.pressedKeys = t.pressedKeys.erase keycode := congrArg Holdings.pressed hf.1
    have hk : t'.keys = t.keys ++ s.released ctx [keycode] := congrArg Holdings.keys hf.1
    refine ⟨pressed, hsu.trans (hpressed ▸ Finset.erase_subset _ _), ?_⟩
    rw [hs, hf.1, hk, List.append_assoc]; unfold released
    rw [← List.map_append, ← List.filter_append, List.singleton_append]

theorem resetKeyboard_spec (ht : s.holdings.Told) (hs : s.flutterInputMethodKeys ⊆ s.pressedKeys)
    (hr : s.Room s.pressedKeys.card) (ctx : Nat → KeyContext) : ∃ released,
      (s.resetKeyboard ctx).keys = s.keys ++ released ∧ (∀ record ∈ released, record.pressed = false) ∧
      (∀ code, (released.map KeyboardRecord.keycode).count code = if code + 8 ∈ s.flutterKeys then 1 else 0) ∧
      (s.resetKeyboard ctx).holdings.Told ∧
      (s.resetKeyboard ctx).retiredKeyboardKeys = s.retiredKeyboardKeys ∪ s.pressedKeys ∪ s.flutterKeyboardKeys ∧
      (s.resetKeyboard ctx).flutterKeys = ∅ := by
  have hco := ht.pressedCoded
  have hactive : ∀ code ∈ s.flutterKeys, s.flutterActive = true := by
    intro code hmem
    by_contra hin
    obtain ⟨hk, him⟩ := ht.inactive (Bool.eq_false_iff.2 hin)
    have hno : s.flutterKeys = ∅ := by
      show s.holdings.keyboard ∪ s.holdings.inputMethod = ∅
      rw [hk, him, Finset.union_empty]
    rw [hno] at hmem; exact absurd hmem (Finset.notMem_empty _)
  have hke : ∀ code, code ∈ s.flutterKeys → code ∈ s.pressedKeys := by
    intro code hmem
    rcases Finset.mem_union.1 hmem with hmem | hmem
    · exact ht.seat hmem
    · exact hs hmem
  set recs := s.released ctx (s.pressedKeys.sort (· ≤ ·)) with hrec
  have hreleased : ∀ record ∈ recs, record.pressed = false := by
    intro record hmem
    obtain ⟨code, -, rfl⟩ := List.mem_map.1 hmem; rfl
  have hd : recs.map KeyboardRecord.keycode = ((s.pressedKeys.sort (· ≤ ·)).filter fun code =>
      (code ∈ s.flutterKeyboardKeys || code ∈ s.flutterInputMethodKeys) && s.flutterActive).map (· - 8) := by
    rw [hrec, released, List.map_map]; rfl
  have hmem : ∀ code, code ∈ recs.map KeyboardRecord.keycode ↔ code + 8 ∈ s.flutterKeys := by
    intro code; rw [hd, List.mem_map]
    constructor
    · rintro ⟨raw, hw, rfl⟩
      obtain ⟨hpressed, hheld⟩ := List.mem_filter.1 hw
      have := hco raw ((Finset.mem_sort _).1 hpressed)
      rw [Nat.sub_add_cancel this]
      simp only [Bool.and_eq_true, Bool.or_eq_true, decide_eq_true_eq] at hheld
      exact Finset.mem_union.2 hheld.1
    · intro hheld
      refine ⟨code + 8, List.mem_filter.2 ⟨(Finset.mem_sort _).2 (hke _ hheld), ?_⟩, Nat.add_sub_cancel _ _⟩
      simp only [Bool.and_eq_true, Bool.or_eq_true, decide_eq_true_eq]
      exact ⟨Finset.mem_union.1 hheld, hactive _ hheld⟩
  have hn : (recs.map KeyboardRecord.keycode).Nodup := by
    rw [hd]
    refine List.Nodup.map_on ?_ ((Finset.sort_nodup _ _).filter _); intro a ha b hb hab
    have ha := hco a ((Finset.mem_sort _).1 (List.mem_filter.1 ha).1)
    have hb := hco b ((Finset.mem_sort _).1 (List.mem_filter.1 hb).1); omega
  obtain ⟨pressed, hsu, hlo⟩ := releasePressed_loop (s := s) ctx (s.pressedKeys.sort (· ≤ ·))
    ({ s with nativeEscapeShortcut := resetShortcuts s.nativeEscapeShortcut }.cancelFlutterRepeat.retireKeys)
    (by rw [Finset.length_sort]; exact hr) rfl
  have hh : (s.resetKeyboard ctx).holdings = ⟨s.flutterActive, ∅, ∅,
      s.retiredKeyboardKeys ∪ s.pressedKeys ∪ s.flutterKeyboardKeys,
      s.retiredInputMethodKeys ∪ s.flutterInputMethodKeys, pressed, s.keys ++ recs⟩ := hlo
  refine ⟨recs, congrArg Holdings.keys hh, hreleased, fun code => ?_, ?_,
    congrArg Holdings.retiredKeyboard hh, ?_⟩
  · rw [hn.count]
    simp [hmem]
  · rw [hh]; exact ht.reset hsu hreleased hn hmem
  · show (s.resetKeyboard ctx).holdings.keyboard ∪ (s.resetKeyboard ctx).holdings.inputMethod = ∅
    rw [hh]; rfl

/-! ## Runs -/

theorem told_next [InputArith F] (s : KeyFrontend F) (e : KeyboardEvent F) (ht : s.holdings.Told) (hm : s.Meets e) :
    (s.next e).holdings.Told := by
  have hs : ∀ {code : Nat} {state : KeyState} {ctx : KeyContext} {t : KeyFrontend F} {forwarded : Bool},
      s.holdings.Transition (code + 8) (state = .pressed ∧ s.Takes code ctx) state t.holdings forwarded →
      (state = .pressed → s.Takes code ctx → code + 8 ∉ s.flutterInputMethodKeys) → t.holdings.Told :=
    fun hstep ho => ht.transition (Nat.le_add_left 8 _) hstep fun htakes => ho htakes.1 htakes.2
  cases e with
  | key code state ctx =>
    cases state with
    | pressed =>
      obtain ⟨forwarded, hstep, -⟩ := processKey_spec ht.toTidy hm.2 code .pressed ctx
      exact hs hstep fun _ => hm.1
    | released =>
      obtain ⟨forwarded, hstep, -⟩ := processKey_spec ht.toTidy hm code .released ctx
      exact hs hstep nofun
  | shellKey code state ctx =>
    cases state with
    | pressed =>
      obtain ⟨forwarded, hstep⟩ := injectShellKeyTransition_spec ht.toTidy hm.2 code .pressed ctx
      exact hs hstep fun _ => hm.1
    | released =>
      obtain ⟨forwarded, hstep⟩ := injectShellKeyTransition_spec ht.toTidy hm code .released ctx
      exact hs hstep nofun
  | virtualKey code state ctx =>
    cases state with
    | pressed => exact dispatchInputMethodKey_told ht hm.2 code .pressed ctx fun h => hm.1 h.2
    | released => exact dispatchInputMethodKey_told ht hm code .released ctx nofun
  | repeatTimer generation k ctx =>
    show (s.dispatchFlutterRepeat generation k ctx).holdings.Told; unfold dispatchFlutterRepeat
    split
    · rename_i hr; rw [holdings_dispatch hm]
      exact ht.repeated (keyRecord k .pressed ctx) hr.2.2.2 rfl rfl
    · exact ht
  | reset ctx =>
    obtain ⟨released, -, -, -, hto, -⟩ := resetKeyboard_spec ht hm.1 hm.2 ctx; exact hto
  | replaceGeneration width height =>
    exact ⟨⟨Finset.empty_subset _, Finset.disjoint_empty_left _, Finset.disjoint_empty_left _, fun _ => ⟨rfl, rfl⟩,
      ht.pressedCoded, fun k h => absurd h (Finset.notMem_empty _)⟩, Finset.disjoint_empty_left _, fun _ => rfl⟩
  | drain =>
    have hk : (s.next .drain).keys = s.keys := by
      show ((s.seen ++ s.flutterInput.events.take _) ++ s.flutterInput.events.drop _).filterMap _ = _
      rw [List.append_assoc, List.take_append_drop]; rfl
    have hh : (s.next .drain).holdings = s.holdings := by
      show Holdings.mk _ _ _ _ _ _ (s.next .drain).keys = _
      rw [hk]; rfl
    rw [hh]; exact ht
  | pointer record =>
    have hk : (s.next (.pointer record)).keys = s.keys := by
      refine (keys_push s.seen s.flutterInput (.pointer record) hm).trans ?_
      rw [InputRecord.keyboard?, Option.toList_none, List.append_nil]; rfl
    have hh : (s.next (.pointer record)).holdings = s.holdings := by
      show Holdings.mk _ _ _ _ _ _ (s.next (.pointer record)).keys = _
      rw [hk]; rfl
    rw [hh]; exact ht
  | setLocked | setShellCapture | setGrab | setEditor | setShortcuts => exact ht

theorem retired_next [InputArith F] {code : Nat} (s : KeyFrontend F) (e : KeyboardEvent F) (ht : s.holdings.Told)
    (hm : s.Meets e) (hretired : code + 8 ∈ s.retiredKeyboardKeys) (ho : ¬ReleasesAt code e) :
    code + 8 ∈ (s.next e).retiredKeyboardKeys := by
  cases e with
  | key code' state ctx =>
    have hr : s.Room 1 := by
      cases state with
      | pressed => exact hm.2
      | released => exact hm
    obtain ⟨forwarded, hstep, -⟩ := processKey_spec ht.toTidy hr code' state ctx
    refine hstep.retired hretired fun heq => ?_
    cases state with
    | pressed => rfl
    | released => exact absurd (Nat.add_right_cancel heq).symm ho
  | shellKey code' state ctx =>
    have hr : s.Room 1 := by
      cases state with
      | pressed => exact hm.2
      | released => exact hm
    obtain ⟨forwarded, hstep⟩ := injectShellKeyTransition_spec ht.toTidy hr code' state ctx
    refine hstep.retired hretired fun heq => ?_
    cases state with
    | pressed => rfl
    | released => exact absurd (Nat.add_right_cancel heq).symm ho
  | virtualKey code' state ctx =>
    show code + 8 ∈ (s.dispatchInputMethodKey (code' + 8) state ctx).retiredKeyboardKeys
    unfold dispatchInputMethodKey; dsimp only
    split
    · exact hretired
    · exact hretired
    · split <;> exact hretired
  | repeatTimer generation k ctx =>
    show code + 8 ∈ (s.dispatchFlutterRepeat generation k ctx).retiredKeyboardKeys
    unfold dispatchFlutterRepeat
    split <;> exact hretired
  | reset ctx =>
    obtain ⟨released, -, -, -, -, hk, -⟩ := resetKeyboard_spec ht hm.1 hm.2 ctx
    show code + 8 ∈ (s.resetKeyboard ctx).retiredKeyboardKeys; rw [hk]
    exact Finset.mem_union_left _ (Finset.mem_union_left _ hretired)
  | replaceGeneration width height => exact Finset.mem_union_left _ hretired
  | drain | pointer | setLocked | setShellCapture | setGrab | setEditor | setShortcuts => exact hretired

def start [InputArith F] (flutterActive : Bool) (engine : ShortcutEngine) (width height : Nat) : KeyFrontend F where
  flutterActive := flutterActive
  nativeEscapeShortcut := engine
  flutterInput := .new width height

theorem start_told [InputArith F] (fa : Bool) (e : ShortcutEngine) (width height : Nat) :
    (start (F := F) fa e width height).holdings.Told :=
  ⟨⟨Finset.empty_subset _, Finset.disjoint_empty_left _, Finset.disjoint_empty_left _, fun _ => ⟨rfl, rfl⟩,
    fun _ h => absurd h (Finset.notMem_empty _), fun _ h => absurd h (Finset.notMem_empty _)⟩,
    Finset.disjoint_empty_left _, fun _ => rfl⟩

theorem held_iff (ht : s.holdings.Told) (code : Nat) : Held s.keys code ↔ code + 8 ∈ s.flutterKeys := by
  unfold Held
  rw [show s.keys = s.holdings.keys from rfl, ht.told, Option.some.injEq, decide_eq_true_iff]; rfl

theorem release_swallowed [InputArith F] (ht : s.holdings.Told) {code : Nat}
    (hretired : code + 8 ∈ s.retiredKeyboardKeys) (hr : s.Room 1) (ctx : KeyContext) :
    (s.next (.key code .released ctx)).keys = s.keys ∧ (s.next (.key code .released ctx)).forwarded = s.forwarded := by
  obtain ⟨forwarded, hstep, hf⟩ := processKey_spec ht.toTidy hr code .released ctx
  obtain ⟨hk, rfl⟩ := hstep.swallowed ht.toTidy hretired; exact ⟨hk, hf⟩

def after [InputArith F] (flutterActive : Bool) (engine : ShortcutEngine) (width height : Nat)
    (es : List (KeyboardEvent F)) : KeyFrontend F := exec next (start flutterActive engine width height) es

/-- Every step of the run meets the condition. -/
def AllMeet [InputArith F] (flutterActive : Bool) (engine : ShortcutEngine) (width height : Nat)
    (es : List (KeyboardEvent F)) : Prop := Along next Meets (start flutterActive engine width height) es

instance [InputArith F] (flutterActive : Bool) (engine : ShortcutEngine) (width height : Nat)
    (es : List (KeyboardEvent F)) : Decidable (AllMeet flutterActive engine width height es) :=
  inferInstanceAs (Decidable (Along _ _ _ _))

/-- In every run that meets the condition, the presses and releases of each key take turns; a reset releases in Flutter
each key it holds, once, and leaves none held; and the next release of such a key at the seat is given to nobody. -/
theorem keys_released_once [InputArith F] (flutterActive : Bool) (engine : ShortcutEngine) (width height : Nat)
    (es : List (KeyboardEvent F)) (hrun : AllMeet flutterActive engine width height es) :
    Alternates (after flutterActive engine width height es).keys ∧
      ∀ context, AllMeet flutterActive engine width height (es ++ [.reset context]) →
        (∃ released, (after flutterActive engine width height (es ++ [.reset context])).keys =
            (after flutterActive engine width height es).keys ++ released ∧
          (∀ record ∈ released, record.pressed = false) ∧
          ∀ keycode, (released.map KeyboardRecord.keycode).count keycode =
            if Held (after flutterActive engine width height es).keys keycode then 1 else 0) ∧
        (∀ keycode, ¬Held (after flutterActive engine width height (es ++ [.reset context])).keys keycode) ∧
        ∀ keycode, Held (after flutterActive engine width height es).keys keycode → ∀ fs release,
          AllMeet flutterActive engine width height
            (es ++ [.reset context] ++ fs ++ [.key keycode .released release]) → (∀ f ∈ fs, ¬ReleasesAt keycode f) →
          (after flutterActive engine width height
              (es ++ [.reset context] ++ fs ++ [.key keycode .released release])).keys =
            (after flutterActive engine width height (es ++ [.reset context] ++ fs)).keys ∧
          (after flutterActive engine width height
              (es ++ [.reset context] ++ fs ++ [.key keycode .released release])).forwarded =
            (after flutterActive engine width height (es ++ [.reset context] ++ fs)).forwarded := by
  have htol := exec_invariant_along (I := fun s : KeyFrontend F => s.holdings.Told) (fun s e ht => told_next s e ht)
    (start_told flutterActive engine width height) hrun
  unfold AllMeet at hrun ⊢; unfold after
  generalize (start flutterActive engine width height : KeyFrontend F) = s₀ at hrun htol ⊢
  refine ⟨fun keycode => ?_, fun context hres => ?_⟩
  · rw [show (exec next s₀ es).keys = (exec next s₀ es).holdings.keys from rfl, htol.told keycode]; rfl
  have hmeet : (exec next s₀ es).Meets (.reset context) := (along_append.1 hres).2.1
  obtain ⟨released, hkeys, hreleased, hcoun, htol', hretired, hnon⟩ :=
    resetKeyboard_spec htol hmeet.1 hmeet.2 context
  simp only [exec_append _ s₀, exec_cons, exec_nil] at *
  refine ⟨⟨released, hkeys, hreleased, fun keycode => ?_⟩, fun keycode hheld => ?_,
    fun keycode hheld fs release hrun hoth => ?_⟩
  · rw [hcoun]
    simp [held_iff htol]
  · have hheld := (held_iff htol' keycode).1 hheld
    rw [hnon] at hheld; exact absurd hheld (Finset.notMem_empty _)
  · -- what Flutter held was pressed on the seat, so the reset retired it
    have hseat : keycode + 8 ∈ ((exec next s₀ es).resetKeyboard context).retiredKeyboardKeys := by
      rw [hretired]
      rcases Finset.mem_union.1 ((held_iff htol keycode).1 hheld) with hmem | hmem
      · exact Finset.mem_union_right _ hmem
      · exact Finset.mem_union_left _ (Finset.mem_union_right _ (hmeet.1 hmem))
    obtain ⟨hbef, hlas, -⟩ := along_append.1 hrun
    obtain ⟨-, hfs⟩ := along_append.1 hbef
    simp only [exec_append _ s₀, exec_cons, exec_nil] at hlas hfs
    obtain ⟨ht, hstil⟩ := exec_invariant_along
      (I := fun s : KeyFrontend F => s.holdings.Told ∧ keycode + 8 ∈ s.retiredKeyboardKeys)
      (fun s e hs he => ⟨told_next s e hs.1 he.1, retired_next s e hs.1 he.1 hs.2 he.2⟩) ⟨htol', hseat⟩
      (hfs.and (along_of_forall hoth))
    exact release_swallowed ht hstil hlas release

/-- One key is the shell's, and one comes back from an input method that has the keyboard. -/
def typed : List (KeyboardEvent Float) :=
  [.setShellCapture true, .setEditor true, .key 30 .pressed {}, .setGrab true, .key 31 .pressed {},
    .virtualKey 31 .pressed {}]

theorem typed_keys_released :
    Held (after true (.fromBindings []) 1920 1080 typed).keys 30 ∧
      Held (after true (.fromBindings []) 1920 1080 typed).keys 31 ∧
      ∀ keycode, ¬Held (after true (.fromBindings []) 1920 1080 (typed ++ [.reset fun _ => {}])).keys keycode := by
  refine ⟨by decide +kernel, by decide +kernel, ?_⟩
  exact ((keys_released_once true (.fromBindings []) 1920 1080 typed (by decide +kernel)).2 (fun _ => {})
    (by decide +kernel)).2.1

/-- A key of the virtual keyboard that the seat does not have pressed is held past a reset: it is retired, and its own
release is consumed. -/
theorem virtual_key_held_past_reset :
    ¬∀ (es : List (KeyboardEvent Float)) (context : Nat → KeyContext) (keycode : Nat),
      ¬Held (after true (.fromBindings []) 1920 1080 (es ++ [.reset context])).keys keycode := by
  intro h
  have hheld : Held (after true (.fromBindings []) 1920 1080
      ([.setEditor true, .virtualKey 30 .pressed {}, .reset (fun _ => {}), .virtualKey 30 .released {}] ++
        [.reset fun _ => {}] : List (KeyboardEvent Float))).keys 30 := by decide +kernel
  exact h _ _ _ hheld

end KeyFrontend

end Deniald.Input
