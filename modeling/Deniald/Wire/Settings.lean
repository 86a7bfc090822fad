/-
Requests for the settings and shortcut stores on the wire (wire/decode.rs, `decode_settings_request`), and the bindings
that the shell can send back as they were sent to it. One visible slip: the decoder knows no action of workspaces.
-/
import Deniald.Wire.Shortcuts

namespace Deniald.Wire

open Deniald.Lib Deniald.Settings Deniald.Shortcut

/-! ## Requests -/

structure KeyboardLayoutTable where
  layout : Option String
  variant : Option String
  displayName : Option String

structure KeyboardConfiguration where
  layouts : Option (List KeyboardLayoutTable)
  options : Option (List String)
  repeatDelayMs : UInt32
  repeatRateHz : UInt32

/-- Touchpad settings as they are sent: their numbers are checked when an update is prepared. -/
structure TouchpadConfiguration where
  tapToClickEnabled : Bool
  naturalScrollEnabled : Bool
  scrollSpeedFactor : F64

structure MouseConfiguration where
  speed : F64

inductive SettingsRequestKind where
  | readDocument
  | writeDocument
  | readKeyboard
  | configureKeyboard
  | readShortcuts
  | validateShortcut
  | addShortcut
  | updateShortcut
  | removeShortcut
  | restoreShortcuts
  | readInputDevices
  | configureTouchpad
  | configureMouse
  | unknown

structure SettingsRequest where
  kind : SettingsRequestKind
  expectedRevision : UInt64 := 0
  document : Option String := none
  keyboard : Option KeyboardConfiguration := none
  shortcut : Option ShortcutBindingTable := none
  existingShortcut : Option String := none
  touchpad : Option TouchpadConfiguration := none
  mouse : Option MouseConfiguration := none

inductive SettingsCommand where
  | readDocument (requestId : UInt64)
  | writeDocument (requestId expectedRevision : UInt64) (document : String)
  | readKeyboard (requestId : UInt64)
  | configureKeyboard (requestId expectedRevision : UInt64) (keyboard : KeyboardSettings)
  | readShortcuts (requestId : UInt64)
  | validateShortcut (requestId : UInt64) (shortcut : ShortcutBinding) (existingShortcut : Option String)
  | addShortcut (requestId expectedRevision : UInt64) (shortcut : ShortcutBinding)
  | updateShortcut (requestId expectedRevision : UInt64) (existingShortcut : String) (shortcut : ShortcutBinding)
  | removeShortcut (requestId expectedRevision : UInt64) (shortcut : String)
  | restoreShortcuts (requestId expectedRevision : UInt64)
  | readInputDevices (requestId : UInt64)
  | configureTouchpad (requestId expectedRevision : UInt64) (touchpad : TouchpadConfiguration)
  | configureMouse (requestId expectedRevision : UInt64) (mouse : MouseConfiguration)

/-- `MAX_SETTINGS_DOCUMENT_BYTES`. -/
def maxSettingsDocumentBytes : Nat := 256 * 1024

/-! ## Decoding -/

inductive RequestField where
  | document
  | keyboard
  | shortcut
  | existingShortcut
  | touchpad
  | mouse

def SettingsRequest.has (request : SettingsRequest) : RequestField → Bool
  | .document => request.document.isSome
  | .keyboard => request.keyboard.isSome
  | .shortcut => request.shortcut.isSome
  | .existingShortcut => request.existingShortcut.isSome
  | .touchpad => request.touchpad.isSome
  | .mouse => request.mouse.isSome

def SettingsRequest.plain (request : SettingsRequest) (revised : Bool) (without : List RequestField) : Bool :=
  revised == (request.expectedRevision != 0) && without.all fun field => !request.has field

def required {α : Type} (value : Option α) (error : WireError) : Except WireError α :=
  match value with
  | none => .error error
  | some value => .ok value

def decodeLayout (layout : KeyboardLayoutTable) : Except WireError KeyboardLayout :=
  if layout.displayName.any fun name => !name.isEmpty then .error .payload
  else do return { layout := ← required layout.layout .string, variant := layout.variant.getD "" }

def decodeKeyboardSettings (keyboard : KeyboardConfiguration) : Except WireError KeyboardSettings := do
  let layouts ← required keyboard.layouts .payload
  let options ← required keyboard.options .payload
  let layouts ← layouts.mapM decodeLayout
  let decoded : KeyboardSettings :=
    { layouts, options, repeatDelayMs := keyboard.repeatDelayMs, repeatRateHz := keyboard.repeatRateHz }
  decoded.validate.mapError fun _ => .payload
  return decoded

def decodeExisting : Option String → Except WireError (Option String)
  | none => .ok none
  | some shortcut => do return some (← requireString (some shortcut) false)

def decodeSettingsRequest (requestId : UInt64) (request : SettingsRequest) : Except WireError SettingsCommand :=
  match request.kind with
  | .readDocument =>
    if !request.plain false [.document, .keyboard, .shortcut, .existingShortcut, .touchpad, .mouse] then .error .payload
    else .ok (.readDocument requestId)
  | .writeDocument => do
    let document ← required request.document .string
    if !request.plain true [.keyboard, .shortcut, .existingShortcut, .touchpad, .mouse] || document.isEmpty ||
        maxSettingsDocumentBytes < document.utf8ByteSize then .error .payload
    else return .writeDocument requestId request.expectedRevision document
  | .readKeyboard =>
    if !request.plain false [.document, .keyboard, .shortcut, .existingShortcut, .touchpad, .mouse] then .error .payload
    else .ok (.readKeyboard requestId)
  | .configureKeyboard =>
    if !request.plain true [.document, .shortcut, .existingShortcut, .touchpad, .mouse] then .error .payload
    else do
      let keyboard ← decodeKeyboardSettings (← required request.keyboard .payload)
      return .configureKeyboard requestId request.expectedRevision keyboard
  | .readShortcuts =>
    if !request.plain false [.document, .keyboard, .shortcut, .existingShortcut, .touchpad, .mouse] then .error .payload
    else .ok (.readShortcuts requestId)
  | .validateShortcut =>
    if !request.plain false [.document, .keyboard, .touchpad, .mouse] then .error .payload
    else do
      let shortcut ← decodeShortcutBinding (← required request.shortcut .payload)
      let existingShortcut ← decodeExisting request.existingShortcut
      return .validateShortcut requestId shortcut existingShortcut
  | .addShortcut =>
    if !request.plain true [.document, .keyboard, .existingShortcut, .touchpad, .mouse] then .error .payload
    else do
      let shortcut ← decodeShortcutBinding (← required request.shortcut .payload)
      return .addShortcut requestId request.expectedRevision shortcut
  | .updateShortcut =>
    if !request.plain true [.document, .keyboard, .touchpad, .mouse] then .error .payload
    else do
      let existingShortcut ← requireString request.existingShortcut false
      let shortcut ← decodeShortcutBinding (← required request.shortcut .payload)
      return .updateShortcut requestId request.expectedRevision existingShortcut shortcut
  | .removeShortcut =>
    if !request.plain true [.document, .keyboard, .shortcut, .touchpad, .mouse] then .error .payload
    else do
      let shortcut ← requireString request.existingShortcut false
      return .removeShortcut requestId request.expectedRevision shortcut
  | .restoreShortcuts =>
    if !request.plain true [.document, .keyboard, .shortcut, .existingShortcut, .touchpad, .mouse] then .error .payload
    else .ok (.restoreShortcuts requestId request.expectedRevision)
  | .readInputDevices =>
    if !request.plain false [.document, .keyboard, .shortcut, .existingShortcut, .touchpad, .mouse] then .error .payload
    else .ok (.readInputDevices requestId)
  | .configureTouchpad =>
    if !request.plain true [.document, .keyboard, .shortcut, .existingShortcut, .mouse] then .error .payload
    else do
      let touchpad ← required request.touchpad .payload
      return .configureTouchpad requestId request.expectedRevision touchpad
  | .configureMouse =>
    if !request.plain true [.document, .keyboard, .shortcut, .existingShortcut, .touchpad] then .error .payload
    else do
      let mouse ← required request.mouse .payload
      return .configureMouse requestId request.expectedRevision mouse
  | .unknown => .error .enumeration

/-! ## Round trips -/

def Stored (binding : ShortcutBinding) : Prop :=
  ∃ file normalized, normalizeAndCompileShortcuts file = .ok normalized ∧ binding ∈ normalized.1.shortcuts

/-- A binding that comes back as it was sent, in the requests that the shell makes of it, and is as the store takes it. -/
structure RoundTrips (binding : ShortcutBinding) : Prop where
  decoded : decodeShortcutBinding (encodeShortcutBinding binding) = .ok binding
  added : ∀ requestId revision, revision ≠ 0 → decodeSettingsRequest requestId
    { kind := .addShortcut, expectedRevision := revision, shortcut := encodeShortcutBinding binding } =
      .ok (.addShortcut requestId revision binding)
  updated : ∀ requestId revision, revision ≠ 0 → decodeSettingsRequest requestId
    { kind := .updateShortcut, expectedRevision := revision, existingShortcut := binding.shortcut,
      shortcut := encodeShortcutBinding binding } =
      .ok (.updateShortcut requestId revision binding.shortcut binding)
  canonical : canonicalBinding binding = .ok binding

def workspaceActions : List ShortcutAction :=
  [.previousWorkspace, .nextWorkspace, .moveToPreviousWorkspace, .moveToNextWorkspace, .switchWorkspace1,
    .switchWorkspace2, .switchWorkspace3, .switchWorkspace4, .switchWorkspace5, .switchWorkspace6, .switchWorkspace7,
    .switchWorkspace8, .switchWorkspace9, .moveToWorkspace1, .moveToWorkspace2, .moveToWorkspace3, .moveToWorkspace4,
    .moveToWorkspace5, .moveToWorkspace6, .moveToWorkspace7, .moveToWorkspace8, .moveToWorkspace9]

theorem action_round_trip (action : ShortcutAction) :
    shortcutActionFromWire (shortcutActionToWire action) = .ok action ↔ action ∉ workspaceActions := by
  cases action <;> decide

/-! ### Texts -/

theorem mem_intercalate {c : Char} {s : String} : ∀ {ws : List String},
    c ∈ (s.intercalate ws).toList → c ∈ s.toList ∨ ∃ word ∈ ws, c ∈ word.toList
  | [], h => by simp at h
  | [word], h => by
    rw [String.intercalate_singleton] at h; exact .inr ⟨word, List.mem_singleton_self _, h⟩
  | word :: word' :: ws, h => by
    rw [String.intercalate_cons_cons, String.toList_append, String.toList_append] at h
    rcases List.mem_append.1 h with h | h
    · rcases List.mem_append.1 h with h | h
      · exact .inr ⟨word, List.mem_cons_self .., h⟩
      · exact .inl h
    rcases mem_intercalate h with h | ⟨f, hf, h⟩
    · exact .inl h
    · exact .inr ⟨f, List.mem_cons_of_mem _ hf, h⟩

theorem containsNul_eq_false {text : String} : containsNul text = false ↔ Char.ofNat 0 ∉ text.toList := by
  unfold containsNul; simp

theorem keys_noNul : ∀ key ∈ supportedKeys, containsNul key.2 = false := by decide +kernel

theorem canonical_noNul {t : ShortcutTrigger} (h : Trigger t) : containsNul t.canonical = false := by
  cases h with
  | gesture gesture => cases gesture <;> decide
  | super => decide
  | @chord modifiers key hm hk =>
    rw [containsNul_eq_false]; intro hn
    rcases mem_intercalate hn with hs | ⟨word, hw, hn⟩
    · exact absurd hs (by decide)
    rcases List.mem_append.1 hw with hw | hw
    · obtain ⟨modifier, -, rfl⟩ := List.mem_map.1 hw
      revert hn
      cases modifier <;> decide
    · obtain rfl := List.mem_singleton.1 hw
      exact containsNul_eq_false.1 (keys_noNul key hk) hn

theorem canonical_valid {t : ShortcutTrigger} (h : Trigger t) (ea : Bool) :
    validShortcutWireString t.canonical ea = true := by
  have hr := h.parse_canonical; unfold parseShortcut at hr
  split_ifs at hr with hlen
  obtain ⟨hpos, hm⟩ := not_or.1 hlen
  have he : t.canonical.isEmpty = false := by
    rw [← Bool.not_eq_true, String.isEmpty_iff]; intro hnil
    rw [hnil] at hpos; exact hpos rfl
  have hm : t.canonical.utf8ByteSize ≤ maxStringBytes := by
    unfold maxShortcutExpressionBytes at hm
    unfold maxStringBytes; omega
  unfold validShortcutWireString
  rw [he, canonical_noNul h, decide_eq_true hm]; simp

theorem requireString_ok {value : String} {ea : Bool} (h : validShortcutWireString value ea = true) :
    requireString (some value) ea = .ok value := by
  unfold requireString; rw [Option.filter_some, if_pos h]

/-! ### Targets -/

theorem validateArguments_ok : ∀ {args : List String} {index : Nat}, validateArguments index args = .ok () →
    ∀ argument ∈ args, validShortcutWireString argument true = true
  | [], _, _, argument, hmem => by cases hmem
  | first :: args, index, h, argument, hmem => by
    unfold validateArguments at h
    split_ifs at h with hf
    rcases List.mem_cons.1 hmem with rfl | hmem
    · simp only [Bool.or_eq_true, decide_eq_true_eq, not_or, Bool.not_eq_true] at hf
      obtain ⟨hs, hn⟩ := hf
      unfold validShortcutWireString maxStringBytes
      rw [hn, decide_eq_true (Nat.not_lt.1 hs)]; rfl
    · exact validateArguments_ok h argument hmem

theorem validateSpawn_ok {cmd : List String} (h : validateSpawn cmd = .ok ()) :
    cmd.length ≤ maxSpawnArguments ∧ cmd.all (fun arg => validShortcutWireString arg true) = true := by
  unfold validateSpawn at h; split at h
  · cases h
  rename_i hn
  obtain ⟨_, hr, -⟩ := bind_ok.1 h
  simp only [Bool.or_eq_true, decide_eq_true_eq, not_or] at hn
  exact ⟨Nat.not_lt.1 hn.2, List.all_eq_true.2 (validateArguments_ok hr)⟩

theorem validateSpawnSh_ok {cmd : String} (h : validateSpawnSh cmd = .ok ()) :
    validShortcutWireString cmd true = true := by
  unfold validateSpawnSh at h
  split_ifs at h with hn
  simp only [Bool.or_eq_true, decide_eq_true_eq, not_or, Bool.not_eq_true] at hn
  obtain ⟨⟨-, hs⟩, hnu⟩ := hn
  unfold validShortcutWireString maxStringBytes
  rw [hnu, decide_eq_true (Nat.not_lt.1 hs)]; rfl

/-- The kinds of targets the decoder takes back. -/
def decodable : ShortcutTarget → Bool
  | .denialAction action => !workspaceActions.contains action
  | .spawn .. | .spawnSh _ => true

theorem target_round_trip {tgt : ShortcutTarget} (h : tgt.validate = .ok ()) :
    decodeShortcutTarget (encodeShortcutTarget tgt) = .ok tgt ↔ decodable tgt = true := by
  cases tgt with
  | denialAction action =>
    have hd : decodable (.denialAction action) = true ↔ action ∉ workspaceActions := by
      unfold decodable; simp
    rw [hd, ← action_round_trip action]
    constructor
    · intro hde
      obtain ⟨a', hac, hm⟩ := bind_ok.1 hde
      rw [hac, ShortcutTarget.denialAction.inj (Except.ok.inj hm)]
    · intro hac; exact bind_ok.2 ⟨action, hac, rfl⟩
  | spawn cmd desktopFileId =>
    obtain ⟨_, hs, hds⟩ := bind_ok.1 h
    obtain ⟨hlen, hal⟩ := validateSpawn_ok hs
    refine iff_of_true ?_ rfl
    show decodeSpawn cmd desktopFileId = _; unfold decodeSpawn
    rw [if_neg (Nat.not_lt.2 hlen), hal, if_neg (by decide), if_neg]
    cases desktopFileId with
    | none => simp
    | some desktopFileId =>
      have hv : Shortcut.validateDesktopFileId desktopFileId = .ok () := hds
      rw [Option.any_some, hv]; decide
  | spawnSh cmd =>
    refine iff_of_true (bind_ok.2 ⟨cmd, requireString_ok (validateSpawnSh_ok h), rfl⟩) rfl

/-! ### Stored bindings -/

theorem mem_zipWith_of_forall₂ {α β γ : Type} {R : α → β → Prop} {f : α → β → γ} {as : List α} {bs : List β}
    (h : List.Forall₂ R as bs) {c : γ} (hc : c ∈ List.zipWith f as bs) : ∃ a b, R a b ∧ c = f a b := by
  induction h with
  | nil => cases hc
  | @cons a b as bs hab _ ih =>
    rcases List.mem_cons.1 hc with rfl | hc
    · exact ⟨a, b, hab, rfl⟩
    · exact ih hc

theorem stored_trigger {b : ShortcutBinding} (h : Stored b) :
    (∃ t, Trigger t ∧ b.shortcut = t.canonical) ∧ b.target.validate = .ok () := by
  obtain ⟨file, normalized, hn, hmem⟩ := h; unfold normalizeAndCompileShortcuts at hn
  obtain ⟨cm, hco, hn⟩ := bind_ok.1 hn; cases hn
  obtain ⟨-, -, -, hal, -⟩ := compileShortcuts_ok_iff.1 hco
  obtain ⟨source, c, hm, rfl⟩ := mem_zipWith_of_forall₂ hal hmem
  exact ⟨⟨c.trigger, parseShortcut_ok (parseBinding_ok.1 hm.trigger), rfl⟩, hm.valid⟩

/-- Every binding that the store can hold comes back, but for those of workspace actions. -/
theorem stored_round_trips (binding : ShortcutBinding) (h : Stored binding) :
    RoundTrips binding ↔ decodable binding.target = true := by
  obtain ⟨⟨t, ht, hshor⟩, hval⟩ := stored_trigger h
  have hstr : ∀ emptyAllowed, requireString (some binding.shortcut) emptyAllowed = .ok binding.shortcut :=
    fun emptyAllowed => requireString_ok (by rw [hshor]; exact canonical_valid ht emptyAllowed)
  rw [← target_round_trip hval]
  constructor
  · intro hroun
    obtain ⟨shortcut, -, hdec⟩ := bind_ok.1 hroun.decoded
    obtain ⟨target, htar, hdec⟩ := bind_ok.1 hdec
    have hsam := congrArg ShortcutBinding.target (Except.ok.inj hdec)
    exact htar.trans (congrArg _ hsam)
  · intro htar
    have hdecod : decodeShortcutBinding (encodeShortcutBinding binding) = .ok binding :=
      bind_ok.2 ⟨binding.shortcut, hstr true, bind_ok.2 ⟨binding.target, htar, rfl⟩⟩
    refine ⟨hdecod, fun requestId revision hrev => ?_, fun requestId revision hrev => ?_, ?_⟩
    · unfold decodeSettingsRequest SettingsRequest.plain
      simp only [bne_iff_ne.2 hrev]
      exact bind_ok.2 ⟨_, rfl, bind_ok.2 ⟨binding, hdecod, rfl⟩⟩
    · unfold decodeSettingsRequest SettingsRequest.plain
      simp only [bne_iff_ne.2 hrev]
      exact bind_ok.2 ⟨binding.shortcut, hstr false, bind_ok.2 ⟨_, rfl, bind_ok.2 ⟨binding, hdecod, rfl⟩⟩⟩
    · have hpar : parseBinding binding = .ok t := by
        rw [parseBinding_ok, hshor]; exact ht.parse_canonical
      refine bind_ok.2 ⟨(), hval, bind_ok.2 ⟨t, hpar, ?_⟩⟩
      rw [← hshor]; rfl

theorem stored_round_trips_overview : Stored ⟨"Super+A", .denialAction .openOverview⟩ ∧
    (RoundTrips ⟨"Super+A", .denialAction .openOverview⟩ ↔ decodable (.denialAction .openOverview) = true) :=
  have h : Stored ⟨"Super+A", .denialAction .openOverview⟩ :=
    ⟨⟨6, 1, [⟨"super + a", .denialAction .openOverview⟩]⟩,
      (⟨6, 1, [⟨"Super+A", .denialAction .openOverview⟩]⟩, [⟨⟨1, .evdev 30, "Super+A"⟩, .denialAction .openOverview⟩]),
      by decide +kernel, by decide⟩
  ⟨h, stored_round_trips _ h⟩

/-- A default binding that the shell is shown and cannot send back. -/
theorem workspace_refused : Stored ⟨"Super+1", .denialAction .switchWorkspace1⟩ ∧
    decodeShortcutBinding (encodeShortcutBinding ⟨"Super+1", .denialAction .switchWorkspace1⟩) = .error .enumeration := by
  refine ⟨⟨⟨6, 1, [⟨"Super+1", .denialAction .switchWorkspace1⟩]⟩,
    (⟨6, 1, [⟨"Super+1", .denialAction .switchWorkspace1⟩]⟩,
      [⟨⟨1, .evdev 2, "Super+1"⟩, .denialAction .switchWorkspace1⟩]), ?_, ?_⟩, ?_⟩
  · decide +kernel
  · decide
  · decide

end Deniald.Wire
