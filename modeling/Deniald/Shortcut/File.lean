/-
The shortcut file (native_shortcut.rs, `ShortcutFile`): bindings of expressions to targets, compiled into triggers no
two of which are the same. Files are compiled and normalised to canonical expressions when they are read.
-/
import Deniald.Shortcut.Trigger
import Deniald.Lib.Fallible
import Deniald.Lib.Lists

namespace Deniald.Shortcut

open Deniald.Lib

/-! ## Targets -/

inductive ShortcutAction where
  | shutdown
  | openApplications
  | openDashboard
  | openOverview
  | toggleVerticalMaximize
  | windowSwitcher
  | openClipboard
  | captureRegion
  | closeWindow
  | minimizeWindow
  | minimizeAllWindows
  | toggleMaximize
  | toggleFullscreen
  | releasePointer
  | lockScreen
  | volumeUp
  | volumeDown
  | volumeMute
  | brightnessUp
  | brightnessDown
  | nextKeyboardLayout
  | previousKeyboardLayout
  | openSettings
  | focusLeft
  | focusRight
  | focusUp
  | focusDown
  | swapLeft
  | swapRight
  | swapUp
  | swapDown
  | previousWorkspace
  | nextWorkspace
  | moveToPreviousWorkspace
  | moveToNextWorkspace
  | switchWorkspace1
  | switchWorkspace2
  | switchWorkspace3
  | switchWorkspace4
  | switchWorkspace5
  | switchWorkspace6
  | switchWorkspace7
  | switchWorkspace8
  | switchWorkspace9
  | moveToWorkspace1
  | moveToWorkspace2
  | moveToWorkspace3
  | moveToWorkspace4
  | moveToWorkspace5
  | moveToWorkspace6
  | moveToWorkspace7
  | moveToWorkspace8
  | moveToWorkspace9
  deriving DecidableEq

inductive ShortcutTarget where
  | denialAction (action : ShortcutAction)
  | spawn (command : List String) (desktopFileId : Option String)
  | spawnSh (command : String)
  deriving DecidableEq

structure ShortcutBinding where
  shortcut : String
  target : ShortcutTarget
  deriving DecidableEq

structure ShortcutFile where
  version : UInt64
  revision : UInt64
  shortcuts : List ShortcutBinding
  deriving DecidableEq

structure CompiledShortcut where
  trigger : ShortcutTrigger
  target : ShortcutTarget
  deriving DecidableEq

/-- `SHORTCUT_SCHEMA_VERSION`. -/
def shortcutSchemaVersion : UInt64 := 6

/-- `OLDEST_SHORTCUT_SCHEMA_VERSION`. -/
def oldestShortcutSchemaVersion : UInt64 := 1

/-- `MAX_SHORTCUTS`. -/
def maxShortcuts : Nat := 256

/-- What `ShortcutError::Document` says of a file. -/
inductive ShortcutError where
  | expression (error : ExpressionError)
  | spawnCount
  | spawnArgument (index : Nat)
  | spawnProgram
  | desktopIdentity (desktopFileId : String)
  | spawnShCommand
  | unsupportedVersion (version : UInt64)
  | notCurrentVersion (version : UInt64)
  | revision
  | count
  | duplicate (canonical : String)
  deriving DecidableEq

/-- `parse_shortcut`, with its error as one of the file. -/
def parseBinding (binding : ShortcutBinding) : Except ShortcutError ShortcutTrigger :=
  (parseShortcut binding.shortcut).mapError .expression

/-! ## Validation -/

/-- `argument.contains('\0')`. -/
def containsNul (text : String) : Bool := text.toList.contains (Char.ofNat 0)

/-- The loop of `validate_spawn`, from an index on. -/
def validateArguments : Nat → List String → Except ShortcutError Unit
  | _, [] => .ok ()
  | index, argument :: arguments =>
    if 4096 < argument.utf8ByteSize || containsNul argument then .error (.spawnArgument index)
    else validateArguments (index + 1) arguments

def validateSpawn (arguments : List String) : Except ShortcutError Unit :=
  if arguments.isEmpty || 64 < arguments.length then .error .spawnCount
  else do
    validateArguments 0 arguments
    if arguments.head? = some "" then .error .spawnProgram else .ok ()

def validateSpawnSh (command : String) : Except ShortcutError Unit :=
  if command.isEmpty || 4096 < command.utf8ByteSize || containsNul command then .error .spawnShCommand else .ok ()

/-- `validate_desktop_file_id` (settings.rs). -/
def validateDesktopFileId (desktopFileId : String) : Except ShortcutError Unit :=
  if desktopFileId.isEmpty || 4096 < desktopFileId.utf8ByteSize ||
      !(".desktop".toList.isSuffixOf desktopFileId.toList) || desktopFileId.toList.contains '/' ||
      containsNul desktopFileId then
    .error (.desktopIdentity desktopFileId)
  else .ok ()

def ShortcutTarget.validate : ShortcutTarget → Except ShortcutError Unit
  | .denialAction _ => .ok ()
  | .spawn command desktopFileId => do
    validateSpawn command
    match desktopFileId with
    | some desktopFileId => validateDesktopFileId desktopFileId
    | none => pure ()
  | .spawnSh command => validateSpawnSh command

/-! ## Compilation -/

/-- The loop of `compile_shortcuts`, with the triggers inserted so far. -/
def compileBindings : List ShortcutTrigger → List ShortcutBinding → Except ShortcutError (List CompiledShortcut)
  | _, [] => .ok []
  | triggers, binding :: bindings => do
    let trigger ← parseBinding binding
    if trigger ∈ triggers then .error (.duplicate trigger.canonical)
    else do
      binding.target.validate
      let compiled ← compileBindings (trigger :: triggers) bindings
      pure (⟨trigger, binding.target⟩ :: compiled)

def compileShortcuts (file : ShortcutFile) : Except ShortcutError (List CompiledShortcut) :=
  if file.version ≠ shortcutSchemaVersion then .error (.notCurrentVersion file.version)
  else if file.revision = 0 then .error .revision
  else if maxShortcuts < file.shortcuts.length then .error .count
  else compileBindings [] file.shortcuts

def normalizeAndCompileShortcuts (file : ShortcutFile) :
    Except ShortcutError (ShortcutFile × List CompiledShortcut) := do
  let compiled ← compileShortcuts file
  let shortcuts := List.zipWith (fun binding compiled => { binding with shortcut := compiled.trigger.canonical })
    file.shortcuts compiled
  pure ({ file with shortcuts := shortcuts }, compiled)

/-! ## What compiles -/

structure CompilesTo (binding : ShortcutBinding) (compiled : CompiledShortcut) : Prop where
  trigger : parseBinding binding = .ok compiled.trigger
  target : compiled.target = binding.target
  valid : binding.target.validate = .ok ()

theorem compileBindings_ok_iff : ∀ {ts : List ShortcutTrigger} {bs : List ShortcutBinding}
    {cm : List CompiledShortcut}, compileBindings ts bs = .ok cm ↔
      List.Forall₂ CompilesTo bs cm ∧ (cm.map (·.trigger)).Nodup ∧
        ∀ c ∈ cm, c.trigger ∉ ts
  | ts, [], cm => by
    constructor
    · intro h; cases h
      exact ⟨.nil, List.nodup_nil, fun c hc => by cases hc⟩
    · rintro ⟨hal, -, -⟩
      cases hal; rfl
  | ts, binding :: bs, cm => by
    constructor
    · intro h
      obtain ⟨trigger, htr, h⟩ := bind_ok.1 h
      split_ifs at h with hfr
      obtain ⟨_, hv, h⟩ := bind_ok.1 h
      obtain ⟨rest, hre, h⟩ := bind_ok.1 h; cases h
      obtain ⟨hal, hn, hr⟩ := compileBindings_ok_iff.1 hre
      refine ⟨.cons ⟨htr, rfl, hv⟩ hal, List.nodup_cons.2 ⟨fun hmem => ?_, hn⟩, fun c hc => ?_⟩
      · obtain ⟨c, hc, hs⟩ := List.mem_map.1 hmem
        exact hr c hc (by rw [hs]; exact List.mem_cons_self ..)
      · rcases List.mem_cons.1 hc with rfl | hc
        · exact hfr
        · exact fun hmem => hr c hc (List.mem_cons_of_mem _ hmem)
    · rintro ⟨hal, hn, hr⟩
      cases hal with
      | @cons _ c _ rest hf hal =>
        obtain ⟨hff, hn⟩ := List.nodup_cons.1 hn
        refine bind_ok.2 ⟨c.trigger, hf.trigger, ?_⟩
        rw [if_neg (hr c (List.mem_cons_self ..))]
        refine bind_ok.2 ⟨(), hf.valid, bind_ok.2 ⟨rest, compileBindings_ok_iff.2 ⟨hal, hn, ?_⟩, ?_⟩⟩
        · intro other ho hmem
          rcases List.mem_cons.1 hmem with hs | hmem
          · exact hff (List.mem_map.2 ⟨other, ho, hs⟩)
          · exact hr other (List.mem_cons_of_mem _ ho) hmem
        · rw [← hf.target]; rfl

theorem compileShortcuts_ok_iff {file : ShortcutFile} {cm : List CompiledShortcut} : compileShortcuts file = .ok cm ↔
      file.version = shortcutSchemaVersion ∧ file.revision ≠ 0 ∧ file.shortcuts.length ≤ maxShortcuts ∧
        List.Forall₂ CompilesTo file.shortcuts cm ∧ (cm.map (·.trigger)).Nodup := by
  unfold compileShortcuts
  split_ifs with hv hr hco
  · exact iff_of_false (by simp) fun h => hv h.1
  · exact iff_of_false (by simp) fun h => h.2.1 hr
  · exact iff_of_false (by simp) fun h => absurd h.2.2.1 (Nat.not_le.2 hco)
  · rw [compileBindings_ok_iff]
    constructor
    · rintro ⟨hal, hn, -⟩
      exact ⟨not_not.1 hv, hr, Nat.not_lt.1 hco, hal, hn⟩
    · rintro ⟨-, -, -, hal, hn⟩; exact ⟨hal, hn, fun c _ hc => by cases hc⟩

theorem parseBinding_ok {binding : ShortcutBinding} {trigger : ShortcutTrigger} :
    parseBinding binding = .ok trigger ↔ parseShortcut binding.shortcut = .ok trigger := by
  unfold parseBinding
  cases parseShortcut binding.shortcut with
  | error e => exact iff_of_false (fun h => by cases h) fun h => by cases h
  | ok t => exact ⟨fun h => congrArg _ (Except.ok.inj h), fun h => congrArg _ (Except.ok.inj h)⟩

/-- What `target_for_key` asks of a binding, for the modifiers held and a key. -/
def CompiledShortcut.matchesKey (compiled : CompiledShortcut) (modifiers : UInt8) (keycode : Nat) : Bool :=
  compiled.trigger.modifiers == modifiers && compiled.trigger.key == .evdev keycode

/-- Parsing the canonical form of an accepted expression gives the same trigger; canonical forms are the same
exactly where the modifiers and the key are; and compiled shortcuts have no two of either, so at most one of them
matches a key press. -/
theorem shortcut_canonicalisation :
    (∀ text t, parseShortcut text = .ok t → parseShortcut t.canonical = .ok t) ∧
      (∀ a b s t, parseShortcut a = .ok s → parseShortcut b = .ok t →
        (s.canonical = t.canonical ↔ s.modifiers = t.modifiers ∧ s.key = t.key)) ∧
      ∀ file compiled, compileShortcuts file = .ok compiled →
        (compiled.Pairwise fun a b => ¬(a.trigger.modifiers = b.trigger.modifiers ∧ a.trigger.key = b.trigger.key)) ∧
          compiled.Pairwise fun a b => ∀ modifiers keycode,
            ¬(a.matchesKey modifiers keycode = true ∧ b.matchesKey modifiers keycode = true) := by
  refine ⟨fun text t h => (parseShortcut_ok h).parse_canonical,
    fun a b s t ha hb => (parseShortcut_ok ha).canonical_eq_iff (parseShortcut_ok hb), fun file compiled h => ?_⟩
  obtain ⟨-, -, -, hall, hnod⟩ := compileShortcuts_ok_iff.1 h
  have htrig : ∀ c ∈ compiled, Trigger c.trigger := by
    intro c hc
    obtain ⟨binding, -, hbin⟩ := forall₂_mem_right hall c hc
    exact parseShortcut_ok (parseBinding_ok.1 hbin.trigger)
  have hdis : compiled.Pairwise fun a b =>
      ¬(a.trigger.modifiers = b.trigger.modifiers ∧ a.trigger.key = b.trigger.key) := by
    refine (List.pairwise_map.1 hnod).imp_of_mem fun {a b} ha hb hne hsam => ?_
    have hcan := ((htrig a ha).canonical_eq_iff (htrig b hb)).2 hsam
    have hpar := (htrig a ha).parse_canonical
    rw [hcan, (htrig b hb).parse_canonical] at hpar; exact hne (Except.ok.inj hpar).symm
  refine ⟨hdis, hdis.imp fun hne modifiers keycode hbot => hne ?_⟩
  simp only [CompiledShortcut.matchesKey, Bool.and_eq_true, beq_iff_eq] at hbot
  obtain ⟨⟨hmod, hkey⟩, hmod', hkey'⟩ := hbot
  exact ⟨hmod.trans hmod'.symm, hkey.trans hkey'.symm⟩

/-- An expression under other names, in another order and case. -/
theorem shortcut_canonicalisation_alias :
    parseShortcut " control + META+return" = .ok ⟨3, .evdev 28, "Super+Ctrl+Enter"⟩ ∧
      parseShortcut "Super+Ctrl+Enter" = .ok ⟨3, .evdev 28, "Super+Ctrl+Enter"⟩ := by
  have h : parseShortcut " control + META+return" = .ok ⟨3, .evdev 28, "Super+Ctrl+Enter"⟩ := by decide +kernel
  exact ⟨h, shortcut_canonicalisation.1 _ _ h⟩

end Deniald.Shortcut
