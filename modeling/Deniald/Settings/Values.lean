/-
What Denial's settings hold (settings.rs): the keyboard, the mouse, the touchpad, the environments of applications, and
their forms in JSON.
-/
import Deniald.Lib.Json
import Deniald.Shortcut.File

namespace Deniald.Settings

open Deniald.Lib

/-! ## Errors -/

inductive SettingsError where
  | target
  | io
  | json
  | tooLarge
  | notObject
  | versionMissing
  | unsupportedVersion (version : UInt64)
  | notCurrentVersion (version : UInt64)
  | revisionMissing
  | revisionExhausted
  | environment
  | environmentField (key : String)
  | applications
  | applicationsCount
  | environmentScope (scope : String)
  | environmentCount (scope : String)
  | environmentName (name : String)
  | environmentValueSize (name : String)
  | environmentValueNul (name : String)
  | environmentValue (name : String)
  | desktopFileId (desktopFileId : String)
  | appearance
  | colorSchemeMissing
  | colorScheme (value : String)
  | clientCursorSurfaces
  | layout
  | windowLayoutMissing
  | windowLayout (value : String)
  | workspacesEnabled
  | workspaceCount
  | keyboardLayouts
  | xkbName (field value : String)
  | duplicateLayout (layout variant : String)
  | keyboardOptions
  | xkbOption (value : String)
  | duplicateOption (option : String)
  | repeatDelay
  | repeatRate
  | keymap
  | keymapGroups (compiled configured : Nat)
  | mouse
  | touchpad
  | revision (expected actual : UInt64)
  | conflict
  deriving DecidableEq

/-! ## Keyboards -/

structure KeyboardLayout where
  layout : String
  variant : String := ""

structure KeyboardSettings where
  layouts : List KeyboardLayout := [{ layout := "us" }]
  options : List String := []
  repeatDelayMs : UInt32 := 600
  repeatRateHz : UInt32 := 25

def xkbCharacter (c : Char) : Bool := c.isAlphanum || c = '_' || c = '+' || c = '-'

def validateXkbName (value : String) (emptyAllowed : Bool) (field : String) : Except SettingsError Unit :=
  if !emptyAllowed && value.isEmpty || 64 < value.utf8ByteSize || !value.toList.all xkbCharacter then
    .error (.xkbName field value)
  else .ok ()

def validateXkbOption (value : String) : Except SettingsError Unit :=
  if value.isEmpty || 64 < value.utf8ByteSize || !value.toList.all fun c => xkbCharacter c || c = ':' then
    .error (.xkbOption value)
  else .ok ()

/-- The loop over layouts, with the identities of those before. -/
def validateLayouts : List (String × String) → List KeyboardLayout → Except SettingsError Unit
  | _, [] => .ok ()
  | identities, layout :: layouts => do
    validateXkbName layout.layout false "layout"
    validateXkbName layout.variant true "variant"
    if identities.contains (layout.layout, layout.variant) then .error (.duplicateLayout layout.layout layout.variant)
    else validateLayouts ((layout.layout, layout.variant) :: identities) layouts

def validateOptions : List String → List String → Except SettingsError Unit
  | _, [] => .ok ()
  | seen, option :: options => do
    validateXkbOption option
    if seen.contains option then .error (.duplicateOption option) else validateOptions (option :: seen) options

def KeyboardSettings.validate (keyboard : KeyboardSettings) : Except SettingsError Unit :=
  if keyboard.layouts.isEmpty || 8 < keyboard.layouts.length then .error .keyboardLayouts
  else do
    validateLayouts [] keyboard.layouts
    if 32 < keyboard.options.length then .error .keyboardOptions
    else do
      validateOptions [] keyboard.options
      if keyboard.repeatDelayMs < 100 || 5000 < keyboard.repeatDelayMs then .error .repeatDelay
      else if 100 < keyboard.repeatRateHz then .error .repeatRate
      else .ok ()

def KeyboardLayout.ofJson (value : Json) : Option KeyboardLayout :=
  match value.fields ["layout", "variant"] with
  | some [some layout, variant] => do
    return { layout := ← layout.asString, variant := ← fieldOr Json.asString "" variant }
  | _ => none

def KeyboardLayout.toJson (layout : KeyboardLayout) : Json :=
  .object [("layout", .string layout.layout), ("variant", .string layout.variant)]

def KeyboardSettings.ofJson (value : Json) : Option KeyboardSettings :=
  match value.fields ["layouts", "options", "repeatDelayMs", "repeatRateHz"] with
  | some [some layouts, options, repeatDelayMs, repeatRateHz] => do
    return {
      layouts := ← layouts.asArray.bind fun layouts => layouts.mapM KeyboardLayout.ofJson
      options := ← fieldOr Json.asStringList [] options
      repeatDelayMs := ← fieldOr Json.asU32 600 repeatDelayMs
      repeatRateHz := ← fieldOr Json.asU32 25 repeatRateHz }
  | _ => none

def KeyboardSettings.toJson (keyboard : KeyboardSettings) : Json :=
  .object [("layouts", .array (keyboard.layouts.map KeyboardLayout.toJson)),
    ("options", .array (keyboard.options.map .string)), ("repeatDelayMs", .ofU32 keyboard.repeatDelayMs),
    ("repeatRateHz", .ofU32 keyboard.repeatRateHz)]

/-! ## Pointers -/

structure MouseSettings where
  speed : ℚ := 0

def MouseSettings.validate (mouse : MouseSettings) : Except SettingsError Unit :=
  if mouse.speed < -1 || 1 < mouse.speed then .error .mouse else .ok ()

def MouseSettings.ofJson (value : Json) : Option MouseSettings :=
  match value.fields ["speed"] with
  | some [speed] => do return { speed := ← fieldOr Json.asF64 0 speed }
  | _ => none

def MouseSettings.toJson (mouse : MouseSettings) : Json := .object [("speed", .number (.float mouse.speed))]

structure TouchpadSettings where
  tapToClickEnabled : Bool := true
  naturalScrollEnabled : Bool := false
  scrollSpeedFactor : ℚ := 1

/-- `MIN_TOUCHPAD_SCROLL_SPEED_FACTOR`, the double closest to 0.05. -/
def minTouchpadScrollSpeedFactor : ℚ := 3602879701896397 / 2 ^ 56

def TouchpadSettings.validate (touchpad : TouchpadSettings) : Except SettingsError Unit :=
  if touchpad.scrollSpeedFactor < minTouchpadScrollSpeedFactor || 5 < touchpad.scrollSpeedFactor then .error .touchpad
  else .ok ()

def TouchpadSettings.ofJson (value : Json) : Option TouchpadSettings :=
  match value.fields ["tapToClickEnabled", "naturalScrollEnabled", "scrollSpeedFactor"] with
  | some [tapToClickEnabled, naturalScrollEnabled, scrollSpeedFactor] => do
    return {
      tapToClickEnabled := ← fieldOr Json.asBool true tapToClickEnabled
      naturalScrollEnabled := ← fieldOr Json.asBool false naturalScrollEnabled
      scrollSpeedFactor := ← fieldOr Json.asF64 1 scrollSpeedFactor }
  | _ => none

def TouchpadSettings.toJson (touchpad : TouchpadSettings) : Json :=
  .object [("tapToClickEnabled", .bool touchpad.tapToClickEnabled),
    ("naturalScrollEnabled", .bool touchpad.naturalScrollEnabled),
    ("scrollSpeedFactor", .number (.float touchpad.scrollSpeedFactor))]

/-! ## Names -/

inductive DesktopColorSchemePreference where
  | noPreference
  | preferDark
  | preferLight

def DesktopColorSchemePreference.settingsName : DesktopColorSchemePreference → String
  | noPreference => "noPreference"
  | preferDark => "preferDark"
  | preferLight => "preferLight"

def DesktopColorSchemePreference.fromSettingsName (value : String) : Option DesktopColorSchemePreference :=
  if value = "noPreference" then some noPreference
  else if value = "preferDark" then some preferDark
  else if value = "preferLight" then some preferLight
  else none

inductive WindowLayoutKind where
  | stacking
  | dwindle

def WindowLayoutKind.settingsName : WindowLayoutKind → String
  | stacking => "stacking"
  | dwindle => "dwindle"

def WindowLayoutKind.fromSettingsName (name : String) : Option WindowLayoutKind :=
  if name = "stacking" then some stacking else if name = "dwindle" then some dwindle else none

structure WorkspaceSettings where
  enabled : Bool := true
  count : UInt8 := 4

/-! ## Environments -/

/-- The variables an environment sets, or with none removes. -/
abbrev Overrides := List (String × Option String)

structure ApplicationEnvironment where
  defaultOverrides : Overrides := []
  applicationOverrides : List (String × Overrides) := []
  deriving DecidableEq

def validateEnvironmentName (name : String) : Except SettingsError Unit :=
  let valid := match name.toList with
    | [] => false
    | c :: rest => (c = '_' || c.isAlpha) && rest.all fun c => c = '_' || c.isAlphanum
  if !valid || 256 < name.utf8ByteSize then .error (.environmentName name) else .ok ()

def validateDesktopFileId (desktopFileId : String) : Except SettingsError Unit :=
  if desktopFileId.isEmpty || 4096 < desktopFileId.utf8ByteSize ||
      !(".desktop".toList.isSuffixOf desktopFileId.toList) || desktopFileId.toList.contains '/' ||
      Shortcut.containsNul desktopFileId then
    .error (.desktopFileId desktopFileId)
  else .ok ()

def validateEnvironmentValue (name value : String) : Except SettingsError Unit :=
  if 16384 < value.utf8ByteSize then .error (.environmentValueSize name)
  else if Shortcut.containsNul value then .error (.environmentValueNul name)
  else .ok ()

def parseOverride (entry : String × Json) : Except SettingsError (String × Option String) := do
  validateEnvironmentName entry.1
  match entry.2 with
  | .string value =>
    validateEnvironmentValue entry.1 value
    return (entry.1, some value)
  | .null => return (entry.1, none)
  | _ => .error (.environmentValue entry.1)

def parseEnvironmentOverrides (value : Json) (scope : String) : Except SettingsError Overrides :=
  match value.asObject with
  | none => .error (.environmentScope scope)
  | some entries => if 256 < entries.length then .error (.environmentCount scope) else entries.mapM parseOverride

def parseApplication (entry : String × Json) : Except SettingsError (String × Overrides) := do
  validateDesktopFileId entry.1
  return (entry.1, ← parseEnvironmentOverrides entry.2 entry.1)

/-- A value of an environment's own, not of one of its sections. -/
def isOverride : Json → Bool
  | .string _ | .null => true
  | _ => false

/-- The default variables, where there are any. -/
def defaultSection (entries : JsonMap) : Except SettingsError Overrides :=
  match entries.get "default" with
  | some value => parseEnvironmentOverrides value "default"
  | none => .ok []

def applicationsSection (entries : JsonMap) : Except SettingsError JsonMap :=
  match entries.get "applications" with
  | some value =>
    match value.asObject with
    | some applications => .ok applications
    | none => .error .applications
  | none => .ok []

def ApplicationEnvironment.ofJson (value : Json) : Except SettingsError ApplicationEnvironment :=
  match value.asObject with
  | none => .error .environment
  | some entries =>
    -- schema 11 has the default variables right here
    if entries.all fun entry => isOverride entry.2 then do
      return { defaultOverrides := ← parseEnvironmentOverrides value "default" }
    else
      match entries.find? fun entry => !(entry.1 = "default" || entry.1 = "applications") with
      | some entry => .error (.environmentField entry.1)
      | none => do
        let defaultOverrides ← defaultSection entries
        let applications ← applicationsSection entries
        if 256 < applications.length then .error .applicationsCount
        else return { defaultOverrides, applicationOverrides := ← applications.mapM parseApplication }

def overrideJson (entry : String × Option String) : String × Json :=
  (entry.1, match entry.2 with
    | some value => .string value
    | none => .null)

def overridesJson (overrides : Overrides) : Json := .object (overrides.map overrideJson)

def applicationsJson (applications : List (String × Overrides)) : JsonMap :=
  applications.map fun entry => (entry.1, overridesJson entry.2)

def ApplicationEnvironment.toJson (environment : ApplicationEnvironment) : Json :=
  .object [("default", overridesJson environment.defaultOverrides),
    ("applications", .object (applicationsJson environment.applicationOverrides))]

/-! ## Reading back what was written -/

@[simp] theorem KeyboardSettings.ofJson_toJson (keyboard : KeyboardSettings) :
    KeyboardSettings.ofJson keyboard.toJson = some keyboard := by
  have hy : (keyboard.layouts.map KeyboardLayout.toJson).mapM KeyboardLayout.ofJson = some keyboard.layouts :=
    mapM_map_pure fun _ _ => rfl
  have hf : keyboard.toJson.fields ["layouts", "options", "repeatDelayMs", "repeatRateHz"] =
      some [some (.array (keyboard.layouts.map KeyboardLayout.toJson)),
        some (.array (keyboard.options.map .string)), some (.ofU32 keyboard.repeatDelayMs),
        some (.ofU32 keyboard.repeatRateHz)] := rfl
  unfold ofJson; rw [hf]
  simp [fieldOr, Json.asArray, hy]

@[simp] theorem MouseSettings.ofJson_toJson (mouse : MouseSettings) : MouseSettings.ofJson mouse.toJson = some mouse := rfl

@[simp] theorem TouchpadSettings.ofJson_toJson (touchpad : TouchpadSettings) :
    TouchpadSettings.ofJson touchpad.toJson = some touchpad := rfl

@[simp] theorem DesktopColorSchemePreference.fromSettingsName_settingsName (preference : DesktopColorSchemePreference) :
    fromSettingsName preference.settingsName = some preference := by
  cases preference <;> rfl

theorem DesktopColorSchemePreference.settingsName_of_from {value : String} {p : DesktopColorSchemePreference}
    (h : fromSettingsName value = some p) : value = p.settingsName := by
  unfold fromSettingsName at h; split at h
  · rename_i heq
    exact heq.trans (congrArg settingsName (Option.some.inj h))
  split at h
  · rename_i heq
    exact heq.trans (congrArg settingsName (Option.some.inj h))
  split at h
  · rename_i heq
    exact heq.trans (congrArg settingsName (Option.some.inj h))
  · cases h

@[simp] theorem WindowLayoutKind.fromSettingsName_settingsName (kind : WindowLayoutKind) :
    fromSettingsName kind.settingsName = some kind := by
  cases kind <;> rfl

theorem WindowLayoutKind.settingsName_of_from {name : String} {kind : WindowLayoutKind}
    (h : fromSettingsName name = some kind) : name = kind.settingsName := by
  unfold fromSettingsName at h; split at h
  · rename_i heq
    exact heq.trans (congrArg settingsName (Option.some.inj h))
  split at h
  · rename_i heq
    exact heq.trans (congrArg settingsName (Option.some.inj h))
  · cases h

theorem parseOverride_overrideJson {ent : String × Json} {override : String × Option String}
    (h : parseOverride ent = .ok override) : parseOverride (overrideJson override) = .ok override := by
  obtain ⟨name, value⟩ := ent
  obtain ⟨_, hn, h⟩ := bind_ok.1 h
  cases value with
  | string value =>
    obtain ⟨_, hv, h⟩ := bind_ok.1 h; cases h
    exact bind_ok.2 ⟨(), hn, bind_ok.2 ⟨(), hv, rfl⟩⟩
  | null =>
    cases h; exact bind_ok.2 ⟨(), hn, rfl⟩
  | bool | number | array | object => cases h

theorem parseEnvironmentOverrides_overridesJson {value : Json} {s s' : String} {overrides : Overrides}
    (h : parseEnvironmentOverrides value s = .ok overrides) :
    parseEnvironmentOverrides (overridesJson overrides) s' = .ok overrides := by
  unfold parseEnvironmentOverrides at h; split at h
  · cases h
  split at h
  · cases h
  rename_i ents hr hn
  have hf := mapM_ok h
  show (if 256 < (overrides.map overrideJson).length then _ else (overrides.map overrideJson).mapM parseOverride) = _
  rw [List.length_map, ← hf.length_eq, if_neg hn]
  refine mapM_map_pure fun o hmem => ?_
  obtain ⟨ent, -, he⟩ := forall₂_mem_right hf _ hmem; exact parseOverride_overrideJson he

namespace ApplicationEnvironment

/-- An environment within its limits. -/
structure Valid (environment : ApplicationEnvironment) : Prop where
  defaults : parseEnvironmentOverrides (overridesJson environment.defaultOverrides) "default" =
    .ok environment.defaultOverrides
  applications : ∀ entry ∈ environment.applicationOverrides,
    parseApplication (entry.1, overridesJson entry.2) = .ok entry
  count : environment.applicationOverrides.length ≤ 256

theorem valid_empty : Valid {} := ⟨rfl, fun _ h => (nomatch h), Nat.zero_le _⟩

theorem valid_of_ofJson {value : Json} {env : ApplicationEnvironment} (h : ofJson value = .ok env) : env.Valid := by
  unfold ofJson at h; split at h
  · cases h
  split at h
  · obtain ⟨dfs, hd, h⟩ := bind_ok.1 h; cases h
    exact ⟨parseEnvironmentOverrides_overridesJson hd, fun _ h => (nomatch h), Nat.zero_le _⟩
  split at h
  · cases h
  obtain ⟨dfs, hd, h⟩ := bind_ok.1 h
  obtain ⟨applications, -, h⟩ := bind_ok.1 h; split at h
  · cases h
  rename_i hn
  obtain ⟨os, ho, h⟩ := bind_ok.1 h; cases h
  have hf := mapM_ok ho
  refine ⟨?_, fun ent he => ?_, ?_⟩
  · unfold defaultSection at hd; split at hd
    · exact parseEnvironmentOverrides_overridesJson hd
    · cases hd; rfl
  · obtain ⟨source, -, hs⟩ := forall₂_mem_right hf _ he
    obtain ⟨_, hid, hs⟩ := bind_ok.1 hs
    obtain ⟨parsed, hr, hs⟩ := bind_ok.1 hs; cases hs
    exact bind_ok.2 ⟨(), hid, bind_ok.2 ⟨parsed, parseEnvironmentOverrides_overridesJson hr, rfl⟩⟩
  · rw [← hf.length_eq]; exact Nat.not_lt.1 hn

theorem Valid.ofJson_toJson {environment : ApplicationEnvironment} (h : environment.Valid) :
    ofJson environment.toJson = .ok environment := by
  have hap : (applicationsJson environment.applicationOverrides).mapM parseApplication =
      .ok environment.applicationOverrides := mapM_map_pure h.applications
  have hn : ¬256 < (applicationsJson environment.applicationOverrides).length := by
    unfold applicationsJson
    rw [List.length_map]; exact Nat.not_lt.2 h.count
  -- the sections are objects, and those of the nested schema
  show (parseEnvironmentOverrides (overridesJson environment.defaultOverrides) "default" >>= fun dov =>
    if 256 < (applicationsJson environment.applicationOverrides).length then Except.error .applicationsCount
    else (applicationsJson environment.applicationOverrides).mapM parseApplication >>= fun ao =>
      pure (⟨dov, ao⟩ : ApplicationEnvironment)) = _
  refine bind_ok.2 ⟨_, h.defaults, ?_⟩
  rw [if_neg hn]; exact bind_ok.2 ⟨_, hap, rfl⟩

end ApplicationEnvironment

end Deniald.Settings
