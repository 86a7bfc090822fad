/-
The shell's settings in the shared document of JSON: where a field is in it, how `toJson` writes one, and that what is
written is read back.
-/
import Deniald.Settings.Document
import Deniald.Shell.Settings

namespace Deniald.Shell

open Deniald.Lib Deniald.Settings
open ShellField

/-! ## Values -/

/-- A whole number is written as one. -/
def SettingValue.toJson : SettingValue → Json
  | .bool b => .bool b
  | .integer n => .number (if 0 ≤ n ∧ n < 2 ^ 64 then .unsigned n.toNat.toUInt64 else .negative n)
  | .number x => .number (.float x)
  | .string text => .string text
  | .strings texts => .array (texts.map .string)
  | .environment scopes => scopes.toJson

def settingOf : Json → Option SettingValue
  | .bool b => some (.bool b)
  | .number (.unsigned n) => some (.integer n.toNat)
  | .number (.negative n) => some (.integer n)
  | .number (.float x) => some (.number x)
  | .string text => some (.string text)
  | .array values => some (.strings (values.filterMap Json.asString))
  | .null | .object _ => none

theorem settingOf_toJson {value : SettingValue} (h : value.asEnvironment = none) :
    settingOf value.toJson = some value := by
  cases value with
  | integer n =>
    by_cases hn : 0 ≤ n ∧ n < 2 ^ 64
    · have hs : n.toNat < 2 ^ 64 := by omega
      have hj : (SettingValue.integer n).toJson = .number (.unsigned n.toNat.toUInt64) := by
        simp only [SettingValue.toJson, if_pos hn]
      have hba : (n.toNat.toUInt64.toNat : Int) = n := by
        rw [Nat.toUInt64_eq, UInt64.toNat_ofNat_of_lt' hs]; omega
      rw [hj]
      simp only [settingOf, hba]
    · have hj : (SettingValue.integer n).toJson = .number (.negative n) := by
        simp only [SettingValue.toJson, if_neg hn]
      rw [hj]; rfl
  | strings texts =>
    have hr : (texts.map Json.string).filterMap Json.asString = texts := by
      rw [List.filterMap_map]; exact List.filterMap_some
    simp only [SettingValue.toJson, settingOf, hr]
  | environment scopes => cases h
  | bool | number | string => rfl

/-! ## Places -/

def OverlaySurface.key : OverlaySurface → String
  | .launcher => "launcher"
  | .dashboard => "dashboard"
  | .notifications => "notifications"
  | .systemHud => "systemHud"

def PlacementField.key : PlacementField → String
  | .anchor => "anchor"
  | .width => "width"
  | .height => "height"
  | .margin => "margin"
  | .hoverTriggerEnabled => "hoverTriggerEnabled"

def LocationField.key : LocationField → String
  | .latitude => "latitude"
  | .longitude => "longitude"
  | .city => "city"

def ShellField.key : ShellField → String
  | .locale => "locale"
  | .colorSchemePreference => "colorSchemePreference"
  | .accentSource => "accentSource"
  | .customAccentColor => "customAccentColor"
  | .cornerRadiusScale => "cornerRadiusScale"
  | .panelOpacity => "panelOpacity"
  | .cardOpacity => "cardOpacity"
  | .backdropBlurEnabled => "backdropBlurEnabled"
  | .backdropBlurLevel => "backdropBlurLevel"
  | .backdropBlurOpacityThreshold => "backdropBlurPixelOpacityThreshold"
  | .focusedWindowBorderEnabled => "focusedWindowBorderEnabled"
  | .focusedWindowOpacity => "focusedWindowOpacity"
  | .unfocusedWindowOpacity => "unfocusedWindowOpacity"
  | .cursorSize => "cursorSize"
  | .cursorThemeId => "cursorThemeId"
  | .allowClientCursorSurfaces => "allowClientCursorSurfaces"
  | .uiFontFamily => "uiFontFamily"
  | .iconThemeName => "iconThemeName"
  | .contrastLevel => "contrastLevel"
  | .windowLayout => "windowLayout"
  | .workspacesEnabled => "workspacesEnabled"
  | .workspaceCount => "workspaceCount"
  | .systemBarSide => "systemBarSide"
  | .systemBarOutputNames => "systemBarOutputs"
  | .systemBarThickness => "systemBarThickness"
  | .maximizePadding => "maximizePadding"
  | .minimizedWindowPlacement => "minimizedWindowPlacement"
  | .clipboardTrayEdge => "clipboardTrayEdge"
  | .clipboardTrayExtent => "clipboardTrayExtent"
  | .useChromeOsShelf => "useChromeOsShelf"
  | .placement _ field => field.key
  | .windowCloseEffect => "windowCloseEffect"
  | .durationScale => "durationScale"
  | .panelTravel => "panelTravel"
  | .animateLockScreen => "animateLockScreen"
  | .useSystemWallpaper => "useSystemWallpaper"
  | .dimAmount => "dimAmount"
  | .blurRadius => "blurRadius"
  | .clockScale => "clockScale"
  | .showSystemStatus => "showSystemStatus"
  | .idleLockEnabled => "idleLockEnabled"
  | .idleLockTimeoutMinutes => "idleLockTimeoutMinutes"
  | .idleDpmsEnabled => "idleDpmsEnabled"
  | .idleDpmsTimeoutMinutes => "idleDpmsTimeoutMinutes"
  | .idleSuspendEnabled => "idleSuspendEnabled"
  | .idleSuspendTimeoutMinutes => "idleSuspendTimeoutMinutes"
  | .suspendMode => "suspendMode"
  | .locationMode => "locationMode"
  | .manualLocation field => field.key
  | .temperatureUnit => "temperatureUnit"
  | .applicationEnvironment => "applicationEnvironment"

def ShellField.plainSection (field : ShellField) : Option (String × List ShellField) :=
  ShellField.sections.find? fun fields => field ∈ fields.2

def ShellField.sectionKey : ShellField → String
  | .placement .. => "overlays"
  | .locationMode | .manualLocation _ | .temperatureUnit => "weather"
  | .applicationEnvironment => "applicationEnvironment"
  | field => (field.plainSection.map (·.1)).getD ""

def member (json : Json) (key : String) : Option Json := json.asObject.bind fun entries => entries.get key

/-- A field in its section. The compositor writes the environments of applications in one form, and reads them alike. -/
def ShellField.inSection : ShellField → Json → Option SettingValue
  | .placement surface field, json => ((member json surface.key).bind fun map => member map field.key).bind settingOf
  | .manualLocation field, json => ((member json "manualLocation").bind fun map => member map field.key).bind settingOf
  | .applicationEnvironment, json => (ApplicationEnvironment.ofJson json).toOption.map .environment
  | field, json => (member json field.key).bind settingOf

def shellValues (document : JsonMap) : ShellDocument := fun field =>
  (document.get field.sectionKey).bind field.inSection

/-! ## Writing -/

def fieldEntries (settings : ShellSettings) (fields : List ShellField) : JsonMap :=
  fields.filterMap fun field => (settings.values field).map fun value => (field.key, value.toJson)

def weatherEntries (settings : ShellSettings) : JsonMap :=
  fieldEntries settings ShellField.weather ++
    if (settings.values (.manualLocation .city)).isSome then
      [("manualLocation", .object (fieldEntries settings ShellField.locationParts))]
    else []

/-- `toJson`, with the version that `_encodeShellDocument` puts into it. -/
def ShellSettings.encode (settings : ShellSettings) (version : UInt64) : JsonMap :=
  ("version", jsonU64 version) ::
    (ShellField.sections.map fun fields => (fields.1, .object (fieldEntries settings fields.2))) ++
      [("overlays", .object (OverlaySurface.all.map fun surface =>
          (surface.key, .object (fieldEntries settings surface.placement)))),
        ("weather", .object (weatherEntries settings)),
        ("applicationEnvironment",
          ((settings.values .applicationEnvironment).map SettingValue.toJson).getD (.object []))]

/-! ## Reading back -/

variable {settings : ShellSettings} {field : ShellField}

theorem get_fieldEntries {fields : List ShellField} (hk : (fields.map key).Nodup) (hmem : field ∈ fields) :
    (fieldEntries settings fields).get field.key = (settings.values field).map SettingValue.toJson := by
  unfold fieldEntries JsonMap.get
  induction fields with
  | nil => cases hmem
  | cons first fields ih =>
    obtain ⟨hf, hk⟩ := List.nodup_cons.1 hk
    rcases List.mem_cons.1 hmem with rfl | hmem
    · cases hv : settings.values field with
      | none =>
        have hn : ∀ ent ∈ fields.filterMap fun field => (settings.values field).map fun value =>
            (field.key, value.toJson), ¬ent.1 = field.key := by
          intro ent he heq
          obtain ⟨other, ho, he⟩ := List.mem_filterMap.1 he
          obtain ⟨value, -, rfl⟩ := Option.map_eq_some_iff.1 he
          exact hf (List.mem_map.2 ⟨other, ho, heq⟩)
        rw [List.filterMap_cons_none (by rw [hv]; rfl), List.find?_eq_none.2 (by simpa using hn)]; rfl
      | some value =>
        rw [List.filterMap_cons_some (by rw [hv]; rfl), List.find?_cons_of_pos (by simp)]; rfl
    · have hne : first.key ≠ field.key := fun heq => hf (heq ▸ List.mem_map_of_mem hmem)
      cases hv : settings.values first with
      | none =>
        rw [List.filterMap_cons_none (by rw [hv]; rfl)]; exact ih hk hmem
      | some value =>
        rw [List.filterMap_cons_some (by rw [hv]; rfl), List.find?_cons_of_neg (by simpa using hne)]
        exact ih hk hmem

theorem kind_ne_scopes (h : field ≠ .applicationEnvironment) : field.kind ≠ .scopes := by
  cases field with
  | applicationEnvironment => exact absurd rfl h
  | placement surface field => cases surface <;> cases field <;> nofun
  | manualLocation field => cases field <;> nofun
  | _ => nofun

theorem asEnvironment_of_typed (h : field ≠ .applicationEnvironment) {value : SettingValue}
    (hv : settings.values field = some value) : value.asEnvironment = none := by
  have hy := settings.typed field; rw [hv] at hy
  cases value with
  | environment scopes =>
    cases hf : field.kind with
    | scopes => exact absurd hf (kind_ne_scopes h)
    | _ => rw [hf] at hy; cases hy
  | _ => rfl

theorem member_fieldEntries {fields : List ShellField} (hk : (fields.map key).Nodup)
    (hmem : field ∈ fields) (hf : field ≠ .applicationEnvironment) :
    (member (.object (fieldEntries settings fields)) field.key).bind settingOf = settings.values field := by
  show ((fieldEntries settings fields).get field.key).bind settingOf = settings.values field
  rw [get_fieldEntries hk hmem]
  cases hv : settings.values field with
  | none => rfl
  | some value => exact settingOf_toJson (asEnvironment_of_typed hf hv)

theorem get_append (ents os : JsonMap) (key : String) :
    JsonMap.get (ents ++ os) key = (ents.get key).or (os.get key) := by
  unfold JsonMap.get; rw [List.find?_append]
  cases ents.find? fun ent => ent.1 = key <;> rfl

theorem nodup_keys : ∀ fields ∈ sections, (fields.2.map key).Nodup := by decide +kernel

theorem encode_section {v : UInt64} {fields : String × List ShellField} (h : fields ∈ sections) :
    (settings.encode v).get fields.1 = some (.object (fieldEntries settings fields.2)) := by
  simp only [sections, List.mem_cons, List.not_mem_nil, or_false] at h
  rcases h with rfl | rfl | rfl | rfl | rfl | rfl <;> rfl

def ShellField.nested : ShellField → Bool
  | .placement .. | .locationMode | .manualLocation _ | .temperatureUnit | .applicationEnvironment => true
  | _ => false

theorem isSome_plainSection : ∀ field : ShellField, field.plainSection.isSome = !field.nested := by decide +kernel

theorem plainSection_spec {fields : String × List ShellField} (h : field.plainSection = some fields) :
    fields ∈ sections ∧ field ∈ fields.2 ∧
      field.sectionKey = fields.1 ∧ ∀ json, field.inSection json = (member json field.key).bind settingOf := by
  have hmem := List.mem_of_find?_eq_some h
  have hf : field ∈ fields.2 := by simpa using List.find?_some h
  have hn : field.nested = false := by
    have hs := isSome_plainSection field; rw [h] at hs
    simpa using hs
  refine ⟨hmem, hf, ?_, ?_⟩
  · cases field with
    | placement | locationMode | manualLocation | temperatureUnit | applicationEnvironment => cases hn
    | _ => simp only [sectionKey, h, Option.map_some, Option.getD_some]
  · cases field with
    | placement | locationMode | manualLocation | temperatureUnit | applicationEnvironment => cases hn
    | _ => exact fun _ => rfl

theorem get_weather (settings : ShellSettings) (h : field ∈ weather) :
    (weatherEntries settings).get field.key = (fieldEntries settings weather).get field.key := by
  have ho : ∀ loc : JsonMap, JsonMap.get (if (settings.values (.manualLocation .city)).isSome then
      [("manualLocation", Json.object loc)] else []) field.key = none := by
    intro loc
    simp only [weather, List.mem_cons, List.not_mem_nil, or_false] at h
    rcases h with rfl | rfl <;> split <;> rfl
  unfold weatherEntries; rw [get_append, ho, Option.or_none]

theorem member_location (settings : ShellSettings) : member (.object (weatherEntries settings)) "manualLocation" =
      if (settings.values (.manualLocation .city)).isSome then some (.object (fieldEntries settings locationParts))
      else none := by
  have hr : (fieldEntries settings weather).get "manualLocation" = none := by
    unfold JsonMap.get
    rw [Option.map_eq_none_iff, List.find?_eq_none]; intro ent he
    obtain ⟨field, hf, he⟩ := List.mem_filterMap.1 he
    obtain ⟨value, -, rfl⟩ := Option.map_eq_some_iff.1 he
    simp only [weather, List.mem_cons, List.not_mem_nil, or_false] at hf
    rcases hf with rfl | rfl <;> simp [key]
  show (weatherEntries settings).get "manualLocation" = _; unfold weatherEntries
  rw [get_append, hr, Option.none_or]
  split <;> rfl

/-- The fields of a document that `toJson` wrote are those of the settings. -/
theorem shellValues_encode (settings : ShellSettings) (v : UInt64) (hf : field ≠ .applicationEnvironment) : shellValues
    (settings.encode v) field = settings.values field := by
  unfold shellValues
  cases hn : field.plainSection with
  | some fields =>
    obtain ⟨hs, hmem, hy, hr⟩ := plainSection_spec hn
    rw [hy, encode_section hs, Option.bind_some, hr]
    exact member_fieldEntries (nodup_keys _ hs) hmem hf
  | none =>
    cases field with
    | placement surface field =>
      have hsu : member (.object (OverlaySurface.all.map fun surface =>
          (surface.key, .object (fieldEntries settings surface.placement)))) surface.key =
            some (.object (fieldEntries settings surface.placement)) := by cases surface <;> rfl
      have hk : (surface.placement.map key).Nodup := by cases surface <;> decide
      have hmem : placement surface field ∈ surface.placement := by cases surface <;> cases field <;> decide
      show ((member (.object _) surface.key).bind fun map => member map field.key).bind settingOf = _
      rw [hsu]; exact member_fieldEntries hk hmem hf
    | locationMode | temperatureUnit =>
      show ((weatherEntries settings).get _).bind settingOf = _; rw [get_weather settings (by decide)]
      exact member_fieldEntries (by decide) (by decide) hf
    | manualLocation part =>
      show ((member (.object (weatherEntries settings)) "manualLocation").bind fun map => member map part.key).bind
        settingOf = _
      rw [member_location]; split
      · exact member_fieldEntries (by decide) (by cases part <;> decide) hf
      rename_i hm
      -- without a city there is no location
      rw [settings.whole .city part] at hm
      exact (Option.not_isSome_iff_eq_none.1 hm).symm
    | applicationEnvironment => exact absurd rfl hf
    | _ => exact absurd (isSome_plainSection _) (by rw [hn]; decide)

end Deniald.Shell
