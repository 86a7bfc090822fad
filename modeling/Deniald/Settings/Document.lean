/-
The settings document (settings.rs): parsed into the values it holds, with defaults where older versions had none, and
normalised to the current schema.
-/
import Deniald.Settings.Values

namespace Deniald.Settings

open Deniald.Lib
open JsonMap

/-- `SETTINGS_SCHEMA_VERSION`. -/
def settingsSchemaVersion : UInt64 := 22

def jsonU64 (n : UInt64) : Json := .number (.unsigned n)

/-! ## Sections -/

def editSection (document : JsonMap) (key : String) (error : SettingsError) (edit : JsonMap → JsonMap) :
    Except SettingsError JsonMap :=
  match document.get key with
  | none => .ok (document.insert key (.object (edit [])))
  | some value =>
    match value.asObject with
    | none => .error error
    | some entries => .ok (document.insert key (.object (edit entries)))

def sectionGet (document : JsonMap) (key field : String) : Option Json :=
  (document.get key).bind fun value => value.asObject.bind fun entries => entries.get field

def parseColorSchemePreference (document : JsonMap) : Except SettingsError DesktopColorSchemePreference :=
  match (sectionGet document "appearance" "colorSchemePreference").bind Json.asString with
  | none => .error .colorSchemeMissing
  | some value =>
    match DesktopColorSchemePreference.fromSettingsName value with
    | none => .error (.colorScheme value)
    | some preference => .ok preference

def setColorSchemePreference (document : JsonMap) (preference : DesktopColorSchemePreference) :
    Except SettingsError JsonMap :=
  editSection document "appearance" .appearance fun appearance =>
    appearance.insert "colorSchemePreference" (.string preference.settingsName)

def parseAllowClientCursorSurfaces (document : JsonMap) : Except SettingsError Bool :=
  match (sectionGet document "appearance" "allowClientCursorSurfaces").bind Json.asBool with
  | none => .error .clientCursorSurfaces
  | some allowed => .ok allowed

def setAllowClientCursorSurfaces (document : JsonMap) (allowed : Bool) : Except SettingsError JsonMap :=
  editSection document "appearance" .appearance fun appearance =>
    appearance.insert "allowClientCursorSurfaces" (.bool allowed)

def parseWindowLayoutKind (document : JsonMap) : Except SettingsError WindowLayoutKind :=
  match (sectionGet document "layout" "windowLayout").bind Json.asString with
  | none => .error .windowLayoutMissing
  | some value =>
    match WindowLayoutKind.fromSettingsName value with
    | none => .error (.windowLayout value)
    | some kind => .ok kind

def setWindowLayoutKind (document : JsonMap) (kind : WindowLayoutKind) : Except SettingsError JsonMap :=
  editSection document "layout" .layout fun layout => layout.insert "windowLayout" (.string kind.settingsName)

/-- A count that workspaces can have. -/
def validCount (value : Json) : Option UInt8 := value.asU8.filter fun count => 2 ≤ count && count ≤ 9

def parseWorkspaceSettings (document : JsonMap) : Except SettingsError WorkspaceSettings :=
  match (document.get "layout").bind Json.asObject with
  | none => .error .layout
  | some layout =>
    match (layout.get "workspacesEnabled").bind Json.asBool with
    | none => .error .workspacesEnabled
    | some enabled =>
      match (layout.get "workspaceCount").bind validCount with
      | none => .error .workspaceCount
      | some count => .ok { enabled, count }

def setWorkspaceSettings (document : JsonMap) (workspaces : WorkspaceSettings) : Except SettingsError JsonMap :=
  editSection document "layout" .layout fun layout =>
    (layout.insert "workspacesEnabled" (.bool workspaces.enabled)).insert "workspaceCount" (.ofU8 workspaces.count)

/-! ## Documents -/

def environmentFromDocument (document : JsonMap) : Except SettingsError ApplicationEnvironment :=
  match document.get "applicationEnvironment" with
  | none => .ok {}
  | some value => ApplicationEnvironment.ofJson value

def ApplicationEnvironment.writeToDocument (environment : ApplicationEnvironment) (document : JsonMap) : JsonMap :=
  document.insert "applicationEnvironment" environment.toJson

structure ParsedSettingsDocument where
  document : JsonMap
  revision : UInt64
  keyboard : KeyboardSettings
  mouse : MouseSettings
  touchpad : TouchpadSettings
  colorSchemePreference : DesktopColorSchemePreference
  allowClientCursorSurfaces : Bool
  applicationEnvironment : ApplicationEnvironment
  migrated : Bool

def parseField {α : Type} (ofJson : Json → Option α) (default : α) (validate : α → Except SettingsError Unit)
    (value : Option Json) : Except SettingsError α := do
  let field ← (fieldOr ofJson default value).elim (.error .json) .ok
  validate field
  return field

def parseRevision (document : JsonMap) : UInt64 :=
  (((document.get "revision").bind Json.asU64).filter fun revision => 0 < revision).getD 1

def hadField (document : JsonMap) (key field : String) : Bool := (sectionGet document key field).isSome

def orDefault {α : Type} (had : Bool) (parse : Except SettingsError α) (default : α) : Except SettingsError α :=
  if had then parse else .ok default

/-- A setting that older versions may lack is read, or takes its default, and is set. -/
def migrateField {α : Type} (had : Bool) (parse : Except SettingsError α) (default : α)
    (set : α → Except SettingsError JsonMap) : Except SettingsError (JsonMap × α) := do
  let value ← orDefault had parse default
  return (← set value, value)

/-- `parse_document`, of a text that is JSON. -/
def parseDocument (value : Json) : Except SettingsError ParsedSettingsDocument :=
  match value.asObject with
  | none => .error .notObject
  | some source =>
    match (source.get "version").bind Json.asU64 with
    | none => .error .versionMissing
    | some version =>
      if version = 0 || settingsSchemaVersion < version then .error (.unsupportedVersion version)
      else do
        let revision := parseRevision source
        let keyboard ← parseField KeyboardSettings.ofJson {} KeyboardSettings.validate (source.get "keyboard")
        let mouse ← parseField MouseSettings.ofJson {} MouseSettings.validate (source.get "mouse")
        let touchpad ← parseField TouchpadSettings.ofJson {} TouchpadSettings.validate (source.get "touchpad")
        let hadApplicationEnvironment := source.containsKey "applicationEnvironment"
        let applicationEnvironment ← environmentFromDocument source
        let document := applicationEnvironment.writeToDocument source
        let hadColorSchemePreference := hadField document "appearance" "colorSchemePreference"
        let (document, colorSchemePreference) ← migrateField hadColorSchemePreference
          (parseColorSchemePreference document) .preferDark (setColorSchemePreference document)
        let hadAllowClientCursorSurfaces := hadField document "appearance" "allowClientCursorSurfaces"
        let (document, allowClientCursorSurfaces) ← migrateField hadAllowClientCursorSurfaces
          (parseAllowClientCursorSurfaces document) true (setAllowClientCursorSurfaces document)
        let hadWindowLayout := hadField document "layout" "windowLayout"
        let (document, _) ← migrateField hadWindowLayout (parseWindowLayoutKind document) .stacking
          (setWindowLayoutKind document)
        let hadWorkspaceSettings :=
          hadField document "layout" "workspacesEnabled" && hadField document "layout" "workspaceCount"
        let (document, _) ← migrateField hadWorkspaceSettings (parseWorkspaceSettings document) {}
          (setWorkspaceSettings document)
        let migrated := version ≠ settingsSchemaVersion || !document.containsKey "revision" ||
          !document.containsKey "keyboard" || !document.containsKey "mouse" || !document.containsKey "touchpad" ||
          !hadApplicationEnvironment || !hadColorSchemePreference || !hadAllowClientCursorSurfaces ||
          !hadWindowLayout || !hadWorkspaceSettings
        let document := document.insert "version" (jsonU64 settingsSchemaVersion)
        let document := document.insert "revision" (jsonU64 revision)
        let document := document.insert "keyboard" keyboard.toJson
        let document := document.insert "mouse" mouse.toJson
        let document := document.insert "touchpad" touchpad.toJson
        return {
          document
          revision
          keyboard
          mouse
          touchpad
          colorSchemePreference
          allowClientCursorSurfaces
          applicationEnvironment
          migrated }

/-- `default_document`. -/
def defaultDocument : JsonMap :=
  [("version", jsonU64 settingsSchemaVersion), ("revision", jsonU64 1), ("keyboard", KeyboardSettings.toJson {}),
    ("mouse", MouseSettings.toJson {}), ("touchpad", TouchpadSettings.toJson {}),
    ("applicationEnvironment", ApplicationEnvironment.toJson {}),
    ("appearance", .object [("colorSchemePreference", .string "preferDark"), ("allowClientCursorSurfaces", .bool true)]),
    ("layout", .object [("windowLayout", .string "stacking")])]

/-! ## Sections that are edited -/

variable {document' : JsonMap} {field key : String} {error : SettingsError} {edit : JsonMap → JsonMap} {value : Json}

variable {document : JsonMap} {workspaces : WorkspaceSettings}

theorem editSection_ok (h : editSection document key error edit = .ok document') :
    ∃ ents, ((document.get key).bind Json.asObject).getD [] = ents ∧
      document' = document.insert key (.object (edit ents)) := by
  unfold editSection at h; split at h
  · rename_i hge; rw [hge]; exact ⟨[], rfl, (Except.ok.inj h).symm⟩
  rename_i value hge; split at h
  · cases h
  · rename_i ents he; rw [hge, Option.bind_some, he]
    exact ⟨ents, rfl, (Except.ok.inj h).symm⟩

theorem editSection_same {ents : JsonMap} (hge : document.get key = some (.object ents)) (he : edit ents = ents) :
    editSection document key error edit = .ok document := by
  unfold editSection; rw [hge]
  show Except.ok (document.insert key (.object (edit ents))) = _; rw [he, insert_get hge]

theorem sectionGet_iff : sectionGet document key field = some value ↔
      ∃ ents, document.get key = some (.object ents) ∧ get ents field = some value := by
  unfold sectionGet; rw [Option.bind_eq_some_iff]
  constructor
  · rintro ⟨f, hf, h⟩
    obtain ⟨ents, he, h⟩ := Option.bind_eq_some_iff.1 h
    exact ⟨ents, hf.trans (congrArg some (Json.eq_of_asObject he)), h⟩
  · rintro ⟨ents, hf, h⟩; exact ⟨.object ents, hf, h⟩

theorem sectionGet_edit (h : editSection document key error edit = .ok document') (field : String) :
    ∃ ents, (∀ other, sectionGet document key other = get ents other) ∧
      sectionGet document' key field = (edit ents).get field := by
  obtain ⟨ents, he, rfl⟩ := editSection_ok h
  refine ⟨ents, fun other => ?_, ?_⟩
  · unfold sectionGet; rw [← he]
    cases document.get key with
    | none => rfl
    | some value =>
      show value.asObject.bind _ = get (value.asObject.getD []) other
      cases value.asObject <;> rfl
  · unfold sectionGet
    rw [get_insert_self]; rfl

theorem get_edit_of_ne {key' : String} (h : editSection document key error edit = .ok document') (hne : key' ≠ key) :
    document'.get key' = document.get key' := by
  obtain ⟨ents, -, rfl⟩ := editSection_ok h; exact get_insert_of_ne hne document _

theorem sectionGet_congr (h : document'.get key = document.get key) (field : String) :
    sectionGet document' key field = sectionGet document key field := by
  unfold sectionGet; rw [h]

theorem sectionGet_insert (h : editSection document key error (fun ents => ents.insert field value) = .ok document') :
    sectionGet document' key field = some value ∧
      ∀ other ≠ field, sectionGet document' key other = sectionGet document key other := by
  refine ⟨?_, fun other hne => ?_⟩
  · obtain ⟨ents, -, hf⟩ := sectionGet_edit h field; rw [hf, get_insert_self]
  · obtain ⟨ents, hbe, haf⟩ := sectionGet_edit h other
    rw [haf, hbe, get_insert_of_ne hne]

/-! ## Current documents -/

/-- The values of a document of the current schema, but for those of workspaces. -/
structure Values where
  revision : UInt64
  keyboard : KeyboardSettings
  mouse : MouseSettings
  touchpad : TouchpadSettings
  colorSchemePreference : DesktopColorSchemePreference
  allowClientCursorSurfaces : Bool
  applicationEnvironment : ApplicationEnvironment
  windowLayout : WindowLayoutKind

/-- A document that holds such values as they are written. -/
structure Current (document : JsonMap) (v : Values) : Prop where
  version : document.get "version" = some (jsonU64 settingsSchemaVersion)
  revision : document.get "revision" = some (jsonU64 v.revision)
  revised : 0 < v.revision
  keyboard : document.get "keyboard" = some v.keyboard.toJson
  keyboardValid : v.keyboard.validate = .ok ()
  mouse : document.get "mouse" = some v.mouse.toJson
  mouseValid : v.mouse.validate = .ok ()
  touchpad : document.get "touchpad" = some v.touchpad.toJson
  touchpadValid : v.touchpad.validate = .ok ()
  environment : document.get "applicationEnvironment" = some v.applicationEnvironment.toJson
  environmentValid : v.applicationEnvironment.Valid
  colorScheme : sectionGet document "appearance" "colorSchemePreference" =
    some (.string v.colorSchemePreference.settingsName)
  cursorSurfaces : sectionGet document "appearance" "allowClientCursorSurfaces" = some (.bool v.allowClientCursorSurfaces)
  windowLayout : sectionGet document "layout" "windowLayout" = some (.string v.windowLayout.settingsName)

structure HasWorkspaces (document : JsonMap) (workspaces : WorkspaceSettings) : Prop where
  enabled : sectionGet document "layout" "workspacesEnabled" = some (.bool workspaces.enabled)
  count : sectionGet document "layout" "workspaceCount" = some (.ofU8 workspaces.count)
  valid : 2 ≤ workspaces.count ∧ workspaces.count ≤ 9

theorem parseField_toJson {α : Type} {ofJson : Json → Option α} {default : α}
    {validate : α → Except SettingsError Unit} {field : α} (hr : ofJson value = some field)
    (hv : validate field = .ok ()) : parseField ofJson default validate (some value) = .ok field := by
  have hf : fieldOr ofJson default (some value) = some field := hr
  unfold parseField; rw [hf]
  exact bind_ok.2 ⟨field, rfl, bind_ok.2 ⟨(), hv, rfl⟩⟩

theorem validCount_ofU8 {count : UInt8} (h : 2 ≤ count ∧ count ≤ 9) : validCount (.ofU8 count) = some count := by
  unfold validCount
  rw [Json.asU8_ofU8, Option.filter_some, if_pos]
  rw [Bool.and_eq_true, decide_eq_true_eq, decide_eq_true_eq]; exact h

theorem parseWorkspaceSettings_of_has (h : HasWorkspaces document workspaces) :
    parseWorkspaceSettings document = .ok workspaces := by
  obtain ⟨ents, hy, he⟩ := sectionGet_iff.1 h.enabled
  obtain ⟨ents', hl', hn⟩ := sectionGet_iff.1 h.count; rw [hy] at hl'
  cases hl'; unfold parseWorkspaceSettings
  rw [hy]
  show (match (get ents "workspacesEnabled").bind Json.asBool with
    | none => _
    | some e => _) = _
  rw [he]
  show (match (get ents "workspaceCount").bind validCount with
    | none => _
    | some count => _) = _
  rw [hn, Option.bind_some, validCount_ofU8 h.valid]

theorem has_of_parseWorkspaceSettings (h : parseWorkspaceSettings document = .ok workspaces) :
    HasWorkspaces document workspaces := by
  unfold parseWorkspaceSettings at h; split at h
  · cases h
  rename_i ents hy
  obtain ⟨value, hva, hen⟩ := Option.bind_eq_some_iff.1 hy
  rw [Json.eq_of_asObject hen] at hva; split at h
  · cases h
  rename_i e he
  obtain ⟨ej, hge, he⟩ := Option.bind_eq_some_iff.1 he; split at h
  · cases h
  rename_i count hn
  obtain ⟨cj, hg', hn⟩ := Option.bind_eq_some_iff.1 hn
  obtain ⟨hn, hv⟩ := Option.filter_eq_some_iff.1 hn
  rw [Bool.and_eq_true, decide_eq_true_eq, decide_eq_true_eq] at hv; cases h
  refine ⟨sectionGet_iff.2 ⟨ents, hva, ?_⟩, sectionGet_iff.2 ⟨ents, hva, ?_⟩, hv⟩
  · rw [hge, Json.eq_of_asBool he]
  · rw [hg', Json.eq_of_asU8 hn]

/-! ## Parsing -/

theorem editSection_insert_same (h : sectionGet document key field = some value) :
    editSection document key error (fun ents => ents.insert field value) = .ok document := by
  obtain ⟨ents, hge, hf⟩ := sectionGet_iff.1 h
  exact editSection_same hge (insert_get hf)

theorem setWorkspaceSettings_same (h : HasWorkspaces document workspaces) :
    setWorkspaceSettings document workspaces = .ok document := by
  obtain ⟨ents, hy, he⟩ := sectionGet_iff.1 h.enabled
  obtain ⟨ents', hl', hn⟩ := sectionGet_iff.1 h.count; rw [hy] at hl'
  cases hl'
  refine editSection_same hy ?_
  rw [insert_get he, insert_get hn]

theorem migrateField_same {α : Type} {p : Except SettingsError α} {default value : α}
    {set : α → Except SettingsError JsonMap} (hr : p = .ok value) (hs : set value = .ok document) :
    migrateField true p default set = .ok (document, value) := by
  unfold migrateField orDefault; rw [if_pos rfl]
  exact bind_ok.2 ⟨value, hr, bind_ok.2 ⟨document, hs, rfl⟩⟩

theorem migrateField_ok {α : Type} {had : Bool} {p : Except SettingsError α} {default : α}
    {set : α → Except SettingsError JsonMap} {result : JsonMap × α} (h : migrateField had p default set = .ok result) :
    orDefault had p default = .ok result.2 ∧ set result.2 = .ok result.1 := by
  unfold migrateField at h
  obtain ⟨value, hv, h⟩ := bind_ok.1 h
  obtain ⟨document, hs, h⟩ := bind_ok.1 h
  cases h; exact ⟨hv, hs⟩

def parsed (document : JsonMap) (v : Values) (migrated : Bool) : ParsedSettingsDocument where
  document := document
  revision := v.revision
  keyboard := v.keyboard
  mouse := v.mouse
  touchpad := v.touchpad
  colorSchemePreference := v.colorSchemePreference
  allowClientCursorSurfaces := v.allowClientCursorSurfaces
  applicationEnvironment := v.applicationEnvironment
  migrated := migrated

variable {v : Values}

theorem parseRevision_current (h : Current document v) : parseRevision document = v.revision := by
  unfold parseRevision; rw [h.revision]
  show ((some v.revision).filter fun revision => decide (0 < revision)).getD 1 = _
  rw [Option.filter_some, if_pos (decide_eq_true h.revised)]; rfl

theorem parseColorScheme_current (h : Current document v) :
    parseColorSchemePreference document = .ok v.colorSchemePreference := by
  unfold parseColorSchemePreference; rw [h.colorScheme, Option.bind_some]
  show (match DesktopColorSchemePreference.fromSettingsName v.colorSchemePreference.settingsName with
    | none => _
    | some preference => _) = _
  rw [DesktopColorSchemePreference.fromSettingsName_settingsName]

theorem parseWindowLayout_current (h : Current document v) : parseWindowLayoutKind document = .ok v.windowLayout := by
  unfold parseWindowLayoutKind; rw [h.windowLayout, Option.bind_some]
  show (match WindowLayoutKind.fromSettingsName v.windowLayout.settingsName with
    | none => _
    | some preference => _) = _
  rw [WindowLayoutKind.fromSettingsName_settingsName]

def writeNative (document : JsonMap) (revision : UInt64) (keyboard : KeyboardSettings) (mouse : MouseSettings)
    (touchpad : TouchpadSettings) : JsonMap :=
  ((((document.insert "version" (jsonU64 settingsSchemaVersion)).insert "revision" (jsonU64 revision)).insert
    "keyboard" keyboard.toJson).insert "mouse" mouse.toJson).insert "touchpad" touchpad.toJson

theorem parse_of_current_of {document₄ : JsonMap} {both : Bool} (h : Current document v)
    (hbo : (hadField document "layout" "workspacesEnabled" && hadField document "layout" "workspaceCount") = both)
    (hm : migrateField both (parseWorkspaceSettings document) {} (setWorkspaceSettings document) =
      .ok (document₄, workspaces)) : parseDocument (.object document) =
      .ok (parsed (writeNative document₄ v.revision v.keyboard v.mouse v.touchpad) v !both) := by
  have hr : parseAllowClientCursorSurfaces document = .ok v.allowClientCursorSurfaces := by
    unfold parseAllowClientCursorSurfaces
    rw [h.cursorSurfaces]; rfl
  have he : environmentFromDocument document = .ok v.applicationEnvironment := by
    unfold environmentFromDocument
    rw [h.environment]; exact h.environmentValid.ofJson_toJson
  have hw : v.applicationEnvironment.writeToDocument document = document := insert_get h.environment
  have hh : ∀ {key field value}, sectionGet document key field = some value → hadField document key field = true :=
    fun heq => by
      unfold hadField
      rw [heq]; rfl
  have hk : parseField KeyboardSettings.ofJson {} KeyboardSettings.validate (document.get "keyboard") =
      .ok v.keyboard := by
    rw [h.keyboard]
    exact parseField_toJson v.keyboard.ofJson_toJson h.keyboardValid
  have hs : parseField MouseSettings.ofJson {} MouseSettings.validate (document.get "mouse") = .ok v.mouse := by
    rw [h.mouse]
    exact parseField_toJson v.mouse.ofJson_toJson h.mouseValid
  have hto : parseField TouchpadSettings.ofJson {} TouchpadSettings.validate (document.get "touchpad") =
      .ok v.touchpad := by
    rw [h.touchpad]
    exact parseField_toJson v.touchpad.ofJson_toJson h.touchpadValid
  have hn : ∀ {key value}, key ≠ "layout" → document.get key = some value → document₄.containsKey key = true :=
    fun hne hge => containsKey_of_get ((get_edit_of_ne (migrateField_ok hm).2 hne).trans hge)
  unfold parseDocument
  show (match (document.get "version").bind Json.asU64 with
    | none => _
    | some version => _) = _
  rw [h.version]
  show (if (decide (settingsSchemaVersion = 0) || decide (settingsSchemaVersion < settingsSchemaVersion)) = true
    then _ else _) = _
  rw [if_neg (by decide)]
  refine bind_ok.2 ⟨v.keyboard, hk, bind_ok.2 ⟨v.mouse, hs, bind_ok.2 ⟨v.touchpad, hto,
    bind_ok.2 ⟨v.applicationEnvironment, he, ?_⟩⟩⟩⟩
  dsimp only; rw [hw, hh h.colorScheme]
  refine bind_ok.2 ⟨(document, v.colorSchemePreference), migrateField_same (parseColorScheme_current h)
    (editSection_insert_same h.colorScheme), ?_⟩
  dsimp only; rw [hh h.cursorSurfaces]
  refine bind_ok.2 ⟨(document, v.allowClientCursorSurfaces), migrateField_same hr
    (editSection_insert_same h.cursorSurfaces), ?_⟩
  dsimp only; rw [hh h.windowLayout]
  refine bind_ok.2 ⟨(document, v.windowLayout), migrateField_same (parseWindowLayout_current h)
    (editSection_insert_same h.windowLayout), ?_⟩
  dsimp only; rw [hbo]
  refine bind_ok.2 ⟨(document₄, workspaces), hm, ?_⟩; dsimp only
  rw [parseRevision_current h, hn (by decide) h.revision, hn (by decide) h.keyboard,
    hn (by decide) h.mouse, hn (by decide) h.touchpad, containsKey_of_get h.environment]
  rfl

theorem parse_of_current (h : Current document v) (hw : HasWorkspaces document workspaces) :
    parseDocument (.object document) = .ok (parsed document v false) := by
  have hbo : (hadField document "layout" "workspacesEnabled" && hadField document "layout" "workspaceCount") = true := by
    unfold hadField
    rw [hw.enabled, hw.count]; rfl
  have hn : writeNative document v.revision v.keyboard v.mouse v.touchpad = document := by
    unfold writeNative
    rw [insert_get h.version, insert_get h.revision, insert_get h.keyboard,
      insert_get h.mouse, insert_get h.touchpad]
  rw [parse_of_current_of h hbo (migrateField_same (parseWorkspaceSettings_of_has hw)
    (setWorkspaceSettings_same hw)), hn]
  rfl

theorem parse_of_current_missing (h : Current document v)
    (hs : (hadField document "layout" "workspacesEnabled" && hadField document "layout" "workspaceCount") = false) :
    ∃ p, parseDocument (.object document) = .ok p := by
  obtain ⟨ents, hy, -⟩ := sectionGet_iff.1 h.windowLayout
  have hm : ∃ document₄, migrateField false (parseWorkspaceSettings document) {}
      (setWorkspaceSettings document) = .ok (document₄, {}) := by
    unfold setWorkspaceSettings editSection
    rw [hy]; exact ⟨_, rfl⟩
  obtain ⟨document₄, hm⟩ := hm; exact ⟨_, parse_of_current_of h hs hm⟩

structure Migrates (source : JsonMap) (p : ParsedSettingsDocument) (v : Values) (workspaces : WorkspaceSettings) :
    Prop where
  parsed : p = parsed p.document v p.migrated
  current : Current p.document v
  hasWorkspaces : HasWorkspaces p.document workspaces
  revision : v.revision = parseRevision source
  keyboard : parseField KeyboardSettings.ofJson {} KeyboardSettings.validate (source.get "keyboard") = .ok v.keyboard
  mouse : parseField MouseSettings.ofJson {} MouseSettings.validate (source.get "mouse") = .ok v.mouse
  touchpad : parseField TouchpadSettings.ofJson {} TouchpadSettings.validate (source.get "touchpad") = .ok v.touchpad
  environment : environmentFromDocument source = .ok v.applicationEnvironment
  colorScheme : orDefault (hadField source "appearance" "colorSchemePreference") (parseColorSchemePreference source)
    .preferDark = .ok v.colorSchemePreference
  cursorSurfaces : orDefault (hadField source "appearance" "allowClientCursorSurfaces")
    (parseAllowClientCursorSurfaces source) true = .ok v.allowClientCursorSurfaces
  windowLayout : orDefault (hadField source "layout" "windowLayout") (parseWindowLayoutKind source) .stacking =
    .ok v.windowLayout
  workspaces : orDefault (hadField source "layout" "workspacesEnabled" && hadField source "layout" "workspaceCount")
    (parseWorkspaceSettings source) {} = .ok workspaces

theorem parseField_ok {α : Type} {ofJson : Json → Option α} {default : α} {validate : α → Except SettingsError Unit}
    {value : Option Json} {field : α} (h : parseField ofJson default validate value = .ok field) :
    validate field = .ok () ∧ fieldOr ofJson default value = some field := by
  unfold parseField at h
  obtain ⟨fld', hf, h⟩ := bind_ok.1 h
  obtain ⟨_, hv, h⟩ := bind_ok.1 h; cases h
  refine ⟨hv, ?_⟩
  cases hr : fieldOr ofJson default value with
  | none =>
    rw [hr] at hf; cases hf
  | some read =>
    rw [hr] at hf; exact congrArg some (Except.ok.inj hf)

theorem parseRevision_pos (document : JsonMap) : 0 < parseRevision document := by
  unfold parseRevision
  cases h : ((document.get "revision").bind Json.asU64).filter fun revision => decide (0 < revision) with
  | none => decide
  | some revision => exact of_decide_eq_true (Option.filter_eq_some_iff.1 h).2

section WriteNative

variable (document : JsonMap) (revision : UInt64) (keyboard : KeyboardSettings) (mouse : MouseSettings)
  (touchpad : TouchpadSettings)

theorem get_writeNative {key : String} (hv : key ≠ "version") (hr : key ≠ "revision")
    (hk : key ≠ "keyboard") (hm : key ≠ "mouse") (hto : key ≠ "touchpad") :
    (writeNative document revision keyboard mouse touchpad).get key = document.get key := by
  unfold writeNative
  rw [get_insert_of_ne hto, get_insert_of_ne hm, get_insert_of_ne hk,
    get_insert_of_ne hr, get_insert_of_ne hv]

theorem get_writeNative_native :
    (writeNative document revision keyboard mouse touchpad).get "version" = some (jsonU64 settingsSchemaVersion) ∧
      (writeNative document revision keyboard mouse touchpad).get "revision" = some (jsonU64 revision) ∧
      (writeNative document revision keyboard mouse touchpad).get "keyboard" = some keyboard.toJson ∧
      (writeNative document revision keyboard mouse touchpad).get "mouse" = some mouse.toJson ∧
      (writeNative document revision keyboard mouse touchpad).get "touchpad" = some touchpad.toJson := by
  unfold writeNative
  refine ⟨?_, ?_, ?_, ?_, get_insert_self ..⟩
  · rw [get_insert_of_ne (by decide), get_insert_of_ne (by decide), get_insert_of_ne (by decide),
      get_insert_of_ne (by decide), get_insert_self]
  · rw [get_insert_of_ne (by decide), get_insert_of_ne (by decide), get_insert_of_ne (by decide),
      get_insert_self]
  · rw [get_insert_of_ne (by decide), get_insert_of_ne (by decide), get_insert_self]
  · rw [get_insert_of_ne (by decide), get_insert_self]

end WriteNative

theorem hadField_congr (h : sectionGet document' key field = sectionGet document key field) :
    hadField document' key field = hadField document key field := by
  unfold hadField; rw [h]

theorem HasWorkspaces.congr (h : HasWorkspaces document workspaces)
    (he : sectionGet document' "layout" "workspacesEnabled" = sectionGet document "layout" "workspacesEnabled")
    (hn : sectionGet document' "layout" "workspaceCount" = sectionGet document "layout" "workspaceCount") :
    HasWorkspaces document' workspaces :=
  ⟨he.trans h.enabled, hn.trans h.count, h.valid⟩

section Steps

variable {source document₁ document₂ document₃ document₄ : JsonMap} {keyboard : KeyboardSettings} {mouse : MouseSettings}
  {touchpad : TouchpadSettings} {environment : ApplicationEnvironment} {preference : DesktopColorSchemePreference}
  {allowed : Bool} {kind : WindowLayoutKind} {workspaces : WorkspaceSettings}

theorem sections_of_steps (hs₁ : setColorSchemePreference (environment.writeToDocument source) preference = .ok document₁)
    (hs₂ : setAllowClientCursorSurfaces document₁ allowed = .ok document₂)
    (hs₃ : setWindowLayoutKind document₂ kind = .ok document₃) :
    (∀ field, sectionGet (environment.writeToDocument source) "appearance" field = sectionGet source "appearance" field) ∧
      sectionGet document₁ "appearance" "allowClientCursorSurfaces" =
        sectionGet source "appearance" "allowClientCursorSurfaces" ∧
      (∀ field, sectionGet document₂ "layout" field = sectionGet source "layout" field) ∧
      ∀ field ≠ "windowLayout", sectionGet document₃ "layout" field = sectionGet source "layout" field := by
  have hw : ∀ key ≠ "applicationEnvironment", (environment.writeToDocument source).get key = source.get key :=
    fun key hne => get_insert_of_ne hne source _
  have hr : ∀ field, sectionGet (environment.writeToDocument source) "appearance" field =
      sectionGet source "appearance" field := sectionGet_congr (hw "appearance" (by decide))
  have hy : ∀ field, sectionGet document₂ "layout" field = sectionGet source "layout" field := by
    refine sectionGet_congr ?_
    rw [get_edit_of_ne hs₂ (by decide), get_edit_of_ne hs₁ (by decide), hw "layout" (by decide)]
  refine ⟨hr, ?_, hy, fun field hne => ?_⟩
  · rw [(sectionGet_insert hs₁).2 _ (by decide), hr]
  · rw [(sectionGet_insert hs₃).2 field hne, hy]

variable {document' : JsonMap}

variable {document : JsonMap}

theorem parseColorScheme_congr (h : sectionGet document' "appearance" "colorSchemePreference" =
      sectionGet document "appearance" "colorSchemePreference") :
    parseColorSchemePreference document' = parseColorSchemePreference document := by
  unfold parseColorSchemePreference; rw [h]

theorem parseCursorSurfaces_congr (h : sectionGet document' "appearance" "allowClientCursorSurfaces" =
      sectionGet document "appearance" "allowClientCursorSurfaces") :
    parseAllowClientCursorSurfaces document' = parseAllowClientCursorSurfaces document := by
  unfold parseAllowClientCursorSurfaces; rw [h]

theorem parseWindowLayout_congr
    (h : sectionGet document' "layout" "windowLayout" = sectionGet document "layout" "windowLayout") :
    parseWindowLayoutKind document' = parseWindowLayoutKind document := by
  unfold parseWindowLayoutKind; rw [h]

theorem workspaces_congr
    (he : sectionGet document' "layout" "workspacesEnabled" = sectionGet document "layout" "workspacesEnabled")
    (hn : sectionGet document' "layout" "workspaceCount" = sectionGet document "layout" "workspaceCount")
    (h : orDefault (hadField document' "layout" "workspacesEnabled" && hadField document' "layout" "workspaceCount")
      (parseWorkspaceSettings document') {} = .ok workspaces) :
    orDefault (hadField document "layout" "workspacesEnabled" && hadField document "layout" "workspaceCount")
      (parseWorkspaceSettings document) {} = .ok workspaces := by
  rw [hadField_congr he, hadField_congr hn] at h
  unfold orDefault at h ⊢; split at h
  · rename_i hbo; rw [if_pos hbo]
    exact parseWorkspaceSettings_of_has
      ((has_of_parseWorkspaceSettings h).congr he.symm hn.symm)
  · rename_i hno; rw [if_neg hno]; exact h

theorem workspaces_valid {had : Bool} (h : orDefault had (parseWorkspaceSettings document) {} = .ok workspaces) :
    2 ≤ workspaces.count ∧ workspaces.count ≤ 9 := by
  unfold orDefault at h; split at h
  · exact (has_of_parseWorkspaceSettings h).valid
  · cases h; decide

theorem environmentValid (h : environmentFromDocument document = .ok environment) : environment.Valid := by
  unfold environmentFromDocument at h; split at h
  · cases h; exact ApplicationEnvironment.valid_empty
  · exact ApplicationEnvironment.valid_of_ofJson h

theorem hasWorkspaces_set (hs : setWorkspaceSettings document₃ workspaces = .ok document₄)
    (hv : 2 ≤ workspaces.count ∧ workspaces.count ≤ 9) : HasWorkspaces document₄ workspaces := by
  obtain ⟨ents, -, he⟩ := sectionGet_edit hs "workspacesEnabled"
  obtain ⟨ents', -, hn⟩ := sectionGet_edit hs "workspaceCount"
  refine ⟨he.trans ?_, hn.trans (get_insert_self ..), hv⟩
  rw [get_insert_of_ne (by decide), get_insert_self]

theorem migrates_of_steps
    (hk : parseField KeyboardSettings.ofJson {} KeyboardSettings.validate (source.get "keyboard") = .ok keyboard)
    (hm : parseField MouseSettings.ofJson {} MouseSettings.validate (source.get "mouse") = .ok mouse)
    (hto : parseField TouchpadSettings.ofJson {} TouchpadSettings.validate (source.get "touchpad") = .ok touchpad)
    (he : environmentFromDocument source = .ok environment)
    (hp₁ : orDefault (hadField (environment.writeToDocument source) "appearance" "colorSchemePreference")
      (parseColorSchemePreference (environment.writeToDocument source)) .preferDark = .ok preference)
    (hs₁ : setColorSchemePreference (environment.writeToDocument source) preference = .ok document₁)
    (hp₂ : orDefault (hadField document₁ "appearance" "allowClientCursorSurfaces")
      (parseAllowClientCursorSurfaces document₁) true = .ok allowed)
    (hs₂ : setAllowClientCursorSurfaces document₁ allowed = .ok document₂)
    (hp₃ : orDefault (hadField document₂ "layout" "windowLayout") (parseWindowLayoutKind document₂) .stacking =
      .ok kind) (hs₃ : setWindowLayoutKind document₂ kind = .ok document₃)
    (hp₄ : orDefault (hadField document₃ "layout" "workspacesEnabled" && hadField document₃ "layout" "workspaceCount")
      (parseWorkspaceSettings document₃) {} = .ok workspaces)
    (hs₄ : setWorkspaceSettings document₃ workspaces = .ok document₄) (m : Bool) :
    let v : Values := ⟨parseRevision source, keyboard, mouse, touchpad, preference, allowed, environment, kind⟩
    Migrates source
      (parsed (writeNative document₄ (parseRevision source) keyboard mouse touchpad) v m) v workspaces := by
  intro v
  obtain ⟨hr, hcu, hy, hw⟩ := sections_of_steps hs₁ hs₂ hs₃
  obtain ⟨hve, hv, hk', hm', ht'⟩ :=
    get_writeNative_native document₄ (parseRevision source) keyboard mouse touchpad
  have hs : ∀ key, key ≠ "version" → key ≠ "revision" → key ≠ "keyboard" → key ≠ "mouse" → key ≠ "touchpad" →
      ∀ field, sectionGet (writeNative document₄ (parseRevision source) keyboard mouse touchpad) key field =
        sectionGet document₄ key field := fun key h₁ h₂ h₃ h₄ h₅ =>
    sectionGet_congr (get_writeNative document₄ _ keyboard mouse touchpad h₁ h₂ h₃ h₄ h₅)
  have ha' : ∀ field, sectionGet document₄ "appearance" field = sectionGet document₂ "appearance" field := by
    refine sectionGet_congr ?_
    rw [get_edit_of_ne hs₄ (by decide), get_edit_of_ne hs₃ (by decide)]
  have hn : sectionGet document₄ "layout" "windowLayout" = some (.string kind.settingsName) := by
    obtain ⟨ents, hbe, hf⟩ := sectionGet_edit hs₄ "windowLayout"
    rw [hf, get_insert_of_ne (by decide), get_insert_of_ne (by decide), ← hbe]
    exact (sectionGet_insert hs₃).1
  have haf := hs "appearance" (by decide) (by decide) (by decide) (by decide) (by decide)
  have hlf := hs "layout" (by decide) (by decide) (by decide) (by decide) (by decide)
  refine ⟨rfl, ⟨hve, hv, parseRevision_pos source, hk', (parseField_ok hk).1, hm',
    (parseField_ok hm).1, ht', (parseField_ok hto).1, ?_, environmentValid he, ?_, ?_, ?_⟩, ?_, rfl,
    hk, hm, hto, he, ?_, ?_, ?_, ?_⟩
  · refine (get_writeNative document₄ _ keyboard mouse touchpad (by decide) (by decide) (by decide) (by decide)
      (by decide)).trans ?_
    rw [get_edit_of_ne hs₄ (by decide), get_edit_of_ne hs₃ (by decide), get_edit_of_ne hs₂ (by decide),
      get_edit_of_ne hs₁ (by decide)]
    exact get_insert_self ..
  · refine (haf _).trans ((ha' _).trans ?_)
    rw [(sectionGet_insert hs₂).2 _ (by decide)]; exact (sectionGet_insert hs₁).1
  · exact (haf _).trans ((ha' _).trans (sectionGet_insert hs₂).1)
  · exact (hlf _).trans hn
  · exact (hasWorkspaces_set hs₄ (workspaces_valid hp₄)).congr (hlf _) (hlf _)
  · rw [← hadField_congr (hr _), ← parseColorScheme_congr (hr _)]; exact hp₁
  · rw [← hadField_congr hcu, ← parseCursorSurfaces_congr hcu]; exact hp₂
  · rw [← hadField_congr (hy _), ← parseWindowLayout_congr (hy _)]; exact hp₃
  · exact workspaces_congr (hw _ (by decide)) (hw _ (by decide)) hp₄

end Steps

theorem migrates_of_parse {p : ParsedSettingsDocument} (h : parseDocument value = .ok p) :
    ∃ source v workspaces, value = .object source ∧ Migrates source p v workspaces := by
  unfold parseDocument at h; split at h
  · cases h
  rename_i source hs; split at h
  · cases h
  · split at h
    · cases h
    obtain ⟨keyboard, hk, h⟩ := bind_ok.1 h
    obtain ⟨mouse, hm, h⟩ := bind_ok.1 h
    obtain ⟨touchpad, hto, h⟩ := bind_ok.1 h
    obtain ⟨environment, he, h⟩ := bind_ok.1 h
    obtain ⟨⟨document₁, preference⟩, hm₁, h⟩ := bind_ok.1 h
    obtain ⟨⟨document₂, allowed⟩, hm₂, h⟩ := bind_ok.1 h
    obtain ⟨⟨document₃, kind⟩, hm₃, h⟩ := bind_ok.1 h
    obtain ⟨⟨document₄, workspaces⟩, hm₄, h⟩ := bind_ok.1 h
    obtain ⟨hp₁, hs₁⟩ := migrateField_ok hm₁
    obtain ⟨hp₂, hs₂⟩ := migrateField_ok hm₂
    obtain ⟨hp₃, hs₃⟩ := migrateField_ok hm₃
    obtain ⟨hp₄, hs₄⟩ := migrateField_ok hm₄; cases h
    refine ⟨source, ⟨parseRevision source, keyboard, mouse, touchpad, preference, allowed, environment, kind⟩,
      workspaces, Json.eq_of_asObject hs, ?_⟩
    exact migrates_of_steps hk hm hto he hp₁ hs₁ hp₂ hs₂ hp₃ hs₃
      hp₄ hs₄ _

end Deniald.Settings
