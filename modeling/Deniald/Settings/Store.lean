/-
The settings store (settings.rs, `SettingsManager`): a document in memory and in a file, with updates that are prepared
against a revision and committed later.
-/
import Deniald.Settings.Document
import Deniald.Lib.Updates

namespace Deniald.Settings

open Deniald.Lib

/-- Texts of JSON, as serde_json reads and writes them. -/
structure JsonText (B : Type) where
  decode : B → Option Json
  encode : JsonMap → B
  length : B → Nat
  decode_encode : ∀ document, decode (encode document) = some (.object document)

/-- `MAX_SETTINGS_BYTES`. -/
def maxSettingsBytes : Nat := 256 * 1024

structure SettingsManager (B : Type) where
  path : String
  document : JsonMap
  revision : UInt64
  keyboard : KeyboardSettings
  mouse : MouseSettings
  touchpad : TouchpadSettings
  colorSchemePreference : DesktopColorSchemePreference
  allowClientCursorSurfaces : Bool
  persistedBytes : Option B

/-- An update whose bytes are in a temporary file. -/
structure PreparedSettingsUpdate (B : Type) where
  target : String
  document : JsonMap
  revision : UInt64
  keyboard : KeyboardSettings
  mouse : MouseSettings
  touchpad : TouchpadSettings
  colorSchemePreference : DesktopColorSchemePreference
  allowClientCursorSurfaces : Bool
  bytes : B

/-- What the file system makes of a commit. -/
structure FileIo where
  readable : Bool := true
  written : Bool := true
  renamed : Bool := true

section Files

variable {B : Type} (text : JsonText B)

def readSettingsFile (readable : Bool) (file : Option B) : Except SettingsError (Option B) :=
  if !readable then .error .io
  else match file with
    | none => .ok none
    | some bytes => if maxSettingsBytes < text.length bytes then .error .tooLarge else .ok (some bytes)

def renderDocument (document : JsonMap) : Except SettingsError B :=
  let bytes := text.encode document
  if maxSettingsBytes < text.length bytes then .error .tooLarge else .ok bytes

/-- `parse_document`. -/
def parseBytes (bytes : B) : Except SettingsError ParsedSettingsDocument :=
  if maxSettingsBytes < text.length bytes then .error .tooLarge
  else match text.decode bytes with
    | none => .error .json
    | some value => parseDocument value

end Files

namespace SettingsManager

variable {B : Type} [DecidableEq B] (text : JsonText B)

/-! ## Loading -/

def persistCurrent (m : SettingsManager B) (file : Option B) (io : FileIo) : SettingsManager B × Option B :=
  match renderDocument text m.document with
  | .error _ => (m, file)
  | .ok bytes =>
    if !io.written then (m, file)
    else match readSettingsFile text io.readable file with
      | .error _ => (m, file)
      | .ok existing =>
        if existing ≠ m.persistedBytes || !io.renamed then (m, file)
        else ({ m with persistedBytes := some bytes }, some bytes)

def ofParsed (path : String) (parsed : ParsedSettingsDocument) (persistedBytes : Option B) : SettingsManager B where
  path := path
  document := parsed.document
  revision := parsed.revision
  keyboard := parsed.keyboard
  mouse := parsed.mouse
  touchpad := parsed.touchpad
  colorSchemePreference := parsed.colorSchemePreference
  allowClientCursorSurfaces := parsed.allowClientCursorSurfaces
  persistedBytes := persistedBytes

def withDefaults (path : String) (persistedBytes : Option B) : SettingsManager B where
  path := path
  document := defaultDocument
  revision := 1
  keyboard := {}
  mouse := {}
  touchpad := {}
  colorSchemePreference := .preferDark
  allowClientCursorSurfaces := true
  persistedBytes := persistedBytes

def loadPath (path : String) (file : Option B) (io : FileIo) : Except SettingsError (SettingsManager B × Option B) := do
  match ← readSettingsFile text io.readable file with
  | none => return (withDefaults path none).persistCurrent text file io
  | some bytes =>
    match parseBytes text bytes with
    | .ok parsed =>
      let m := ofParsed path parsed (some bytes)
      return if parsed.migrated then m.persistCurrent text file io else (m, file)
    | .error _ => return (withDefaults path (some bytes), file)

def replaceInvalidKeyboardWithDefault (m : SettingsManager B) : SettingsManager B :=
  { m with document := m.document.insert "keyboard" (KeyboardSettings.toJson {}), keyboard := {} }

/-- `run` (startup.rs): the settings are loaded, without a keyboard that XKB does not compile. -/
def startup (path : String) (file : Option B) (io : FileIo) (compiles : KeyboardSettings → Bool) :
    Except SettingsError (SettingsManager B × Option B) := do
  let (m, file) ← loadPath text path file io
  return (if compiles m.keyboard then m else m.replaceInvalidKeyboardWithDefault, file)

/-! ## Preparing -/

def checkRevision (m : SettingsManager B) (expected : UInt64) : Except SettingsError Unit :=
  if expected ≠ m.revision then .error (.revision expected m.revision) else .ok ()

def nextRevision (m : SettingsManager B) : Except SettingsError UInt64 :=
  if m.revision.toNat + 1 < 2 ^ 64 then .ok (m.revision + 1) else .error .revisionExhausted

def prepare (m : SettingsManager B) (written : Bool) (document : JsonMap) (keyboard : KeyboardSettings)
    (mouse : MouseSettings) (touchpad : TouchpadSettings) (colorSchemePreference : DesktopColorSchemePreference)
    (allowClientCursorSurfaces : Bool) : Except SettingsError (PreparedSettingsUpdate B) := do
  let environment ← environmentFromDocument document
  let document := environment.writeToDocument document
  match (document.get "revision").bind Json.asU64 with
  | none => .error .revisionMissing
  | some revision =>
    let bytes ← renderDocument text document
    if !written then .error .io
    else return {
      target := m.path
      document
      revision
      keyboard
      mouse
      touchpad
      colorSchemePreference
      allowClientCursorSurfaces
      bytes }

def shellDocument (m : SettingsManager B) (incoming : JsonMap) (revision : UInt64) : JsonMap :=
  let incoming := (((incoming.remove "revision").remove "keyboard").remove "mouse").remove "touchpad"
  writeNative incoming revision m.keyboard m.mouse m.touchpad

def prepareShellUpdate (m : SettingsManager B) (written : Bool) (expectedRevision : UInt64) (shellJson : B) :
    Except SettingsError (PreparedSettingsUpdate B) := do
  m.checkRevision expectedRevision
  if maxSettingsBytes < text.length shellJson then .error .tooLarge
  else match text.decode shellJson with
    | none => .error .json
    | some value =>
      match value.asObject with
      | none => .error .notObject
      | some incoming =>
        match (incoming.get "version").bind Json.asU64 with
        | none => .error .versionMissing
        | some version =>
          if version ≠ settingsSchemaVersion then .error (.notCurrentVersion version)
          else do
            let document := m.shellDocument incoming (← m.nextRevision)
            let colorSchemePreference ← parseColorSchemePreference document
            let allowClientCursorSurfaces ← parseAllowClientCursorSurfaces document
            let _ ← parseWindowLayoutKind document
            let _ ← parseWorkspaceSettings document
            m.prepare text written document m.keyboard m.mouse m.touchpad colorSchemePreference
              allowClientCursorSurfaces

/-- `compiled_layout_names`, with the groups XKB compiles. -/
def compiledLayoutNames (keyboard : KeyboardSettings) (compiled : Option (List String)) :
    Except SettingsError (List String) := do
  keyboard.validate
  match compiled with
  | none => .error .keymap
  | some names =>
    if names.length ≠ keyboard.layouts.length then .error (.keymapGroups names.length keyboard.layouts.length)
    else return names

/-- The document in memory, with one of the native settings replaced. -/
def revisedDocument (m : SettingsManager B) (key : String) (value : Json) : Except SettingsError JsonMap := do
  return (m.document.insert "revision" (jsonU64 (← m.nextRevision))).insert key value

def prepareKeyboardUpdate (m : SettingsManager B) (written : Bool) (expectedRevision : UInt64)
    (keyboard : KeyboardSettings) (compiled : Option (List String)) :
    Except SettingsError (PreparedSettingsUpdate B) := do
  m.checkRevision expectedRevision
  let _ ← compiledLayoutNames keyboard compiled
  m.prepare text written (← m.revisedDocument "keyboard" keyboard.toJson) keyboard m.mouse m.touchpad
    m.colorSchemePreference m.allowClientCursorSurfaces

def prepareTouchpadUpdate (m : SettingsManager B) (written : Bool) (expectedRevision : UInt64)
    (touchpad : TouchpadSettings) : Except SettingsError (PreparedSettingsUpdate B) := do
  m.checkRevision expectedRevision
  touchpad.validate
  m.prepare text written (← m.revisedDocument "touchpad" touchpad.toJson) m.keyboard m.mouse touchpad
    m.colorSchemePreference m.allowClientCursorSurfaces

def prepareMouseUpdate (m : SettingsManager B) (written : Bool) (expectedRevision : UInt64) (mouse : MouseSettings) :
    Except SettingsError (PreparedSettingsUpdate B) := do
  m.checkRevision expectedRevision
  mouse.validate
  m.prepare text written (← m.revisedDocument "mouse" mouse.toJson) m.keyboard mouse m.touchpad
    m.colorSchemePreference m.allowClientCursorSurfaces

inductive SettingsRequest (B : Type) where
  | shell (expectedRevision : UInt64) (json : B)
  | keyboard (expectedRevision : UInt64) (keyboard : KeyboardSettings) (compiled : Option (List String))
  | touchpad (expectedRevision : UInt64) (touchpad : TouchpadSettings)
  | mouse (expectedRevision : UInt64) (mouse : MouseSettings)

/-- Any of the requests, with whether its temporary file can be written. -/
def prepareRequest (m : SettingsManager B) (request : SettingsRequest B × Bool) :
    Except SettingsError (PreparedSettingsUpdate B) :=
  match request.1 with
  | .shell expectedRevision json => m.prepareShellUpdate text request.2 expectedRevision json
  | .keyboard expectedRevision keyboard compiled =>
    m.prepareKeyboardUpdate text request.2 expectedRevision keyboard compiled
  | .touchpad expectedRevision touchpad => m.prepareTouchpadUpdate text request.2 expectedRevision touchpad
  | .mouse expectedRevision mouse => m.prepareMouseUpdate text request.2 expectedRevision mouse

/-! ## Committing -/

def commit (m : SettingsManager B) (file : Option B) (io : FileIo) (prepared : PreparedSettingsUpdate B) :
    (SettingsManager B × Option B) × Except SettingsError Unit :=
  if prepared.target ≠ m.path then ((m, file), .error .target)
  else match readSettingsFile text io.readable file with
    | .error error => ((m, file), .error error)
    | .ok existing =>
      if existing ≠ m.persistedBytes then ((m, file), .error .conflict)
      else if !io.renamed then ((m, file), .error .io)
      else (({
          path := m.path
          document := prepared.document
          revision := prepared.revision
          keyboard := prepared.keyboard
          mouse := prepared.mouse
          touchpad := prepared.touchpad
          colorSchemePreference := prepared.colorSchemePreference
          allowClientCursorSurfaces := prepared.allowClientCursorSurfaces
          persistedBytes := some prepared.bytes }, some prepared.bytes), .ok ())

end SettingsManager

end Deniald.Settings
