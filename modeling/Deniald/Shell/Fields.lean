/-
The shell's settings (shell_settings.dart) field by field: the fields of its sections, with those of the maps inside
them, and how each is read from a document. A document has values for fields, as `toJson` writes them; fields that only
older schemas wrote, and the blur's sigma, which nothing reads, are left out.
-/
import Deniald.Lib.Number
import Deniald.Lib.Patch
import Deniald.Lib.Utf16
import Deniald.Settings.Values
import Mathlib.Data.List.DropRight

namespace Deniald.Shell

open Deniald.Lib Deniald.Settings

/-! ## Fields -/

/-- `ShellOverlaySurface`. -/
inductive OverlaySurface where
  | launcher
  | dashboard
  | notifications
  | systemHud
  deriving DecidableEq

/-- The fields of `ShellPopupPlacement`. -/
inductive PlacementField where
  | anchor
  | width
  | height
  | margin
  | hoverTriggerEnabled
  deriving DecidableEq

/-- The fields of `ShellManualLocation`. -/
inductive LocationField where
  | latitude
  | longitude
  | city
  deriving DecidableEq

/-- The typed fields of `ShellSettings`, by their sections. -/
inductive ShellField where
  | locale
  | colorSchemePreference | accentSource | customAccentColor | cornerRadiusScale | panelOpacity | cardOpacity
  | backdropBlurEnabled | backdropBlurLevel | backdropBlurOpacityThreshold | focusedWindowBorderEnabled
  | focusedWindowOpacity | unfocusedWindowOpacity | cursorSize | cursorThemeId | allowClientCursorSurfaces
  | uiFontFamily | iconThemeName | contrastLevel
  | windowLayout | workspacesEnabled | workspaceCount | systemBarSide | systemBarOutputNames | systemBarThickness
  | maximizePadding | minimizedWindowPlacement | clipboardTrayEdge | clipboardTrayExtent | useChromeOsShelf
  | placement (surface : OverlaySurface) (field : PlacementField)
  | windowCloseEffect | durationScale | panelTravel | animateLockScreen
  | useSystemWallpaper | dimAmount | blurRadius | clockScale | showSystemStatus
  | idleLockEnabled | idleLockTimeoutMinutes | idleDpmsEnabled | idleDpmsTimeoutMinutes | idleSuspendEnabled
  | idleSuspendTimeoutMinutes | suspendMode
  | locationMode | manualLocation (field : LocationField) | temperatureUnit
  | applicationEnvironment
  deriving DecidableEq

def OverlaySurface.all : List OverlaySurface := [.launcher, .dashboard, .notifications, .systemHud]

def PlacementField.all : List PlacementField := [.anchor, .width, .height, .margin, .hoverTriggerEnabled]

def LocationField.all : List LocationField := [.latitude, .longitude, .city]

def ShellField.sections : List (String × List ShellField) :=
  [("localization", [.locale]),
    ("appearance",
      [.colorSchemePreference, .accentSource, .customAccentColor, .cornerRadiusScale, .panelOpacity, .cardOpacity,
        .backdropBlurEnabled, .backdropBlurLevel, .backdropBlurOpacityThreshold, .focusedWindowBorderEnabled,
        .focusedWindowOpacity, .unfocusedWindowOpacity, .cursorSize, .cursorThemeId, .allowClientCursorSurfaces,
        .uiFontFamily, .iconThemeName, .contrastLevel]),
    ("layout",
      [.windowLayout, .workspacesEnabled, .workspaceCount, .systemBarSide, .systemBarOutputNames, .systemBarThickness,
        .maximizePadding, .minimizedWindowPlacement, .clipboardTrayEdge, .clipboardTrayExtent, .useChromeOsShelf]),
    ("animations", [.windowCloseEffect, .durationScale, .panelTravel, .animateLockScreen]),
    ("lockScreen", [.useSystemWallpaper, .dimAmount, .blurRadius, .clockScale, .showSystemStatus]),
    ("power",
      [.idleLockEnabled, .idleLockTimeoutMinutes, .idleDpmsEnabled, .idleDpmsTimeoutMinutes, .idleSuspendEnabled,
        .idleSuspendTimeoutMinutes, .suspendMode])]

def OverlaySurface.placement (surface : OverlaySurface) : List ShellField := PlacementField.all.map (.placement surface)

def ShellField.locationParts : List ShellField := LocationField.all.map .manualLocation

def ShellField.weather : List ShellField := [.locationMode, .temperatureUnit]

def ShellField.all : List ShellField :=
  sections.flatMap (·.2) ++ (OverlaySurface.all.flatMap OverlaySurface.placement ++
    (weather ++ (locationParts ++ [applicationEnvironment])))

theorem ShellField.nodup_all : ShellField.all.Nodup := by decide +kernel

theorem ShellField.mem_all (fld : ShellField) : fld ∈ ShellField.all := by
  cases fld with
  | placement surface fld => cases surface <;> cases fld <;> decide +kernel
  | manualLocation fld => cases fld <;> decide +kernel
  | _ => decide +kernel

instance : Fintype ShellField := ⟨⟨ShellField.all, ShellField.nodup_all⟩, ShellField.mem_all⟩

instance : Fintype LocationField := ⟨⟨LocationField.all, by decide⟩, fun part => by cases part <;> decide⟩

/-- The fields that are written when one of them differs: those of one placement, and those of the manual location. -/
def ShellField.group : ShellField → List ShellField
  | .placement surface _ => surface.placement
  | .manualLocation _ => locationParts
  | field => [field]

theorem ShellField.mem_group (fld : ShellField) : fld ∈ fld.group := by
  cases fld with
  | placement surface fld => cases fld <;> simp [group, OverlaySurface.placement, PlacementField.all]
  | manualLocation fld => cases fld <;> simp [group, locationParts, LocationField.all]
  | _ => simp [group]

/-- A value of a field in a document. Numbers are `num`, of which a whole one may be an integer or a double. -/
inductive SettingValue where
  | bool (value : Bool)
  | integer (value : Int)
  | number (value : ℚ)
  | string (value : String)
  | strings (values : List String)
  | environment (environment : ApplicationEnvironment)
  deriving DecidableEq

abbrev ShellDocument := Values ShellField SettingValue

/-! ## Reading -/

/-- What is read for a field, and what stands for it when that is missing or not of its type. -/
inductive FieldKind where
  | enumeration (names : List String) (fallback : String)
  | nullableEnumeration (names : List String)
  | boolean (fallback : Bool)
  | number (fallback minimum maximum : ℚ)
  | integer (fallback minimum maximum : Int)
  | argb (fallback : Int)
  | cursor (fallback : String)
  | theme (fallback : String)
  | outputs
  | coordinate
  | city
  | scopes
  deriving DecidableEq

/-- What `String.trim` removes. -/
def dartWhitespace (c : Char) : Bool :=
  (9 ≤ c.toNat && c.toNat ≤ 13) || (0x2000 ≤ c.toNat && c.toNat ≤ 0x200A) ||
    [0x20, 0x85, 0xA0, 0x1680, 0x2028, 0x2029, 0x202F, 0x205F, 0x3000, 0xFEFF].contains c.toNat

def dartTrim (text : String) : String :=
  .ofList ((text.toList.dropWhile dartWhitespace).rdropWhile dartWhitespace)

/-- A name that is too long, in UTF-16 units, or has a NUL. -/
def badName (name : String) : Bool := 128 < (encodeUtf16 name.toList).length || name.toList.contains '\x00'

/-- `_cursorThemeId`. -/
def cursorThemeId (value fallback : String) : String :=
  let id := dartTrim value
  if id.isEmpty || badName id then fallback else id

/-- `_themeName`. -/
def themeName (value fallback : String) : String :=
  let name := dartTrim value
  if badName name then fallback else name

/-- `_color`: opaque. -/
def color (value fallback : Int) : Int :=
  if value < 0 ∨ 0xffffffff < value then fallback else value % 0x1000000 + 0xff000000

def SettingValue.asNumber : SettingValue → Option ℚ
  | .integer n => some n
  | .number x => some x
  | _ => none

def SettingValue.asString : SettingValue → Option String
  | .string text => some text
  | _ => none

def SettingValue.asBool : SettingValue → Option Bool
  | .bool b => some b
  | _ => none

def SettingValue.asStrings : SettingValue → Option (List String)
  | .strings texts => some texts
  | _ => none

def SettingValue.asEnvironment : SettingValue → Option ApplicationEnvironment
  | .environment scopes => some scopes
  | _ => none

/-- `toInt`: towards zero. -/
def truncate (x : ℚ) : Int := if 0 ≤ x then ⌊x⌋ else ⌈x⌉

/-- `isValidApplicationEnvironmentVariableName`. -/
def validVariableName (name : String) : Bool :=
  name.utf8ByteSize ≤ 256 &&
    match name.toList with
    | [] => false
    | first :: rest => (first = '_' || first.isAlpha) && rest.all fun c => c = '_' || c.isAlphanum

/-- `isValidApplicationEnvironmentDesktopFileId`. -/
def validDesktopFileId (id : String) : Bool :=
  !id.isEmpty && ".desktop".toList.isSuffixOf id.toList && !id.toList.contains '/' && !id.toList.contains '\x00' &&
    id.utf8ByteSize ≤ 4096

/-- `_parseApplicationEnvironmentVariables`. -/
def parseVariables (overrides : Overrides) : Overrides :=
  overrides.filter fun entry => validVariableName entry.1 && entry.2.all fun value => value.utf8ByteSize ≤ 16384

/-- `ShellApplicationEnvironmentSettings.fromJson`, of the form in which its `toJson` writes. -/
def parseEnvironment (environment : ApplicationEnvironment) : ApplicationEnvironment where
  defaultOverrides := parseVariables environment.defaultOverrides
  applicationOverrides :=
    (environment.applicationOverrides.filter fun entry => validDesktopFileId entry.1).map fun entry =>
      (entry.1, parseVariables entry.2)

/-- `ShellManualLocation.fromJson`, of the city. -/
def cityName (text : String) : Option String :=
  let name := dartTrim text
  if name.isEmpty || badName name then none else some name

def FieldKind.read : FieldKind → Option SettingValue → Option SettingValue
  | .enumeration names fallback, value =>
    some (.string (((value.bind SettingValue.asString).filter fun name => name ∈ names).getD fallback))
  | .nullableEnumeration names, value =>
    ((value.bind SettingValue.asString).filter fun name => name ∈ names).map .string
  | .boolean fallback, value => some (.bool ((value.bind SettingValue.asBool).getD fallback))
  | .number fallback minimum maximum, value =>
    some (.number (((value.bind SettingValue.asNumber).map fun x => clamp x minimum maximum).getD fallback))
  | .integer fallback minimum maximum, value =>
    some (.integer (((value.bind SettingValue.asNumber).map fun x =>
      clamp (roundHalfAway x) minimum maximum).getD fallback))
  | .argb fallback, value =>
    some (.integer (((value.bind SettingValue.asNumber).map fun x => color (truncate x) fallback).getD fallback))
  | .cursor fallback, value =>
    some (.string (((value.bind SettingValue.asString).map fun id => cursorThemeId id fallback).getD fallback))
  | .theme fallback, value =>
    some (.string (((value.bind SettingValue.asString).map fun name => themeName name fallback).getD fallback))
  | .outputs, value =>
    some (.strings ((((value.bind SettingValue.asStrings).getD []).map dartTrim).filter fun name => !name.isEmpty))
  | .coordinate, value => (value.bind SettingValue.asNumber).map .number
  | .city, value => ((value.bind SettingValue.asString).bind cityName).map .string
  | .scopes, value =>
    some (.environment (((value.bind SettingValue.asEnvironment).map parseEnvironment).getD {}))

/-! ## The table -/

def anchors : List String :=
  ["topLeft", "topCenter", "topRight", "centerLeft", "center", "centerRight", "bottomLeft", "bottomCenter",
    "bottomRight"]

/-- `_placement`, with the defaults and the least sizes of an overlay. -/
def PlacementField.kind (anchor : String) (width height margin minWidth minHeight : ℚ) : PlacementField → FieldKind
  | .anchor => .enumeration anchors anchor
  | .width => .number width minWidth 1400
  | .height => .number height minHeight 1200
  | .margin => .number margin 0 96
  | .hoverTriggerEnabled => .boolean true

def OverlaySurface.kind : OverlaySurface → PlacementField → FieldKind
  | .launcher => PlacementField.kind "topLeft" 680 620 14 420 200
  | .dashboard => PlacementField.kind "bottomLeft" 470 620 14 320 360
  | .notifications => PlacementField.kind "topLeft" 410 640 16 280 200
  | .systemHud => PlacementField.kind "bottomCenter" 380 74 28 220 64

def ShellField.kind : ShellField → FieldKind
  | .locale => .enumeration ["system", "english", "simplifiedChinese"] "system"
  | .colorSchemePreference => .enumeration ["preferDark", "preferLight", "noPreference"] "preferDark"
  | .accentSource => .enumeration ["wallpaper", "custom"] "wallpaper"
  | .customAccentColor => .argb 0xffd0bcff
  | .cornerRadiusScale => .number 1 0 2
  | .panelOpacity => .number (3 / 4) (1 / 20) 1
  | .cardOpacity => .number (19 / 20) 0 1
  | .backdropBlurEnabled => .boolean true
  | .backdropBlurLevel => .enumeration ["shitty", "fast", "good", "best"] "fast"
  | .backdropBlurOpacityThreshold => .number (1 / 5) 0 1
  | .focusedWindowBorderEnabled => .boolean true
  | .focusedWindowOpacity => .number 1 (7 / 20) 1
  | .unfocusedWindowOpacity => .number 1 (1 / 5) 1
  | .cursorSize => .number 32 16 64
  | .cursorThemeId => .cursor "bibata_modern_ice"
  | .allowClientCursorSurfaces => .boolean true
  | .uiFontFamily => .theme ""
  | .iconThemeName => .theme ""
  | .contrastLevel => .number 0 (-1) 1
  | .windowLayout => .enumeration ["stacking", "dwindle"] "stacking"
  | .workspacesEnabled => .boolean true
  | .workspaceCount => .integer 4 2 9
  | .systemBarSide => .nullableEnumeration ["left", "right", "top", "bottom", "hidden"]
  | .systemBarOutputNames => .outputs
  | .systemBarThickness => .number 32 24 112
  | .maximizePadding => .number 10 0 64
  | .minimizedWindowPlacement => .enumeration ["desktop", "offscreen"] "desktop"
  | .clipboardTrayEdge => .enumeration ["left", "right", "top", "bottom"] "right"
  | .clipboardTrayExtent => .number 250 100 300
  | .useChromeOsShelf => .boolean false
  | .placement surface field => surface.kind field
  | .windowCloseEffect => .enumeration ["explosion", "implode", "fade", "none"] "explosion"
  | .durationScale => .number 1 (1 / 2) 2
  | .panelTravel => .number 32 0 96
  | .animateLockScreen => .boolean true
  | .useSystemWallpaper => .boolean true
  | .dimAmount => .number (6 / 25) 0 (17 / 20)
  | .blurRadius => .number 8 0 32
  | .clockScale => .number 1 (13 / 20) (7 / 5)
  | .showSystemStatus => .boolean true
  | .idleLockEnabled => .boolean true
  | .idleLockTimeoutMinutes => .integer 5 1 120
  | .idleDpmsEnabled => .boolean true
  | .idleDpmsTimeoutMinutes => .integer 10 1 120
  | .idleSuspendEnabled => .boolean false
  | .idleSuspendTimeoutMinutes => .integer 30 1 120
  | .suspendMode => .enumeration ["systemDefault", "s2idle", "shallow", "deep"] "systemDefault"
  | .locationMode => .enumeration ["auto", "manual"] "auto"
  | .manualLocation .city => .city
  | .manualLocation _ => .coordinate
  | .temperatureUnit => .enumeration ["celsius", "fahrenheit"] "celsius"
  | .applicationEnvironment => .scopes

/-! ## What the table's kinds have in common -/

/-- A fallback is itself what is read of it. -/
def FieldKind.sound : FieldKind → Bool
  | .enumeration names fallback => names.contains fallback
  | .number fallback minimum maximum => minimum ≤ fallback && fallback ≤ maximum
  | .integer fallback minimum maximum => minimum ≤ fallback && fallback ≤ maximum
  | .argb fallback => color fallback 0 = fallback && 0 < fallback
  | .cursor fallback => cursorThemeId fallback "" = fallback && !fallback.isEmpty
  | .theme fallback => themeName fallback "" = fallback
  | _ => true

theorem ShellField.sound_kind : ∀ fld : ShellField, fld.kind.sound := by decide +kernel

def FieldKind.typed : FieldKind → Option SettingValue → Bool
  | .enumeration names _, some (.string name) | .nullableEnumeration names, some (.string name) => names.contains name
  | .nullableEnumeration _, none | .coordinate, none | .city, none => true
  | .boolean _, some (.bool _) => true
  | .number .., some (.number _) | .coordinate, some (.number _) => true
  | .integer .., some (.integer _) | .argb _, some (.integer _) => true
  | .cursor _, some (.string _) | .theme _, some (.string _) | .city, some (.string _) => true
  | .outputs, some (.strings _) => true
  | .scopes, some (.environment _) => true
  | _, _ => false

end Deniald.Shell
