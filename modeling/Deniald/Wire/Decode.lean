/-
Messages from the shell (wire/decode.rs): what FlatBuffers hands over of each, and what it is decoded to. Each decoder
checks field by field, and what it lets through is sound.
-/
import Deniald.Wire.Bridge

namespace Deniald.Wire

open Deniald.Lib

/-! ## Tables -/

inductive KeyboardCommandKind where
  | text
  | key
  | unknown
  deriving DecidableEq

structure KeyboardCommandTable where
  kind : KeyboardCommandKind
  text : Option String := none
  key : Option String := none
  flags : UInt32 := 0

inductive NotificationCommandKind where
  | dismiss
  | invokeAction
  | invokeDefault
  | unknown
  deriving DecidableEq

structure NotificationCommandTable where
  kind : NotificationCommandKind
  notificationId : UInt32
  actionKey : Option String := none

inductive XEmbedTrayCommandKind where
  | activate
  | secondaryActivate
  | contextMenu
  | unknown
  deriving DecidableEq

structure XEmbedTrayCommandTable where
  kind : XEmbedTrayCommandKind
  windowId : UInt32
  x : Int32
  y : Int32

/-- `WireRect`, of any doubles. -/
abbrev WireRect := InputRect

structure InputWindowTable where
  objectId : UInt64
  surfaceId : UInt64
  windowId : UInt64
  rect : WireRect
  sourceRect : WireRect
  z : Int32
  flags : UInt32

structure InputLayoutTable where
  epoch : UInt64
  flags : UInt32
  shellRegions : Option (List WireRect)
  softwareKeyboardRegions : Option (List WireRect)
  windows : Option (List InputWindowTable)
  visibleSurfaceIds : Option (List UInt64)

/-! ## Decoders -/

/-- `decode_window_geometry`, where additions are rounded. -/
def decodeWindowGeometry (rounding : Rounding) (rect : WireRect) : Except WireError WindowGeometry :=
  let right := F64.add rounding rect.x rect.width
  let bottom := F64.add rounding rect.y rect.height
  if !rect.x.isFinite || !rect.y.isFinite || !rect.width.isFinite || !rect.height.isFinite || !right.isFinite ||
      !bottom.isFinite || F64.lt rect.x (.finite 0) || F64.lt rect.y (.finite 0) || F64.lt (.finite 16384) rect.x ||
      F64.lt (.finite 16384) rect.y || F64.lt rect.width (.finite 64) || F64.lt rect.height (.finite 64) ||
      F64.lt (.finite 16384) rect.width || F64.lt (.finite 16384) rect.height ||
      F64.lt (.finite 2147483647) right || F64.lt (.finite 2147483647) bottom then
    .error .geometry
  else .ok ⟨rect.x, rect.y, rect.width, rect.height⟩

def validateRequiredString (value : Option String) : Except WireError String :=
  match value with
  | some value => if !value.isEmpty && value.utf8ByteSize ≤ maxStringBytes then .ok value else .error .string
  | none => .error .string

def keyboardCtrl : UInt32 := 1
def keyboardPressed : UInt32 := 2
def keyboardReleased : UInt32 := 4
def keyboardPhaseMask : UInt32 := keyboardPressed ||| keyboardReleased
def keyboardFlagsMask : UInt32 := keyboardCtrl ||| keyboardPhaseMask

def decodeKeyPhase (flags : UInt32) : Except WireError KeyboardKeyPhase :=
  if flags &&& keyboardPhaseMask = 0 then .ok .tap
  else if flags &&& keyboardPhaseMask = keyboardPressed then .ok .pressed
  else if flags &&& keyboardPhaseMask = keyboardReleased then .ok .released
  else .error .flags

def decodeKeyboardCommand (command : KeyboardCommandTable) : Except WireError KeyboardCommand :=
  if command.kind = .unknown then .error .enumeration
  else if command.flags &&& ~~~keyboardFlagsMask ≠ 0 then .error .flags
  else match command.kind with
    | .text =>
      if command.flags ≠ 0 then .error .flags else do return .text (← validateRequiredString command.text)
    | .key => do
      let key ← validateRequiredString command.key
      let phase ← decodeKeyPhase command.flags
      let ctrl : Bool := command.flags &&& keyboardCtrl ≠ 0
      if ctrl && phase ≠ .tap then .error .flags else return .key key ctrl phase
    | .unknown => .error .enumeration

def decodeNotificationCommand (command : NotificationCommandTable) : Except WireError NotificationCommand :=
  if command.kind = .unknown then .error .enumeration
  else if command.notificationId = 0 then .error .identity
  else match command.kind with
    | .invokeAction => do return .invokeAction command.notificationId (← validateRequiredString command.actionKey)
    | .dismiss =>
      if command.actionKey.any fun key => !key.isEmpty then .error .string else .ok (.dismiss command.notificationId)
    | .invokeDefault =>
      if command.actionKey.any fun key => !key.isEmpty then .error .string
      else .ok (.invokeDefault command.notificationId)
    | .unknown => .error .enumeration

def decodeXembedTrayCommand (command : XEmbedTrayCommandTable) : Except WireError XEmbedTrayCommand :=
  if command.kind = .unknown || command.windowId == 0 then .error .identity
  else match command.kind with
    | .activate => .ok ⟨.activate, command.windowId, command.x, command.y⟩
    | .secondaryActivate => .ok ⟨.secondaryActivate, command.windowId, command.x, command.y⟩
    | .contextMenu => .ok ⟨.contextMenu, command.windowId, command.x, command.y⟩
    | .unknown => .error .enumeration

/-- `MAX_REGIONS`. -/
def maxRegions : Nat := 8192

def decodeInputRect (rect : WireRect) : Except WireError InputRect :=
  if !rect.x.isFinite || !rect.y.isFinite || !rect.width.isFinite || !rect.height.isFinite ||
      F64.le rect.width (.finite 0) || F64.le rect.height (.finite 0) then .error .geometry
  else .ok rect

/-- The loop over the windows of a layout, after those with some identities and the last of them. -/
def decodeInputWindows : List UInt64 → Option (Int32 × UInt64) → List InputWindowTable →
    Except WireError (List InputWindowRegion)
  | _, _, [] => .ok []
  | identities, previous, window :: windows =>
    if window.objectId == 0 || window.surfaceId == 0 || window.windowId == 0 then .error .identity
    else if identities.contains window.surfaceId then .error .identity
    else if previous.any fun (z, surfaceId) => z < window.z || (z == window.z && surfaceId < window.surfaceId) then
      .error .ordering
    else do
      let rect ← decodeInputRect window.rect
      let sourceRect ← decodeInputRect window.sourceRect
      let region : InputWindowRegion :=
        ⟨window.objectId, window.surfaceId, window.windowId, rect, sourceRect, window.z, window.flags⟩
      let regions ← decodeInputWindows (window.surfaceId :: identities) (some (window.z, window.surfaceId)) windows
      return region :: regions

/-- The loop over the visible surfaces, after some identities. -/
def decodeVisible : List UInt64 → List UInt64 → Except WireError (List UInt64)
  | _, [] => .ok []
  | identities, surfaceId :: surfaceIds =>
    if surfaceId == 0 || identities.contains surfaceId then .error .identity
    else do return surfaceId :: (← decodeVisible (surfaceId :: identities) surfaceIds)

def decodeInputLayout (layout : InputLayoutTable) : Except WireError InputLayoutSnapshot :=
  if (layout.shellRegions.any fun regions => maxRegions < regions.length) ||
      (layout.softwareKeyboardRegions.any fun regions => maxRegions < regions.length) ||
      (layout.windows.any fun windows => maxRegions < windows.length) ||
      (layout.visibleSurfaceIds.any fun ids => maxSurfaces < ids.length) then .error .count
  else do
    let shellRegions ← (layout.shellRegions.getD []).mapM decodeInputRect
    let softwareKeyboardRegions ← (layout.softwareKeyboardRegions.getD []).mapM decodeInputRect
    let windows ← decodeInputWindows [] none (layout.windows.getD [])
    let visibleSurfaceIds ← decodeVisible [] (layout.visibleSurfaceIds.getD [])
    return { epoch := layout.epoch, flags := layout.flags, shellRegions, softwareKeyboardRegions, windows,
             visibleSurfaceIds }

/-! ## What is let through -/

/-- A text that is neither empty nor too long. -/
def Text (value : String) : Prop := value.isEmpty = false ∧ value.utf8ByteSize ≤ maxStringBytes

/-- A window that is all on the desktop's first 16384 points and has a size. -/
def WindowGeometry.Bounded (g : WindowGeometry) : Prop :=
  ∃ x y width height : ℚ, g = ⟨.finite x, .finite y, .finite width, .finite height⟩ ∧ (0 ≤ x ∧ x ≤ 16384) ∧
    (0 ≤ y ∧ y ≤ 16384) ∧ (64 ≤ width ∧ width ≤ 16384) ∧ 64 ≤ height ∧ height ≤ 16384

def InputRect.Positive (r : InputRect) : Prop :=
  ∃ x y width height : ℚ, r = ⟨.finite x, .finite y, .finite width, .finite height⟩ ∧ 0 < width ∧ 0 < height

def KeyboardCommand.Sound : KeyboardCommand → Prop
  | .text content => Text content
  | .key name ctrl phase => Text name ∧ (ctrl = true → phase = .tap)

def NotificationCommand.Sound : NotificationCommand → Prop
  | .dismiss notificationId | .invokeDefault notificationId => notificationId ≠ 0
  | .invokeAction notificationId actionKey => notificationId ≠ 0 ∧ Text actionKey

structure InputWindowRegion.Sound (w : InputWindowRegion) : Prop where
  identities : w.objectId ≠ 0 ∧ w.surfaceId ≠ 0 ∧ w.windowId ≠ 0
  rect : w.rect.Positive
  sourceRect : w.sourceRect.Positive

structure InputLayoutSnapshot.Sound (l : InputLayoutSnapshot) : Prop where
  shellRegions : ∀ r ∈ l.shellRegions, r.Positive
  softwareKeyboardRegions : ∀ r ∈ l.softwareKeyboardRegions, r.Positive
  windows : ∀ w ∈ l.windows, w.Sound
  windowIds : (l.windows.map (·.surfaceId)).Nodup
  visible : ∀ id ∈ l.visibleSurfaceIds, id ≠ 0
  visibleIds : l.visibleSurfaceIds.Nodup

def BoundedTarget : Shortcut.ShortcutTarget → Prop
  | .denialAction _ => True
  | .spawn command _ => command.length ≤ maxSpawnArguments ∧
      ∀ argument ∈ command, validShortcutWireString argument true = true
  | .spawnSh command => validShortcutWireString command true = true

def BoundedBinding (binding : Shortcut.ShortcutBinding) : Prop :=
  validShortcutWireString binding.shortcut true = true ∧ BoundedTarget binding.target

/-- A request has an identity, and an update also the revision it expects; the numbers of a touchpad and of a mouse are
checked only when the update is prepared. -/
def SettingsCommand.Sound : SettingsCommand → Prop
  | .readDocument requestId | .readKeyboard requestId | .readShortcuts requestId | .readInputDevices requestId =>
    requestId ≠ 0
  | .writeDocument requestId revision document => requestId ≠ 0 ∧ revision ≠ 0 ∧ document.isEmpty = false ∧
      document.utf8ByteSize ≤ maxSettingsDocumentBytes
  | .configureKeyboard requestId revision keyboard => requestId ≠ 0 ∧ revision ≠ 0 ∧ keyboard.validate = .ok ()
  | .validateShortcut requestId shortcut existing => requestId ≠ 0 ∧ BoundedBinding shortcut ∧
      ∀ e ∈ existing, validShortcutWireString e false = true
  | .addShortcut requestId revision shortcut => requestId ≠ 0 ∧ revision ≠ 0 ∧ BoundedBinding shortcut
  | .updateShortcut requestId revision existing shortcut => requestId ≠ 0 ∧ revision ≠ 0 ∧
      validShortcutWireString existing false = true ∧ BoundedBinding shortcut
  | .removeShortcut requestId revision shortcut => requestId ≠ 0 ∧ revision ≠ 0 ∧
      validShortcutWireString shortcut false = true
  | .restoreShortcuts requestId revision | .configureTouchpad requestId revision _
  | .configureMouse requestId revision _ => requestId ≠ 0 ∧ revision ≠ 0

end Deniald.Wire
