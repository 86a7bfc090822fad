/-
What the shell reads of the compositor's messages (wire/encode.rs, denial_wire.dart): lists of windows, notifications and
placements as the compositor lays them out, and the shell's own checks of them. The counts of what the shell rejects are
left out.
-/
import Deniald.Lib.LittleEndian
import Deniald.Notification.Store
import Deniald.Touch.Gesture
import Deniald.Wire.Codec

namespace Deniald.Wire.Decoder

open Deniald.Lib Deniald.Notification
open Deniald.Touch (WindowPlacementChange WindowPlacementPhase)
open Codec (Rect)

/-! ## What the compositor writes -/

inductive ObjectKind where
  | surface
  | rootSurface

abbrev SurfaceLayerTable := SurfaceLayerDescription

/-- The fields of a description, its texts and layers always written, and those that are left at their defaults. -/
structure WindowTable extends WindowDescription where
  objectKind : ObjectKind := .rootSurface
  statusColorArgb : UInt32 := 0
  hasStatusColor : Bool := false
  pinned : Bool := false

structure WindowSnapshot where
  windows : Option (List WindowTable)
  restoredWindowIds : Option (List UInt64)

def createWindowSnapshot (descriptions : List WindowDescription) (restoredWindowIds : List UInt64) : WindowSnapshot :=
  ⟨some (descriptions.map fun description => { description with }), some restoredWindowIds⟩

/-- The table of an event has the fields of the event, with every text and list written. -/
abbrev DesktopNotificationEventTable := NotificationEvent

inductive NativePayload where
  | windowSnapshot (snapshot : WindowSnapshot)
  | desktopNotificationEvent (event : DesktopNotificationEventTable)

structure NativeEnvelope where
  protocolVersion : UInt16
  sequence : UInt64
  requestId : UInt64
  payload : NativePayload

structure NativeMessage where
  bytes : Nat
  identified : Bool
  envelope : NativeEnvelope

/-- The FlatBuffers builder of the compositor: what a message takes, which is more than its header. -/
structure NativeBuffers where
  bytes : NativeEnvelope → Nat
  header : ∀ envelope, minEnvelopeBytes ≤ bytes envelope

/-- `validate_finished_message`. -/
def finish (buffers : NativeBuffers) (envelope : NativeEnvelope) : Except WireError NativeMessage :=
  if maxMessageBytes < buffers.bytes envelope then .error (.size (buffers.bytes envelope))
  else .ok ⟨buffers.bytes envelope, true, envelope⟩

/-- `encode_windows_update`. -/
def encodeWindowsUpdate (buffers : NativeBuffers) (sequence : UInt64) (descriptions : List WindowDescription)
    (restoredWindowIds : List UInt64) : Except WireError NativeMessage :=
  finish buffers ⟨protocolVersion, sequence, 0, .windowSnapshot (createWindowSnapshot descriptions restoredWindowIds)⟩

/-- `encode_notification_event` on a builder. -/
def encodeNotification (buffers : NativeBuffers) (sequence : UInt64) (event : NotificationEvent) :
    Except WireError NativeMessage :=
  finish buffers ⟨protocolVersion, sequence, 0, .desktopNotificationEvent event⟩

/-! ## Notifications of the compositor -/

def maxNotificationImageBytes : Nat := 512 * 1024

/-- `saturating_mul` of 32 bits. -/
def saturatingMul32 (a b : Nat) : Nat := min (a * b) (2 ^ 32 - 1)

def validText (text : String) : Bool := text.utf8ByteSize ≤ maxStringBytes

def validImage (image : NotificationImageData) : Bool :=
  let required := image.rowStride.toNat * image.height.toNat
  !(image.width == 0 || image.height == 0 || 4096 < image.width || 4096 < image.height || image.bitsPerSample != 8 ||
    image.channels != (if image.hasAlpha then 4 else 3) ||
    image.rowStride.toNat < saturatingMul32 image.width.toNat image.channels.toNat || required != image.data.length ||
    maxNotificationImageBytes < required)

/-- The texts that have a limit, but for those of the actions. -/
def texts (n : Notification) : List String :=
  [n.sender, n.appName, n.appIcon, n.summary, n.body, n.category, n.desktopEntry, n.imagePath, n.soundName, n.soundFile]

def validTexts (n : Notification) : Bool :=
  n.actions.length ≤ 16 &&
    n.actions.all (fun action => !action.key.isEmpty && validText action.key && validText action.label) &&
    (texts n).all validText

def validateNotificationEvent (event : NotificationEvent) : Except WireError Unit :=
  if event.notificationId = 0 then .error .identity
  else match event.kind with
    | .closed =>
      if event.notification.isSome ∨ event.closeReason < 1 ∨ 4 < event.closeReason then .error .payload else .ok ()
    | .added | .replaced =>
      match event.notification with
      | none => .error .payload
      | some notification =>
        if notification.id ≠ event.notificationId ∨ event.closeReason ≠ 0 then .error .identity
        else if !validTexts notification then .error .string
        else if notification.imageData.any fun image => !validImage image then .error .count
        else .ok ()

/-! ## Placements of the compositor -/

structure WindowPlacement where
  windowId : UInt64
  monitorId : Int64
  workspaceId : Int64
  phase : WindowPlacementPhase
  change : WindowPlacementChange
  geometry : Touch.WindowGeometry Double

def phaseByte : WindowPlacementPhase → Nat
  | .begins => 0
  | .updates => 1
  | .ends => 2

def changeByte : WindowPlacementChange → Nat
  | .move => 0
  | .resize => 1
  | .layoutPreview => 2

/-- The fields of a packet, which starts with `DENP`; two bytes after the change stay 0. -/
def placementFields (sequence : UInt64) (p : WindowPlacement) : List (Nat × Nat) :=
  [(1, 0x44), (1, 0x45), (1, 0x4e), (1, 0x50), (2, protocolVersion.toNat), (2, 2), (4, 80), (8, sequence.toNat),
    (8, p.windowId.toNat), (8, p.monitorId.toUInt64.toNat), (8, p.workspaceId.toUInt64.toNat), (1, phaseByte p.phase),
    (1, changeByte p.change), (2, 0), (8, p.geometry.x.bits.toNat), (8, p.geometry.y.bits.toNat),
    (8, p.geometry.width.bits.toNat), (8, p.geometry.height.bits.toNat)]

def WindowPlacement.check (p : WindowPlacement) : Except WireError Unit :=
  if p.windowId = 0 then .error .identity
  else if p.monitorId < 0 ∨ p.workspaceId = -1 then .error (.topology "invalid window placement ownership")
  else if !p.geometry.x.value.isFinite || !p.geometry.y.value.isFinite || !p.geometry.width.value.isFinite ||
      !p.geometry.height.value.isFinite || F64.lt p.geometry.width.value (.finite 1) ||
      F64.lt p.geometry.height.value (.finite 1) then .error .geometry
  else .ok ()

/-! ## What the shell has -/

/-- An `int` that is read from 64 bits. -/
def int64 (bits : UInt64) : Int := bits.toInt64.toInt

/-- The product of two `int`s. -/
def mul64 (a b : Int) : Int := Int.bmod (a * b) (2 ^ 64)

structure DenialSurfaceLayer where
  surfaceId : Int
  parentSurfaceId : Int
  popupRootSurfaceId : Int
  role : SurfaceRoleDescription
  textureId : Int
  width : Int
  height : Int
  surfaceX : F64
  surfaceY : F64
  surfaceWidth : F64
  surfaceHeight : F64
  textureSourceX : F64
  textureSourceY : F64
  textureSourceWidth : F64
  textureSourceHeight : F64
  transform : Int
  scale120 : Int
  compositionOrder : Int
  opacity : F64
  isOpaque : Bool

structure DenialWindow where
  objectId : Int
  objectKind : String
  surfaceId : Int
  windowId : Int
  textureId : Int
  title : String
  appId : String
  width : Int
  height : Int
  surfaceX : F64
  surfaceY : F64
  surfaceWidth : F64
  surfaceHeight : F64
  textureSourceX : F64
  textureSourceY : F64
  textureSourceWidth : F64
  textureSourceHeight : F64
  geometryX : F64
  geometryY : F64
  geometryWidth : F64
  geometryHeight : F64
  monitorId : Int
  workspaceId : Int
  minimized : Bool
  transform : Int
  scale120 : Int
  pinned : Bool
  suppressAnimations : Bool
  restoredAcrossFlutterRestart : Bool
  serverSideDecorated : Bool
  opacity : F64
  statusColorArgb : Option Int
  contentX : F64
  contentY : F64
  contentWidth : F64
  contentHeight : F64
  surfaceLayers : List DenialSurfaceLayer
  contentKind : WindowContentKind
  opacityClass : WindowOpacityClass

structure DesktopNotificationImageData where
  width : Int
  height : Int
  rowStride : Int
  hasAlpha : Bool
  bitsPerSample : Int
  channels : Int
  data : List UInt8

structure DesktopNotification where
  id : Int
  sender : String
  appName : String
  appIcon : String
  summary : String
  body : String
  actions : List NotificationAction
  urgency : NotificationUrgency
  category : String
  desktopEntry : String
  imagePath : String
  imageData : Option DesktopNotificationImageData
  resident : Bool
  transient : Bool
  suppressSound : Bool
  actionIcons : Bool
  soundName : String
  soundFile : String
  x : Int
  y : Int
  hasPosition : Bool
  progress : Int
  hasProgress : Bool
  expireTimeoutMs : Int

structure DesktopNotificationEvent where
  kind : NotificationEventKind
  notificationId : Int
  closeReason : Int
  notification : Option DesktopNotification := none

structure DenialWindowPlacementEvent where
  sequence : Int
  windowId : Int
  contentRect : Rect
  monitorId : Int
  workspaceId : Int
  phase : WindowPlacementPhase
  change : WindowPlacementChange

/-! ## Envelopes -/

/-- `decodeStructured`, for the two payloads at hand: the number, the request and the payload. -/
def decodeStructured (message : NativeMessage) : Option (Int × Int × NativePayload) :=
  if message.bytes < 12 || maxMessageBytes < message.bytes then none
  else if !message.identified then none
  else if message.envelope.protocolVersion != protocolVersion || int64 message.envelope.sequence ≤ 0 then none
  else some (int64 message.envelope.sequence, int64 message.envelope.requestId, message.envelope.payload)

/-- `length` of a text, in its code units. -/
def units (text : String) : Nat := (encodeUtf16 text.toList).length

def denialWireMaxStringLength : Nat := 4096

/-! ## Windows -/

/-- `_finiteWindow`. -/
def finiteWindow (window : WindowTable) : Bool :=
  window.surfaceX.isFinite && window.surfaceY.isFinite && window.surfaceWidth.isFinite && window.surfaceHeight.isFinite &&
    window.textureSourceX.isFinite && window.textureSourceY.isFinite && window.textureSourceWidth.isFinite &&
    window.textureSourceHeight.isFinite && window.geometryX.isFinite && window.geometryY.isFinite &&
    window.geometryWidth.isFinite && window.geometryHeight.isFinite && window.contentX.isFinite &&
    window.contentY.isFinite && window.contentWidth.isFinite && window.contentHeight.isFinite && window.opacity.isFinite &&
    F64.le (.finite 0) window.opacity && F64.le window.opacity (.finite 1) &&
    (window.surfaces.isEmpty || F64.lt (.finite 0) window.contentWidth && F64.lt (.finite 0) window.contentHeight)

/-- `_validSurfaceLayer`. -/
def validSurfaceLayer (layer : SurfaceLayerTable) : Bool :=
  let hasTexture : Bool := 0 < int64 layer.textureId
  0 < int64 layer.surfaceId && layer.surfaceX.isFinite && layer.surfaceY.isFinite && layer.surfaceWidth.isFinite &&
    layer.surfaceHeight.isFinite && layer.textureSourceX.isFinite && layer.textureSourceY.isFinite &&
    layer.textureSourceWidth.isFinite && layer.textureSourceHeight.isFinite && layer.opacity.isFinite &&
    F64.le (.finite 0) layer.opacity && F64.le layer.opacity (.finite 1) && F64.lt (.finite 0) layer.surfaceWidth &&
    F64.lt (.finite 0) layer.surfaceHeight &&
    (!hasTexture || 0 < layer.width && 0 < layer.height && F64.lt (.finite 0) layer.textureSourceWidth &&
      F64.lt (.finite 0) layer.textureSourceHeight)

def denialSurfaceLayer (layer : SurfaceLayerTable) : DenialSurfaceLayer :=
  { layer with
    surfaceId := int64 layer.surfaceId
    parentSurfaceId := int64 layer.parentSurfaceId
    popupRootSurfaceId := int64 layer.popupRootSurfaceId
    textureId := int64 layer.textureId
    width := layer.width.toNat
    height := layer.height.toNat
    transform := layer.transform.toNat
    scale120 := layer.scale120.toNat
    compositionOrder := layer.compositionOrder.toNat }

/-- The loop over a window's layers, after some identities and a composition order. -/
def decodeLayers : List Int → Int → List SurfaceLayerTable → Option (List DenialSurfaceLayer)
  | _, _, [] => some []
  | surfaceIds, lastCompositionOrder, layer :: layers =>
    if !validSurfaceLayer layer || surfaceIds.contains (int64 layer.surfaceId) ||
        (layer.compositionOrder.toNat : Int) < lastCompositionOrder then none
    else do
      let rest ← decodeLayers (int64 layer.surfaceId :: surfaceIds) layer.compositionOrder.toNat layers
      return denialSurfaceLayer layer :: rest

def denialWindow (restoredWindowIds : List Int) (window : WindowTable) (surfaceLayers : List DenialSurfaceLayer) :
    DenialWindow :=
  { window with
    objectId := int64 window.objectId
    objectKind := match window.objectKind with
      | .surface => "surface"
      | .rootSurface => "root_surface"
    surfaceId := int64 window.surfaceId
    windowId := int64 window.windowId
    textureId := int64 window.textureId
    width := window.width.toNat
    height := window.height.toNat
    monitorId := window.monitorId.toInt
    workspaceId := window.workspaceId.toInt
    transform := window.transform.toNat
    scale120 := window.scale120.toNat
    restoredAcrossFlutterRestart := restoredWindowIds.contains (int64 window.windowId)
    statusColorArgb := if window.hasStatusColor then some window.statusColorArgb.toNat else none
    surfaceLayers }

def decodeFrom (restoredWindowIds : List Int) : List Int → Nat → List WindowTable → Option (List DenialWindow)
  | _, _, [] => some []
  | windowIds, surfaceCount, window :: windows =>
    if int64 window.objectId ≤ 0 || int64 window.surfaceId ≤ 0 || int64 window.windowId ≤ 0 ||
        windowIds.contains (int64 window.windowId) || window.width == 0 || window.height == 0 ||
        denialWireMaxStringLength < units window.title || denialWireMaxStringLength < units window.appId ||
        !finiteWindow window then none
    else if window.contentKind = .localFlutter ∧ (int64 window.textureId ≠ 0 ∨ window.surfaces ≠ []) then none
    else if maxSurfaces < surfaceCount + window.surfaces.length then none
    else do
      let layers ← decodeLayers [] (-1) window.surfaces
      let rest ← decodeFrom restoredWindowIds (int64 window.windowId :: windowIds)
        (surfaceCount + window.surfaces.length) windows
      return denialWindow restoredWindowIds window layers :: rest

def decodeWindows (snapshot : WindowSnapshot) : Option (List DenialWindow) :=
  let source := snapshot.windows.getD []
  let restoredWindowIds := (snapshot.restoredWindowIds.getD []).map int64
  if maxWindows < source.length || source.length < restoredWindowIds.length || restoredWindowIds.any (· ≤ 0) ||
      !decide restoredWindowIds.Nodup then none
  else do
    let windows ← decodeFrom restoredWindowIds [] 0 source
    if restoredWindowIds.all fun id => (source.map fun window => int64 window.windowId).contains id then some windows
    else none

/-! ## Notifications -/

def denialWireMaxNotificationActions : Nat := 16

def decodeImage (source : NotificationImageData) : Option DesktopNotificationImageData :=
  let image : DesktopNotificationImageData :=
    { source with
      width := source.width.toNat
      height := source.height.toNat
      rowStride := source.rowStride.toNat
      bitsPerSample := source.bitsPerSample.toNat
      channels := source.channels.toNat }
  let expectedChannels := if image.hasAlpha then 4 else 3
  let requiredBytes := mul64 image.rowStride image.height
  if image.width ≤ 0 || image.height ≤ 0 || 4096 < image.width || 4096 < image.height || image.bitsPerSample != 8 ||
      image.channels != expectedChannels || image.rowStride < mul64 image.width image.channels || requiredBytes ≤ 0 ||
      maxNotificationImageBytes < requiredBytes || image.data.length != requiredBytes then none
  else some image

/-- A notification with the fields of its table. -/
def desktopNotification (source : Notification) (imageData : Option DesktopNotificationImageData) : DesktopNotification :=
  { source with
    id := source.id.toNat
    imageData
    x := source.x.toInt
    y := source.y.toInt
    progress := source.progress.toInt
    expireTimeoutMs := source.expireTimeoutMs.toInt }

def decodeNotification (source : Notification) : Option DesktopNotification :=
  if (texts source).any (fun text => denialWireMaxStringLength < units text) ||
      denialWireMaxNotificationActions < source.actions.length then none
  else if source.actions.any fun action =>
      denialWireMaxStringLength < units action.key || denialWireMaxStringLength < units action.label then none
  else match source.imageData with
    | none => some (desktopNotification source none)
    | some image => do
      let image ← decodeImage image
      return desktopNotification source (some image)

def decodeNotificationEvent (event : DesktopNotificationEventTable) : Option DesktopNotificationEvent :=
  let notificationId : Int := event.notificationId.toNat
  let closeReason : Int := event.closeReason.toNat
  if notificationId ≤ 0 then none
  else match event.kind with
    | .closed => if closeReason < 1 || 4 < closeReason then none else some { kind := .closed, notificationId, closeReason }
    | .added | .replaced => match event.notification with
      | none => none
      | some source =>
        if (source.id.toNat : Int) ≠ notificationId then none
        else do
          let notification ← decodeNotification source
          return { kind := event.kind, notificationId, closeReason := 0, notification := some notification }

/-! ## Placements -/

/-- `getUint64` and `getInt64`. -/
def getInt64 (offset : Nat) (data : List UInt8) : Int := int64 (.ofNat (uint 8 offset data))

/-- `getFloat64`. -/
def getFloat64 (offset : Nat) (data : List UInt8) : F64 := Double.value ⟨.ofNat (uint 8 offset data)⟩

/-- `Rect.fromLTWH`. -/
def fromLTWH (rounding : Rounding) (left top width height : F64) : Rect :=
  ⟨left, top, F64.add rounding left width, F64.add rounding top height⟩

/-- `DenialWindowPlacementPhase.values`, of which each byte of a packet is one. -/
def placementPhases : List WindowPlacementPhase := [.begins, .updates, .ends]

def placementChanges : List WindowPlacementChange := [.move, .resize, .layoutPreview]

def decodePlacement (rounding : Rounding) (lastPlacementSequence : Int) (data : List UInt8) :
    Option DenialWindowPlacementEvent :=
  if data.length ≠ 80 then none
  else if uint 1 0 data ≠ 0x44 ∨ uint 1 1 data ≠ 0x45 ∨ uint 1 2 data ≠ 0x4e ∨ uint 1 3 data ≠ 0x50 ∨
      uint 2 4 data ≠ protocolVersion.toNat ∨ uint 2 6 data ≠ 2 ∨ uint 4 8 data ≠ 80 ∨ uint 2 46 data ≠ 0 then none
  else
    let sequence := getInt64 12 data
    let windowId := getInt64 20 data
    let monitorId := getInt64 28 data
    let workspaceId := getInt64 36 data
    let x := getFloat64 48 data
    let y := getFloat64 56 data
    let width := getFloat64 64 data
    let height := getFloat64 72 data
    if sequence ≤ lastPlacementSequence ∨ windowId ≤ 0 ∨ monitorId < 0 ∨ workspaceId = -1 then none
    else if !x.isFinite || !y.isFinite || !width.isFinite || !height.isFinite || F64.lt width (.finite 1) ||
        F64.lt height (.finite 1) then none
    else do
      let phase ← placementPhases[uint 1 44 data]?
      let change ← placementChanges[uint 1 45 data]?
      return { sequence, windowId, contentRect := fromLTWH rounding x y width height, monitorId, workspaceId, phase, change }

end Deniald.Wire.Decoder
