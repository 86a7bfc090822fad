/-
The bridge between the shell and the compositor (wire.rs): its state, the descriptions of windows it keeps for the shell,
and the commands from the shell it keeps until they are taken.
-/
import Deniald.Topology.Atlas
import Deniald.Wire.Settings

namespace Deniald.Wire

open Deniald.Lib Deniald.Topology

/-! ## Windows -/

inductive SurfaceRoleDescription where
  | root
  | subsurface
  | popup

structure SurfaceLayerDescription where
  surfaceId : UInt64
  parentSurfaceId : UInt64
  popupRootSurfaceId : UInt64
  role : SurfaceRoleDescription
  textureId : UInt64
  width : UInt32
  height : UInt32
  surfaceX : F64
  surfaceY : F64
  surfaceWidth : F64
  surfaceHeight : F64
  textureSourceX : F64
  textureSourceY : F64
  textureSourceWidth : F64
  textureSourceHeight : F64
  transform : UInt32
  scale120 : UInt32
  compositionOrder : UInt32
  opacity : F64
  isOpaque : Bool

inductive WindowContentKind where
  | surfaceTree
  | localFlutter
  deriving DecidableEq

inductive WindowOpacityClass where
  | contentTranslucent
  | borderAlphaOnly
  | fullyOpaque

structure WindowDescription where
  objectId : UInt64
  surfaceId : UInt64
  windowId : UInt64
  textureId : UInt64
  title : String
  appId : String
  width : UInt32
  height : UInt32
  surfaceX : F64
  surfaceY : F64
  surfaceWidth : F64
  surfaceHeight : F64
  textureSourceX : F64
  textureSourceY : F64
  textureSourceWidth : F64
  textureSourceHeight : F64
  geometryX : F64
  geometryY : F64
  geometryWidth : F64
  geometryHeight : F64
  monitorId : Int64
  workspaceId : Int64
  minimized : Bool
  transform : UInt32
  scale120 : UInt32
  contentX : F64
  contentY : F64
  contentWidth : F64
  contentHeight : F64
  surfaces : List SurfaceLayerDescription
  suppressAnimations : Bool
  serverSideDecorated : Bool
  opacity : F64
  contentKind : WindowContentKind
  opacityClass : WindowOpacityClass

/-! ## Commands of the shell -/

structure WindowGeometry where
  x : F64
  y : F64
  width : F64
  height : F64

inductive WindowCommand where
  | createLocal (appId title : String) (geometry : WindowGeometry)
  | close (windowId : UInt64)
  | focus (windowId : UInt64)
  | minimize (windowId : UInt64)
  | configure (windowId : UInt64) (geometry : WindowGeometry) (exact layoutDrop : Bool)
  | switchWorkspace (monitorId : Int64) (workspaceId : UInt8)
  | moveToWorkspace (windowId : UInt64) (monitorId : Option Int64) (workspaceId : UInt8) (follow : Bool)

inductive KeyboardKeyPhase where
  | tap
  | pressed
  | released
  deriving DecidableEq

inductive KeyboardCommand where
  | text (text : String)
  | key (key : String) (ctrl : Bool) (phase : KeyboardKeyPhase)

inductive NotificationCommand where
  | dismiss (notificationId : UInt32)
  | invokeAction (notificationId : UInt32) (actionKey : String)
  | invokeDefault (notificationId : UInt32)

inductive XEmbedTrayAction where
  | activate
  | secondaryActivate
  | contextMenu

structure XEmbedTrayCommand where
  action : XEmbedTrayAction
  windowId : UInt32
  x : Int32
  y : Int32

structure InputRect where
  x : F64
  y : F64
  width : F64
  height : F64
  deriving DecidableEq

structure InputWindowRegion where
  objectId : UInt64
  surfaceId : UInt64
  windowId : UInt64
  rect : InputRect
  sourceRect : InputRect
  z : Int32
  flags : UInt32
  deriving DecidableEq

structure InputLayoutSnapshot where
  epoch : UInt64 := 0
  flags : UInt32 := 0
  shellRegions : List InputRect := []
  softwareKeyboardRegions : List InputRect := []
  windows : List InputWindowRegion := []
  visibleSurfaceIds : List UInt64 := []

inductive SystemBarSide where
  | left
  | right
  | top
  | bottom
  | hidden
  deriving DecidableEq

structure SystemBarOptions where
  outputs : List String := []
  side : SystemBarSide := .top
  thickness : F64 := .finite 32

structure WorkAreaOptions where
  systemBar : SystemBarOptions := {}
  maximizePadding : F64 := .finite 10

/-! ## The bridge -/

/-- The state but for the storage that is reused from one message to the next. -/
structure WireBridge (F : Type) where
  snapshot : TopologySnapshot F
  atlas : AtlasPlan F
  workArea : WorkAreaOptions
  windows : List WindowDescription := []
  windowsRevision : Option UInt64 := none
  restoredWindowIds : List UInt64 := []
  pendingInputLayout : Option InputLayoutSnapshot := none
  pendingWindowCommands : List WindowCommand := []
  pendingKeyboardCommands : List KeyboardCommand := []
  pendingNotificationCommands : List NotificationCommand := []
  pendingXembedTrayCommands : List XEmbedTrayCommand := []
  pendingSettingsCommands : List SettingsCommand := []
  pendingThemeAccent : Option UInt32 := none
  pendingWorkArea : Option WorkAreaOptions := none
  nextSequence : UInt64 := 1

/-- `MAX_SURFACES`. -/
def maxSurfaces : Nat := 32768

/-- `MAX_MESSAGE_BYTES`. -/
def maxMessageBytes : Nat := 1024 * 1024

/-- A message to the shell. -/
inductive Outbound (F : Type) where
  | windowsUpdate (sequence : UInt64) (windows : List WindowDescription) (restoredWindowIds : List UInt64)
  | windowsResponse (sequence requestId : UInt64) (windows : List WindowDescription) (restoredWindowIds : List UInt64)
  | displayLayout (sequence requestId : UInt64) (snapshot : TopologySnapshot F) (atlas : AtlasPlan F)
      (workArea : WorkAreaOptions)

/-- The FlatBuffers builder: what a message takes, where it can be built. -/
abbrev Builder (F : Type) := Outbound F → Except WireError Nat

/-- The encoders, with `validate_finished_message`. -/
def encode {F : Type} (builder : Builder F) (message : Outbound F) : Except WireError (Outbound F) := do
  let bytes ← builder message
  if maxMessageBytes < bytes then .error (.size bytes) else return message

/-- `take_sequence`. -/
def WireBridge.takeSequence {F : Type} (b : WireBridge F) : UInt64 × WireBridge F :=
  let sequence := max b.nextSequence 1
  (sequence, { b with nextSequence := if 2 ^ 63 - 1 ≤ sequence.toNat then 1 else sequence + 1 })

end Deniald.Wire
