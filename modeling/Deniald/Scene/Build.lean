/-
The scene for the shell (surface_pipeline.rs, `flutter_scene`): a description of every window of a client, of the shell's
own windows and of the popups of input methods, the frames of their textures, and which window a texture belongs to.
-/
import Deniald.Scene.Surface
import Deniald.Wire.Handle

namespace Deniald.Scene

open Deniald.Lib Deniald.Layout Deniald.Topology Deniald.Wire

/-! ## Windows -/

inductive PopupKind where
  | xdg (parent : Option ObjectId)
  | inputMethod

structure ScenePopup where
  kind : PopupKind
  tree : LayeredTree ObjectId
  location : LogicalPoint
  geometryLoc : LogicalPoint

inductive WindowBackend where
  | toplevel (attributes : Option (Option String × Option String))
  | x11 (title className : String) (drawsServerFrame : Bool) (opacity : Option UInt32)

/-- A window of a client in the space. -/
structure SceneWindow where
  /-- The tree of `window_root_surface`. -/
  tree : Option (LayeredTree ObjectId)
  backend : WindowBackend
  /-- `window_geometry_target`. -/
  geometry : Rect
  /-- `Window::geometry`. -/
  content : Rect
  content_lt : content.w < 2 ^ 31 ∧ content.h < 2 ^ 31
  popups : List ScenePopup := []
  minimized : Bool := false

/-- A window of the shell, with a place among the windows of clients; its texts are those of a request. -/
structure LocalFlutterWindow where
  id : UInt64
  ne_zero : id ≠ 0
  appId : String
  appId_le : appId.utf8ByteSize ≤ maxLocalAppIdBytes
  title : String
  title_le : title.utf8ByteSize ≤ maxLocalWindowTitleBytes
  geometry : LogicalRect ℚ
  minimized : Bool := false

inductive EditorEndpoint where
  | flutter
  | wayland (surface : ObjectId)

structure ActiveEditor where
  endpoint : EditorEndpoint
  cursorRectangle : Option Rect

structure WaylandFrontend where
  surfaces : Surfaces
  windows : List SceneWindow
  localWindows : List LocalFlutterWindow := []
  activeEditor : Option ActiveEditor := none
  /-- `visible_popups` of the input method. -/
  inputMethodPopups : List (LayeredTree ObjectId) := []
  /-- `output_for_geometry`, with the output's logical geometry. -/
  outputForGeometry : Rect → Option (OutputId × Rect)
  /-- The workspace that `reconcile_workspace_assignment` leaves a window on. -/
  workspace : UInt64 → OutputId → Bool → Option UInt8
  desktopBounds : Rect
  atlasOrigin : LogicalPoint
  inputVisibilityKnown : Bool := false
  visibleWindowIds : List UInt64 := []

def WindowBackend.title : WindowBackend → String
  | .toplevel attributes => (attributes.bind Prod.fst).getD ""
  | .x11 title _ _ _ => title

def WindowBackend.appId : WindowBackend → String
  | .toplevel attributes => (attributes.bind Prod.snd).getD ""
  | .x11 _ className _ _ => className

/-! ## Opacity -/

structure UnitRounding extends Rounding where
  zero : fl 0 = 0
  one : fl 1 = 1

def normalizedX11Opacity (r : UnitRounding) (opacity : Option UInt32) : ℚ :=
  match opacity with
  | none => 1
  | some value => r.fl (r.fl value.toNat / r.fl (2 ^ 32 - 1))

def WindowBackend.opacity (r : UnitRounding) : WindowBackend → ℚ
  | .toplevel _ => 1
  | .x11 _ _ _ opacity => normalizedX11Opacity r opacity

def WindowBackend.serverSideDecorated : WindowBackend → Bool
  | .toplevel _ => true
  | .x11 _ _ drawsServerFrame _ => drawsServerFrame

section

variable (geometry : Geometry) (r : UnitRounding) (s : WaylandFrontend)

/-- The monitor of some geometry, -1 where there is none. -/
def monitorOf (g : Rect) : Int64 := ((s.outputForGeometry g).bind fun output => monitorId output.1).getD (-1)

def workspaceOf (stableId : UInt64) (g : Rect) (minimized : Bool) : Int64 :=
  (((s.outputForGeometry g).bind fun output => s.workspace stableId output.1 minimized).map
    fun workspace => Int64.ofNat workspace.toNat).getD (-1)

structure RootLayer where
  textureId : UInt64 := 0
  width : UInt32 := 0
  height : UInt32 := 0
  textureSourceX : F64 := .finite 0
  textureSourceY : F64 := .finite 0
  textureSourceWidth : F64 := .finite 0
  textureSourceHeight : F64 := .finite 0
  transform : UInt32 := 0
  scale120 : UInt32 := 120

def RootLayer.of (layer : SurfaceLayerDescription) : RootLayer :=
  { textureId := layer.textureId, width := layer.width, height := layer.height
    textureSourceX := layer.textureSourceX, textureSourceY := layer.textureSourceY
    textureSourceWidth := layer.textureSourceWidth, textureSourceHeight := layer.textureSourceHeight
    transform := layer.transform, scale120 := layer.scale120 }

/-- `round().clamp(1.0, u32::MAX) as u32`. -/
def localExtent (q : ℚ) : Int := clamp (roundHalfAway q) 1 (2 ^ 32 - 1)

/-- The place of a local window in whole points. -/
def LocalFlutterWindow.globalGeometry (w : LocalFlutterWindow) : Rect :=
  ⟨satI32 (roundHalfAway w.geometry.x), satI32 (roundHalfAway w.geometry.y),
    min (localExtent w.geometry.width) (2 ^ 31 - 1), min (localExtent w.geometry.height) (2 ^ 31 - 1)⟩

/-- A local window; its place is a few thousand points from the atlas's origin, and a difference does not overflow. -/
def localWindow (w : LocalFlutterWindow) : WindowDescription :=
  { objectId := w.id
    surfaceId := w.id
    windowId := w.id
    textureId := 0
    title := w.title
    appId := w.appId
    width := UInt32.ofNat (localExtent w.geometry.width).toNat
    height := UInt32.ofNat (localExtent w.geometry.height).toNat
    surfaceX := .finite 0
    surfaceY := .finite 0
    surfaceWidth := .finite w.geometry.width
    surfaceHeight := .finite w.geometry.height
    textureSourceX := .finite 0
    textureSourceY := .finite 0
    textureSourceWidth := .finite 0
    textureSourceHeight := .finite 0
    geometryX := .finite (r.fl (w.geometry.x - s.atlasOrigin.x))
    geometryY := .finite (r.fl (w.geometry.y - s.atlasOrigin.y))
    geometryWidth := .finite w.geometry.width
    geometryHeight := .finite w.geometry.height
    monitorId := monitorOf s w.globalGeometry
    workspaceId := workspaceOf s w.id w.globalGeometry w.minimized
    minimized := w.minimized
    transform := 0
    scale120 := 120
    contentX := .finite 0
    contentY := .finite 0
    contentWidth := .finite w.geometry.width
    contentHeight := .finite w.geometry.height
    surfaces := []
    suppressAnimations := false
    serverSideDecorated := true
    opacity := .finite 1
    contentKind := .localFlutter
    opacityClass := .fullyOpaque }

/-! ## Popups of input methods -/

/-- A coordinate of a layer, which is an integer. -/
def coordinate : F64 → ℚ
  | .finite q => q
  | .infinite _ | .nan => 0

end

end Deniald.Scene
