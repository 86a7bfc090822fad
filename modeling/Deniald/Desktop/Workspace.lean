/-
The shell's desktop workspace (desktop_workspace.dart): where every window is placed, the overview over
them, and the workspaces of the monitors. Coordinates are exact rationals; a placement is kept under its
window's object id.
-/
import Deniald.Lib.LinkedMap
import Deniald.Lib.Number

namespace Deniald.Desktop

open Deniald.Lib

/-! ## Rectangles -/

/-- `Offset` of dart:ui. -/
structure Offset where
  dx : ℚ
  dy : ℚ
  deriving DecidableEq

namespace Offset

def zero : Offset := ⟨0, 0⟩

def add (a b : Offset) : Offset := ⟨a.dx + b.dx, a.dy + b.dy⟩

def sub (a b : Offset) : Offset := ⟨a.dx - b.dx, a.dy - b.dy⟩

end Offset

structure Size where
  width : ℚ
  height : ℚ
  deriving DecidableEq

def Size.zero : Size := ⟨0, 0⟩

def Size.isEmpty (size : Size) : Bool := size.width ≤ 0 || size.height ≤ 0

/-- `Rect` of dart:ui. -/
structure Rect where
  left : ℚ
  top : ℚ
  right : ℚ
  bottom : ℚ
  deriving DecidableEq

namespace Rect

def fromLTWH (left top width height : ℚ) : Rect := ⟨left, top, left + width, top + height⟩

/-- `Offset.zero & size`. -/
def ofSize (size : Size) : Rect := fromLTWH 0 0 size.width size.height

def fromCenter (center : Offset) (width height : ℚ) : Rect :=
  ⟨center.dx - width / 2, center.dy - height / 2, center.dx + width / 2, center.dy + height / 2⟩

def width (r : Rect) : ℚ := r.right - r.left

def height (r : Rect) : ℚ := r.bottom - r.top

def topLeft (r : Rect) : Offset := ⟨r.left, r.top⟩

def center (r : Rect) : Offset := ⟨r.left + r.width / 2, r.top + r.height / 2⟩

def isEmpty (r : Rect) : Bool := r.right ≤ r.left || r.bottom ≤ r.top

def contains (r : Rect) (p : Offset) : Bool := r.left ≤ p.dx && p.dx < r.right && r.top ≤ p.dy && p.dy < r.bottom

def shift (r : Rect) (offset : Offset) : Rect :=
  ⟨r.left + offset.dx, r.top + offset.dy, r.right + offset.dx, r.bottom + offset.dy⟩

def deflate (r : Rect) (delta : ℚ) : Rect := ⟨r.left + delta, r.top + delta, r.right - delta, r.bottom - delta⟩

def intersect (a b : Rect) : Rect := ⟨max a.left b.left, max a.top b.top, min a.right b.right, min a.bottom b.bottom⟩

end Rect

/-! ## Windows and events -/

/-- The fields of `DenialWindow` that place a window and name it to the compositor. -/
structure DenialWindow where
  objectId : Int
  windowId : Int := 1
  title : String := ""
  appId : String := ""
  geometryX : ℚ
  geometryY : ℚ
  geometryWidth : ℚ
  geometryHeight : ℚ
  monitorId : Int
  workspaceId : Int := 1
  minimized : Bool := false
  pinned : Bool := false
  serverSideDecorated : Bool := true

namespace DenialWindow

def isHome (w : DenialWindow) : Bool := w.appId = "denia-home" || w.title = "denia-home"

def isSystemUi (w : DenialWindow) : Bool :=
  "denia-systemui".toList.isPrefixOf w.appId.toList || "denia-systemui".toList.isPrefixOf w.title.toList

def isUserApp (w : DenialWindow) : Bool := !w.isHome && !w.isSystemUi

def geometry (w : DenialWindow) : Option Rect :=
  if 0 < w.geometryWidth ∧ 0 < w.geometryHeight then
    some (.fromLTWH w.geometryX w.geometryY w.geometryWidth w.geometryHeight)
  else none

end DenialWindow

/-- A list of windows as the shell holds it; `identity` tells one list object from another. -/
structure WindowList where
  identity : Nat
  windows : List DenialWindow

inductive DenialWindowPlacementPhase where
  | begin
  | update
  | «end»
  deriving DecidableEq

inductive DenialWindowPlacementChange where
  | move
  | resize
  | layoutPreview
  deriving DecidableEq

structure DenialWindowPlacementEvent where
  sequence : Int
  contentRect : Rect
  monitorId : Int
  workspaceId : Int
  phase : DenialWindowPlacementPhase
  change : DenialWindowPlacementChange

/-! ## Workspace state -/

/-- `DesktopMetrics.frameBorder`. -/
def frameBorder : ℚ := 1

inductive DesktopPanel where
  | none
  | launcher
  | dashboard
  deriving DecidableEq

structure DesktopOverviewState where
  monitorId : Int
  bounds : Rect
  backgroundBounds : Rect
  frames : LinkedMap Int Rect
  deriving DecidableEq

structure DesktopWorkspaceTransition where
  monitorId : Int
  fromWorkspace : Int
  toWorkspace : Int
  serial : Nat
  deriving DecidableEq

structure DesktopWindowPlacement where
  frame : Rect
  z : Nat
  monitorId : Int
  workspaceId : Int := -1
  minimized : Bool := false
  maximized : Bool := false
  fullscreen : Bool := false
  serverSideDecorated : Bool := true
  dragging : Bool := false
  layoutPreviewing : Bool := false
  restoreFrame : Option Rect := none
  fullscreenRestoreFrame : Option Rect := none
  deriving DecidableEq

namespace DesktopWindowPlacement

def frameBorder (p : DesktopWindowPlacement) : ℚ :=
  if p.fullscreen || !p.serverSideDecorated then 0 else Desktop.frameBorder

def contentRect (p : DesktopWindowPlacement) : Rect := p.frame.deflate p.frameBorder

end DesktopWindowPlacement

structure DesktopWorkspaceState where
  placements : LinkedMap Int DesktopWindowPlacement
  nextZ : Nat
  viewSize : Size
  panel : DesktopPanel := .none
  overview : Option DesktopOverviewState := none
  inputLayoutRevision : Nat := 0
  workspacesEnabled : Bool := true
  workspaceCount : Int := 4
  activeWorkspaces : LinkedMap Int Int := .empty
  workspaceTransitions : LinkedMap Int DesktopWorkspaceTransition := .empty
  deriving DecidableEq

namespace DesktopWorkspaceState

def initial : DesktopWorkspaceState where
  placements := .empty
  nextZ := 1
  viewSize := .zero

def overviewActive (s : DesktopWorkspaceState) : Bool := s.overview.isSome

def activeWorkspaceFor (s : DesktopWorkspaceState) (monitorId : Int) : Int :=
  if s.workspacesEnabled then (s.activeWorkspaces.get? monitorId).getD 1 else 1

def isPlacementOnActiveWorkspace (s : DesktopWorkspaceState) (p : DesktopWindowPlacement) : Bool :=
  p.minimized || !s.workspacesEnabled || p.workspaceId = s.activeWorkspaceFor p.monitorId

def isInOverview (s : DesktopWorkspaceState) (objectId : Int) : Bool :=
  s.overview.any fun overview => overview.frames.contains objectId

/-- The greatest z of the windows that are not minimized. -/
def topVisibleZ (s : DesktopWorkspaceState) : Nat :=
  (s.placements.values.filter fun candidate => !candidate.minimized).foldl (fun top candidate => max top candidate.z) 0

/-- `copyWith(placements: ..)` with one placement set; each such copy is a new revision. -/
def place (s : DesktopWorkspaceState) (objectId : Int) (p : DesktopWindowPlacement) : DesktopWorkspaceState :=
  { s with placements := s.placements.set objectId p, inputLayoutRevision := s.inputLayoutRevision + 1 }

end DesktopWorkspaceState

end Deniald.Desktop
