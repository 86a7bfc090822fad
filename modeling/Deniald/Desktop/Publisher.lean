/-
The desktop input layout publisher (desktop_input_layout_publisher.dart) as far as it configures windows: the
placements it presents, the tracker of the rectangles that crossed the bridge, and the configure requests.
Whether a changed input layout reached the compositor is an input of a publication.
-/
import Deniald.Desktop.Gestures

namespace Deniald.Desktop

open Deniald.Lib

/-! ## Tracker -/

/-- A window rectangle as it crosses the bridge. -/
structure ConfiguredGeometry where
  left : Int
  top : Int
  width : Int
  height : Int
  deriving DecidableEq

/-- The rectangle in whole pixels, within the limits of the wire. -/
def configuredGeometry (contentRect : Rect) : ConfiguredGeometry where
  left := clamp (roundHalfAway contentRect.left) 0 16384
  top := clamp (roundHalfAway contentRect.top) 0 16384
  width := clamp (roundHalfAway contentRect.width) 64 16384
  height := clamp (roundHalfAway contentRect.height) 64 16384

def ConfiguredGeometry.rect (g : ConfiguredGeometry) : Rect := .fromLTWH g.left g.top g.width g.height

/-- The rectangles the tracker saw last. -/
abbrev DesktopWindowConfigureTracker := LinkedMap Int ConfiguredGeometry

namespace DesktopWindowConfigureTracker

def update (configured : DesktopWindowConfigureTracker) (objectId : Int) (contentRect : Rect) (nativeDragActive : Bool) :
    DesktopWindowConfigureTracker × Option Rect :=
  let geometry := configuredGeometry contentRect
  (configured.set objectId geometry,
    match configured.get? objectId with
    -- the compositor owns the initial placement
    | none => none
    | some previous => if nativeDragActive || previous = geometry then none else some geometry.rect)

def retainWindowIds (configured : DesktopWindowConfigureTracker) (activeObjectIds : List Int) :
    DesktopWindowConfigureTracker :=
  configured.filter fun objectId _ => activeObjectIds.contains objectId

end DesktopWindowConfigureTracker

/-- A `ConfigureWindow` request, with the object id of its window. -/
structure ConfigureRequest where
  objectId : Int
  windowId : Int
  geometry : ConfiguredGeometry
  layoutDrop : Bool
  deriving DecidableEq

/-- `configureWindow` of the bridge. -/
def configureWindow (window : DenialWindow) (contentRect : Rect) (layoutDrop : Bool) : Option ConfigureRequest :=
  if window.windowId ≤ 0 ∨ contentRect.width < 1 ∨ contentRect.height < 1 then none
  else some ⟨window.objectId, window.windowId, configuredGeometry contentRect, layoutDrop⟩

/-! ## Publications -/

/-- `DesktopWindowSwitcherState`; `identity` tells one state object from another. -/
structure DesktopWindowSwitcherState where
  identity : Nat
  isSelecting : Bool
  objectIds : List Int

/-- `ShellInteractionSnapshot`. -/
structure ShellInteractionSnapshot where
  identity : Nat
  capturesFullScene : Bool

/-- `_DesktopInputLayoutSource`. -/
structure DesktopInputLayoutSource where
  viewSize : Size
  devicePixelRatio : F64
  windows : WindowList
  windowSnapshotSequence : Int
  desktop : DesktopWorkspaceState
  switcher : Option DesktopWindowSwitcherState
  interactions : ShellInteractionSnapshot

namespace DesktopInputLayoutSource

def hasSameInputsAs (source other : DesktopInputLayoutSource) : Bool :=
  source.viewSize = other.viewSize && source.devicePixelRatio.le other.devicePixelRatio &&
    other.devicePixelRatio.le source.devicePixelRatio && source.windows.identity = other.windows.identity &&
    source.windowSnapshotSequence = other.windowSnapshotSequence &&
    source.desktop.inputLayoutRevision = other.desktop.inputLayoutRevision &&
    source.switcher.map (·.identity) = other.switcher.map (·.identity) &&
    source.interactions.identity = other.interactions.identity

/-- `windowsById`. -/
def windowsById (source : DesktopInputLayoutSource) : LinkedMap Int DenialWindow :=
  .ofList ((source.windows.windows.filter (·.isUserApp)).map fun window => (window.objectId, window))

def sampledSwitcherIds (source : DesktopInputLayoutSource) : List Int :=
  match source.switcher with
  | some switcher => if source.interactions.capturesFullScene && switcher.isSelecting then switcher.objectIds else []
  | none => []

def presents (source : DesktopInputLayoutSource) (objectId : Int) (p : DesktopWindowPlacement) : Bool :=
  (!p.minimized || source.desktop.isInOverview objectId || source.sampledSwitcherIds.contains objectId) &&
    (source.desktop.isPlacementOnActiveWorkspace p || source.desktop.isInOverview objectId) &&
    source.windowsById.contains objectId

/-- `compareDesktopWindowStack a b <= 0`. -/
def stacksBelow (source : DesktopInputLayoutSource) (a b : Int × DesktopWindowPlacement) : Bool :=
  let pinned (objectId : Int) : Bool := (source.windowsById.get? objectId).any (·.pinned)
  if pinned a.1 ≠ pinned b.1 then pinned b.1 else if a.2.z ≠ b.2.z then a.2.z < b.2.z else a.1 ≤ b.1

def placements (source : DesktopInputLayoutSource) : List (Int × DesktopWindowPlacement) :=
  (source.desktop.placements.entries.filter fun e => source.presents e.1 e.2).mergeSort source.stacksBelow

end DesktopInputLayoutSource

structure DesktopInputLayoutPublisher where
  configureTracker : DesktopWindowConfigureTracker := .empty
  lastSource : Option DesktopInputLayoutSource := none

namespace DesktopInputLayoutPublisher

/-- `_configureWindowGeometry` for one presented placement. -/
def configureWindowGeometry (windowsById : LinkedMap Int DenialWindow)
    (acc : DesktopWindowConfigureTracker × List ConfigureRequest) (e : Int × DesktopWindowPlacement) :
    DesktopWindowConfigureTracker × List ConfigureRequest :=
  match windowsById.get? e.1 with
  | none => acc
  | some window =>
    let (tracker, geometry) := DesktopWindowConfigureTracker.update acc.1 window.objectId e.2.contentRect e.2.dragging
    (tracker, acc.2 ++ (geometry.bind fun geometry => configureWindow window geometry false).toList)

/-- `_publish`: the tracker, the configure requests, and whether the source counts as published. -/
def publish (tracker : DesktopWindowConfigureTracker) (source : DesktopInputLayoutSource) (layoutTaken : Bool) :
    DesktopWindowConfigureTracker × List ConfigureRequest × Bool :=
  if source.viewSize.width ≤ 0 ∨ source.viewSize.height ≤ 0 then (tracker, [], false)
  else
    let (tracker, requests) :=
      source.placements.reverse.foldl (configureWindowGeometry source.windowsById) (tracker, [])
    (DesktopWindowConfigureTracker.retainWindowIds tracker source.windowsById.keys, requests, layoutTaken)

/-- The part of `_schedulePublish`'s callback behind the workspace's own calls. -/
def publishSource (publisher : DesktopInputLayoutPublisher) (source : DesktopInputLayoutSource) (layoutTaken : Bool) :
    DesktopInputLayoutPublisher × List ConfigureRequest :=
  if publisher.lastSource.any fun last => last.hasSameInputsAs source then (publisher, [])
  else
    let (tracker, requests, published) := publish publisher.configureTracker source layoutTaken
    ({ configureTracker := tracker
       lastSource := if published then some source else publisher.lastSource }, requests)

end DesktopInputLayoutPublisher

end Deniald.Desktop
