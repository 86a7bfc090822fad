/-
The desktop workspace controller (desktop_workspace_controller.dart): one function for each of its methods.
How the overview arranges its previews (`DesktopOverviewLayout.arrange`) is left open, since nothing about
the controller depends on it.
-/
import Deniald.Desktop.Workspace

namespace Deniald.Desktop

open Deniald.Lib

/-! ## Overview drags -/

/-- `DesktopOverviewDragOffsets`; a window without an entry is not translated. -/
structure DesktopOverviewDragOffsets where
  translations : LinkedMap Int Offset := .empty
  settleTranslations : LinkedMap Int Offset := .empty
  deriving DecidableEq

namespace DesktopOverviewDragOffsets

def translationOf (o : DesktopOverviewDragOffsets) (objectId : Int) : Offset :=
  (o.translations.get? objectId).getD .zero

def start (o : DesktopOverviewDragOffsets) (objectId : Int) : DesktopOverviewDragOffsets where
  translations := o.translations.set objectId .zero
  settleTranslations := o.settleTranslations.erase objectId

def update (o : DesktopOverviewDragOffsets) (objectId : Int) (translation : Offset) : DesktopOverviewDragOffsets :=
  { o with translations := o.translations.set objectId translation }

def finish (o : DesktopOverviewDragOffsets) (objectId : Int) : DesktopOverviewDragOffsets :=
  let translation := o.translationOf objectId
  { translations := o.translations.set objectId .zero
    settleTranslations :=
      if translation ≠ .zero then o.settleTranslations.set objectId translation else o.settleTranslations }

end DesktopOverviewDragOffsets

structure DesktopOverviewItem where
  objectId : Int
  frame : Rect
  z : Nat

/-- `DesktopOverviewLayout.arrange`: the preview frames of some windows within the bounds. -/
abbrev Arrange := List DesktopOverviewItem → Rect → LinkedMap Int Rect

/-! ## Controller -/

/-- The controller with its private fields; `lastSyncedWindows` is the identity of the list last synced. -/
structure DesktopWorkspaceController where
  state : DesktopWorkspaceState := .initial
  moveRemainders : LinkedMap Int Offset := .empty
  pendingNativeFrames : LinkedMap Int Rect := .empty
  nativeSequences : LinkedMap Int Int := .empty
  overviewDragOrigins : LinkedMap Int (Rect × Nat) := .empty
  overviewDragOffsets : DesktopOverviewDragOffsets := {}
  lastSyncedWindows : Option Nat := none
  lastSyncedSnapshotSequence : Int := -1
  devicePixelRatio : ℚ := 1
  workAreas : LinkedMap Int Rect := .empty
  workspaceTransitionSerial : Nat := 0
  deriving DecidableEq

/-- `_initialFrame`: the frame around a content rectangle. -/
def initialFrame (contentRect : Rect) (serverSideDecorated : Bool) : Rect :=
  if !serverSideDecorated then contentRect
  else ⟨contentRect.left - frameBorder, contentRect.top - frameBorder, contentRect.right + frameBorder,
    contentRect.bottom + frameBorder⟩

/-- `_framesApproximatelyEqual`. -/
def framesApproximatelyEqual (first second : Rect) : Bool :=
  |first.left - second.left| ≤ 1 && |first.top - second.top| ≤ 1 && |first.width - second.width| ≤ 1 &&
    |first.height - second.height| ≤ 1

def snapToPixel (devicePixelRatio value : ℚ) : ℚ := roundHalfAway (value * devicePixelRatio) / devicePixelRatio

def snapOffset (devicePixelRatio : ℚ) (offset : Offset) : Offset :=
  ⟨snapToPixel devicePixelRatio offset.dx, snapToPixel devicePixelRatio offset.dy⟩

/-- `_clampFrame`. -/
def clampFrame (devicePixelRatio : ℚ) (frame : Rect) (viewSize : Size) (bounds : Option Rect) : Rect :=
  let snap := snapToPixel devicePixelRatio
  let canvas := Rect.ofSize viewSize
  let workArea := ((bounds.map fun bounds => bounds.intersect canvas).filter fun requested => !requested.isEmpty).getD canvas
  let workLeft := snap workArea.left
  let workTop := snap workArea.top
  let workRight := snap workArea.right
  let workBottom := snap workArea.bottom
  let width := snap (min frame.width (workRight - workLeft))
  let height := snap (min frame.height (workBottom - workTop))
  let left := clamp (snap frame.left) workLeft (max workLeft (workRight - width))
  let top := clamp (snap frame.top) workTop (max workTop (workBottom - height))
  .fromLTWH left top width height

/-- The device pixel ratio that is used for one that was reported. -/
def usablePixelRatio : F64 → ℚ
  | .finite ratio => if 0 < ratio then ratio else 1
  | .infinite _ | .nan => 1

namespace DesktopWorkspaceController

variable (arrange : Arrange) (c : DesktopWorkspaceController)

/-- `_maximizedFrame`. -/
def maximizedFrame (monitorId : Int) (viewSize : Size) : Rect :=
  ((c.workAreas.get? monitorId).map fun workArea => workArea.intersect (.ofSize viewSize)).filter
    (fun workArea => !workArea.isEmpty) |>.getD (.ofSize viewSize)

/-! ### Workspaces and work areas -/

def syncWorkspaceConfiguration (enabled : Bool) (count : Int) (monitorIds : List Int) : DesktopWorkspaceController :=
  let safeCount := clamp count 2 9
  let active := LinkedMap.ofList (monitorIds.map fun monitorId =>
    (monitorId, if enabled then clamp ((c.state.activeWorkspaces.get? monitorId).getD 1) 1 safeCount else 1))
  if c.state.workspacesEnabled = enabled ∧ c.state.workspaceCount = safeCount ∧ c.state.activeWorkspaces.sameAs active then
    c
  else
    { c with state := { c.state with
        workspacesEnabled := enabled
        workspaceCount := safeCount
        activeWorkspaces := active
        workspaceTransitions := .empty
        overview := none
        inputLayoutRevision := c.state.inputLayoutRevision + 1 } }

def applyWorkspaceChanged (monitorId workspaceId : Int) : DesktopWorkspaceController :=
  if !c.state.workspacesEnabled ∨ workspaceId < 1 ∨ c.state.workspaceCount < workspaceId then c
  else
    let previous := c.state.activeWorkspaceFor monitorId
    let serial := c.workspaceTransitionSerial + 1
    let transitions :=
      if previous = workspaceId then c.state.workspaceTransitions.erase monitorId
      else c.state.workspaceTransitions.set monitorId ⟨monitorId, previous, workspaceId, serial⟩
    { c with
      workspaceTransitionSerial := if previous = workspaceId then c.workspaceTransitionSerial else serial
      state := { c.state with
        activeWorkspaces := c.state.activeWorkspaces.set monitorId workspaceId
        workspaceTransitions := transitions
        panel := .none
        overview := none
        inputLayoutRevision := c.state.inputLayoutRevision + 1 } }

def finishWorkspaceTransition (monitorId : Int) (serial : Nat) : DesktopWorkspaceController :=
  match c.state.workspaceTransitions.get? monitorId with
  | none => c
  | some transition =>
    if transition.serial ≠ serial then c
    else
      { c with state := { c.state with
          workspaceTransitions := c.state.workspaceTransitions.erase monitorId
          inputLayoutRevision := c.state.inputLayoutRevision + 1 } }

def fitWorkArea (p : DesktopWindowPlacement) : DesktopWindowPlacement :=
  if !p.maximized || p.fullscreen then p else { p with frame := c.maximizedFrame p.monitorId c.state.viewSize }

def syncWorkAreas (workAreas : LinkedMap Int Rect) : DesktopWorkspaceController :=
  if c.workAreas.sameAs workAreas then c
  else
    let c := { c with workAreas := workAreas }
    if c.state.viewSize.isEmpty then c
    else
      let moved := c.state.placements.entries.filter fun (_, p) => (c.fitWorkArea p).frame ≠ p.frame
      if moved.isEmpty then c
      else
        { c with
          pendingNativeFrames := moved.foldl (fun pending (objectId, p) => pending.set objectId (c.fitWorkArea p).frame)
            c.pendingNativeFrames
          state := { c.state with
            placements := c.state.placements.mapValues fun _ p => c.fitWorkArea p
            inputLayoutRevision := c.state.inputLayoutRevision + 1 } }

/-! ### Snapshots -/

/-- The placement that a newer snapshot makes of one that exists, and whether the pending native frame is
acknowledged by it. -/
def adoptSnapshot (viewSize : Size) (pendingFrame : Option Rect) (existing : DesktopWindowPlacement)
    (window : DenialWindow) : DesktopWindowPlacement × Bool :=
  let metadata (p : DesktopWindowPlacement) : DesktopWindowPlacement :=
    { p with
      serverSideDecorated := window.serverSideDecorated
      workspaceId := window.workspaceId
      minimized := window.minimized }
  -- Rust owns the geometry throughout a grab or a layout preview
  if existing.dragging || existing.layoutPreviewing then (metadata existing, false)
  else
    match window.geometry with
    | some nativeGeometry =>
      let nativeFrame :=
        if existing.fullscreen then nativeGeometry.intersect (.ofSize viewSize)
        else initialFrame nativeGeometry window.serverSideDecorated
      let acknowledged := pendingFrame.any fun pending => framesApproximatelyEqual nativeFrame pending
      if (pendingFrame.isNone || acknowledged) && !nativeFrame.isEmpty then
        let delta := nativeFrame.topLeft.sub existing.frame.topLeft
        (metadata { existing with
          frame := nativeFrame
          monitorId := window.monitorId
          fullscreenRestoreFrame :=
            if existing.fullscreen ∧ window.monitorId ≠ existing.monitorId then
              existing.fullscreenRestoreFrame.map fun frame => frame.shift delta
            else existing.fullscreenRestoreFrame }, acknowledged)
      else (metadata existing, acknowledged)
    | none =>
      if existing.serverSideDecorated ≠ window.serverSideDecorated ∧ !existing.fullscreen then
        (metadata { existing with
          frame := initialFrame existing.contentRect window.serverSideDecorated
          monitorId := window.monitorId }, false)
      else if pendingFrame.isNone then (metadata { existing with monitorId := window.monitorId }, false)
      else (metadata existing, false)

/-- What the loop of `syncWindows` changes. -/
structure SyncState where
  placements : LinkedMap Int DesktopWindowPlacement
  nextZ : Nat
  changed : Bool
  nativeSequences : LinkedMap Int Int
  pendingNativeFrames : LinkedMap Int Rect

def metricsFrame (viewSize : Size) (p : DesktopWindowPlacement) : Rect :=
  if p.fullscreen then clampFrame c.devicePixelRatio p.frame viewSize none
  else if p.maximized then c.maximizedFrame p.monitorId viewSize
  else clampFrame c.devicePixelRatio p.frame viewSize none

def syncSnapshot (viewSize : Size) (snapshotSequence : Int) (l : SyncState) (window : DenialWindow)
    (existing : DesktopWindowPlacement) : SyncState × DesktopWindowPlacement :=
  if snapshotSequence ≤ (l.nativeSequences.get? window.objectId).getD 0 then (l, existing)
  else
    let (current, acknowledged) :=
      adoptSnapshot viewSize (l.pendingNativeFrames.get? window.objectId) existing window
    let l := { l with
      nativeSequences := l.nativeSequences.set window.objectId snapshotSequence
      pendingNativeFrames :=
        if acknowledged then l.pendingNativeFrames.erase window.objectId else l.pendingNativeFrames }
    if current = existing then (l, current)
    else ({ l with placements := l.placements.set window.objectId current, changed := true }, current)

/-- The body of the loop of `syncWindows`. -/
def syncWindow (viewSize : Size) (snapshotSequence : Int) (viewMetricsChanged : Bool) (l : SyncState)
    (window : DenialWindow) : SyncState :=
  match l.placements.get? window.objectId with
  | none =>
    match window.geometry with
    | none => l
    | some nativeGeometry =>
      { l with
        placements := l.placements.set window.objectId
          { frame := initialFrame nativeGeometry window.serverSideDecorated
            z := l.nextZ
            monitorId := window.monitorId
            workspaceId := window.workspaceId
            minimized := window.minimized
            serverSideDecorated := window.serverSideDecorated }
        nextZ := l.nextZ + 1
        nativeSequences := l.nativeSequences.set window.objectId snapshotSequence
        changed := true }
  | some existing =>
    let (l, current) := syncSnapshot viewSize snapshotSequence l window existing
    if !viewMetricsChanged then l
    else
      let frame := c.metricsFrame viewSize current
      if frame = current.frame then l
      else
        { l with
          pendingNativeFrames := l.pendingNativeFrames.set window.objectId frame
          placements := l.placements.set window.objectId { current with frame := frame }
          changed := true }

/-- The overview over the placements that a snapshot leaves: arranged anew, dragged previews staying where they are. -/
def syncOverview (viewSize : Size) (placements : LinkedMap Int DesktopWindowPlacement) (changed : Bool) :
    Option DesktopOverviewState :=
  c.state.overview.bind fun overview =>
    if !changed then some overview
    else if c.state.viewSize ≠ .zero ∧ c.state.viewSize ≠ viewSize then none
    else
      let items := placements.entries.filterMap fun (objectId, p) =>
        if overview.frames.contains objectId then some ⟨objectId, p.frame, p.z⟩ else none
      let frames := placements.entries.foldl (fun (frames : LinkedMap Int Rect) (objectId, p) =>
        match overview.frames.get? objectId with
        | some frame => if p.dragging && frames.contains objectId then frames.set objectId frame else frames
        | none => frames) (arrange items overview.bounds)
      if frames.isEmpty then none else some { overview with frames := frames }

def releaseDrag (objectId : Int) (p : DesktopWindowPlacement) : DesktopWindowPlacement :=
  if p.dragging then
    { p with z := ((c.overviewDragOrigins.get? objectId).map Prod.snd).getD p.z, dragging := false }
  else p

def finishDrags (placements : LinkedMap Int DesktopWindowPlacement) : DesktopOverviewDragOffsets :=
  placements.entries.foldl (fun offsets (objectId, p) => if p.dragging then offsets.finish objectId else offsets)
    c.overviewDragOffsets

def isActive (userWindows : List DenialWindow) (objectId : Int) : Bool :=
  userWindows.any fun window => window.objectId = objectId

/-- Nothing is remembered of windows that are gone. -/
def retainActive (userWindows : List DenialWindow) : DesktopWorkspaceController :=
  { c with
    moveRemainders := c.moveRemainders.filter fun objectId _ => isActive userWindows objectId
    pendingNativeFrames := c.pendingNativeFrames.filter fun objectId _ => isActive userWindows objectId
    nativeSequences := c.nativeSequences.filter fun objectId _ => isActive userWindows objectId }

/-- The loop of `syncWindows`, from the placements of the windows that are still there. -/
def syncLoop (userWindows : List DenialWindow) (viewSize : Size) (snapshotSequence : Int) (viewMetricsChanged : Bool) :
    SyncState :=
  let kept := c.state.placements.filter fun objectId _ => isActive userWindows objectId
  userWindows.foldl (c.syncWindow viewSize snapshotSequence viewMetricsChanged)
    { placements := kept
      nextZ := c.state.nextZ
      changed := viewMetricsChanged || kept.entries.length ≠ c.state.placements.entries.length
      nativeSequences := c.nativeSequences
      pendingNativeFrames := c.pendingNativeFrames }

/-- What `syncWindows` makes of the outcome of its loop. -/
def commitSync (viewSize : Size) (l : SyncState) : DesktopWorkspaceController :=
  let c := { c with nativeSequences := l.nativeSequences, pendingNativeFrames := l.pendingNativeFrames }
  if !l.changed then c
  else
    let overview := c.syncOverview arrange viewSize l.placements l.changed
    let state := { c.state with
      nextZ := l.nextZ
      viewSize := viewSize
      overview := overview
      inputLayoutRevision := c.state.inputLayoutRevision + 1 }
    if c.state.overview.isSome && overview.isNone then
      { c with
        state := { state with placements := l.placements.mapValues c.releaseDrag }
        overviewDragOffsets := c.finishDrags l.placements
        overviewDragOrigins := .empty }
    else { c with state := { state with placements := l.placements } }

/-- `syncWindows` once the arguments are known to be new. -/
def syncUserWindows (userWindows : List DenialWindow) (viewSize : Size) (snapshotSequence : Int)
    (viewMetricsChanged : Bool) : DesktopWorkspaceController :=
  let c := c.retainActive userWindows
  c.commitSync arrange viewSize (c.syncLoop userWindows viewSize snapshotSequence viewMetricsChanged)

def syncWindows (list : WindowList) (viewSize : Size) (devicePixelRatio : F64) (snapshotSequence : Int) :
    DesktopWorkspaceController :=
  if viewSize.width ≤ 0 ∨ viewSize.height ≤ 0 then c
  else
    let nextPixelRatio := usablePixelRatio devicePixelRatio
    let pixelRatioChanged : Bool := nextPixelRatio ≠ c.devicePixelRatio
    if c.lastSyncedWindows = some list.identity ∧ snapshotSequence = c.lastSyncedSnapshotSequence ∧
        !pixelRatioChanged ∧ c.state.viewSize = viewSize then c
    else
      let viewMetricsChanged := pixelRatioChanged || c.state.viewSize ≠ viewSize
      let c := { c with
        lastSyncedWindows := some list.identity
        lastSyncedSnapshotSequence := snapshotSequence
        devicePixelRatio := nextPixelRatio
        moveRemainders := if pixelRatioChanged then .empty else c.moveRemainders }
      c.syncUserWindows arrange (list.windows.filter (·.isUserApp)) viewSize snapshotSequence viewMetricsChanged

end DesktopWorkspaceController

end Deniald.Desktop
