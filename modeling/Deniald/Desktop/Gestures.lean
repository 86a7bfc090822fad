/-
The workspace controller's methods for activation, the overview, moves, native placements and window
states (desktop_workspace_controller.dart), and the machine whose steps are all of its methods.
-/
import Deniald.Desktop.Controller
import Deniald.Lib.Run

namespace Deniald.Desktop

open Deniald.Lib

namespace DesktopWorkspaceController

variable (arrange : Arrange) (c : DesktopWorkspaceController)

/-! ## Activation and overview -/

def activate (objectId : Int) : DesktopWorkspaceController :=
  match c.state.placements.get? objectId with
  | none => c
  | some placement =>
    if !c.state.overviewActive && !placement.minimized && placement.z = c.state.topVisibleZ then c
    else
      let raised : DesktopWindowPlacement :=
        { placement with
          z := c.state.nextZ
          minimized := false
          workspaceId :=
            if placement.minimized then c.state.activeWorkspaceFor placement.monitorId else placement.workspaceId }
      { c with state := { c.state.place objectId raised with nextZ := c.state.nextZ + 1, overview := none } }

def closeOverview : DesktopWorkspaceController :=
  if !c.state.overviewActive then c
  else
    { c with
      state := { c.state with
        placements := c.state.placements.mapValues c.releaseDrag
        overview := none
        inputLayoutRevision := c.state.inputLayoutRevision + 1 }
      overviewDragOffsets := c.finishDrags c.state.placements
      overviewDragOrigins := .empty }

def toggleOverview (monitorId : Int) (bounds backgroundBounds : Rect) (objectIds : Option (List Int)) :
    DesktopWorkspaceController :=
  if c.state.overviewActive then c.closeOverview
  else if bounds.width ≤ 0 ∨ bounds.height ≤ 0 then c
  else
    let c := { c with moveRemainders := .empty, overviewDragOrigins := .empty }
    let settled := c.state.placements.mapValues fun _ p => { p with dragging := false }
    let items := settled.entries.filterMap fun (objectId, p) =>
      if objectIds.elim (bounds.contains p.frame.center) (fun ids => ids.contains objectId) then
        some ⟨objectId, p.frame, p.z⟩
      else none
    let frames := arrange items bounds
    if frames.isEmpty then c
    else
      { c with state := { c.state with
          placements := settled
          panel := .none
          overview := some ⟨monitorId, bounds, backgroundBounds, frames⟩
          inputLayoutRevision := c.state.inputLayoutRevision + 1 } }

def beginOverviewDrag (objectId : Int) : DesktopWorkspaceController :=
  match c.state.overview, c.state.placements.get? objectId with
  | some overview, some placement =>
    match overview.frames.get? objectId with
    | none => c
    | some previewFrame =>
      if placement.dragging then c
      else
        { c with
          overviewDragOrigins := c.overviewDragOrigins.set objectId (previewFrame, placement.z)
          overviewDragOffsets := c.overviewDragOffsets.start objectId
          state := { c.state.place objectId { placement with z := c.state.nextZ, dragging := true } with
            nextZ := c.state.nextZ + 1 } }
  | _, _ => c

def moveOverviewBy (objectId : Int) (delta : Offset) : DesktopWorkspaceController :=
  match c.state.overview, c.state.placements.get? objectId with
  | some overview, some placement =>
    match overview.frames.get? objectId with
    | none => c
    | some committedFrame =>
      if !placement.dragging ∨ delta = .zero then c
      else
        let liveFrame := committedFrame.shift (c.overviewDragOffsets.translationOf objectId)
        let nextFrame := clampFrame c.devicePixelRatio (liveFrame.shift delta) c.state.viewSize none
        { c with
          overviewDragOffsets := c.overviewDragOffsets.update objectId (nextFrame.topLeft.sub committedFrame.topLeft) }
  | _, _ => c

/-- The end of a drag that finds no drag to end. -/
def forgetDrag (objectId : Int) : DesktopWorkspaceController :=
  { c with
    overviewDragOrigins := c.overviewDragOrigins.erase objectId
    overviewDragOffsets := c.overviewDragOffsets.finish objectId }

/-- `_restoreOverviewDrag`. -/
def restoreOverviewDrag (objectId : Int) (placement : DesktopWindowPlacement) (overview : DesktopOverviewState) :
    DesktopWorkspaceController :=
  let origin := c.overviewDragOrigins.get? objectId
  let frames := origin.elim overview.frames fun (frame, _) => overview.frames.set objectId frame
  let restored := { placement with z := (origin.map Prod.snd).getD placement.z, dragging := false }
  { c.forgetDrag objectId with
    state := { c.state.place objectId restored with overview := some { overview with frames := frames } } }

def cancelOverviewDrag (objectId : Int) : DesktopWorkspaceController :=
  match c.state.overview, c.state.placements.get? objectId with
  | some overview, some placement =>
    if !placement.dragging then c.forgetDrag objectId else c.restoreOverviewDrag objectId placement overview
  | _, _ => c.forgetDrag objectId

def transferred (overview : DesktopOverviewState) (placement : DesktopWindowPlacement) (previewFrame : Rect)
    (outputBounds workAreas : LinkedMap Int Rect) (targetMonitorId : Int) (targetOutput : Rect) :
    DesktopWindowPlacement :=
  let targetWorkArea := (workAreas.get? targetMonitorId).getD targetOutput
  let sourceOutput := (outputBounds.get? placement.monitorId).getD overview.backgroundBounds
  let outputDelta := targetOutput.topLeft.sub sourceOutput.topLeft
  let shifted (frame : Rect) : Rect :=
    clampFrame c.devicePixelRatio (frame.shift outputDelta) c.state.viewSize (some targetWorkArea)
  { placement with
    frame :=
      if placement.fullscreen then targetOutput
      else if placement.maximized then targetWorkArea
      else
        clampFrame c.devicePixelRatio
          (.fromCenter previewFrame.center placement.frame.width placement.frame.height) c.state.viewSize
          (some targetWorkArea)
    monitorId := targetMonitorId
    minimized := false
    dragging := false
    restoreFrame := placement.restoreFrame.map shifted
    fullscreenRestoreFrame :=
      if placement.fullscreen ∧ placement.maximized then some targetWorkArea
      else placement.fullscreenRestoreFrame.map shifted }

def endOverviewDrag (objectId : Int) (outputBounds workAreas : LinkedMap Int Rect) :
    DesktopWorkspaceController × Bool :=
  match c.state.overview, c.state.placements.get? objectId with
  | some overview, some placement =>
    match overview.frames.get? objectId with
    | none => (c.forgetDrag objectId, false)
    | some committedFrame =>
      if !placement.dragging then (c.forgetDrag objectId, false)
      else
        let previewFrame := committedFrame.shift (c.overviewDragOffsets.translationOf objectId)
        match outputBounds.entries.find? fun (_, bounds) => bounds.contains previewFrame.center with
        | none => (c.restoreOverviewDrag objectId placement overview, false)
        | some (targetMonitorId, targetOutput) =>
          if targetOutput.isEmpty then (c.restoreOverviewDrag objectId placement overview, false)
          else
            let moved := c.transferred overview placement previewFrame outputBounds workAreas targetMonitorId targetOutput
            ({ c with
                pendingNativeFrames := c.pendingNativeFrames.set objectId moved.frame
                overviewDragOffsets := c.overviewDragOrigins.keys.foldl (fun offsets id => offsets.finish id)
                  c.overviewDragOffsets
                overviewDragOrigins := .empty
                state := { c.state.place objectId moved with overview := none } }, true)
  | _, _ => (c.forgetDrag objectId, false)

/-! ## Moves -/

/-- A window in its floating state, which a pointer may move. -/
def movable (placement : DesktopWindowPlacement) : Bool :=
  !placement.maximized && !placement.fullscreen && !placement.minimized

def moveBy (objectId : Int) (delta : Offset) : DesktopWorkspaceController :=
  if c.state.overviewActive then c
  else
    match (c.state.placements.get? objectId).filter movable with
    | none => c
    | some placement =>
      let pendingDelta := ((c.moveRemainders.get? objectId).getD .zero).add delta
      let snappedDelta := snapOffset c.devicePixelRatio pendingDelta
      if snappedDelta = .zero then { c with moveRemainders := c.moveRemainders.set objectId pendingDelta }
      else
        let frame := clampFrame c.devicePixelRatio (placement.frame.shift snappedDelta) c.state.viewSize none
        let appliedDelta := frame.topLeft.sub placement.frame.topLeft
        let remainder := pendingDelta.sub appliedDelta
        -- the rest of a delta that the canvas' edge stopped is dropped
        let remainder : Offset :=
          ⟨if 1 / 1000000 < |appliedDelta.dx - snappedDelta.dx| then 0 else remainder.dx,
            if 1 / 1000000 < |appliedDelta.dy - snappedDelta.dy| then 0 else remainder.dy⟩
        let c := { c with moveRemainders := c.moveRemainders.set objectId remainder }
        if frame = placement.frame then c
        else
          { c with
            pendingNativeFrames := c.pendingNativeFrames.set objectId frame
            state := c.state.place objectId { placement with frame := frame } }

def beginMove (objectId : Int) : DesktopWorkspaceController :=
  if c.state.overviewActive then c
  else
    match (c.state.placements.get? objectId).filter movable with
    | none => c
    | some placement =>
      { c with
        moveRemainders := c.moveRemainders.set objectId .zero
        state := c.state.place objectId { placement with dragging := true } }

def endMove (objectId : Int) : DesktopWorkspaceController :=
  if c.state.overviewActive then c
  else
    let c := { c with moveRemainders := c.moveRemainders.erase objectId }
    match c.state.placements.get? objectId with
    | none => c
    | some placement =>
      if !placement.dragging then c else { c with state := c.state.place objectId { placement with dragging := false } }

/-! ## Native placements -/

def layoutPreview (event : DenialWindowPlacementEvent) : Bool := event.change = .layoutPreview

def withFlags (placement : DesktopWindowPlacement) (event : DenialWindowPlacementEvent) : DesktopWindowPlacement :=
  { placement with
    dragging := if layoutPreview event then placement.dragging else event.phase ≠ .end
    layoutPreviewing := if layoutPreview event then event.phase ≠ .end else placement.layoutPreviewing }

/-- The placement that a fresh event makes, unless it is ignored. -/
def nativePlacement (viewSize : Size) (placement : DesktopWindowPlacement) (event : DenialWindowPlacementEvent) :
    Option DesktopWindowPlacement :=
  let monitorChanged : Bool := event.monitorId ≠ placement.monitorId
  if placement.fullscreen then
    if !monitorChanged && !placement.dragging then
      some { placement with monitorId := event.monitorId, workspaceId := event.workspaceId }
    else
      let fullscreenFrame := event.contentRect.intersect (.ofSize viewSize)
      if fullscreenFrame.isEmpty then none
      else
        let delta := fullscreenFrame.topLeft.sub placement.frame.topLeft
        some { withFlags placement event with
          frame := fullscreenFrame
          monitorId := event.monitorId
          workspaceId := event.workspaceId
          fullscreenRestoreFrame :=
            if monitorChanged then placement.fullscreenRestoreFrame.map fun frame => frame.shift delta
            else placement.fullscreenRestoreFrame }
  else
    some { withFlags placement event with
      frame := initialFrame event.contentRect placement.serverSideDecorated
      monitorId := event.monitorId
      workspaceId := event.workspaceId
      minimized := false
      maximized := false
      fullscreen := false
      restoreFrame := none
      fullscreenRestoreFrame := none }

/-- The part of `applyNativePlacement` behind the raise. -/
def placeNative (objectId : Int) (event : DenialWindowPlacementEvent) : DesktopWorkspaceController × Bool :=
  match c.state.placements.get? objectId with
  | none => (c, false)
  | some placement =>
    if event.sequence ≤ (c.nativeSequences.get? objectId).getD 0 then (c, false)
    else
      let c := { c with pendingNativeFrames := c.pendingNativeFrames.erase objectId }
      match nativePlacement c.state.viewSize placement event with
      | none => (c, false)
      | some placed =>
        ({ c with
            nativeSequences := c.nativeSequences.set objectId event.sequence
            state := c.state.place objectId placed }, true)

def applyNativePlacement (objectId : Int) (event : DenialWindowPlacementEvent) : DesktopWorkspaceController × Bool :=
  if c.state.overviewActive then (c, false)
  else
    let c := if event.phase = .begin && !layoutPreview event then c.activate objectId else c
    c.placeNative objectId event

/-! ## Window states -/

def minimize (objectId : Int) : DesktopWorkspaceController :=
  if c.state.overviewActive then c
  else
    match c.state.placements.get? objectId with
    | none => c
    | some placement =>
      if placement.minimized then c
      else { c with state := c.state.place objectId { placement with minimized := true, dragging := false } }

def toggleMinimized (objectId : Int) : DesktopWorkspaceController :=
  if c.state.overviewActive then c
  else
    match c.state.placements.get? objectId with
    | none => c
    | some placement =>
      { c with state := c.state.place objectId { placement with minimized := !placement.minimized } }

/-- A placement with a frame of the shell's own, which the compositor has yet to acknowledge. -/
def authored (objectId : Int) (placement : DesktopWindowPlacement) : DesktopWorkspaceController :=
  { c with
    moveRemainders := c.moveRemainders.erase objectId
    pendingNativeFrames := c.pendingNativeFrames.set objectId placement.frame
    state := c.state.place objectId placement }

def toggleMaximized (objectId : Int) (bounds : Option Rect) : DesktopWorkspaceController :=
  if c.state.overviewActive then c
  else
    match c.state.placements.get? objectId with
    | none => c
    | some placement =>
      if placement.fullscreen then c
      else if placement.maximized then
        c.authored objectId { placement with
          frame := clampFrame c.devicePixelRatio (placement.restoreFrame.getD placement.frame) c.state.viewSize none
          maximized := false
          dragging := false
          restoreFrame := none }
      else
        let requested := (bounds.map fun bounds => bounds.intersect (.ofSize c.state.viewSize)).filter fun requested =>
          !requested.isEmpty
        c.authored objectId { placement with
          frame := requested.getD (c.maximizedFrame placement.monitorId c.state.viewSize)
          maximized := true
          minimized := false
          dragging := false
          restoreFrame := some placement.frame }

def maximize (objectId : Int) (bounds : Option Rect) : DesktopWorkspaceController :=
  if c.state.overviewActive then c
  else
    match c.state.placements.get? objectId with
    | none => c
    | some placement =>
      if placement.maximized || placement.fullscreen then c else c.toggleMaximized objectId bounds

/-- `_exitFullscreen`. -/
def exitFullscreen (objectId : Int) (placement : DesktopWindowPlacement) : DesktopWorkspaceController :=
  c.authored objectId { placement with
    frame := clampFrame c.devicePixelRatio (placement.fullscreenRestoreFrame.getD placement.frame) c.state.viewSize none
    fullscreen := false
    dragging := false
    fullscreenRestoreFrame := none }

def toggleFullscreen (objectId : Int) (bounds : Rect) : DesktopWorkspaceController :=
  if c.state.overviewActive then c
  else
    match c.state.placements.get? objectId with
    | none => c
    | some placement =>
      if placement.fullscreen then c.exitFullscreen objectId placement
      else
        let fullscreenFrame := bounds.intersect (.ofSize c.state.viewSize)
        if fullscreenFrame.isEmpty then c
        else
          c.authored objectId { placement with
            frame := fullscreenFrame
            minimized := false
            fullscreen := true
            dragging := false
            fullscreenRestoreFrame := some placement.frame }

def restore (objectId : Int) : DesktopWorkspaceController :=
  if c.state.overviewActive then c
  else
    match c.state.placements.get? objectId with
    | none => c
    | some placement =>
      if placement.minimized then c.activate objectId
      else if placement.fullscreen then c.exitFullscreen objectId placement
      else if placement.maximized then c.toggleMaximized objectId none
      else c

def showPanel (panel : DesktopPanel) : DesktopWorkspaceController :=
  if c.state.overviewActive ∨ c.state.panel = panel then c else { c with state := { c.state with panel := panel } }

end DesktopWorkspaceController

/-! ## Calls -/

/-- A call of one of the controller's methods. -/
inductive WorkspaceCall where
  | syncWorkspaceConfiguration (enabled : Bool) (count : Int) (monitorIds : List Int)
  | applyWorkspaceChanged (monitorId workspaceId : Int)
  | finishWorkspaceTransition (monitorId : Int) (serial : Nat)
  | syncWorkAreas (workAreas : LinkedMap Int Rect)
  | syncWindows (list : WindowList) (viewSize : Size) (devicePixelRatio : F64) (snapshotSequence : Int)
  | activate (objectId : Int)
  | toggleOverview (monitorId : Int) (bounds backgroundBounds : Rect) (objectIds : Option (List Int))
  | closeOverview
  | beginOverviewDrag (objectId : Int)
  | moveOverviewBy (objectId : Int) (delta : Offset)
  | endOverviewDrag (objectId : Int) (outputBounds workAreas : LinkedMap Int Rect)
  | cancelOverviewDrag (objectId : Int)
  | moveBy (objectId : Int) (delta : Offset)
  | beginMove (objectId : Int)
  | endMove (objectId : Int)
  | applyNativePlacement (objectId : Int) (event : DenialWindowPlacementEvent)
  | minimize (objectId : Int)
  | maximize (objectId : Int) (bounds : Option Rect)
  | restore (objectId : Int)
  | toggleMinimized (objectId : Int)
  | toggleMaximized (objectId : Int) (bounds : Option Rect)
  | toggleFullscreen (objectId : Int) (bounds : Rect)
  | showPanel (panel : DesktopPanel)

def DesktopWorkspaceController.call (arrange : Arrange) (c : DesktopWorkspaceController) :
    WorkspaceCall → DesktopWorkspaceController
  | .syncWorkspaceConfiguration enabled count monitorIds => c.syncWorkspaceConfiguration enabled count monitorIds
  | .applyWorkspaceChanged monitorId workspaceId => c.applyWorkspaceChanged monitorId workspaceId
  | .finishWorkspaceTransition monitorId serial => c.finishWorkspaceTransition monitorId serial
  | .syncWorkAreas workAreas => c.syncWorkAreas workAreas
  | .syncWindows list viewSize devicePixelRatio snapshotSequence =>
    c.syncWindows arrange list viewSize devicePixelRatio snapshotSequence
  | .activate objectId => c.activate objectId
  | .toggleOverview monitorId bounds backgroundBounds objectIds =>
    c.toggleOverview arrange monitorId bounds backgroundBounds objectIds
  | .closeOverview => c.closeOverview
  | .beginOverviewDrag objectId => c.beginOverviewDrag objectId
  | .moveOverviewBy objectId delta => c.moveOverviewBy objectId delta
  | .endOverviewDrag objectId outputBounds workAreas => (c.endOverviewDrag objectId outputBounds workAreas).1
  | .cancelOverviewDrag objectId => c.cancelOverviewDrag objectId
  | .moveBy objectId delta => c.moveBy objectId delta
  | .beginMove objectId => c.beginMove objectId
  | .endMove objectId => c.endMove objectId
  | .applyNativePlacement objectId event => (c.applyNativePlacement objectId event).1
  | .minimize objectId => c.minimize objectId
  | .maximize objectId bounds => c.maximize objectId bounds
  | .restore objectId => c.restore objectId
  | .toggleMinimized objectId => c.toggleMinimized objectId
  | .toggleMaximized objectId bounds => c.toggleMaximized objectId bounds
  | .toggleFullscreen objectId bounds => c.toggleFullscreen objectId bounds
  | .showPanel panel => c.showPanel panel

/-- The calls that are about everything but the windows. -/
def WorkspaceCall.aside : WorkspaceCall → Bool
  | .syncWorkspaceConfiguration _ _ _ | .applyWorkspaceChanged _ _ | .finishWorkspaceTransition _ _
  | .moveOverviewBy _ _ | .showPanel _ => true
  | _ => false

/-- The window of a call that is about one, outside of the overview. -/
def WorkspaceCall.window : WorkspaceCall → Option Int
  | .activate objectId | .moveBy objectId _ | .endMove objectId | .minimize objectId | .maximize objectId _
  | .restore objectId | .toggleMinimized objectId | .toggleMaximized objectId _ | .toggleFullscreen objectId _ =>
    some objectId
  | _ => none

/-! ## Calls about everything but the windows -/

/-- A call that leaves the windows as they are, and the overview too unless it closes it. -/
structure DesktopWorkspaceController.KeepsWindows (c c' : DesktopWorkspaceController) : Prop where
  placements : c'.state.placements = c.state.placements
  nextZ : c'.state.nextZ = c.state.nextZ
  viewSize : c'.state.viewSize = c.state.viewSize
  overview : c'.state.overview = c.state.overview ∨ c'.state.overview = none
  origins : c'.overviewDragOrigins = c.overviewDragOrigins
  sequences : c'.nativeSequences = c.nativeSequences
  pending : c'.pendingNativeFrames = c.pendingNativeFrames

namespace DesktopWorkspaceController

variable (c : DesktopWorkspaceController)

theorem KeepsWindows.refl : c.KeepsWindows c := ⟨rfl, rfl, rfl, .inl rfl, rfl, rfl, rfl⟩

theorem syncWorkspaceConfiguration_keeps (e : Bool) (cnt : Int) (mons : List Int) :
    c.KeepsWindows (c.syncWorkspaceConfiguration e cnt mons) := by
  unfold syncWorkspaceConfiguration
  extract_lets safeCount active
  split
  · exact .refl c
  · exact ⟨rfl, rfl, rfl, .inr rfl, rfl, rfl, rfl⟩

theorem applyWorkspaceChanged_keeps (monitorId wsp : Int) : c.KeepsWindows (c.applyWorkspaceChanged monitorId wsp) := by
  unfold applyWorkspaceChanged; split
  · exact .refl c
  · exact ⟨rfl, rfl, rfl, .inr rfl, rfl, rfl, rfl⟩

theorem finishWorkspaceTransition_keeps (monitorId : Int) (ser : Nat) :
    c.KeepsWindows (c.finishWorkspaceTransition monitorId ser) := by
  unfold finishWorkspaceTransition; split
  · exact .refl c
  split
  · exact .refl c
  · exact ⟨rfl, rfl, rfl, .inl rfl, rfl, rfl, rfl⟩

theorem moveOverviewBy_keeps (objectId : Int) (d : Offset) : c.KeepsWindows (c.moveOverviewBy objectId d) := by
  unfold moveOverviewBy; split
  · split
    · exact .refl c
    split
    · exact .refl c
    · exact ⟨rfl, rfl, rfl, .inl rfl, rfl, rfl, rfl⟩
  · exact .refl c

theorem showPanel_keeps (panel : DesktopPanel) : c.KeepsWindows (c.showPanel panel) := by
  unfold showPanel; split
  · exact .refl c
  · exact ⟨rfl, rfl, rfl, .inl rfl, rfl, rfl, rfl⟩

variable {c} {arrange : Arrange} {call : WorkspaceCall} {objectId : Int} {placement : DesktopWindowPlacement}

theorem call_keeps (h : call.aside = true) : c.KeepsWindows (c.call arrange call) := by
  cases call with
  | syncWorkspaceConfiguration e count mons =>
    exact c.syncWorkspaceConfiguration_keeps e count mons
  | applyWorkspaceChanged monitorId wsp => exact c.applyWorkspaceChanged_keeps monitorId wsp
  | finishWorkspaceTransition monitorId ser => exact c.finishWorkspaceTransition_keeps monitorId ser
  | moveOverviewBy objectId d => exact c.moveOverviewBy_keeps objectId d
  | showPanel panel => exact c.showPanel_keeps panel
  | _ => cases h

/-! ## Calls about one window outside of the overview -/

/-- A placement that keeps its place in the stack, and is not marked anew. -/
structure Settles (p p' : DesktopWindowPlacement) : Prop where
  z : p'.z = p.z
  dragging : p'.dragging = p.dragging ∨ p'.dragging = false
  layoutPreviewing : p'.layoutPreviewing = p.layoutPreviewing

/-- What a call on one window comes to: no window changes, the window is raised, it is placed anew with the frame it
has, or it gets a frame of the shell's own. -/
inductive WindowStep (c : DesktopWorkspaceController) (objectId : Int) : DesktopWorkspaceController → Prop where
  | rest (remainders : LinkedMap Int Offset) : WindowStep c objectId { c with moveRemainders := remainders }
  | raise : WindowStep c objectId (c.activate objectId)
  | place {p p' : DesktopWindowPlacement} (remainders : LinkedMap Int Offset)
      (hp : c.state.placements.get? objectId = some p) (hsettles : Settles p p')
      (hframe : (p'.frame, p'.maximized, p'.fullscreen) = (p.frame, p.maximized, p.fullscreen)) :
      WindowStep c objectId { c with moveRemainders := remainders, state := c.state.place objectId p' }
  | author {p p' : DesktopWindowPlacement} (remainders : LinkedMap Int Offset) (frame : Rect)
      (hp : c.state.placements.get? objectId = some p) (hsettles : Settles p p')
      (hframe : (p'.frame, p'.maximized, p'.fullscreen) ≠ (p.frame, p.maximized, p.fullscreen)) :
      WindowStep c objectId
        { c with
          moveRemainders := remainders
          pendingNativeFrames := c.pendingNativeFrames.set objectId frame
          state := c.state.place objectId p' }

theorem moveBy_step (objectId : Int) (d : Offset) : c.WindowStep objectId (c.moveBy objectId d) := by
  unfold moveBy; split
  · exact .rest _
  split
  · exact .rest _
  rename_i placement hp
  have hp := (Option.filter_eq_some_iff.1 hp).1; dsimp only
  split
  · exact .rest _
  split
  · exact .rest _
  · rename_i hframe
    exact .author _ _ hp ⟨rfl, .inl rfl, rfl⟩ fun h => hframe (Prod.mk.inj h).1

theorem endMove_step (objectId : Int) : c.WindowStep objectId (c.endMove objectId) := by
  unfold endMove; split
  · exact .rest _
  dsimp only; split
  · exact .rest _
  rename_i placement hp; split
  · exact .rest _
  · exact .place _ hp ⟨rfl, .inr rfl, rfl⟩ rfl

theorem minimize_step (objectId : Int) : c.WindowStep objectId (c.minimize objectId) := by
  unfold minimize; split
  · exact .rest _
  split
  · exact .rest _
  rename_i placement hp; split
  · exact .rest _
  · exact .place _ hp ⟨rfl, .inr rfl, rfl⟩ rfl

theorem toggleMinimized_step (objectId : Int) : c.WindowStep objectId (c.toggleMinimized objectId) := by
  unfold toggleMinimized; split
  · exact .rest _
  split
  · exact .rest _
  · rename_i placement hp; exact .place _ hp ⟨rfl, .inl rfl, rfl⟩ rfl

theorem toggleMaximized_step (objectId : Int) (bnds : Option Rect) :
    c.WindowStep objectId (c.toggleMaximized objectId bnds) := by
  unfold toggleMaximized; split
  · exact .rest _
  split
  · exact .rest _
  rename_i placement hp; split
  · exact .rest _
  split
  · rename_i hm
    exact .author _ _ hp ⟨rfl, .inr rfl, rfl⟩ (by simp [hm])
  · rename_i hm
    exact .author _ _ hp ⟨rfl, .inr rfl, rfl⟩ (by simp [hm])

theorem maximize_step (objectId : Int) (bnds : Option Rect) : c.WindowStep objectId (c.maximize objectId bnds) := by
  unfold maximize; split
  · exact .rest _
  split
  · exact .rest _
  split
  · exact .rest _
  · exact toggleMaximized_step objectId bnds

theorem exitFullscreen_step (hp : c.state.placements.get? objectId = some placement)
    (hf : placement.fullscreen = true) : c.WindowStep objectId (c.exitFullscreen objectId placement) :=
  .author _ _ hp ⟨rfl, .inr rfl, rfl⟩ (by simp [hf])

theorem toggleFullscreen_step (objectId : Int) (bnds : Rect) :
    c.WindowStep objectId (c.toggleFullscreen objectId bnds) := by
  unfold toggleFullscreen; split
  · exact .rest _
  split
  · exact .rest _
  rename_i placement hp; split
  · rename_i hf; exact exitFullscreen_step hp hf
  rename_i hf; dsimp only
  split
  · exact .rest _
  · exact .author _ _ hp ⟨rfl, .inr rfl, rfl⟩ (by simp [hf])

theorem restore_step (objectId : Int) : c.WindowStep objectId (c.restore objectId) := by
  unfold restore; split
  · exact .rest _
  split
  · exact .rest _
  rename_i placement hp; split
  · exact .raise
  split
  · rename_i hf; exact exitFullscreen_step hp hf
  split
  · exact toggleMaximized_step objectId none
  · exact .rest _

theorem call_step (h : call.window = some objectId) : c.WindowStep objectId (c.call arrange call) := by
  cases call with
  | activate id => cases h; exact .raise
  | moveBy id d => cases h; exact moveBy_step _ d
  | endMove id => cases h; exact endMove_step _
  | minimize id => cases h; exact minimize_step _
  | maximize id bnds => cases h; exact maximize_step _ bnds
  | restore id => cases h; exact restore_step _
  | toggleMinimized id => cases h; exact toggleMinimized_step _
  | toggleMaximized id bnds => cases h; exact toggleMaximized_step _ bnds
  | toggleFullscreen id bnds => cases h; exact toggleFullscreen_step _ bnds
  | _ => cases h

end DesktopWorkspaceController

end Deniald.Desktop
