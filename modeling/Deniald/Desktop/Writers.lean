/-
Who wrote the frame of a window last, the shell or the compositor. The calls of the workspace controller write
frames of the shell's own, except for native placement events and for snapshots whose geometry is taken; the
frame that is pending for a window tells whether the shell was the last to write its frame.
-/
import Deniald.Desktop.Stacking

namespace Deniald.Desktop

open Deniald.Lib
open LinkedMap

inductive Author where
  | shell
  | compositor
  deriving DecidableEq

namespace DesktopWorkspaceController

variable (arrange : Arrange) (c : DesktopWorkspaceController)

/-! ## Writes -/

def framesOf (placements : LinkedMap Int DesktopWindowPlacement) (k : Int) : Option (Rect × Bool × Bool) :=
  (placements.get? k).map fun p => (p.frame, p.maximized, p.fullscreen)

/-- The windows that a call of the shell places otherwise. -/
def shellWrites (c' : DesktopWorkspaceController) : List (Int × Author) :=
  (c.state.placements.keys.filter fun k => framesOf c'.state.placements k ≠ framesOf c.state.placements k).map fun k => (k, .shell)

def takesEvent (objectId : Int) (event : DenialWindowPlacementEvent) : Bool :=
  !c.state.overviewActive && (c.state.placements.get? objectId).isSome &&
    (c.nativeSequences.get? objectId).getD 0 < event.sequence

/-- A snapshot's geometry for a window is taken unless the window is guarded or another frame is pending for it. -/
def takesGeometry (viewSize : Size) (pendingFrame : Option Rect) (existing : DesktopWindowPlacement)
    (window : DenialWindow) : Bool :=
  !existing.dragging && !existing.layoutPreviewing && window.geometry.isSome &&
    (pendingFrame.isNone || (adoptSnapshot viewSize pendingFrame existing window).2)

/-- The frames that one window of a snapshot writes: its geometry, and then what new view metrics make of it. -/
def windowWrites (viewSize : Size) (snapshotSequence : Int) (viewMetricsChanged : Bool) (l : SyncState)
    (window : DenialWindow) : List (Int × Author) :=
  match l.placements.get? window.objectId with
  | none => if window.geometry.isSome then [(window.objectId, .compositor)] else []
  | some existing =>
    let taken := (l.nativeSequences.get? window.objectId).getD 0 < snapshotSequence &&
      takesGeometry viewSize (l.pendingNativeFrames.get? window.objectId) existing window
    let current := (syncSnapshot viewSize snapshotSequence l window existing).2
    (if taken then [(window.objectId, .compositor)] else []) ++
      if viewMetricsChanged && c.metricsFrame viewSize current ≠ current.frame then [(window.objectId, .shell)] else []

def loopWrites (viewSize : Size) (snapshotSequence : Int) (viewMetricsChanged : Bool) :
    SyncState → List DenialWindow → List (Int × Author)
  | _, [] => []
  | l, window :: windows =>
    c.windowWrites viewSize snapshotSequence viewMetricsChanged l window ++
      loopWrites viewSize snapshotSequence viewMetricsChanged
        (c.syncWindow viewSize snapshotSequence viewMetricsChanged l window) windows

/-- The state that the loop of `syncWindows` starts from. -/
def loopStart (userWindows : List DenialWindow) (viewMetricsChanged : Bool) : SyncState :=
  let kept := c.state.placements.filter fun objectId _ => isActive userWindows objectId
  { placements := kept
    nextZ := c.state.nextZ
    changed := viewMetricsChanged || kept.entries.length ≠ c.state.placements.entries.length
    nativeSequences := c.nativeSequences
    pendingNativeFrames := c.pendingNativeFrames }

def syncWrites (list : WindowList) (viewSize : Size) (devicePixelRatio : F64) (snapshotSequence : Int) :
    List (Int × Author) :=
  if viewSize.width ≤ 0 ∨ viewSize.height ≤ 0 then []
  else
    let nextPixelRatio := usablePixelRatio devicePixelRatio
    let pixelRatioChanged : Bool := nextPixelRatio ≠ c.devicePixelRatio
    if c.lastSyncedWindows = some list.identity ∧ snapshotSequence = c.lastSyncedSnapshotSequence ∧
        !pixelRatioChanged ∧ c.state.viewSize = viewSize then []
    else
      let viewMetricsChanged := pixelRatioChanged || c.state.viewSize ≠ viewSize
      let userWindows := list.windows.filter (·.isUserApp)
      let c := { c with
        lastSyncedWindows := some list.identity
        lastSyncedSnapshotSequence := snapshotSequence
        devicePixelRatio := nextPixelRatio
        moveRemainders := if pixelRatioChanged then .empty else c.moveRemainders }
      let c := c.retainActive userWindows
      c.loopWrites viewSize snapshotSequence viewMetricsChanged (c.loopStart userWindows viewMetricsChanged) userWindows

def writes (call : WorkspaceCall) : List (Int × Author) :=
  match call with
  | .applyNativePlacement objectId event => if c.takesEvent objectId event then [(objectId, .compositor)] else []
  | .syncWindows list viewSize devicePixelRatio snapshotSequence =>
    c.syncWrites list viewSize devicePixelRatio snapshotSequence
  | .endOverviewDrag objectId outputBounds workAreas =>
    if (c.endOverviewDrag objectId outputBounds workAreas).2 then [(objectId, .shell)] else []
  | call => c.shellWrites (c.call arrange call)

end DesktopWorkspaceController

/-- The last author of each window's frame. -/
abbrev Writers := Int → Option Author

def Writers.wrote (w : Writers) (writes : List (Int × Author)) : Writers :=
  writes.foldl (fun w write => Function.update w write.1 (some write.2)) w

namespace DesktopWorkspaceController

variable {arrange : Arrange} {c c' : DesktopWorkspaceController} {objectId : Int}

/-! ## Calls that write no frame -/

section

variable {before : LinkedMap Int DesktopWindowPlacement}

theorem framesOf_set {p p' : DesktopWindowPlacement} (hp : before.get? objectId = some p) (hf : p'.frame = p.frame)
    (hm : p'.maximized = p.maximized) (hfu : p'.fullscreen = p.fullscreen) :
    framesOf (before.set objectId p') = framesOf before := by
  funext k; unfold framesOf
  rw [get?_set]; split
  · rename_i hk; subst hk
    rw [hp, Option.map_some, Option.map_some, hf, hm, hfu]
  · rfl

theorem framesOf_mapValues {f : Int → DesktopWindowPlacement → DesktopWindowPlacement}
    (hf : ∀ k p, (f k p).frame = p.frame ∧ (f k p).maximized = p.maximized ∧ (f k p).fullscreen = p.fullscreen) :
    framesOf (before.mapValues f) = framesOf before := by
  funext k; unfold framesOf
  rw [get?_mapValues, Option.map_map]
  congr 1
  funext p
  obtain ⟨hr, hm, hfu⟩ := hf k p
  simp [hr, hm, hfu]

theorem framesOf_ne (k : Int) (hk : k ≠ objectId) (p' : DesktopWindowPlacement) :
    framesOf (before.set objectId p') k = framesOf before k := by
  unfold framesOf; rw [get?_set, if_neg hk]

end

/-- No frame is written, and none becomes pending. -/
structure KeepsFrames (c c' : DesktopWorkspaceController) : Prop where
  frames : framesOf c'.state.placements = framesOf c.state.placements
  pending : c'.pendingNativeFrames = c.pendingNativeFrames

theorem KeepsFrames.refl (c : DesktopWorkspaceController) : KeepsFrames c c := ⟨rfl, rfl⟩

theorem KeepsWindows.keepsFrames (h : c.KeepsWindows c') : KeepsFrames c c' := ⟨by rw [h.placements], h.pending⟩

theorem activate_frames (objectId : Int) : KeepsFrames c (c.activate objectId) := by
  unfold activate; split
  · exact .refl c
  rename_i placement hp; dsimp only; split
  · exact .refl c
  · exact ⟨framesOf_set hp rfl rfl rfl, rfl⟩

theorem releaseDrags_frames (before : LinkedMap Int DesktopWindowPlacement) :
    framesOf (before.mapValues c.releaseDrag) = framesOf before := by
  refine framesOf_mapValues fun k p => ?_; unfold releaseDrag
  split <;> exact ⟨rfl, rfl, rfl⟩

theorem closeOverview_frames : KeepsFrames c c.closeOverview := by
  unfold closeOverview; split
  · exact .refl c
  · exact ⟨releaseDrags_frames _, rfl⟩

theorem toggleOverview_frames (monitorId : Int) (bs bnds : Rect) (objs : Option (List Int)) :
    KeepsFrames c (c.toggleOverview arrange monitorId bs bnds objs) := by
  unfold toggleOverview; split
  · exact closeOverview_frames
  split
  · exact .refl c
  dsimp only; split
  · exact ⟨rfl, rfl⟩
  · exact ⟨framesOf_mapValues fun k p => ⟨rfl, rfl, rfl⟩, rfl⟩

theorem beginOverviewDrag_frames (objectId : Int) : KeepsFrames c (c.beginOverviewDrag objectId) := by
  unfold beginOverviewDrag; split
  · rename_i o placement ho hp; split
    · exact .refl c
    · split
      · exact .refl c
      · exact ⟨framesOf_set hp rfl rfl rfl, rfl⟩
  · exact .refl c

theorem restoreOverviewDrag_frames {placement : DesktopWindowPlacement}
    (hp : c.state.placements.get? objectId = some placement) (o : DesktopOverviewState) :
    KeepsFrames c (c.restoreOverviewDrag objectId placement o) :=
  ⟨framesOf_set hp rfl rfl rfl, rfl⟩

theorem forgetDrag_frames (objectId : Int) : KeepsFrames c (c.forgetDrag objectId) := ⟨rfl, rfl⟩

theorem cancelOverviewDrag_frames (objectId : Int) : KeepsFrames c (c.cancelOverviewDrag objectId) := by
  unfold cancelOverviewDrag; split
  · rename_i o placement ho hp; split
    · exact forgetDrag_frames objectId
    · exact restoreOverviewDrag_frames hp o
  · exact forgetDrag_frames objectId

theorem beginMove_frames (objectId : Int) : KeepsFrames c (c.beginMove objectId) := by
  unfold beginMove; split
  · exact .refl c
  split
  · exact .refl c
  · rename_i placement hp
    exact ⟨framesOf_set (Option.filter_eq_some_iff.1 hp).1 rfl rfl rfl, rfl⟩

/-! ## Calls that write frames of the shell's own -/

structure ShellStep (c c' : DesktopWorkspaceController) : Prop where
  placed : ∀ k, (c'.state.placements.get? k).isSome = (c.state.placements.get? k).isSome
  pending : ∀ k, (c'.pendingNativeFrames.get? k).isSome = true ↔
    framesOf c'.state.placements k ≠ framesOf c.state.placements k ∨ (c.pendingNativeFrames.get? k).isSome = true

theorem framesOf_isSome (before : LinkedMap Int DesktopWindowPlacement) (k : Int) :
    (framesOf before k).isSome = (before.get? k).isSome := Option.isSome_map ..

theorem KeepsFrames.shellStep (h : KeepsFrames c c') : ShellStep c c' where
  placed k := by rw [← framesOf_isSome, h.frames, framesOf_isSome]
  pending k := by
    rw [h.frames, h.pending]; simp

theorem shellStep_of_set {p p' : DesktopWindowPlacement} {frame : Rect} (hp : c.state.placements.get? objectId = some p)
    (hw : (p'.frame, p'.maximized, p'.fullscreen) ≠ (p.frame, p.maximized, p.fullscreen))
    (hpl : c'.state.placements = c.state.placements.set objectId p')
    (hn : c'.pendingNativeFrames = c.pendingNativeFrames.set objectId frame) : ShellStep c c' where
  placed k := by
    rw [hpl, get?_set]; split
    · rename_i hk; rw [hk, hp]; rfl
    · rfl
  pending k := by
    rw [hpl, hn, get?_set]
    by_cases hk : k = objectId
    · subst hk; rw [if_pos rfl]
      refine iff_of_true rfl (.inl ?_); unfold framesOf
      rw [get?_set, if_pos rfl, hp]; exact fun h => hw (Option.some.inj h)
    · rw [if_neg hk, framesOf_ne k hk]; simp

theorem WindowStep.shellStep (h : c.WindowStep objectId c') : ShellStep c c' := by
  cases h with
  | rest => exact KeepsFrames.shellStep ⟨rfl, rfl⟩
  | raise => exact (activate_frames objectId).shellStep
  | place _ hp _ hf =>
    obtain ⟨hf, hd⟩ := Prod.mk.inj hf
    obtain ⟨hm, hfu⟩ := Prod.mk.inj hd
    exact KeepsFrames.shellStep ⟨framesOf_set hp hf hm hfu, rfl⟩
  | author _ _ hp _ hf => exact shellStep_of_set hp hf rfl rfl

theorem get?_foldl_set {β : Type} {f : Int × DesktopWindowPlacement → β} (k : Int) :
    ∀ (m : List (Int × DesktopWindowPlacement)) (pending : LinkedMap Int β),
      ((m.foldl (fun pending e => pending.set e.1 (f e)) pending).get? k).isSome = true ↔
        (∃ e ∈ m, e.1 = k) ∨ (pending.get? k).isSome = true
  | [], pending => by simp
  | e :: m, pending => by
    rw [List.foldl_cons, get?_foldl_set k m, get?_set]
    by_cases hk : k = e.1
    · subst hk; simp
    · simp [hk, Ne.symm hk]

theorem fitWorkArea_mode (p : DesktopWindowPlacement) :
    (c.fitWorkArea p).maximized = p.maximized ∧ (c.fitWorkArea p).fullscreen = p.fullscreen := by
  unfold fitWorkArea
  split <;> exact ⟨rfl, rfl⟩

theorem fitWorkArea_moves {before : LinkedMap Int DesktopWindowPlacement} (k : Int) :
    (∃ e ∈ before.entries.filter fun (_, p) => (c.fitWorkArea p).frame ≠ p.frame, e.1 = k) ↔
      framesOf (before.mapValues fun _ p => c.fitWorkArea p) k ≠ framesOf before k := by
  unfold framesOf; rw [get?_mapValues]
  constructor
  · rintro ⟨⟨k', p⟩, hmem, rfl⟩ hs
    obtain ⟨hmem, hm⟩ := List.mem_filter.1 hmem; rw [get?_eq_some_iff.2 hmem] at hs
    have hf := congrArg Prod.fst (Option.some.inj hs); exact (of_decide_eq_true hm) hf
  · intro hm
    cases hp : before.get? k with
    | none =>
      rw [hp] at hm; exact absurd rfl hm
    | some p =>
      refine ⟨(k, p), List.mem_filter.2 ⟨get?_eq_some_iff.1 hp, decide_eq_true ?_⟩, rfl⟩
      intro hf
      refine hm ?_
      obtain ⟨hma, hfu⟩ := fitWorkArea_mode (c := c) p
      simp [hp, hf, hma, hfu]

theorem syncWorkAreas_shellStep (wa : LinkedMap Int Rect) : ShellStep c (c.syncWorkAreas wa) := by
  unfold syncWorkAreas; split
  · exact (KeepsFrames.refl c).shellStep
  dsimp only; split
  · exact KeepsFrames.shellStep ⟨rfl, rfl⟩
  split
  · exact KeepsFrames.shellStep ⟨rfl, rfl⟩
  constructor
  · intro k; dsimp only
    rw [get?_mapValues, Option.isSome_map]
  · intro k; dsimp only
    rw [get?_foldl_set]; exact or_congr_left (fitWorkArea_moves k)

end DesktopWorkspaceController

end Deniald.Desktop
