/-
Maximised and fullscreen windows (desktop_workspace_controller.dart). A placement has a restore frame only while it is
in the state that the frame restores from, and a run of toggles that leaves each state it has entered, the last one
first, brings the window back to where it was.
-/
import Deniald.Desktop.Interactions

namespace Deniald.Desktop

open Deniald.Lib
open DesktopWorkspaceController LinkedMap

/-! ## Toggles -/

inductive WindowMode where
  | maximized
  | fullscreen
  deriving DecidableEq

def DesktopWindowPlacement.isIn (p : DesktopWindowPlacement) : WindowMode → Bool
  | .maximized => p.maximized
  | .fullscreen => p.fullscreen

/-- A call that changes the mode of a window, with the bounds that it offers. -/
inductive WindowToggle where
  | maximize (bounds : Option Rect)
  | toggleMaximized (bounds : Option Rect)
  | toggleFullscreen (bounds : Rect)

def WindowToggle.mode : WindowToggle → WindowMode
  | .maximize _ | .toggleMaximized _ => .maximized
  | .toggleFullscreen _ => .fullscreen

namespace DesktopWorkspaceController

def toggle (objectId : Int) (c : DesktopWorkspaceController) : WindowToggle → DesktopWorkspaceController
  | .maximize bounds => c.maximize objectId bounds
  | .toggleMaximized bounds => c.toggleMaximized objectId bounds
  | .toggleFullscreen bounds => c.toggleFullscreen objectId bounds

def isIn (objectId : Int) (c : DesktopWorkspaceController) (mode : WindowMode) : Bool :=
  (c.state.placements.get? objectId).any (·.isIn mode)

/-- Toggles that leave every mode they enter, the last one first; `opened` are the modes they are yet to leave. A toggle
that changes no mode is a refused one. -/
def nested (objectId : Int) : List WindowMode → DesktopWorkspaceController → List WindowToggle → Bool
  | opened, _, [] => opened.isEmpty
  | opened, c, t :: ts =>
    if c.isIn objectId t.mode = (c.toggle objectId t).isIn objectId t.mode then
      nested objectId opened (c.toggle objectId t) ts
    else if c.isIn objectId t.mode then
      opened.head? = some t.mode && nested objectId opened.tail (c.toggle objectId t) ts
    else nested objectId (t.mode :: opened) (c.toggle objectId t) ts

/-- The source refuses toggles in the overview, and to maximise while fullscreen. -/
def Refuses (objectId : Int) (c : DesktopWorkspaceController) (t : WindowToggle) : Prop :=
  c.state.overviewActive = true ∨ t.mode = .maximized ∧ c.isIn objectId .fullscreen = true

end DesktopWorkspaceController

/-! ## Restore frames -/

/-- A restore frame without the mode that it restores from. -/
def DesktopWindowPlacement.misfit (p : DesktopWindowPlacement) : Bool :=
  !p.maximized && p.restoreFrame.isSome || !p.fullscreen && p.fullscreenRestoreFrame.isSome

/-- No placement is a misfit that was none. -/
def Fitting (before after : Placements) : Prop := ∀ k, From (·.misfit) before after k

variable {arrange : Arrange} {c c' : DesktopWorkspaceController} {objectId : Int} {p p' : DesktopWindowPlacement}
  {viewSize : Size} {before middle after : Placements}

theorem Fitting.refl (before : Placements) : Fitting before before := From.refl _ before

theorem Fitting.trans (h : Fitting before middle) (h' : Fitting middle after) : Fitting before after :=
  fun k => (h k).trans (h' k)

theorem Fitting.place (hp : c.state.placements.get? objectId = some p) (h : p'.misfit = true → p.misfit = true) :
    Fitting c.state.placements (c.state.place objectId p').placements :=
  From.set hp h

theorem Fitting.mapValues {f : Int → DesktopWindowPlacement → DesktopWindowPlacement}
    (h : ∀ k p, (f k p).misfit = p.misfit) : Fitting before (before.mapValues f) :=
  From.mapValues fun k p hm => h k p ▸ hm

namespace DesktopWorkspaceController

abbrev Fits (c c' : DesktopWorkspaceController) : Prop := Fitting c.state.placements c'.state.placements

/-! ### Calls about one window -/

theorem activate_fitting (objectId : Int) : c.Fits (c.activate objectId) := by
  unfold activate; split
  · exact .refl _
  rename_i placement hp; dsimp only; split
  · exact .refl _
  · exact .place hp id

theorem moveBy_fitting (d : Offset) : c.Fits (c.moveBy objectId d) := by
  unfold moveBy; split
  · exact .refl _
  split
  · exact .refl _
  rename_i placement hp; dsimp only; split
  · exact .refl _
  split
  · exact .refl _
  · exact .place (Option.filter_eq_some_iff.1 hp).1 id

theorem beginMove_fitting : c.Fits (c.beginMove objectId) := by
  unfold beginMove; split
  · exact .refl _
  split
  · exact .refl _
  · rename_i placement hp; exact .place (Option.filter_eq_some_iff.1 hp).1 id

theorem endMove_fitting : c.Fits (c.endMove objectId) := by
  unfold endMove; split
  · exact .refl _
  dsimp only; split
  · exact .refl _
  rename_i placement hp; split
  · exact .refl _
  · exact .place hp id

theorem minimize_fitting : c.Fits (c.minimize objectId) := by
  unfold minimize; split
  · exact .refl _
  split
  · exact .refl _
  rename_i placement hp; split
  · exact .refl _
  · exact .place hp id

theorem toggleMinimized_fitting : c.Fits (c.toggleMinimized objectId) := by
  unfold toggleMinimized; split
  · exact .refl _
  split
  · exact .refl _
  · rename_i placement hp; exact .place hp id

theorem toggleMaximized_fitting (bnds : Option Rect) : c.Fits (c.toggleMaximized objectId bnds) := by
  unfold toggleMaximized; split
  · exact .refl _
  split
  · exact .refl _
  rename_i placement hp; split
  · exact .refl _
  split
  · exact .place hp fun h => by simp [DesktopWindowPlacement.misfit] at h ⊢; exact .inr h
  · exact .place hp fun h => by simp [DesktopWindowPlacement.misfit] at h ⊢; exact .inr h

theorem maximize_fitting (bnds : Option Rect) : c.Fits (c.maximize objectId bnds) := by
  unfold maximize; split
  · exact .refl _
  split
  · exact .refl _
  split
  · exact .refl _
  · exact toggleMaximized_fitting bnds

theorem exitFullscreen_fitting (hp : c.state.placements.get? objectId = some p) :
    c.Fits (c.exitFullscreen objectId p) :=
  .place hp fun h => by simp [DesktopWindowPlacement.misfit] at h ⊢; exact .inl h

theorem toggleFullscreen_fitting (bnds : Rect) : c.Fits (c.toggleFullscreen objectId bnds) := by
  unfold toggleFullscreen; split
  · exact .refl _
  split
  · exact .refl _
  rename_i placement hp; split
  · exact exitFullscreen_fitting hp
  dsimp only; split
  · exact .refl _
  · exact .place hp fun h => by simp [DesktopWindowPlacement.misfit] at h ⊢; exact .inl h

theorem restore_fitting : c.Fits (c.restore objectId) := by
  unfold restore; split
  · exact .refl _
  split
  · exact .refl _
  rename_i placement hp; split
  · exact activate_fitting objectId
  split
  · exact exitFullscreen_fitting hp
  split
  · exact toggleMaximized_fitting none
  · exact .refl _

theorem nativePlacement_misfit {e : DenialWindowPlacementEvent} (h : nativePlacement viewSize p e = some p') :
    p'.misfit = true → p.misfit = true := by
  unfold nativePlacement at h; dsimp only at h
  split at h
  · rename_i hf; split at h
    · cases h; exact id
    split at h
    · cases h
    · cases h; simp [DesktopWindowPlacement.misfit, withFlags, hf]
  · cases h; simp [DesktopWindowPlacement.misfit]

theorem placeNative_fitting (e : DenialWindowPlacementEvent) : c.Fits (c.placeNative objectId e).1 := by
  unfold placeNative; split
  · exact .refl _
  rename_i placement hp; split
  · exact .refl _
  dsimp only; split
  · exact .refl _
  · rename_i placed hn; exact .place hp (nativePlacement_misfit hn)

theorem applyNativePlacement_fitting (e : DenialWindowPlacementEvent) :
    c.Fits (c.applyNativePlacement objectId e).1 := by
  unfold applyNativePlacement; split
  · exact .refl _
  dsimp only; split
  · exact (activate_fitting objectId).trans (placeNative_fitting e)
  · exact placeNative_fitting e

/-! ### Calls about the overview -/

theorem releaseDrag_misfit (k : Int) (p : DesktopWindowPlacement) : (c.releaseDrag k p).misfit = p.misfit := by
  unfold releaseDrag
  split <;> rfl

theorem closeOverview_fitting : c.Fits c.closeOverview := by
  unfold closeOverview; split
  · exact .refl _
  · exact .mapValues releaseDrag_misfit

theorem toggleOverview_fitting (monitorId : Int) (bs bnds : Rect) (objs : Option (List Int)) :
    c.Fits (c.toggleOverview arrange monitorId bs bnds objs) := by
  unfold toggleOverview; split
  · exact closeOverview_fitting
  split
  · exact .refl _
  dsimp only; split
  · exact .refl _
  · exact Fitting.mapValues (f := fun _ p => { p with dragging := false }) fun _ _ => rfl

theorem beginOverviewDrag_fitting : c.Fits (c.beginOverviewDrag objectId) := by
  unfold beginOverviewDrag; split
  · rename_i o placement ho hp; split
    · exact .refl _
    split
    · exact .refl _
    · exact .place hp id
  · exact .refl _

theorem restoreOverviewDrag_fitting (hp : c.state.placements.get? objectId = some p) (o : DesktopOverviewState) :
    c.Fits (c.restoreOverviewDrag objectId p o) :=
  .place hp id

theorem transferred_misfit (o : DesktopOverviewState) (pf : Rect) (outs as : LinkedMap Int Rect)
    (tgt : Int) (ot : Rect) : (c.transferred o p pf outs as tgt ot).misfit = p.misfit := by
  unfold transferred DesktopWindowPlacement.misfit; dsimp only
  rw [Option.isSome_map]; split
  · rename_i h; simp [h.1]
  · rw [Option.isSome_map]

theorem endOverviewDrag_fitting (outs as : LinkedMap Int Rect) : c.Fits (c.endOverviewDrag objectId outs as).1 := by
  unfold endOverviewDrag; split
  · rename_i o placement ho hp; split
    · exact .refl _
    split
    · exact .refl _
    dsimp only; split
    · exact restoreOverviewDrag_fitting hp o
    split
    · exact restoreOverviewDrag_fitting hp o
    · exact .place hp fun h => transferred_misfit .. ▸ h
  · exact .refl _

theorem cancelOverviewDrag_fitting : c.Fits (c.cancelOverviewDrag objectId) := by
  unfold cancelOverviewDrag; split
  · rename_i o placement ho hp; split
    · exact .refl _
    · exact restoreOverviewDrag_fitting hp o
  · exact .refl _

/-! ### Snapshots -/

theorem fitWorkArea_misfit (p : DesktopWindowPlacement) : (c.fitWorkArea p).misfit = p.misfit := by
  unfold fitWorkArea
  split <;> rfl

theorem syncWorkAreas_fitting (as : LinkedMap Int Rect) : c.Fits (c.syncWorkAreas as) := by
  unfold syncWorkAreas; split
  · exact .refl _
  dsimp only; split
  · exact .refl _
  split
  · exact .refl _
  · exact .mapValues fun _ => fitWorkArea_misfit

theorem adoptSnapshot_misfit (pend : Option Rect) (window : DenialWindow) :
    (adoptSnapshot viewSize pend p window).1.misfit = p.misfit := by
  obtain ⟨-, -, -, hm, hf⟩ := adoptSnapshot_keeps viewSize pend p window
  have hr : (adoptSnapshot viewSize pend p window).1.restoreFrame = p.restoreFrame ∧
      (adoptSnapshot viewSize pend p window).1.fullscreenRestoreFrame.isSome = p.fullscreenRestoreFrame.isSome := by
    unfold adoptSnapshot; dsimp only
    repeat' split
    all_goals first | exact ⟨rfl, rfl⟩ | exact ⟨rfl, Option.isSome_map⟩
  unfold DesktopWindowPlacement.misfit; rw [hm, hf, hr.1, hr.2]

theorem syncWindow_fitting {vmc : Bool} {seq : Int} {l : SyncState} (window : DenialWindow) :
    Fitting l.placements (c.syncWindow viewSize seq vmc l window).placements := by
  unfold syncWindow; split
  · split
    · exact .refl _
    · exact From.set_new rfl
  rename_i old he
  have hge := @syncSnapshot_get? viewSize seq _ _ _ he
  have hs : Fitting l.placements (syncSnapshot viewSize seq l window old).1.placements := by
    unfold syncSnapshot; split
    · exact .refl _
    dsimp only; split
    · exact .refl _
    · exact From.set he fun h => adoptSnapshot_misfit .. ▸ h
  generalize syncSnapshot viewSize seq l window old = snapshot at hge hs ⊢
  dsimp only; split
  · exact hs
  split
  · exact hs
  · exact hs.trans (From.set hge id)

theorem foldl_syncWindow_fitting {vmc : Bool} {seq : Int} :
    ∀ (wins : List DenialWindow) (l : SyncState),
      Fitting l.placements (wins.foldl (c.syncWindow viewSize seq vmc) l).placements
  | [], _ => .refl _
  | window :: wins, _ => (syncWindow_fitting window).trans (foldl_syncWindow_fitting wins _)

theorem commitSync_fitting {l : SyncState} (h : Fitting before c.state.placements) (hl : Fitting before l.placements) :
    Fitting before (c.commitSync arrange viewSize l).state.placements := by
  unfold commitSync; dsimp only
  split
  · exact h
  split
  · exact hl.trans (.mapValues releaseDrag_misfit)
  · exact hl

theorem syncWindows_fitting (list : WindowList) (dpr : F64) (seq : Int) :
    c.Fits (c.syncWindows arrange list viewSize dpr seq) := by
  unfold syncWindows; split
  · exact .refl _
  dsimp only; split
  · exact .refl _
  · refine commitSync_fitting (.refl _) (Fitting.trans ?_ (foldl_syncWindow_fitting _ _)); exact From.filter _

theorem call_fitting (call : WorkspaceCall) : c.Fits (c.call arrange call) := by
  by_cases hs : call.aside = true
  · have hk : c.KeepsWindows (c.call arrange call) := call_keeps hs
    rw [Fits, hk.placements]; exact .refl _
  cases call with
  | syncWorkAreas as => exact syncWorkAreas_fitting as
  | syncWindows list viewSize dpr seq => exact syncWindows_fitting list dpr seq
  | activate objectId => exact activate_fitting objectId
  | toggleOverview monitorId bs bnds objs => exact toggleOverview_fitting monitorId bs bnds objs
  | closeOverview => exact closeOverview_fitting
  | beginOverviewDrag => exact beginOverviewDrag_fitting
  | endOverviewDrag objectId outs as => exact endOverviewDrag_fitting outs as
  | cancelOverviewDrag => exact cancelOverviewDrag_fitting
  | moveBy objectId d => exact moveBy_fitting d
  | beginMove => exact beginMove_fitting
  | endMove => exact endMove_fitting
  | applyNativePlacement objectId event => exact applyNativePlacement_fitting event
  | minimize => exact minimize_fitting
  | maximize objectId bnds => exact maximize_fitting bnds
  | restore => exact restore_fitting
  | toggleMinimized => exact toggleMinimized_fitting
  | toggleMaximized objectId bnds => exact toggleMaximized_fitting bnds
  | toggleFullscreen objectId bnds => exact toggleFullscreen_fitting bnds
  | _ => exact absurd rfl hs

theorem not_misfit_of_calls (cs : List WorkspaceCall) : let c := exec (call arrange) {} cs
    ∀ k p, c.state.placements.get? k = some p → p.misfit = false := by
  refine exec_invariant (I := fun c : DesktopWorkspaceController => ∀ k p, c.state.placements.get? k = some p →
    p.misfit = false) (fun c call h k p hp => ?_) cs fun k p hp => by cases hp
  exact (call_fitting call k).unset (h k) hp

/-- Through whatever calls a workspace goes, a window has a frame to restore only while it is maximised, and one to
restore from fullscreen only while it is fullscreen. -/
theorem restore_frames_in_mode (arrange : Arrange) (cs : List WorkspaceCall) (objectId : Int) :
    ((exec (call arrange) {} cs).state.placements.get? objectId).all (fun p =>
      (p.maximized || p.restoreFrame.isNone) && (p.fullscreen || p.fullscreenRestoreFrame.isNone)) = true := by
  rw [Option.all_eq_true]
  intro p hp
  have hm := not_misfit_of_calls cs objectId p hp
  revert hm; rw [DesktopWindowPlacement.misfit]
  cases p.maximized <;> cases p.fullscreen <;> simp

end DesktopWorkspaceController

/-! ## Frames on pixels -/

/-- A frame whose edges are on pixels, inside the canvas. -/
structure OnPixels (dpr : ℚ) (viewSize : Size) (frame : Rect) : Prop where
  left : snapToPixel dpr frame.left = frame.left
  top : snapToPixel dpr frame.top = frame.top
  right : snapToPixel dpr frame.right = frame.right
  bottom : snapToPixel dpr frame.bottom = frame.bottom
  left_nonneg : 0 ≤ frame.left
  top_nonneg : 0 ≤ frame.top
  right_le : frame.right ≤ viewSize.width
  bottom_le : frame.bottom ≤ viewSize.height

theorem snapToPixel_monotone (dpr : ℚ) : Monotone (snapToPixel dpr) := by
  intro a b h
  have hr {x y : ℚ} (h : x ≤ y) : (roundHalfAway x : ℚ) ≤ roundHalfAway y := Int.cast_le.2 (roundHalfAway_monotone h)
  rcases le_total 0 dpr with hd | hd
  · exact div_le_div_of_nonneg_right (hr (mul_le_mul_of_nonneg_right h hd)) hd
  · exact div_le_div_of_nonpos_of_le hd (hr (mul_le_mul_of_nonpos_right h hd))

theorem snapToPixel_zero (dpr : ℚ) : snapToPixel dpr 0 = 0 := by
  rw [snapToPixel, zero_mul, ← Int.cast_zero, roundHalfAway_intCast]; simp

theorem snapToPixel_sub {dpr a b : ℚ} (ha : snapToPixel dpr a = a) (hb : snapToPixel dpr b = b) :
    snapToPixel dpr (b - a) = b - a := by
  by_cases hd : dpr = 0
  · subst hd; simp only [snapToPixel, div_zero] at *; linarith
  have hs {x : ℚ} (hx : snapToPixel dpr x = x) : x * dpr = roundHalfAway (x * dpr) := by
    rw [snapToPixel, div_eq_iff hd] at hx; exact hx.symm
  rw [snapToPixel, sub_mul, hs ha, hs hb, ← Int.cast_sub, roundHalfAway_intCast, Int.cast_sub, ← hs ha, ← hs hb,
    ← sub_mul, mul_div_cancel_right₀ _ hd]

/-- One side of `_clampFrame`. -/
theorem clampSide_onPixels {dpr lo hi extent : ℚ} (hlo : snapToPixel dpr lo = lo) (hhi : snapToPixel dpr hi = hi)
    (hn : 0 ≤ lo) (hle : hi ≤ extent) : snapToPixel dpr (min (hi - lo) (snapToPixel dpr extent - 0)) = hi - lo ∧
      clamp (snapToPixel dpr lo) 0 (max 0 (snapToPixel dpr extent - (hi - lo))) = lo := by
  have hs : hi ≤ snapToPixel dpr extent := hhi ▸ snapToPixel_monotone dpr hle
  rw [min_eq_left (by linarith), snapToPixel_sub hlo hhi, hlo]
  exact ⟨rfl, clamp_of_mem hn (le_max_of_le_right (by linarith))⟩

theorem clampFrame_onPixels {dpr : ℚ} {frame : Rect} (h : OnPixels dpr viewSize frame) :
    clampFrame dpr frame viewSize none = frame := by
  obtain ⟨hw, hx⟩ := clampSide_onPixels h.left h.right h.left_nonneg h.right_le
  obtain ⟨hh, hy⟩ := clampSide_onPixels h.top h.bottom h.top_nonneg h.bottom_le
  simp only [clampFrame, Option.map_none, Option.filter_none, Option.getD_none, Rect.ofSize, Rect.fromLTWH, Rect.width,
    Rect.height, zero_add, snapToPixel_zero, hw, hx, hh, hy]
  simp

/-! ## Nested toggles -/

/-- What a toggle that is not refused makes of its window's placement. -/
inductive ToggleStep (c : DesktopWorkspaceController) (p : DesktopWindowPlacement) :
    WindowMode → DesktopWindowPlacement → Prop
  | maximize (frame : Rect) (hf : p.fullscreen = false) (hm : p.maximized = false) :
    ToggleStep c p .maximized { p with
      frame := frame, maximized := true, minimized := false, dragging := false, restoreFrame := some p.frame }
  | unmaximize (hf : p.fullscreen = false) (hm : p.maximized = true) :
    ToggleStep c p .maximized { p with
      frame := clampFrame c.devicePixelRatio (p.restoreFrame.getD p.frame) c.state.viewSize none
      maximized := false, dragging := false, restoreFrame := none }
  | fullscreen (frame : Rect) (hf : p.fullscreen = false) :
    ToggleStep c p .fullscreen { p with
      frame := frame, minimized := false, fullscreen := true, dragging := false, fullscreenRestoreFrame := some p.frame }
  | unfullscreen (hf : p.fullscreen = true) :
    ToggleStep c p .fullscreen { p with
      frame := clampFrame c.devicePixelRatio (p.fullscreenRestoreFrame.getD p.frame) c.state.viewSize none
      fullscreen := false, dragging := false, fullscreenRestoreFrame := none }

/-- A placement while some modes are entered, the last one first: it holds what the toggles that leave them will need to
bring back the one before. -/
inductive Opened (b : DesktopWindowPlacement) : List WindowMode → DesktopWindowPlacement → Prop
  | nil {q : DesktopWindowPlacement} (hm : q.maximized = b.maximized) (hf : q.fullscreen = b.fullscreen) (frame : q.frame = b.frame)
      (restore : q.restoreFrame = b.restoreFrame) (fullscreen : q.fullscreenRestoreFrame = b.fullscreenRestoreFrame) :
    Opened b [] q
  | maximized {q : DesktopWindowPlacement} (hm : b.maximized = false) (hf : b.fullscreen = false) (hm' : q.maximized = true)
      (hf' : q.fullscreen = false) (restore : q.restoreFrame = some b.frame)
      (fullscreen : q.fullscreenRestoreFrame = b.fullscreenRestoreFrame) : Opened b [.maximized] q
  | fullscreen {q : DesktopWindowPlacement} (hf : b.fullscreen = false) (hm' : q.maximized = b.maximized) (hf' : q.fullscreen = true)
      (restore : q.restoreFrame = b.restoreFrame) (fullscreen : q.fullscreenRestoreFrame = some b.frame) :
    Opened b [.fullscreen] q
  | both {q : DesktopWindowPlacement} (hm : b.maximized = false) (hf : b.fullscreen = false) (hm' : q.maximized = true)
      (hf' : q.fullscreen = true) (restore : q.restoreFrame = some b.frame) : Opened b [.fullscreen, .maximized] q

variable {b : DesktopWindowPlacement} {mode : WindowMode} {opened : List WindowMode}

theorem ToggleStep.changes (h : ToggleStep c p mode p') : p'.isIn mode = !p.isIn mode ∧ p'.monitorId = p.monitorId := by
  cases h with
  | maximize _ _ hm | unmaximize _ hm => exact ⟨by simp [DesktopWindowPlacement.isIn, hm], rfl⟩
  | fullscreen _ hf | unfullscreen hf => exact ⟨by simp [DesktopWindowPlacement.isIn, hf], rfl⟩

theorem Opened.enter (h : Opened b opened p) (hs : ToggleStep c p mode p') (hi : p.isIn mode = false) :
    Opened b (mode :: opened) p' := by
  cases hs with
  | unmaximize _ hm => exact absurd hi (by simp [DesktopWindowPlacement.isIn, hm])
  | unfullscreen hf => exact absurd hi (by simp [DesktopWindowPlacement.isIn, hf])
  | maximize frame hf hm =>
    cases h with
    | nil hm' hf' hfr _ hfs => exact .maximized (hm' ▸ hm) (hf' ▸ hf) rfl hf (congrArg some hfr) hfs
    | maximized _ _ hm' => rw [hm] at hm'; cases hm'
    | fullscreen _ _ hf' | both _ _ _ hf' => rw [hf] at hf'; cases hf'
  | fullscreen frame hf =>
    cases h with
    | nil hm' hf' hfr hr => exact .fullscreen (hf' ▸ hf) hm' rfl hr (congrArg some hfr)
    | maximized hm hf hm' _ hr => exact .both hm hf hm' rfl hr
    | fullscreen _ _ hf' | both _ _ _ hf' => rw [hf] at hf'; cases hf'

/-- A toggle that leaves the mode last entered brings back what there was before it. -/
theorem Opened.leave (h : Opened b (mode :: opened) p) (hs : ToggleStep c p mode p') (hi : p.isIn mode = true)
    (hb : b.misfit = false) (hpix : clampFrame c.devicePixelRatio b.frame c.state.viewSize none = b.frame) :
    Opened b opened p' := by
  simp only [DesktopWindowPlacement.misfit, Bool.or_eq_false_iff, Bool.and_eq_false_iff, Bool.not_eq_false',
    Option.isSome_eq_false_iff, Option.isNone_iff_eq_none] at hb
  obtain ⟨hbm, hbf⟩ := hb
  cases hs with
  | maximize _ _ hm => exact absurd hi (by simp [DesktopWindowPlacement.isIn, hm])
  | fullscreen _ hf => exact absurd hi (by simp [DesktopWindowPlacement.isIn, hf])
  | unmaximize hf =>
    cases h with
    | maximized hm hf _ hf' hr hfs =>
      exact .nil hm.symm (hf'.trans hf.symm) (by simp [hr, hpix]) (hbm.resolve_left (by simp [hm])).symm hfs
  | unfullscreen =>
    cases h with
    | fullscreen hf hm hf' hr hfs =>
      exact .nil hm hf.symm (by simp [hfs, hpix]) hr (hbf.resolve_left (by simp [hf])).symm
    | both hm hf hm' _ hr => exact .maximized hm hf hm' rfl hr (hbf.resolve_left (by simp [hf])).symm

/-- What no toggle of a window changes. -/
structure Aside (objectId : Int) (c c' : DesktopWorkspaceController) : Prop where
  viewSize : c'.state.viewSize = c.state.viewSize
  devicePixelRatio : c'.devicePixelRatio = c.devicePixelRatio
  others : ∀ k, k ≠ objectId → c'.state.placements.get? k = c.state.placements.get? k

namespace DesktopWorkspaceController

variable {t : WindowToggle}

/-- A toggle is refused, or enters or leaves its mode. -/
theorem toggle_cases (hp : c.state.placements.get? objectId = some p) (t : WindowToggle) :
    c.toggle objectId t = c ∨ ∃ p', c.toggle objectId t = c.authored objectId p' ∧ ToggleStep c p t.mode p' := by
  have hm (bs : Option Rect) : c.toggleMaximized objectId bs = c ∨
      ∃ p', c.toggleMaximized objectId bs = c.authored objectId p' ∧ ToggleStep c p .maximized p' := by
    unfold toggleMaximized; rw [hp]
    dsimp only; split
    · exact .inl rfl
    split
    · exact .inl rfl
    rename_i hf; rw [Bool.not_eq_true] at hf; split
    · rename_i hm; exact .inr ⟨_, rfl, .unmaximize hf hm⟩
    · rename_i hm; exact .inr ⟨_, rfl, .maximize _ hf (Bool.eq_false_iff.2 hm)⟩
  cases t with
  | toggleMaximized bs => exact hm bs
  | maximize bs =>
    unfold toggle maximize; rw [hp]
    dsimp only; split
    · exact .inl rfl
    split
    · exact .inl rfl
    · exact hm bs
  | toggleFullscreen bs =>
    unfold toggle toggleFullscreen; rw [hp]
    dsimp only; split
    · exact .inl rfl
    split
    · rename_i hf; exact .inr ⟨_, rfl, .unfullscreen hf⟩
    rename_i hf; split
    · exact .inl rfl
    · exact .inr ⟨_, rfl, .fullscreen _ (Bool.eq_false_iff.2 hf)⟩

theorem toggle_refused (h : c.Refuses objectId t) : c.toggle objectId t = c := by
  have hm (bs : Option Rect) (h : c.state.overviewActive = true ∨ c.isIn objectId .fullscreen = true) :
      c.toggleMaximized objectId bs = c ∧ c.maximize objectId bs = c := by
    unfold toggleMaximized maximize isIn at *
    rcases h with h | h
    · exact ⟨if_pos h, if_pos h⟩
    cases hp : c.state.placements.get? objectId with
    | none => simp
    | some p =>
      rw [hp] at h
      simp [show p.fullscreen = true from h]
  cases t with
  | maximize bs => exact (hm bs (h.imp id And.right)).2
  | toggleMaximized bs => exact (hm bs (h.imp id And.right)).1
  | toggleFullscreen bs => exact if_pos (h.resolve_right fun h => by cases h.1)

theorem nested_returns (hb : b.misfit = false) : ∀ (ts : List WindowToggle) {c : DesktopWorkspaceController}
    {p : DesktopWindowPlacement} {opened : List WindowMode}, c.state.placements.get? objectId = some p →
    OnPixels c.devicePixelRatio c.state.viewSize b.frame → Opened b opened p → p.monitorId = b.monitorId →
    nested objectId opened c ts = true →
      (∃ p', (exec (toggle objectId) c ts).state.placements.get? objectId = some p' ∧ Opened b [] p' ∧
        p'.monitorId = b.monitorId) ∧ Aside objectId c (exec (toggle objectId) c ts)
  | [], c, p, opened, hp, _, ho, hm, hn => ⟨⟨p, hp, List.isEmpty_iff.1 hn ▸ ho, hm⟩, rfl, rfl, fun _ _ => rfl⟩
  | t :: ts, c, p, opened, hp, hpix, ho, hm, hn => by
    have hin {c : DesktopWorkspaceController} {p} (hp : c.state.placements.get? objectId = some p) :
        c.isIn objectId t.mode = p.isIn t.mode := by rw [isIn, hp]; rfl
    unfold nested at hn
    rcases toggle_cases hp t with heq | ⟨p', heq, hs⟩
    · rw [heq, if_pos rfl] at hn
      have ih := nested_returns hb ts hp hpix ho hm hn
      rwa [show exec (toggle objectId) c (t :: ts) = exec (toggle objectId) (c.toggle objectId t) ts from rfl, heq]
    have hp' : (c.toggle objectId t).state.placements.get? objectId = some p' := by
      rw [heq]; exact (get?_set ..).trans (if_pos rfl)
    have hside : Aside objectId c (c.toggle objectId t) := by
      rw [heq]; exact ⟨rfl, rfl, fun k hk => (get?_set ..).trans (if_neg hk)⟩
    obtain ⟨hch, hmon⟩ := hs.changes
    rw [hin hp, hin hp', hch, if_neg (by simp)] at hn
    have hpix' : OnPixels (c.toggle objectId t).devicePixelRatio (c.toggle objectId t).state.viewSize b.frame := by
      rwa [hside.viewSize, hside.devicePixelRatio]
    have hnext : ∃ o', Opened b o' p' ∧ nested objectId o' (c.toggle objectId t) ts = true := by
      split_ifs at hn with hi
      · rw [Bool.and_eq_true, decide_eq_true_eq] at hn
        obtain ⟨rest, rfl⟩ := List.head?_eq_some_iff.1 hn.1
        exact ⟨rest, ho.leave hs hi hb (clampFrame_onPixels hpix), hn.2⟩
      · exact ⟨_, ho.enter hs (Bool.eq_false_iff.2 hi), hn⟩
    obtain ⟨o', ho', hn'⟩ := hnext
    obtain ⟨hend, hv, hd, hk⟩ := nested_returns hb ts hp' hpix' ho' (hmon.trans hm) hn'
    exact ⟨hend, hv.trans hside.viewSize, hd.trans hside.devicePixelRatio, fun k hne => (hk k hne).trans (hside.others k hne)⟩

/-- Properly nested toggles of a window whose frame is on pixels inside the canvas bring back its frame, its monitor and
its restore frames and leave every other window as it was, and refused ones change nothing. -/
theorem nested_toggles_restore (arrange : Arrange) (cs : List WorkspaceCall) (objectId : Int) (ts : List WindowToggle) :
    let c := exec (call arrange) {} cs
    let c' := exec (toggle objectId) c ts
    (∀ p, c.state.placements.get? objectId = some p → OnPixels c.devicePixelRatio c.state.viewSize p.frame →
      nested objectId [] c ts = true →
        (∃ p', c'.state.placements.get? objectId = some p' ∧ p'.frame = p.frame ∧ p'.monitorId = p.monitorId ∧
          p'.restoreFrame = p.restoreFrame ∧ p'.fullscreenRestoreFrame = p.fullscreenRestoreFrame) ∧
        ∀ k, k ≠ objectId → c'.state.placements.get? k = c.state.placements.get? k) ∧
    ∀ (c : DesktopWorkspaceController) t, c.Refuses objectId t → c.toggle objectId t = c := by
  intro c c'
  refine ⟨fun p hp hpix hn => ?_, fun c t h => toggle_refused h⟩
  obtain ⟨⟨p', hp', ho, hm⟩, hside⟩ := nested_returns (not_misfit_of_calls cs objectId p hp) ts hp hpix
    (.nil rfl rfl rfl rfl rfl) rfl hn
  cases ho with
  | nil _ _ hf hr hfs => exact ⟨⟨p', hp', hf, hm, hr, hfs⟩, hside.others⟩

end DesktopWorkspaceController

end Deniald.Desktop
