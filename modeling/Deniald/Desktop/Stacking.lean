/-
Stacking in the desktop workspace. Every z that a placement has, or had before it was dragged in the
overview, was handed out once, so no two windows share one.
-/
import Deniald.Desktop.Gestures

namespace Deniald.Desktop

open Deniald.Lib
open LinkedMap

namespace DesktopWorkspaceController

variable {arrange : Arrange} {c c' : DesktopWorkspaceController} {objectId : Int}

/-! ## Stacking -/

/-- A z is the window's: its placement has it, or had it when its drag in the overview began. -/
def HoldsZ (placements : LinkedMap Int DesktopWindowPlacement) (origins : LinkedMap Int (Rect × Nat)) (objectId : Int)
    (z : Nat) : Prop :=
  (∃ p, placements.get? objectId = some p ∧ p.z = z) ∨ ∃ origin, origins.get? objectId = some origin ∧ origin.2 = z

structure ZOrder (placements : LinkedMap Int DesktopWindowPlacement) (origins : LinkedMap Int (Rect × Nat))
    (nextZ : Nat) : Prop where
  below : ∀ objectId z, HoldsZ placements origins objectId z → z < nextZ
  distinct : ∀ objectId objectId' z, HoldsZ placements origins objectId z → HoldsZ placements origins objectId' z →
    objectId = objectId'

def ZOrdered (c : DesktopWorkspaceController) : Prop :=
  ZOrder c.state.placements c.overviewDragOrigins c.state.nextZ

section

variable {placements placements' : LinkedMap Int DesktopWindowPlacement} {origins origins' : LinkedMap Int (Rect × Nat)}
  {nextZ : Nat}

theorem ZOrder.sub (h : ZOrder placements origins nextZ)
    (hs : ∀ objectId z, HoldsZ placements' origins' objectId z → HoldsZ placements origins objectId z) :
    ZOrder placements' origins' nextZ where
  below objectId z hz := h.below objectId z (hs objectId z hz)
  distinct objectId objectId' z hz hz' := h.distinct objectId objectId' z (hs objectId z hz) (hs objectId' z hz')

theorem ZOrder.raise (objectId : Int) (h : ZOrder placements origins nextZ)
    (hs : ∀ k z, HoldsZ placements' origins' k z → HoldsZ placements origins k z ∨ k = objectId ∧ z = nextZ) :
    ZOrder placements' origins' (nextZ + 1) where
  below k z hz := by
    rcases hs k z hz with hz | ⟨-, rfl⟩
    · exact Nat.lt_succ_of_lt (h.below k z hz)
    · exact Nat.lt_succ_self _
  distinct k k' z hz hz' := by
    rcases hs k z hz with hz | ⟨rfl, rfl⟩
    · rcases hs k' z hz' with hz' | ⟨-, rfl⟩
      · exact h.distinct k k' z hz hz'
      · exact absurd (h.below k _ hz) (Nat.lt_irrefl _)
    rcases hs k' _ hz' with hz' | ⟨rfl, -⟩
    · exact absurd (h.below k' _ hz') (Nat.lt_irrefl _)
    · rfl

theorem holdsZ_set (objectId : Int) {p : DesktopWindowPlacement} {k : Int} {z : Nat} (hp : HoldsZ placements origins objectId p.z)
    (h : HoldsZ (placements.set objectId p) origins k z) : HoldsZ placements origins k z := by
  rcases h with ⟨p', hge, rfl⟩ | ho
  · rw [get?_set] at hge; split at hge
    · rename_i hk; cases hge
      rwa [hk]
    · exact .inl ⟨p', hge, rfl⟩
  · exact .inr ho

theorem holdsZ_mapValues {f : Int → DesktopWindowPlacement → DesktopWindowPlacement} {k : Int} {z : Nat}
    (hf : ∀ k p, placements.get? k = some p → HoldsZ placements origins k (f k p).z)
    (h : HoldsZ (placements.mapValues f) .empty k z) : HoldsZ placements origins k z := by
  rcases h with ⟨p', hge, rfl⟩ | ⟨_, ho, -⟩
  · rw [get?_mapValues] at hge
    obtain ⟨p, hp, rfl⟩ := Option.map_eq_some_iff.1 hge; exact hf k p hp
  · rw [get?_empty] at ho; cases ho

theorem holdsZ_of_origins {k : Int} {z : Nat} (hs : ∀ org, origins'.get? k = some org →
    origins.get? k = some org) (h : HoldsZ placements origins' k z) : HoldsZ placements origins k z :=
  h.imp_right fun ⟨org, ho, hz⟩ => ⟨org, hs org ho, hz⟩

theorem ZOrder.noOrigins (h : ZOrder placements origins nextZ) : ZOrder placements .empty nextZ :=
  ZOrder.sub h fun _ _ hz => holdsZ_of_origins (fun _ ho => by cases ho) hz

end

variable {p : DesktopWindowPlacement} {viewSize : Size} {snapshotSequence : Int}

theorem holdsZ_of_get? (h : c.state.placements.get? objectId = some p) :
    HoldsZ c.state.placements c.overviewDragOrigins objectId p.z := .inl ⟨p, h, rfl⟩

variable {existing p' placement : DesktopWindowPlacement} {l : SyncState} {viewMetricsChanged : Bool}

theorem ZOrdered.place (h : c.ZOrdered) (hp : c.state.placements.get? objectId = some p) (hz : p'.z = p.z) :
    ZOrder (c.state.placements.set objectId p') c.overviewDragOrigins c.state.nextZ :=
  ZOrder.sub h fun _ _ hk => holdsZ_set _ (hz ▸ holdsZ_of_get? hp) hk

theorem ZOrdered.activate (h : c.ZOrdered) (objectId : Int) : (c.activate objectId).ZOrdered := by
  unfold DesktopWorkspaceController.activate
  cases hp : c.state.placements.get? objectId with
  | none => exact h
  | some placement =>
    dsimp only; split
    · exact h
    refine ZOrder.raise objectId h fun k z hz => ?_
    rcases hz with ⟨p, hge, rfl⟩ | ho
    · rw [DesktopWorkspaceState.place, get?_set] at hge; split at hge
      · rename_i hk; cases hge; exact .inr ⟨hk, rfl⟩
      · exact .inl (.inl ⟨p, hge, rfl⟩)
    · exact .inl (.inr ho)

theorem releaseDrag_holdsZ {placements : LinkedMap Int DesktopWindowPlacement}
    (hp : placements.get? objectId = some p) :
    HoldsZ placements c.overviewDragOrigins objectId (c.releaseDrag objectId p).z := by
  unfold releaseDrag; split
  · cases ho : c.overviewDragOrigins.get? objectId with
    | none => exact .inl ⟨p, hp, rfl⟩
    | some org => exact .inr ⟨org, ho, rfl⟩
  · exact .inl ⟨p, hp, rfl⟩

theorem ZOrdered.closeOverview (h : c.ZOrdered) : c.closeOverview.ZOrdered := by
  unfold DesktopWorkspaceController.closeOverview; split
  · exact h
  · exact ZOrder.sub h fun _ _ hz => holdsZ_mapValues (fun _ _ hp => releaseDrag_holdsZ hp) hz

theorem ZOrdered.toggleOverview (h : c.ZOrdered) (monitorId : Int) (bs bnds : Rect)
    (objs : Option (List Int)) : (c.toggleOverview arrange monitorId bs bnds objs).ZOrdered := by
  unfold DesktopWorkspaceController.toggleOverview
  have hr : ZOrder c.state.placements .empty c.state.nextZ := ZOrder.noOrigins h
  have hs : ZOrder (c.state.placements.mapValues fun _ p => { p with dragging := false }) .empty c.state.nextZ :=
    ZOrder.sub hr fun _ _ hz =>
      holdsZ_mapValues (f := fun _ p => { p with dragging := false }) (fun _ p hp => .inl ⟨p, hp, rfl⟩) hz
  split
  · exact h.closeOverview
  split
  · exact h
  dsimp only; split
  · exact hr
  · exact hs

theorem ZOrdered.beginOverviewDrag (h : c.ZOrdered) (objectId : Int) : (c.beginOverviewDrag objectId).ZOrdered := by
  unfold DesktopWorkspaceController.beginOverviewDrag; split
  · rename_i o placement hv hp; split
    · exact h
    · split
      · exact h
      -- the window holds the next z, and its old one as the origin of the drag
      refine ZOrder.raise objectId h fun k z hz => ?_
      rcases hz with ⟨p, hge, rfl⟩ | ⟨org, ho, rfl⟩
      · rw [DesktopWorkspaceState.place, get?_set] at hge; split at hge
        · rename_i hk; cases hge; exact .inr ⟨hk, rfl⟩
        · exact .inl (.inl ⟨p, hge, rfl⟩)
      · rw [get?_set] at ho; split at ho
        · rename_i hk; cases ho
          rw [hk]; exact .inl (holdsZ_of_get? hp)
        · exact .inl (.inr ⟨org, ho, rfl⟩)
  · exact h

theorem ZOrdered.forgetDrag (h : c.ZOrdered) (objectId : Int) : (c.forgetDrag objectId).ZOrdered := by
  refine ZOrder.sub h fun k z hz => holdsZ_of_origins (fun org ho => ?_) hz
  rw [DesktopWorkspaceController.forgetDrag, get?_erase] at ho; split at ho
  · cases ho
  · exact ho

theorem ZOrdered.restoreOverviewDrag (h : c.ZOrdered) (hp : c.state.placements.get? objectId = some placement)
    (o : DesktopOverviewState) : (c.restoreOverviewDrag objectId placement o).ZOrdered := by
  refine ZOrder.sub h fun k z hz => holdsZ_set objectId ?_ (holdsZ_of_origins (fun org ho => ?_) hz)
  · cases ho : c.overviewDragOrigins.get? objectId with
    | none => exact .inl ⟨placement, hp, rfl⟩
    | some org => exact .inr ⟨org, ho, rfl⟩
  · rw [DesktopWorkspaceController.restoreOverviewDrag, DesktopWorkspaceController.forgetDrag,
      get?_erase] at ho
    split at ho
    · cases ho
    · exact ho

theorem ZOrdered.cancelOverviewDrag (h : c.ZOrdered) (objectId : Int) : (c.cancelOverviewDrag objectId).ZOrdered := by
  unfold DesktopWorkspaceController.cancelOverviewDrag; split
  · rename_i o placement ho hp; split
    · exact h.forgetDrag objectId
    · exact h.restoreOverviewDrag hp o
  · exact h.forgetDrag objectId

theorem ZOrdered.endOverviewDrag (h : c.ZOrdered) (objectId : Int) (bnds wa : LinkedMap Int Rect) :
    (c.endOverviewDrag objectId bnds wa).1.ZOrdered := by
  unfold DesktopWorkspaceController.endOverviewDrag; split
  · rename_i o placement ho hp; split
    · exact h.forgetDrag objectId
    · split
      · exact h.forgetDrag objectId
      dsimp only; split
      · exact h.restoreOverviewDrag hp o
      split
      · exact h.restoreOverviewDrag hp o
      · exact ZOrder.noOrigins (h.place hp rfl)
  · exact h.forgetDrag objectId

/-! ## Native placements -/

theorem nativePlacement_z {placed : DesktopWindowPlacement} {ev : DenialWindowPlacementEvent}
    (h : nativePlacement viewSize placement ev = some placed) : placed.z = placement.z := by
  unfold nativePlacement at h; dsimp only at h
  split at h
  · split at h
    · cases h; rfl
    split at h
    · cases h
    · cases h; rfl
  · cases h; rfl

theorem ZOrdered.placeNative (h : c.ZOrdered) (objectId : Int) (ev : DenialWindowPlacementEvent) :
    (c.placeNative objectId ev).1.ZOrdered := by
  unfold DesktopWorkspaceController.placeNative; split
  · exact h
  rename_i placement hp; split
  · exact h
  · dsimp only; split
    · exact h
    · rename_i placed hpl; exact h.place hp (nativePlacement_z hpl)

theorem ZOrdered.applyNativePlacement (h : c.ZOrdered) (objectId : Int) (ev : DenialWindowPlacementEvent) :
    (c.applyNativePlacement objectId ev).1.ZOrdered := by
  unfold DesktopWorkspaceController.applyNativePlacement; split
  · exact h
  dsimp only; split
  · exact (h.activate objectId).placeNative objectId ev
  · exact h.placeNative objectId ev

/-! ## Snapshots -/

theorem adoptSnapshot_keeps (viewSize : Size) (pf : Option Rect) (existing : DesktopWindowPlacement)
    (window : DenialWindow) : let p := (adoptSnapshot viewSize pf existing window).1
    p.z = existing.z ∧ p.dragging = existing.dragging ∧ p.layoutPreviewing = existing.layoutPreviewing ∧
      p.maximized = existing.maximized ∧ p.fullscreen = existing.fullscreen := by
  unfold adoptSnapshot; dsimp only
  repeat' split
  all_goals exact ⟨rfl, rfl, rfl, rfl, rfl⟩

theorem syncSnapshot_get? {window : DenialWindow} (h : l.placements.get? window.objectId = some existing) :
    (syncSnapshot viewSize snapshotSequence l window existing).1.placements.get? window.objectId =
      some (syncSnapshot viewSize snapshotSequence l window existing).2 := by
  unfold syncSnapshot; split
  · exact h
  dsimp only; split
  · rename_i hs; rw [hs]; exact h
  · simp

variable {origins : LinkedMap Int (Rect × Nat)}

theorem syncSnapshot_zOrder {window : DenialWindow} (h : l.placements.get? window.objectId = some existing)
    (hl : ZOrder l.placements origins l.nextZ) :
    ZOrder (syncSnapshot viewSize snapshotSequence l window existing).1.placements origins
      (syncSnapshot viewSize snapshotSequence l window existing).1.nextZ := by
  unfold syncSnapshot; split
  · exact hl
  dsimp only; split
  · exact hl
  · refine ZOrder.sub hl fun _ _ hz => holdsZ_set _ ?_ hz
    rw [(adoptSnapshot_keeps ..).1]; exact .inl ⟨existing, h, rfl⟩

theorem syncWindow_zOrder (window : DenialWindow) (hl : ZOrder l.placements origins l.nextZ) :
    ZOrder (c.syncWindow viewSize snapshotSequence viewMetricsChanged l window).placements origins
      (c.syncWindow viewSize snapshotSequence viewMetricsChanged l window).nextZ := by
  unfold syncWindow; split
  · split
    · exact hl
    refine ZOrder.raise window.objectId hl fun k z hz => ?_
    rcases hz with ⟨p, hge, rfl⟩ | ho
    · rw [get?_set] at hge; split at hge
      · rename_i hk; cases hge; exact .inr ⟨hk, rfl⟩
      · exact .inl (.inl ⟨p, hge, rfl⟩)
    · exact .inl (.inr ho)
  · rename_i existing he
    have hge := @syncSnapshot_get? viewSize snapshotSequence _ _ _ he
    have hs := @syncSnapshot_zOrder viewSize snapshotSequence _ _ _ _ he hl
    generalize syncSnapshot viewSize snapshotSequence l window existing = snapshot at hge hs ⊢
    dsimp only; split
    · exact hs
    split
    · exact hs
    · refine ZOrder.sub hs fun _ _ hz => holdsZ_set _ ?_ hz; exact .inl ⟨snapshot.2, hge, rfl⟩

theorem foldl_syncWindow_zOrder :
    ∀ (wins : List DenialWindow) {l : SyncState},
    ZOrder l.placements origins l.nextZ →
      ZOrder (wins.foldl (c.syncWindow viewSize snapshotSequence viewMetricsChanged) l).placements origins
        (wins.foldl (c.syncWindow viewSize snapshotSequence viewMetricsChanged) l).nextZ
  | [], _, hl => hl
  | window :: wins, _, hl => foldl_syncWindow_zOrder wins (syncWindow_zOrder window hl)

theorem syncLoop_zOrder (h : c.ZOrdered) (wins : List DenialWindow) (viewSize : Size) (snapshotSequence : Int)
    (viewMetricsChanged : Bool) :
    ZOrder (c.syncLoop wins viewSize snapshotSequence viewMetricsChanged).placements c.overviewDragOrigins
      (c.syncLoop wins viewSize snapshotSequence viewMetricsChanged).nextZ := by
  refine foldl_syncWindow_zOrder wins (ZOrder.sub h fun k z hz => hz.imp_left ?_)
  rintro ⟨p, hge, rfl⟩
  rw [get?_filter, Option.filter_eq_some_iff] at hge; exact ⟨p, hge.1, rfl⟩

theorem ZOrdered.commitSync (h : c.ZOrdered) (hl : ZOrder l.placements c.overviewDragOrigins l.nextZ)
    (viewSize : Size) : (c.commitSync arrange viewSize l).ZOrdered := by
  unfold DesktopWorkspaceController.commitSync; dsimp only
  split
  · exact h
  split
  · refine ZOrder.sub hl fun _ _ hz => ?_
    exact holdsZ_mapValues (fun k p hp => releaseDrag_holdsZ hp) hz
  · exact hl

theorem ZOrdered.syncUserWindows (h : c.ZOrdered) (wins : List DenialWindow) (viewSize : Size)
    (snapshotSequence : Int) (viewMetricsChanged : Bool) :
    (c.syncUserWindows arrange wins viewSize snapshotSequence viewMetricsChanged).ZOrdered := by
  have hr : (c.retainActive wins).ZOrdered := h
  exact hr.commitSync (syncLoop_zOrder hr ..) viewSize

theorem ZOrdered.syncWindows (h : c.ZOrdered) (list : WindowList) (viewSize : Size) (dpr : F64)
    (snapshotSequence : Int) : (c.syncWindows arrange list viewSize dpr snapshotSequence).ZOrdered := by
  unfold DesktopWorkspaceController.syncWindows; split
  · exact h
  dsimp only; split
  · exact h
  · exact ZOrdered.syncUserWindows (by exact h) ..

/-! ## Other calls -/

theorem ZOrdered.syncWorkAreas (h : c.ZOrdered) (wa : LinkedMap Int Rect) : (c.syncWorkAreas wa).ZOrdered := by
  unfold DesktopWorkspaceController.syncWorkAreas; split
  · exact h
  dsimp only; split
  · exact h
  split
  · exact h
  refine ZOrder.sub h fun k z hz => ?_
  rcases hz with ⟨p', hge, rfl⟩ | ho
  · rw [get?_mapValues] at hge
    obtain ⟨p, hp, rfl⟩ := Option.map_eq_some_iff.1 hge
    refine .inl ⟨p, hp, ?_⟩; unfold fitWorkArea
    split <;> rfl
  · exact .inr ho

theorem ZOrdered.beginMove (h : c.ZOrdered) (objectId : Int) : (c.beginMove objectId).ZOrdered := by
  unfold DesktopWorkspaceController.beginMove; split
  · exact h
  split
  · exact h
  · rename_i placement hp
    exact h.place (Option.filter_eq_some_iff.1 hp).1 rfl

theorem ZOrdered.step (h : c.ZOrdered) (hstep : c.WindowStep objectId c') : c'.ZOrdered := by
  cases hstep with
  | rest => exact h
  | raise => exact h.activate objectId
  | place _ hp hs => exact h.place hp hs.z
  | author _ _ hp hs => exact h.place hp hs.z

theorem ZOrdered.keeps (h : c.ZOrdered) (hk : c.KeepsWindows c') : c'.ZOrdered := by
  unfold ZOrdered
  rw [hk.placements, hk.origins, hk.nextZ]; exact h

theorem call_zOrdered (h : c.ZOrdered) (call : WorkspaceCall) : (c.call arrange call).ZOrdered := by
  by_cases hs : call.aside = true
  · exact h.keeps (call_keeps hs)
  cases hw : call.window with
  | some objectId => exact h.step (call_step hw)
  | none =>
    cases call with
    | syncWorkAreas wa => exact h.syncWorkAreas wa
    | syncWindows list viewSize dpr snapshotSequence =>
      exact h.syncWindows list viewSize dpr snapshotSequence
    | toggleOverview monitorId bs bnds objs =>
      exact h.toggleOverview monitorId bs bnds objs
    | closeOverview => exact h.closeOverview
    | beginOverviewDrag objectId => exact h.beginOverviewDrag objectId
    | endOverviewDrag objectId ob wa => exact h.endOverviewDrag objectId ob wa
    | cancelOverviewDrag objectId => exact h.cancelOverviewDrag objectId
    | beginMove objectId => exact h.beginMove objectId
    | applyNativePlacement objectId event => exact h.applyNativePlacement objectId event
    | _ => first | exact absurd rfl hs | cases hw

theorem initial_zOrdered : ({} : DesktopWorkspaceController).ZOrdered where
  below objectId z h := by
    rcases h with ⟨_, h, -⟩ | ⟨_, h, -⟩ <;> cases h
  distinct objectId objectId' z h := by
    rcases h with ⟨_, h, -⟩ | ⟨_, h, -⟩ <;> cases h

end DesktopWorkspaceController

end Deniald.Desktop
