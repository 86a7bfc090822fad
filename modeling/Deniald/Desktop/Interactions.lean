/-
Interaction flags of the desktop workspace. A placement is marked while it is dragged, by a native grab, a
move of the shell or a drag in the overview, and while a layout preview displaces it: which calls may set a
flag, and what a native placement event makes of the flags of its window.
-/
import Deniald.Desktop.Sequences

namespace Deniald.Desktop

open Deniald.Lib
open DesktopWorkspaceState LinkedMap

namespace DesktopWorkspaceController

variable {arrange : Arrange} {c c' : DesktopWorkspaceController} {objectId : Int}

/-! ## Where flags come from -/

abbrev Placements := LinkedMap Int DesktopWindowPlacement

def From (flag : DesktopWindowPlacement → Bool) (before after : Placements) (k : Int) : Prop :=
  ∀ p', after.get? k = some p' → flag p' = true → ∃ p, before.get? k = some p ∧ flag p = true

section

variable {flag : DesktopWindowPlacement → Bool} {before middle after : Placements} {k : Int}

theorem From.refl (flag : DesktopWindowPlacement → Bool) (before : Placements) (k : Int) : From flag before before k :=
  fun p hp h => ⟨p, hp, h⟩

theorem From.trans (h : From flag before middle k) (h' : From flag middle after k) : From flag before after k := by
  intro p' hp' hf
  obtain ⟨p, hp, hf⟩ := h' p' hp' hf; exact h p hp hf

variable {p' : DesktopWindowPlacement}

theorem From.unset (h : From flag before after k) (hu : ∀ p, before.get? k = some p → flag p = false)
    (hp' : after.get? k = some p') : flag p' = false := by
  by_contra hf
  obtain ⟨p, hp, hs⟩ := h p' hp' (by simpa using hf)
  rw [hu p hp] at hs; cases hs

theorem From.set_ne (hk : k ≠ objectId) (p' : DesktopWindowPlacement) :
    From flag before (before.set objectId p') k := by
  intro p hp h
  rw [get?_set, if_neg hk] at hp; exact ⟨p, hp, h⟩

theorem From.set {p : DesktopWindowPlacement} (hp : before.get? objectId = some p)
    (hf : flag p' = true → flag p = true) (k : Int) : From flag before (before.set objectId p') k := by
  by_cases hk : k = objectId
  · subst hk; intro q hq h
    rw [get?_set, if_pos rfl] at hq
    cases hq; exact ⟨p, hp, hf h⟩
  · exact From.set_ne hk p'

theorem From.set_new (hf : flag p' = false) (k : Int) : From flag before (before.set objectId p') k := by
  intro q hq h; rw [get?_set] at hq
  split at hq
  · cases hq
    rw [hf] at h; cases h
  · exact ⟨q, hq, h⟩

theorem From.mapValues {f : Int → DesktopWindowPlacement → DesktopWindowPlacement}
    (hf : ∀ k p, flag (f k p) = true → flag p = true) (k : Int) : From flag before (before.mapValues f) k := by
  intro q hq h; rw [get?_mapValues] at hq
  obtain ⟨p, hp, rfl⟩ := Option.map_eq_some_iff.1 hq; exact ⟨p, hp, hf k p h⟩

theorem From.filter (keep : Int → DesktopWindowPlacement → Bool) (k : Int) : From flag before (before.filter keep) k := by
  intro q hq h
  rw [get?_filter, Option.filter_eq_some_iff] at hq; exact ⟨q, hq.1, h⟩

end

/-- No flag is set that was not. -/
structure Calm (before after : Placements) : Prop where
  dragging : ∀ k, From (·.dragging) before after k
  previewing : ∀ k, From (·.layoutPreviewing) before after k

theorem Calm.refl (before : Placements) : Calm before before := ⟨From.refl _ before, From.refl _ before⟩

variable {before : Placements} {viewMetricsChanged : Bool} {outputBounds workAreas : LinkedMap Int Rect}

theorem Calm.trans {middle after : Placements} (h : Calm before middle) (h' : Calm middle after) : Calm before after :=
  ⟨fun k => (h.dragging k).trans (h'.dragging k), fun k => (h.previewing k).trans (h'.previewing k)⟩

variable {p p' placement : DesktopWindowPlacement} {viewSize : Size} {event : DenialWindowPlacementEvent}

theorem Calm.set (hp : before.get? objectId = some p) (hd : p'.dragging = true → p.dragging = true)
    (hr : p'.layoutPreviewing = true → p.layoutPreviewing = true) : Calm before (before.set objectId p') :=
  ⟨From.set hp hd, From.set hp hr⟩

theorem Calm.mapValues {f : Int → DesktopWindowPlacement → DesktopWindowPlacement}
    (hd : ∀ k p, (f k p).dragging = true → p.dragging = true)
    (hr : ∀ k p, (f k p).layoutPreviewing = true → p.layoutPreviewing = true) : Calm before (before.mapValues f) :=
  ⟨From.mapValues hd, From.mapValues hr⟩

/-! ## Calls that set no flag -/

theorem activate_calm (objectId : Int) : Calm c.state.placements (c.activate objectId).state.placements := by
  unfold activate; split
  · exact .refl _
  rename_i placement hp; dsimp only; split
  · exact .refl _
  · exact .set hp id id

theorem releaseDrag_flags (k : Int) (p : DesktopWindowPlacement) :
    (c.releaseDrag k p).dragging = false ∧ (c.releaseDrag k p).layoutPreviewing = p.layoutPreviewing := by
  unfold releaseDrag; split
  · exact ⟨rfl, rfl⟩
  · rename_i h; exact ⟨by simpa using h, rfl⟩

theorem releaseDrags_calm (c : DesktopWorkspaceController) (before : Placements) :
    Calm before (before.mapValues c.releaseDrag) :=
  .mapValues (fun k p h => by rw [(releaseDrag_flags k p).1] at h; cases h)
    fun k p h => by rwa [(releaseDrag_flags k p).2] at h

theorem closeOverview_calm : Calm c.state.placements c.closeOverview.state.placements := by
  unfold closeOverview; split
  · exact .refl _
  · exact releaseDrags_calm c _

theorem toggleOverview_calm (monitorId : Int) (bs bnds : Rect) (objs : Option (List Int)) :
    Calm c.state.placements (c.toggleOverview arrange monitorId bs bnds objs).state.placements := by
  unfold toggleOverview; split
  · exact closeOverview_calm
  split
  · exact .refl _
  dsimp only; split
  · exact .refl _
  · exact Calm.mapValues (f := fun _ p => { p with dragging := false }) (fun _ _ h => by cases h) fun _ _ h => h

theorem restoreOverviewDrag_calm (hp : c.state.placements.get? objectId = some placement) (o : DesktopOverviewState) :
    Calm c.state.placements (c.restoreOverviewDrag objectId placement o).state.placements :=
  .set hp (fun h => by cases h) id

theorem endOverviewDrag_calm (objectId : Int) (outputBounds workAreas : LinkedMap Int Rect) :
    Calm c.state.placements (c.endOverviewDrag objectId outputBounds workAreas).1.state.placements := by
  unfold endOverviewDrag; split
  · rename_i o placement ho hp; split
    · exact .refl _
    · split
      · exact .refl _
      dsimp only; split
      · exact restoreOverviewDrag_calm hp o
      split
      · exact restoreOverviewDrag_calm hp o
      · exact .set hp (fun h => by cases h) id
  · exact .refl _

theorem cancelOverviewDrag_calm (objectId : Int) :
    Calm c.state.placements (c.cancelOverviewDrag objectId).state.placements := by
  unfold cancelOverviewDrag; split
  · rename_i o placement ho hp; split
    · exact .refl _
    · exact restoreOverviewDrag_calm hp o
  · exact .refl _

theorem syncWindow_calm {seq : Int} {l : SyncState} (window : DenialWindow) :
    Calm l.placements (c.syncWindow viewSize seq viewMetricsChanged l window).placements := by
  unfold syncWindow; split
  · split
    · exact .refl _
    · exact ⟨From.set_new rfl, From.set_new rfl⟩
  rename_i old he
  have hge := @syncSnapshot_get? viewSize seq _ _ _ he
  have hs : Calm l.placements (syncSnapshot viewSize seq l window old).1.placements := by
    unfold syncSnapshot; split
    · exact .refl _
    obtain ⟨-, hd, hr, -, -⟩ := adoptSnapshot_keeps viewSize
      (l.pendingNativeFrames.get? window.objectId) old window
    dsimp only; split
    · exact .refl _
    · exact .set he (fun h => hd ▸ h) fun h => hr ▸ h
  generalize syncSnapshot viewSize seq l window old = snapshot at hge hs ⊢
  dsimp only; split
  · exact hs
  split
  · exact hs
  · exact hs.trans (.set hge id id)

theorem foldl_syncWindow_calm {seq : Int} :
    ∀ (wins : List DenialWindow) (l : SyncState),
      Calm l.placements (wins.foldl (c.syncWindow viewSize seq viewMetricsChanged) l).placements
  | [], _ => .refl _
  | window :: wins, _ => (syncWindow_calm window).trans (foldl_syncWindow_calm wins _)

theorem syncLoop_calm (h : Calm before c.state.placements) (wins : List DenialWindow) (viewSize : Size)
    (seq : Int) (viewMetricsChanged : Bool) :
    Calm before (c.syncLoop wins viewSize seq viewMetricsChanged).placements := by
  unfold syncLoop
  refine Calm.trans (h.trans ?_) (foldl_syncWindow_calm wins _); exact ⟨From.filter _, From.filter _⟩

theorem commitSync_calm {l : SyncState} (h : Calm before c.state.placements) (hl : Calm before l.placements) :
    Calm before (c.commitSync arrange viewSize l).state.placements := by
  unfold commitSync; dsimp only
  split
  · exact h
  split
  · exact hl.trans (releaseDrags_calm _ _)
  · exact hl

theorem syncUserWindows_calm (h : Calm before c.state.placements) (wins : List DenialWindow) (viewSize : Size)
    (seq : Int) (viewMetricsChanged : Bool) :
    Calm before (c.syncUserWindows arrange wins viewSize seq viewMetricsChanged).state.placements := by
  have hr : Calm before (c.retainActive wins).state.placements := h
  exact commitSync_calm hr (syncLoop_calm hr ..)

theorem syncWindows_calm (list : WindowList) (viewSize : Size) (dpr : F64) (seq : Int) : Calm c.state.placements
      (c.syncWindows arrange list viewSize dpr seq).state.placements := by
  unfold syncWindows; split
  · exact .refl _
  dsimp only; split
  · exact .refl _
  · refine syncUserWindows_calm ?_ ..; exact .refl _

theorem syncWorkAreas_calm (workAreas : LinkedMap Int Rect) :
    Calm c.state.placements (c.syncWorkAreas workAreas).state.placements := by
  have hf : ∀ (c' : DesktopWorkspaceController) (before : Placements),
      Calm before (before.mapValues fun _ p => c'.fitWorkArea p) := by
    intro c' before
    refine .mapValues (fun k p h => ?_) fun k p h => ?_ <;>
    · unfold fitWorkArea at h
      split at h <;> exact h
  unfold syncWorkAreas; split
  · exact .refl _
  dsimp only; split
  · exact .refl _
  split
  · exact .refl _
  · exact hf _ _

theorem Settles.dragging_of (h : Settles p p') (hd : p'.dragging = true) : p.dragging = true := by
  rcases h.dragging with hk | he
  · rwa [← hk]
  · rw [he] at hd; cases hd

theorem WindowStep.calm (h : c.WindowStep objectId c') : Calm c.state.placements c'.state.placements := by
  cases h with
  | rest => exact .refl _
  | raise => exact activate_calm objectId
  | place _ hp hs => exact .set hp hs.dragging_of hs.layoutPreviewing.symm.trans
  | author _ _ hp hs => exact .set hp hs.dragging_of hs.layoutPreviewing.symm.trans

/-! ## Calls that set a flag -/

def marks : WorkspaceCall → Bool
  | .beginOverviewDrag _ | .beginMove _ | .applyNativePlacement _ _ => true
  | _ => false

theorem call_calm {call : WorkspaceCall} (h : marks call = false) :
    Calm c.state.placements (c.call arrange call).state.placements := by
  by_cases hs : call.aside = true
  · have hk : c.KeepsWindows (c.call arrange call) := call_keeps hs
    exact hk.placements ▸ .refl _
  cases hw : call.window with
  | some objectId => exact (call_step hw).calm
  | none =>
    cases call with
    | syncWorkAreas workAreas => exact syncWorkAreas_calm workAreas
    | syncWindows list viewSize dpr seq =>
      exact syncWindows_calm list viewSize dpr seq
    | toggleOverview monitorId bs bnds objs =>
      exact toggleOverview_calm monitorId bs bnds objs
    | closeOverview => exact closeOverview_calm
    | endOverviewDrag objectId outputBounds workAreas => exact endOverviewDrag_calm objectId outputBounds workAreas
    | cancelOverviewDrag objectId => exact cancelOverviewDrag_calm objectId
    | beginOverviewDrag | beginMove | applyNativePlacement => cases h
    | _ => first | exact absurd rfl hs | cases hw

theorem beginMove_marks (objectId : Int) :
    (∀ k, From (·.layoutPreviewing) c.state.placements (c.beginMove objectId).state.placements k) ∧
      ∀ k, k ≠ objectId → From (·.dragging) c.state.placements (c.beginMove objectId).state.placements k := by
  unfold beginMove; split
  · exact ⟨From.refl _ _, fun k _ => From.refl _ _ k⟩
  split
  · exact ⟨From.refl _ _, fun k _ => From.refl _ _ k⟩
  · rename_i placement hp
    exact ⟨From.set (Option.filter_eq_some_iff.1 hp).1 id, fun k hk => From.set_ne hk _⟩

theorem beginOverviewDrag_marks (objectId : Int) :
    (∀ k, From (·.layoutPreviewing) c.state.placements (c.beginOverviewDrag objectId).state.placements k) ∧
      ∀ k, k ≠ objectId → From (·.dragging) c.state.placements (c.beginOverviewDrag objectId).state.placements k := by
  unfold beginOverviewDrag; split
  · rename_i o placement ho hp; split
    · exact ⟨From.refl _ _, fun k _ => From.refl _ _ k⟩
    · split
      · exact ⟨From.refl _ _, fun k _ => From.refl _ _ k⟩
      · exact ⟨From.set hp id, fun k hk => From.set_ne hk _⟩
  · exact ⟨From.refl _ _, fun k _ => From.refl _ _ k⟩

/-- A fresh event reaches the flags of a fullscreen placement only where it moves the window, onto the canvas. -/
def Reaching (viewSize : Size) (p : DesktopWindowPlacement) (event : DenialWindowPlacementEvent) : Prop :=
  p.fullscreen = true → (event.monitorId ≠ p.monitorId ∨ p.dragging = true) ∧
    (event.contentRect.intersect (.ofSize viewSize)).isEmpty = false

theorem nativePlacement_reaching (h : Reaching viewSize p event) :
    ∃ placed, nativePlacement viewSize p event = some placed ∧ placed.dragging = (withFlags p event).dragging ∧
      placed.layoutPreviewing = (withFlags p event).layoutPreviewing := by
  unfold nativePlacement; dsimp only
  split
  · rename_i hfu
    obtain ⟨hm, hf⟩ := h hfu
    rw [if_neg (by
      rw [Bool.and_eq_true, Bool.not_eq_true', Bool.not_eq_true', decide_eq_false_iff_not]
      rintro ⟨hn, hd⟩
      rcases hm with hm | hm
      · exact hn hm
      · rw [hd] at hm
        cases hm), if_neg (by rw [hf]; exact Bool.false_ne_true)]
    exact ⟨_, rfl, rfl, rfl⟩
  · exact ⟨_, rfl, rfl, rfl⟩

theorem nativePlacement_not_reaching {placed : DesktopWindowPlacement} (h : ¬Reaching viewSize p event)
    (hpl : nativePlacement viewSize p event = some placed) :
    placed.dragging = p.dragging ∧ placed.layoutPreviewing = p.layoutPreviewing := by
  unfold nativePlacement at hpl; dsimp only at hpl
  split at hpl
  · split at hpl
    · cases hpl; exact ⟨rfl, rfl⟩
    rename_i hfu hv; split at hpl
    · cases hpl
    · rename_i hr
      refine absurd (fun _ => ⟨?_, by simpa using hr⟩) h
      by_contra hn
      obtain ⟨hm, hd⟩ := not_or.1 hn
      exact hv (by simp [not_not.1 hm, hd])
  · rename_i hfu; exact absurd (fun hf => absurd hf hfu) h

/-- What becomes of an event for a window that is placed: it takes the flags of a reaching one, if it is newer, and
leaves them otherwise. -/
theorem placeNative_flags (event : DenialWindowPlacementEvent) (hp : c.state.placements.get? objectId = some p) :
    ∃ placed, (c.placeNative objectId event).1.state.placements.get? objectId = some placed ∧
      ((¬c.Stale objectId event ∧ Reaching c.state.viewSize p event → placed.dragging = (withFlags p event).dragging ∧
          placed.layoutPreviewing = (withFlags p event).layoutPreviewing) ∧
      (¬(¬c.Stale objectId event ∧ Reaching c.state.viewSize p event) →
        placed.dragging = p.dragging ∧ placed.layoutPreviewing = p.layoutPreviewing)) := by
  unfold placeNative Stale; rw [hp]
  dsimp only; split
  · rename_i hs
    exact ⟨p, hp, fun h => absurd hs h.1, fun _ => ⟨rfl, rfl⟩⟩
  rename_i hr
  cases hn : nativePlacement c.state.viewSize p event with
  | none =>
    refine ⟨p, hp, fun h => ?_, fun _ => ⟨rfl, rfl⟩⟩
    obtain ⟨placed, hpl, -⟩ := nativePlacement_reaching h.2
    rw [hn] at hpl; cases hpl
  | some placed =>
    refine ⟨placed, ?_, fun h => ?_, fun h => ?_⟩
    · dsimp only
      rw [place, get?_set, if_pos rfl]
    · obtain ⟨pl', hpl, hf⟩ := nativePlacement_reaching h.2; rw [hn] at hpl
      cases hpl; exact hf
    · exact nativePlacement_not_reaching (fun hre => h ⟨hr, hre⟩) hn

theorem placeNative_other {k : Int} (hk : k ≠ objectId) :
    (c.placeNative objectId event).1.state.placements.get? k = c.state.placements.get? k := by
  unfold placeNative; split
  · rfl
  split
  · rfl
  dsimp only; split
  · rfl
  · dsimp only
    rw [place, get?_set, if_neg hk]

theorem placeNative_none (h : c.state.placements.get? objectId = none) : (c.placeNative objectId event).1 = c := by
  unfold placeNative; rw [h]

theorem activate_flags (hp : c.state.placements.get? objectId = some p) :
    ∃ p', (c.activate objectId).state.placements.get? objectId = some p' ∧ p'.dragging = p.dragging ∧
      p'.layoutPreviewing = p.layoutPreviewing ∧ p'.fullscreen = p.fullscreen ∧ p'.monitorId = p.monitorId := by
  unfold activate; rw [hp]
  dsimp only; split
  · exact ⟨p, hp, rfl, rfl, rfl, rfl⟩
  · exact ⟨_, (get?_set ..).trans (if_pos rfl), rfl, rfl, rfl, rfl⟩

theorem activate_other {k : Int} (hk : k ≠ objectId) :
    (c.activate objectId).state.placements.get? k = c.state.placements.get? k := by
  unfold activate; split
  · rfl
  dsimp only; split
  · rfl
  · dsimp only
    rw [place, get?_set, if_neg hk]

theorem activate_viewSize : (c.activate objectId).state.viewSize = c.state.viewSize := by
  unfold activate; split
  · rfl
  · dsimp only
    split <;> rfl

/-- An event that reaches its window's flags: the overview is closed, the event newer than what was recorded, and a
fullscreen window is moved by it. -/
def Accepts (c : DesktopWorkspaceController) (objectId : Int) (p : DesktopWindowPlacement)
    (event : DenialWindowPlacementEvent) : Prop :=
  c.state.overviewActive = false ∧ ¬c.Stale objectId event ∧ Reaching c.state.viewSize p event

theorem applyNativePlacement_flags (event : DenialWindowPlacementEvent)
    (hp : c.state.placements.get? objectId = some p) :
    ∃ placed, (c.applyNativePlacement objectId event).1.state.placements.get? objectId = some placed ∧
      ((Accepts c objectId p event → placed.dragging = (withFlags p event).dragging ∧
          placed.layoutPreviewing = (withFlags p event).layoutPreviewing) ∧ (¬Accepts c objectId p event →
        placed.dragging = p.dragging ∧ placed.layoutPreviewing = p.layoutPreviewing)) := by
  unfold applyNativePlacement Accepts; split
  · rename_i ho
    refine ⟨p, hp, fun h => ?_, fun _ => ⟨rfl, rfl⟩⟩
    rw [h.1] at ho; cases ho
  rename_i ho; rw [Bool.not_eq_true] at ho; rw [eq_true ho, true_and]
  dsimp only; split
  · obtain ⟨p', hp', hd, hv, hfu, hm⟩ := activate_flags hp
    obtain ⟨placed, hpl, hr, hs⟩ := placeNative_flags event hp'
    have hre : Reaching (c.activate objectId).state.viewSize p' event ↔ Reaching c.state.viewSize p event := by
      unfold Reaching
      rw [activate_viewSize, hfu, hm, hd]
    have hs' : (c.activate objectId).Stale objectId event ↔ c.Stale objectId event := by
      unfold Stale; rw [activate_sequences]
    have hf : (withFlags p' event).dragging = (withFlags p event).dragging ∧
        (withFlags p' event).layoutPreviewing = (withFlags p event).layoutPreviewing := by
      simp [withFlags, hd, hv]
    rw [hre, hs', hf.1, hf.2] at hr
    rw [hre, hs', hd, hv] at hs; exact ⟨placed, hpl, hr, hs⟩
  · exact placeNative_flags event hp

theorem applyNativePlacement_other {k : Int} (hk : k ≠ objectId) :
    (c.applyNativePlacement objectId event).1.state.placements.get? k = c.state.placements.get? k := by
  unfold applyNativePlacement; split
  · rfl
  dsimp only; split
  · rw [placeNative_other hk, activate_other hk]
  · exact placeNative_other hk

theorem applyNativePlacement_none (h : c.state.placements.get? objectId = none) :
    (c.applyNativePlacement objectId event).1 = c := by
  have hac : c.activate objectId = c := by
    unfold activate; rw [h]
  unfold applyNativePlacement; split
  · rfl
  · dsimp only
    rw [hac, ite_self]; exact placeNative_none h

/-! ## Ends of moves and overview drags -/

theorem forgetDrag_state : (c.forgetDrag objectId).state = c.state := rfl

theorem restoreOverviewDrag_dragging {o : DesktopOverviewState}
    (hp' : (c.restoreOverviewDrag objectId placement o).state.placements.get? objectId = some p') :
    p'.dragging = false := by
  rw [restoreOverviewDrag] at hp'; dsimp only at hp'
  rw [place, get?_set, if_pos rfl] at hp'
  cases hp'; rfl

theorem endMove_dragging (ho : c.state.overviewActive = false)
    (hp' : (c.endMove objectId).state.placements.get? objectId = some p') : p'.dragging = false := by
  unfold endMove at hp'
  rw [if_neg (by rw [ho]; exact Bool.false_ne_true)] at hp'; dsimp only at hp'
  split at hp'
  · rename_i hn; rw [hn] at hp'; cases hp'
  rename_i placement hp; split at hp'
  · rename_i hu; rw [hp] at hp'; cases hp'
    simpa using hu
  · rw [place, get?_set, if_pos rfl] at hp'
    cases hp'; rfl

theorem endMove_overview (ho : c.state.overviewActive = true) : c.endMove objectId = c := by
  unfold endMove; rw [if_pos ho]

theorem cancelOverviewDrag_dragging (ho : c.state.overviewActive = true)
    (hp' : (c.cancelOverviewDrag objectId).state.placements.get? objectId = some p') : p'.dragging = false := by
  obtain ⟨o, ho⟩ := Option.isSome_iff_exists.1 ho; unfold cancelOverviewDrag at hp'
  rw [ho] at hp'
  cases hp : c.state.placements.get? objectId with
  | none =>
    rw [hp] at hp'; dsimp only at hp'
    rw [forgetDrag_state, hp] at hp'; cases hp'
  | some placement =>
    rw [hp] at hp'; dsimp only at hp'
    split at hp'
    · rename_i hu; rw [forgetDrag_state, hp] at hp'; cases hp'
      simpa using hu
    · exact restoreOverviewDrag_dragging hp'

theorem cancelOverviewDrag_state (ho : c.state.overviewActive = false) :
    (c.cancelOverviewDrag objectId).state = c.state := by
  unfold cancelOverviewDrag
  rw [Option.not_isSome_iff_eq_none.1 (Bool.eq_false_iff.1 ho)]; rfl

theorem endOverviewDrag_dragging (hm : c.state.isInOverview objectId = true)
    (hp' : (c.endOverviewDrag objectId outputBounds workAreas).1.state.placements.get? objectId = some p') :
    p'.dragging = false := by
  unfold endOverviewDrag at hp'
  cases ho : c.state.overview with
  | none =>
    rw [isInOverview, ho] at hm; cases hm
  | some o =>
    rw [ho] at hp'
    cases hp : c.state.placements.get? objectId with
    | none =>
      rw [hp] at hp'; dsimp only at hp'
      rw [forgetDrag_state, hp] at hp'; cases hp'
    | some placement =>
      rw [hp] at hp'; dsimp only at hp'
      split at hp'
      · rename_i hf
        rw [isInOverview, ho, Option.any_some, contains, hf] at hm
        cases hm
      split at hp'
      · rename_i hu; rw [forgetDrag_state, hp] at hp'; cases hp'
        simpa using hu
      split at hp'
      · exact restoreOverviewDrag_dragging hp'
      split at hp'
      · exact restoreOverviewDrag_dragging hp'
      dsimp only at hp'
      rw [place, get?_set, if_pos rfl] at hp'
      cases hp'; rfl

theorem endOverviewDrag_state (hm : c.state.isInOverview objectId = false) :
    (c.endOverviewDrag objectId outputBounds workAreas).1.state = c.state := by
  unfold endOverviewDrag
  cases ho : c.state.overview with
  | none => rfl
  | some o =>
    cases hp : c.state.placements.get? objectId with
    | none => rfl
    | some placement =>
      dsimp only
      have hf : o.frames.get? objectId = none := by
        simpa [isInOverview, ho, contains] using hm
      rw [hf]; rfl

end DesktopWorkspaceController

end Deniald.Desktop
