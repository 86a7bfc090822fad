/-
The pending native frames as a record of who wrote last: through any calls, a frame is pending for exactly the
placed windows whose frame the shell wrote last.
-/
import Deniald.Desktop.Interactions
import Deniald.Desktop.Writers

namespace Deniald.Desktop

open Deniald.Lib

namespace DesktopWorkspaceController

variable {arrange : Arrange} {c c' : DesktopWorkspaceController} {objectId : Int} {w : Writers}

/-! ## The record -/

/-- A frame is pending for exactly the placed windows that the shell wrote last. -/
def Recorded (w : Writers) (placements : LinkedMap Int DesktopWindowPlacement) (pending : LinkedMap Int Rect) : Prop :=
  ∀ k, (pending.get? k).isSome = true ↔ (placements.get? k).isSome = true ∧ w k = some .shell

theorem wrote_nil : w.wrote [] = w := rfl

theorem wrote_append (first second : List (Int × Author)) : w.wrote (first ++ second) = (w.wrote first).wrote second :=
  List.foldl_append

theorem wrote_singleton (a : Author) : w.wrote [(objectId, a)] = Function.update w objectId (some a) := rfl

theorem wrote_shell (k : Int) : ∀ (w : Writers) (wr : List Int),
    w.wrote (wr.map fun k => (k, .shell)) k = some .shell ↔ k ∈ wr ∨ w k = some .shell
  | w, [] => by simp [wrote_nil]
  | w, k' :: wr => by
    have hn : w.wrote ((k' :: wr).map fun k => (k, Author.shell)) =
        Writers.wrote (Function.update w k' (some .shell)) (wr.map fun k => (k, .shell)) := rfl
    rw [hn, wrote_shell k _ wr, Function.update_apply, List.mem_cons]
    by_cases hk : k = k' <;> simp [hk]

theorem Recorded.shellStep (h : Recorded w c.state.placements c.pendingNativeFrames) (hstep : ShellStep c c') :
    Recorded (w.wrote (c.shellWrites c')) c'.state.placements c'.pendingNativeFrames := by
  intro k
  rw [hstep.pending, hstep.placed, shellWrites, wrote_shell, List.mem_filter, decide_eq_true_eq, h k]
  constructor
  · rintro (hw | ⟨hpl, hs⟩)
    · have hpl : (c.state.placements.get? k).isSome = true := by
        by_contra hn
        have hm := hstep.placed k; rw [Bool.not_eq_true] at hn
        rw [hn, Option.isSome_eq_false_iff, Option.isNone_iff_eq_none] at hm
        rw [Option.isSome_eq_false_iff, Option.isNone_iff_eq_none] at hn
        exact hw (by rw [framesOf, framesOf, hm, hn])
      refine ⟨hpl, .inl ⟨?_, hw⟩⟩
      obtain ⟨p, hp⟩ := Option.isSome_iff_exists.1 hpl
      exact List.mem_map_of_mem (LinkedMap.get?_eq_some_iff.1 hp)
    · exact ⟨hpl, .inr hs⟩
  · rintro ⟨hpl, ⟨-, hw⟩ | hs⟩
    · exact .inl hw
    · exact .inr ⟨hpl, hs⟩

section

variable {placements placements' : LinkedMap Int DesktopWindowPlacement} {pending pending' : LinkedMap Int Rect}

theorem Recorded.wrote (h : Recorded w placements pending) (a : Author)
    (hpl : ∀ k, k ≠ objectId → (placements'.get? k).isSome = (placements.get? k).isSome)
    (hn : ∀ k, k ≠ objectId → pending'.get? k = pending.get? k)
    (hs : (pending'.get? objectId).isSome = true ↔ (placements'.get? objectId).isSome = true ∧ a = .shell) :
    Recorded (w.wrote [(objectId, a)]) placements' pending' := by
  intro k; rw [wrote_singleton, Function.update_apply]
  by_cases hk : k = objectId
  · subst hk
    rw [if_pos rfl, Option.some.injEq]; exact hs
  · rw [if_neg hk, hpl k hk, hn k hk]; exact h k

theorem Recorded.congr (h : Recorded w placements pending)
    (hpl : ∀ k, (placements'.get? k).isSome = (placements.get? k).isSome) : Recorded w placements' pending := by
  intro k
  rw [hpl]; exact h k

theorem isSome_set_ne {p : DesktopWindowPlacement} (k : Int) (hk : k ≠ objectId) :
    ((placements.set objectId p).get? k).isSome = (placements.get? k).isSome := by
  rw [LinkedMap.get?_set, if_neg hk]

theorem isSome_set {p p' : DesktopWindowPlacement} (hp : placements.get? objectId = some p) (k : Int) :
    ((placements.set objectId p').get? k).isSome = (placements.get? k).isSome := by
  rw [LinkedMap.get?_set]; split
  · rename_i hk; rw [hk, hp]; rfl
  · rfl

theorem Recorded.set_shell (h : Recorded w placements pending) (p : DesktopWindowPlacement) (frame : Rect) :
    Recorded (w.wrote [(objectId, .shell)]) (placements.set objectId p) (pending.set objectId frame) := by
  refine h.wrote .shell isSome_set_ne (fun k hk => ?_) ?_
  · rw [LinkedMap.get?_set, if_neg hk]
  · simp

theorem Recorded.erase_compositor (h : Recorded w placements pending)
    (hpl : ∀ k, k ≠ objectId → (placements'.get? k).isSome = (placements.get? k).isSome) :
    Recorded (w.wrote [(objectId, .compositor)]) placements' (pending.erase objectId) := by
  refine h.wrote .compositor hpl (fun k hk => ?_) ?_
  · rw [LinkedMap.get?_erase, if_neg hk]
  · simp

theorem Recorded.free_compositor (h : Recorded w placements pending) (hf : pending.get? objectId = none)
    (hpl : ∀ k, k ≠ objectId → (placements'.get? k).isSome = (placements.get? k).isSome) :
    Recorded (w.wrote [(objectId, .compositor)]) placements' pending := by
  refine h.wrote .compositor hpl (fun _ _ => rfl) ?_
  rw [hf]; simp

end

/-! ## Events and drops -/

theorem endOverviewDrag_cases {r : DesktopWorkspaceController × Bool} {bnds wa : LinkedMap Int Rect}
    (h : c.endOverviewDrag objectId bnds wa = r) : (r.2 = false ∧ KeepsFrames c r.1) ∨ ∃ p frame, r.2 = true ∧
      r.1.state.placements = c.state.placements.set objectId p ∧
      r.1.pendingNativeFrames = c.pendingNativeFrames.set objectId frame := by
  unfold endOverviewDrag at h; split at h
  · rename_i o placement ho hp; split at h
    · subst h; exact .inl ⟨rfl, forgetDrag_frames objectId⟩
    · split at h
      · subst h; exact .inl ⟨rfl, forgetDrag_frames objectId⟩
      dsimp only at h; split at h
      · subst h
        exact .inl ⟨rfl, restoreOverviewDrag_frames hp o⟩
      split at h
      · subst h
        exact .inl ⟨rfl, restoreOverviewDrag_frames hp o⟩
      · subst h; exact .inr ⟨_, _, rfl, rfl, rfl⟩
  · subst h; exact .inl ⟨rfl, forgetDrag_frames objectId⟩

theorem endOverviewDrag_recorded (h : Recorded w c.state.placements c.pendingNativeFrames)
    (bnds wa : LinkedMap Int Rect) : Recorded (w.wrote (c.writes arrange (.endOverviewDrag objectId bnds wa)))
      (c.endOverviewDrag objectId bnds wa).1.state.placements
      (c.endOverviewDrag objectId bnds wa).1.pendingNativeFrames := by
  unfold writes; dsimp only
  generalize hr : c.endOverviewDrag objectId bnds wa = r
  rcases endOverviewDrag_cases hr with ⟨hf, hk⟩ | ⟨p, frame, hd, hpl, hn⟩
  · rw [if_neg (by rw [hf]; exact Bool.false_ne_true), hk.pending]
    exact h.congr hk.shellStep.placed
  · rw [if_pos hd, hpl, hn]; exact h.set_shell p frame

theorem activate_placed (k : Int) :
    ((c.activate objectId).state.placements.get? k).isSome = (c.state.placements.get? k).isSome :=
  (activate_frames objectId).shellStep.placed k

theorem activate_overview (ho : c.state.overviewActive = false) :
    (c.activate objectId).state.overviewActive = false := by
  unfold activate; split
  · exact ho
  dsimp only; split
  · exact ho
  · rfl

variable {event : DenialWindowPlacementEvent}

theorem takesEvent_iff (ho : c.state.overviewActive = false) :
    c.takesEvent objectId event = true ↔ (c.state.placements.get? objectId).isSome = true ∧ ¬c.Stale objectId event := by
  unfold takesEvent Stale; simp [ho]

theorem placeNative_pending (hpl : (c.state.placements.get? objectId).isSome) (hf : ¬c.Stale objectId event) :
    (c.placeNative objectId event).1.pendingNativeFrames = c.pendingNativeFrames.erase objectId := by
  obtain ⟨placement, hp⟩ := Option.isSome_iff_exists.1 hpl; unfold placeNative
  rw [hp]; dsimp only
  rw [if_neg (show ¬event.sequence ≤ (c.nativeSequences.get? objectId).getD 0 from hf)]
  split <;> rfl

theorem placeNative_recorded (h : Recorded w c.state.placements c.pendingNativeFrames)
    (ho : c.state.overviewActive = false) :
    Recorded (w.wrote (if c.takesEvent objectId event then [(objectId, .compositor)] else []))
      (c.placeNative objectId event).1.state.placements (c.placeNative objectId event).1.pendingNativeFrames := by
  by_cases hta : c.takesEvent objectId event = true
  · obtain ⟨hpl, hf⟩ := (takesEvent_iff ho).1 hta
    rw [if_pos hta, placeNative_pending hpl hf]
    exact h.erase_compositor fun k hk => by rw [placeNative_other hk]
  rw [if_neg hta]
  have hm : (c.placeNative objectId event).1 = c := by
    by_cases hs : c.Stale objectId event
    · rw [placeNative_stale hs]
    · refine placeNative_none (Option.not_isSome_iff_eq_none.1 fun hpl => hta ?_)
      exact (takesEvent_iff ho).2 ⟨hpl, hs⟩
  rw [hm]; exact h

theorem applyNativePlacement_overview (h : c.state.overviewActive = true) :
    c.applyNativePlacement objectId event = (c, false) := if_pos h

theorem applyNativePlacement_open (h : c.state.overviewActive = false) : c.applyNativePlacement objectId event =
      (if event.phase = .begin && !layoutPreview event then c.activate objectId else c).placeNative objectId event :=
  if_neg (by rw [h]; exact Bool.false_ne_true)

theorem applyNativePlacement_recorded (h : Recorded w c.state.placements c.pendingNativeFrames) :
    Recorded (w.wrote (c.writes arrange (.applyNativePlacement objectId event)))
      (c.applyNativePlacement objectId event).1.state.placements
      (c.applyNativePlacement objectId event).1.pendingNativeFrames := by
  unfold writes; dsimp only
  cases ho : c.state.overviewActive with
  | true =>
    have hk : c.takesEvent objectId event = false := by
      unfold takesEvent
      rw [ho]; rfl
    rw [hk, applyNativePlacement_overview ho]; exact h
  | false =>
    rw [applyNativePlacement_open ho]
    by_cases hbe : (event.phase = .begin && !layoutPreview event) = true
    · rw [if_pos hbe]
      have hac : (c.activate objectId).state.overviewActive = false := activate_overview ho
      have hk : (c.activate objectId).takesEvent objectId event = c.takesEvent objectId event := by
        unfold takesEvent
        rw [activate_sequences, activate_placed, hac, ho]
      rw [← hk]
      refine placeNative_recorded ?_ hac
      rw [(activate_frames objectId).pending]; exact h.congr activate_placed
    · rw [if_neg hbe]; exact placeNative_recorded h ho

/-! ## Snapshots -/

section

variable {viewSize : Size} {snapshotSequence : Int} {viewMetricsChanged : Bool} {l : SyncState} {window : DenialWindow}
  {existing : DesktopWindowPlacement}

theorem adoptSnapshot_guarded {pf : Option Rect} (h : takesGeometry viewSize pf existing window = false) :
    (adoptSnapshot viewSize pf existing window).2 = false := by
  by_contra hk; rw [Bool.not_eq_false] at hk
  have hr : (existing.dragging || existing.layoutPreviewing) = false := by
    by_contra hr; rw [Bool.not_eq_false] at hr
    rw [adoptSnapshot, if_pos hr] at hk; cases hk
  have hm : window.geometry.isSome := by
    by_contra hn
    rw [adoptSnapshot, if_neg (by rw [hr]; exact Bool.false_ne_true),
      Option.not_isSome_iff_eq_none.1 hn] at hk
    dsimp only at hk; split at hk
    · cases hk
    · split at hk <;> cases hk
  obtain ⟨hd, hv⟩ := Bool.or_eq_false_iff.1 hr
  simp [takesGeometry, hd, hv, hm, hk] at h

theorem syncSnapshot_recorded (h : Recorded w l.placements l.pendingNativeFrames) (viewSize : Size)
    (snapshotSequence : Int) (he : l.placements.get? window.objectId = some existing) : Recorded
      (w.wrote (if (l.nativeSequences.get? window.objectId).getD 0 < snapshotSequence &&
          takesGeometry viewSize (l.pendingNativeFrames.get? window.objectId) existing window
        then [(window.objectId, .compositor)] else []))
      (syncSnapshot viewSize snapshotSequence l window existing).1.placements
      (syncSnapshot viewSize snapshotSequence l window existing).1.pendingNativeFrames := by
  by_cases hf : (l.nativeSequences.get? window.objectId).getD 0 < snapshotSequence
  · have hpl : ∀ k, ((syncSnapshot viewSize snapshotSequence l window existing).1.placements.get? k).isSome =
        (l.placements.get? k).isSome := by
      intro k; unfold syncSnapshot
      rw [if_neg (not_le.2 hf)]; dsimp only
      split
      · rfl
      · exact isSome_set he k
    have hn : (syncSnapshot viewSize snapshotSequence l window existing).1.pendingNativeFrames =
        if (adoptSnapshot viewSize (l.pendingNativeFrames.get? window.objectId) existing window).2 then
          l.pendingNativeFrames.erase window.objectId
        else l.pendingNativeFrames := by
      unfold syncSnapshot; rw [if_neg (not_le.2 hf)]
      dsimp only
      split <;> rfl
    rw [hn, decide_eq_true hf, Bool.true_and]
    cases hk : takesGeometry viewSize (l.pendingNativeFrames.get? window.objectId) existing window with
    | false =>
      rw [adoptSnapshot_guarded hk]; exact h.congr hpl
    | true =>
      rw [if_pos rfl]; split
      · exact h.erase_compositor fun k _ => hpl k
      rename_i hac
      refine h.free_compositor ?_ fun k _ => hpl k
      simpa [takesGeometry, hac] using (Bool.and_eq_true_iff.1 hk).2
  · rw [if_neg (by simp [hf]), syncSnapshot, if_pos (not_lt.1 hf)]; exact h

theorem syncWindow_recorded (h : Recorded w l.placements l.pendingNativeFrames) :
    Recorded (w.wrote (c.windowWrites viewSize snapshotSequence viewMetricsChanged l window))
      (c.syncWindow viewSize snapshotSequence viewMetricsChanged l window).placements
      (c.syncWindow viewSize snapshotSequence viewMetricsChanged l window).pendingNativeFrames := by
  unfold windowWrites syncWindow
  cases hpl : l.placements.get? window.objectId with
  | none =>
    dsimp only
    cases hm : window.geometry with
    | none => exact h
    | some geometry =>
      have hr : l.pendingNativeFrames.get? window.objectId = none := by
        rw [← Option.not_isSome_iff_eq_none, h, hpl]; simp
      exact h.free_compositor hr isSome_set_ne
  | some existing =>
    dsimp only
    have hs := syncSnapshot_recorded h viewSize snapshotSequence hpl; rw [wrote_append]
    generalize syncSnapshot viewSize snapshotSequence l window existing = snapshot at hs ⊢
    -- then the view metrics
    generalize w.wrote _ = w' at hs ⊢
    cases viewMetricsChanged with
    | false => exact hs
    | true =>
      by_cases hf : c.metricsFrame viewSize snapshot.2 = snapshot.2.frame
      · simp only [hf, ne_eq, not_true_eq_false, decide_false, Bool.and_false, Bool.not_true, Bool.false_eq_true,
          if_false, if_true]
        exact hs
      simp only [hf, ne_eq, not_false_eq_true, decide_true, Bool.and_true, Bool.not_true, Bool.false_eq_true,
        if_false, if_true]
      exact hs.set_shell _ _

theorem loop_recorded : ∀ (wins : List DenialWindow) {w : Writers} {l : SyncState},
    Recorded w l.placements l.pendingNativeFrames →
    Recorded (w.wrote (c.loopWrites viewSize snapshotSequence viewMetricsChanged l wins))
      (wins.foldl (c.syncWindow viewSize snapshotSequence viewMetricsChanged) l).placements
      (wins.foldl (c.syncWindow viewSize snapshotSequence viewMetricsChanged) l).pendingNativeFrames
  | [], _, _, h => h
  | window :: wins, _, _, h => by
    rw [loopWrites, wrote_append]; exact loop_recorded wins (syncWindow_recorded h)

theorem syncWindow_unchanged (h : (c.syncWindow viewSize snapshotSequence viewMetricsChanged l window).changed = false) :
    l.changed = false ∧
      (c.syncWindow viewSize snapshotSequence viewMetricsChanged l window).placements = l.placements := by
  have hs : ∀ existing, (syncSnapshot viewSize snapshotSequence l window existing).1.changed = false →
      l.changed = false ∧ (syncSnapshot viewSize snapshotSequence l window existing).1.placements = l.placements := by
    intro existing hu
    unfold syncSnapshot at hu ⊢; split at hu
    · rename_i hst; rw [if_pos hst]; exact ⟨hu, rfl⟩
    rename_i hr; rw [if_neg hr]
    dsimp only at hu ⊢; split at hu
    · rename_i hsa; rw [if_pos hsa]; exact ⟨hu, rfl⟩
    · cases hu
  unfold syncWindow at h ⊢
  cases hpl : l.placements.get? window.objectId with
  | none =>
    rw [hpl] at h
    dsimp only at h ⊢
    cases hge : window.geometry with
    | none =>
      rw [hge] at h; exact ⟨h, rfl⟩
    | some geometry =>
      rw [hge] at h; cases h
  | some existing =>
    rw [hpl] at h
    dsimp only at h ⊢; split at h
    · rename_i hm; rw [if_pos hm]; exact hs existing h
    rename_i hm; split at h
    · rename_i hf; rw [if_neg hm, if_pos hf]; exact hs existing h
    · cases h

theorem loop_unchanged : ∀ (wins : List DenialWindow) {l : SyncState},
    (wins.foldl (c.syncWindow viewSize snapshotSequence viewMetricsChanged) l).changed = false →
    l.changed = false ∧
      (wins.foldl (c.syncWindow viewSize snapshotSequence viewMetricsChanged) l).placements = l.placements
  | [], _, h => ⟨h, rfl⟩
  | window :: wins, l, h => by
    obtain ⟨hf, hr⟩ := loop_unchanged wins h
    obtain ⟨hu, hpl⟩ := syncWindow_unchanged hf
    exact ⟨hu, hr.trans hpl⟩

theorem syncLoop_unchanged {wins : List DenialWindow}
    (h : (c.syncLoop wins viewSize snapshotSequence viewMetricsChanged).changed = false) :
    (c.syncLoop wins viewSize snapshotSequence viewMetricsChanged).placements = c.state.placements := by
  obtain ⟨hs, hpl⟩ := loop_unchanged wins h
  refine hpl.trans ?_
  have hlen := of_not_not (of_decide_eq_false (Bool.or_eq_false_iff.1 hs).2)
  have he : (c.state.placements.filter fun objectId _ => isActive wins objectId).entries =
      c.state.placements.entries := List.filter_eq_self.2 (List.length_filter_eq_length_iff.1 hlen)
  dsimp only
  cases hf : c.state.placements.filter fun objectId _ => isActive wins objectId
  cases hal : c.state.placements
  rw [hf, hal] at he
  congr

theorem commitSync_pending : (c.commitSync arrange viewSize l).pendingNativeFrames = l.pendingNativeFrames := by
  unfold commitSync; dsimp only
  split
  · rfl
  · split <;> rfl

theorem syncUserWindows_recorded (h : Recorded w c.state.placements c.pendingNativeFrames) (wins : List DenialWindow) :
    Recorded (w.wrote ((c.retainActive wins).loopWrites viewSize snapshotSequence viewMetricsChanged
        ((c.retainActive wins).loopStart wins viewMetricsChanged) wins))
      (c.syncUserWindows arrange wins viewSize snapshotSequence viewMetricsChanged).state.placements
      (c.syncUserWindows arrange wins viewSize snapshotSequence viewMetricsChanged).pendingNativeFrames := by
  have hs : Recorded w ((c.retainActive wins).loopStart wins viewMetricsChanged).placements
      ((c.retainActive wins).loopStart wins viewMetricsChanged).pendingNativeFrames := by
    intro k
    unfold loopStart retainActive; dsimp only
    rw [LinkedMap.isSome_get?_filter, LinkedMap.isSome_get?_filter, Bool.and_eq_true, Bool.and_eq_true, h k,
      and_right_comm]
  have hlo := @loop_recorded (c.retainActive wins) viewSize snapshotSequence viewMetricsChanged wins _ _
    hs
  unfold syncUserWindows; dsimp only
  rw [commitSync_pending]
  refine Recorded.congr hlo fun k => ?_; rw [commitSync_placed]
  split
  · rfl
  · rename_i hu; rw [Bool.not_eq_true] at hu
    rw [← syncLoop_unchanged hu]; rfl

theorem syncWindows_recorded (h : Recorded w c.state.placements c.pendingNativeFrames) (list : WindowList) (dpr : F64) :
    Recorded (w.wrote (c.syncWrites list viewSize dpr snapshotSequence))
      (c.syncWindows arrange list viewSize dpr snapshotSequence).state.placements
      (c.syncWindows arrange list viewSize dpr snapshotSequence).pendingNativeFrames := by
  unfold syncWrites syncWindows
  by_cases hz : viewSize.width ≤ 0 ∨ viewSize.height ≤ 0
  · rw [if_pos hz, if_pos hz]; exact h
  rw [if_neg hz, if_neg hz]; dsimp only
  by_cases hs : c.lastSyncedWindows = some list.identity ∧ snapshotSequence = c.lastSyncedSnapshotSequence ∧
      (!decide (usablePixelRatio dpr ≠ c.devicePixelRatio)) = true ∧ c.state.viewSize = viewSize
  · rw [if_pos hs, if_pos hs]; exact h
  · rw [if_neg hs, if_neg hs]; exact syncUserWindows_recorded (by exact h) _

end

/-! ## Every call -/

theorem call_shellStep {call : WorkspaceCall} (hn : ∀ objectId event, call ≠ .applyNativePlacement objectId event)
    (hy : ∀ list viewSize dpr snapshotSequence, call ≠ .syncWindows list viewSize dpr snapshotSequence)
    (hd : ∀ objectId bnds wa, call ≠ .endOverviewDrag objectId bnds wa) : ShellStep c (c.call arrange call) := by
  by_cases hs : call.aside = true
  · exact (call_keeps hs).keepsFrames.shellStep
  cases hw : call.window with
  | some objectId => exact (call_step hw).shellStep
  | none =>
    cases call with
    | syncWorkAreas wa => exact syncWorkAreas_shellStep wa
    | syncWindows list viewSize dpr snapshotSequence => exact absurd rfl (hy _ _ _ _)
    | toggleOverview monitorId bs bb objs =>
      exact (toggleOverview_frames monitorId bs bb objs).shellStep
    | closeOverview => exact closeOverview_frames.shellStep
    | beginOverviewDrag objectId => exact (beginOverviewDrag_frames objectId).shellStep
    | endOverviewDrag objectId bnds wa => exact absurd rfl (hd _ _ _)
    | cancelOverviewDrag objectId => exact (cancelOverviewDrag_frames objectId).shellStep
    | beginMove objectId => exact (beginMove_frames objectId).shellStep
    | applyNativePlacement objectId event => exact absurd rfl (hn _ _)
    | _ => first | exact absurd rfl hs | cases hw

theorem call_recorded (h : Recorded w c.state.placements c.pendingNativeFrames) (call : WorkspaceCall) :
    Recorded (w.wrote (c.writes arrange call)) (c.call arrange call).state.placements
      (c.call arrange call).pendingNativeFrames := by
  by_cases hn : ∃ objectId event, call = .applyNativePlacement objectId event
  · obtain ⟨objectId, event, rfl⟩ := hn; exact applyNativePlacement_recorded h
  by_cases hs : ∃ list viewSize devicePixelRatio snapshotSequence,
      call = .syncWindows list viewSize devicePixelRatio snapshotSequence
  · obtain ⟨list, viewSize, devicePixelRatio, snapshotSequence, rfl⟩ := hs
    exact syncWindows_recorded h list devicePixelRatio
  by_cases hd : ∃ objectId outputBounds workAreas, call = .endOverviewDrag objectId outputBounds workAreas
  · obtain ⟨objectId, outputBounds, workAreas, rfl⟩ := hd
    exact endOverviewDrag_recorded h outputBounds workAreas
  have hstep : ShellStep c (c.call arrange call) :=
    call_shellStep (fun id e heq => hn ⟨id, e, heq⟩) (fun l v d n heq => hs ⟨l, v, d, n, heq⟩)
      fun id o a heq => hd ⟨id, o, a, heq⟩
  have hw : c.writes arrange call = c.shellWrites (c.call arrange call) := by
    cases call with
    | applyNativePlacement objectId event => exact absurd ⟨objectId, event, rfl⟩ hn
    | syncWindows list viewSize devicePixelRatio snapshotSequence =>
      exact absurd ⟨list, viewSize, devicePixelRatio, snapshotSequence, rfl⟩ hs
    | endOverviewDrag objectId outputBounds workAreas => exact absurd ⟨objectId, outputBounds, workAreas, rfl⟩ hd
    | _ => rfl
  rw [hw]; exact h.shellStep hstep

theorem initial_recorded : Recorded (fun _ => none) DesktopWorkspaceState.initial.placements .empty := by
  intro k; simp [DesktopWorkspaceState.initial]

end DesktopWorkspaceController

end Deniald.Desktop
