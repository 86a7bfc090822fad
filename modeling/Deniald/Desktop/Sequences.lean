/-
Native sequences in the desktop workspace: a recorded sequence only rises while its window is placed, and a
placement event that is not newer than the recorded sequence changes nothing, unless it begins a grab: the
window is raised before the event is looked at.
-/
import Deniald.Desktop.Stacking

namespace Deniald.Desktop

open Deniald.Lib
open LinkedMap

namespace DesktopWorkspaceController

variable {arrange : Arrange} {c : DesktopWorkspaceController} {objectId : Int}

/-! ## Recorded sequences -/

theorem activate_sequences (objectId : Int) : (c.activate objectId).nativeSequences = c.nativeSequences := by
  unfold activate; split
  · rfl
  · dsimp only
    split <;> rfl

theorem closeOverview_sequences : c.closeOverview.nativeSequences = c.nativeSequences := by
  unfold closeOverview
  split <;> rfl

theorem endOverviewDrag_sequences (objectId : Int) (bnds wa : LinkedMap Int Rect) :
    (c.endOverviewDrag objectId bnds wa).1.nativeSequences = c.nativeSequences := by
  unfold endOverviewDrag; split
  · split
    · rfl
    split
    · rfl
    dsimp only; split
    · rfl
    · split <;> rfl
  · rfl

theorem WindowStep.sequences {c' : DesktopWorkspaceController} (h : c.WindowStep objectId c') :
    c'.nativeSequences = c.nativeSequences := by
  cases h with
  | rest | place | author => rfl
  | raise => exact activate_sequences objectId

theorem call_sequences {call : WorkspaceCall} (hy : ∀ l v d n, call ≠ .syncWindows l v d n)
    (hn : ∀ k e, call ≠ .applyNativePlacement k e) : (c.call arrange call).nativeSequences = c.nativeSequences := by
  by_cases hs : call.aside = true
  · exact (call_keeps hs).sequences
  cases hw : call.window with
  | some objectId => exact (call_step hw).sequences
  | none =>
    cases call with
    | syncWorkAreas wa =>
      show (c.syncWorkAreas wa).nativeSequences = _; unfold syncWorkAreas
      repeat' first | split | dsimp only
    | syncWindows l v d n => exact absurd rfl (hy l v d n)
    | toggleOverview monitorId bs bnds objs =>
      show (c.toggleOverview arrange monitorId bs bnds objs).nativeSequences = _
      unfold toggleOverview; split
      · exact closeOverview_sequences
      · repeat' first | split | dsimp only
    | closeOverview => exact closeOverview_sequences
    | beginOverviewDrag objectId =>
      show (c.beginOverviewDrag objectId).nativeSequences = _; unfold beginOverviewDrag
      repeat' split
      all_goals rfl
    | endOverviewDrag objectId ob wa =>
      exact endOverviewDrag_sequences objectId ob wa
    | cancelOverviewDrag objectId =>
      show (c.cancelOverviewDrag objectId).nativeSequences = _; unfold cancelOverviewDrag
      repeat' split
      all_goals rfl
    | beginMove objectId =>
      show (c.beginMove objectId).nativeSequences = _; unfold beginMove
      repeat' split
      all_goals rfl
    | applyNativePlacement k e => exact absurd rfl (hn k e)
    | _ => first | exact absurd rfl hs | cases hw

variable {viewSize : Size} {k snapshotSequence : Int} {l : SyncState} {viewMetricsChanged : Bool}
  {event : DenialWindowPlacementEvent}

theorem syncSnapshot_sequences {window : DenialWindow} {old : DesktopWindowPlacement} :
    (syncSnapshot viewSize snapshotSequence l window old).1.nativeSequences =
      if snapshotSequence ≤ (l.nativeSequences.get? window.objectId).getD 0 then l.nativeSequences
      else l.nativeSequences.set window.objectId snapshotSequence := by
  unfold syncSnapshot; split
  · rfl
  · dsimp only
    split <;> rfl

variable {n : Int} {userWindows : List DenialWindow}

theorem syncWindow_sequences (window : DenialWindow) (hpl : (l.placements.get? k).isSome)
    (hn : ∃ m, l.nativeSequences.get? k = some m ∧ n ≤ m) :
    ((c.syncWindow viewSize snapshotSequence viewMetricsChanged l window).placements.get? k).isSome ∧
      ∃ m, (c.syncWindow viewSize snapshotSequence viewMetricsChanged l window).nativeSequences.get? k = some m ∧
        n ≤ m := by
  obtain ⟨m, hm, hle⟩ := hn; unfold syncWindow
  split
  · rename_i hno
    have hk : k ≠ window.objectId := by
      rintro rfl
      rw [hno] at hpl; cases hpl
    split
    · exact ⟨hpl, m, hm, hle⟩
    · dsimp only
      rw [get?_set, get?_set, if_neg hk, if_neg hk]; exact ⟨hpl, m, hm, hle⟩
  · rename_i old he
    have hge := @syncSnapshot_get? viewSize snapshotSequence _ _ _ he
    have hp' : ((syncSnapshot viewSize snapshotSequence l window old).1.placements.get? k).isSome := by
      unfold syncSnapshot; split
      · exact hpl
      dsimp only; split
      · exact hpl
      rw [get?_set]; split
      · rfl
      · exact hpl
    have hs : ∃ m, (syncSnapshot viewSize snapshotSequence l window old).1.nativeSequences.get? k = some m ∧
        n ≤ m := by
      rw [syncSnapshot_sequences]; split
      · exact ⟨m, hm, hle⟩
      rename_i hw; rw [get?_set]; split
      · rename_i hk; subst hk
        rw [hm, Option.getD_some] at hw; exact ⟨snapshotSequence, rfl, by omega⟩
      · exact ⟨m, hm, hle⟩
    generalize syncSnapshot viewSize snapshotSequence l window old = snapshot at hge hp' hs ⊢
    dsimp only; split
    · exact ⟨hp', hs⟩
    split
    · exact ⟨hp', hs⟩
    refine ⟨?_, hs⟩; dsimp only
    rw [get?_set]; split
    · rfl
    · exact hp'

theorem foldl_syncWindow_sequences :
    ∀ (wins : List DenialWindow) {l : SyncState}, (l.placements.get? k).isSome →
      (∃ m, l.nativeSequences.get? k = some m ∧ n ≤ m) →
      ∃ m, (wins.foldl (c.syncWindow viewSize snapshotSequence viewMetricsChanged) l).nativeSequences.get? k =
        some m ∧ n ≤ m
  | [], _, _, hn => hn
  | window :: wins, _, hpl, hn => by
    obtain ⟨hpl, hn⟩ := syncWindow_sequences window hpl hn
    exact foldl_syncWindow_sequences wins hpl hn

theorem syncWindow_other {window : DenialWindow} (hk : k ≠ window.objectId) :
    (c.syncWindow viewSize snapshotSequence viewMetricsChanged l window).placements.get? k = l.placements.get? k := by
  have hs : ∀ old, (syncSnapshot viewSize snapshotSequence l window old).1.placements.get? k =
      l.placements.get? k := by
    intro old; unfold syncSnapshot
    split
    · rfl
    dsimp only; split
    · rfl
    · rw [get?_set, if_neg hk]
  unfold syncWindow; split
  · split
    · rfl
    · rw [get?_set, if_neg hk]
  dsimp only; split
  · exact hs _
  split
  · exact hs _
  · rw [get?_set, if_neg hk]; exact hs _

theorem syncWindow_changed (window : DenialWindow) (h : l.changed = true) :
    (c.syncWindow viewSize snapshotSequence viewMetricsChanged l window).changed = true := by
  have hs : ∀ old, (syncSnapshot viewSize snapshotSequence l window old).1.changed = true := by
    intro old; unfold syncSnapshot
    split
    · exact h
    dsimp only; split
    · exact h
    · rfl
  unfold syncWindow; split
  · split
    · exact h
    · rfl
  dsimp only; split
  · exact hs _
  split
  · exact hs _
  · rfl

theorem foldl_syncWindow_other :
    ∀ {wins : List DenialWindow} {l : SyncState}, (∀ window ∈ wins, k ≠ window.objectId) →
      (wins.foldl (c.syncWindow viewSize snapshotSequence viewMetricsChanged) l).placements.get? k =
        l.placements.get? k
  | [], _, _ => rfl
  | window :: wins, l, h => by
    obtain ⟨hk, hr⟩ := List.forall_mem_cons.1 h
    rw [List.foldl_cons, foldl_syncWindow_other hr, syncWindow_other hk]

theorem foldl_syncWindow_changed :
    ∀ (wins : List DenialWindow) {l : SyncState}, l.changed = true →
      (wins.foldl (c.syncWindow viewSize snapshotSequence viewMetricsChanged) l).changed = true
  | [], _, h => h
  | window :: wins, _, h => foldl_syncWindow_changed wins (syncWindow_changed window h)

theorem commitSync_placed : ((c.commitSync arrange viewSize l).state.placements.get? k).isSome =
      if l.changed then (l.placements.get? k).isSome else (c.state.placements.get? k).isSome := by
  unfold commitSync
  cases hh : l.changed with
  | false => rfl
  | true =>
    dsimp only; rw [if_neg (by decide), if_pos rfl]
    split
    · rw [get?_mapValues, Option.isSome_map]
    · rfl

theorem commitSync_sequences : (c.commitSync arrange viewSize l).nativeSequences = l.nativeSequences := by
  unfold commitSync; dsimp only
  split
  · rfl
  · split <;> rfl

theorem active_of_placed
    (h : ((c.syncUserWindows arrange userWindows viewSize snapshotSequence viewMetricsChanged).state.placements.get?
      k).isSome) : isActive userWindows k = true := by
  by_contra hac
  have hw : ∀ window ∈ userWindows, k ≠ window.objectId := by
    rintro window hmem rfl
    exact hac (List.any_eq_true.2 ⟨window, hmem, decide_eq_true rfl⟩)
  unfold syncUserWindows at h; rw [commitSync_placed] at h
  split at h
  · unfold syncLoop at h
    rw [foldl_syncWindow_other hw, get?_filter] at h
    obtain ⟨p, hp⟩ := Option.isSome_iff_exists.1 h; exact hac (Option.filter_eq_some_iff.1 hp).2
  rename_i hh
  -- nothing changed, so no placement was filtered out
  have hs : (c.state.placements.filter fun objectId _ => isActive userWindows objectId).entries.length =
      c.state.placements.entries.length := by
    by_contra hne
    refine hh (foldl_syncWindow_changed userWindows ?_)
    rw [Bool.or_eq_true, decide_eq_true_eq]; exact .inr hne
  obtain ⟨p, hp⟩ := Option.isSome_iff_exists.1 h
  exact hac (List.length_filter_eq_length_iff.1 hs _ (get?_eq_some_iff.1 hp))

theorem syncUserWindows_sequences (hbe : (c.state.placements.get? k).isSome)
    (hf : ((c.syncUserWindows arrange userWindows viewSize snapshotSequence viewMetricsChanged).state.placements.get?
      k).isSome) (hn : c.nativeSequences.get? k = some n) :
    ∃ m, (c.syncUserWindows arrange userWindows viewSize snapshotSequence viewMetricsChanged).nativeSequences.get? k =
      some m ∧ n ≤ m := by
  have hac := active_of_placed hf; unfold syncUserWindows
  rw [commitSync_sequences]
  refine foldl_syncWindow_sequences userWindows ?_ ⟨n, ?_, le_refl n⟩
  · obtain ⟨p, hp⟩ := Option.isSome_iff_exists.1 hbe
    have hk : (c.state.placements.filter fun objectId _ => isActive userWindows objectId).get? k = some p := by
      rw [get?_filter, hp, Option.filter_some, if_pos hac]
    exact Option.isSome_iff_exists.2 ⟨p, hk⟩
  · unfold retainActive
    rw [get?_filter, hn, Option.filter_some, if_pos hac]

theorem syncWindows_sequences {list : WindowList} {dpr : F64} (hbe : (c.state.placements.get? k).isSome)
    (hf : ((c.syncWindows arrange list viewSize dpr snapshotSequence).state.placements.get? k).isSome)
    (hn : c.nativeSequences.get? k = some n) :
    ∃ m, (c.syncWindows arrange list viewSize dpr snapshotSequence).nativeSequences.get? k = some m ∧ n ≤ m := by
  unfold syncWindows at hf ⊢; split
  · exact ⟨n, hn, le_refl n⟩
  rename_i hs; rw [if_neg hs] at hf
  dsimp only at hf ⊢; split
  · exact ⟨n, hn, le_refl n⟩
  · rename_i hw; rw [if_neg hw] at hf
    exact syncUserWindows_sequences (by exact hbe) hf (by exact hn)

theorem placeNative_sequences (hn : c.nativeSequences.get? k = some n) :
    ∃ m, (c.placeNative objectId event).1.nativeSequences.get? k = some m ∧ n ≤ m := by
  unfold placeNative; split
  · exact ⟨n, hn, le_refl n⟩
  split
  · exact ⟨n, hn, le_refl n⟩
  rename_i hw; dsimp only; split
  · exact ⟨n, hn, le_refl n⟩
  dsimp only; rw [get?_set]
  split
  · rename_i hk; subst hk
    rw [hn, Option.getD_some] at hw; exact ⟨event.sequence, rfl, by omega⟩
  · exact ⟨n, hn, le_refl n⟩

theorem call_sequences_rise {call : WorkspaceCall} (hbe : (c.state.placements.get? k).isSome)
    (hf : ((c.call arrange call).state.placements.get? k).isSome) (hn : c.nativeSequences.get? k = some n) :
    ∃ m, (c.call arrange call).nativeSequences.get? k = some m ∧ n ≤ m := by
  by_cases hs : ∃ l v d s, call = .syncWindows l v d s
  · obtain ⟨l, v, d, s, rfl⟩ := hs; exact syncWindows_sequences hbe hf hn
  by_cases hna : ∃ id e, call = .applyNativePlacement id e
  · obtain ⟨id, event, rfl⟩ := hna
    show ∃ m, (c.applyNativePlacement id event).1.nativeSequences.get? k = some m ∧ n ≤ m
    unfold applyNativePlacement; split
    · exact ⟨n, hn, le_refl n⟩
    dsimp only; split
    · exact placeNative_sequences (by rw [activate_sequences]; exact hn)
    · exact placeNative_sequences hn
  · rw [call_sequences (fun l v d s h => hs ⟨l, v, d, s, h⟩) fun id e h => hna ⟨id, e, h⟩]
    exact ⟨n, hn, le_refl n⟩

/-! ## Stale events -/

def Stale (c : DesktopWorkspaceController) (objectId : Int) (event : DenialWindowPlacementEvent) : Prop :=
  event.sequence ≤ (c.nativeSequences.get? objectId).getD 0

def Raises (c : DesktopWorkspaceController) (objectId : Int) (event : DenialWindowPlacementEvent) : Prop :=
  event.phase = .begin ∧ event.change ≠ .layoutPreview ∧ c.state.overviewActive = false ∧
    ∃ p, c.state.placements.get? objectId = some p ∧ (p.minimized = true ∨ p.z ≠ c.state.topVisibleZ)

theorem activate_eq_iff : c.activate objectId = c ↔ ∀ p, c.state.placements.get? objectId = some p →
    c.state.overviewActive = false ∧ p.minimized = false ∧ p.z = c.state.topVisibleZ := by
  unfold activate
  cases hp : c.state.placements.get? objectId with
  | none => simp
  | some placement =>
    simp only [Option.some.injEq, forall_eq']
    constructor
    · intro h
      by_contra hne
      have hn : (!c.state.overviewActive && !placement.minimized && placement.z = c.state.topVisibleZ) ≠ true := by
        simpa [and_assoc] using hne
      rw [if_neg hn] at h
      have hnx := congrArg (fun c => c.state.nextZ) h; exact absurd hnx (Nat.succ_ne_self _)
    · rintro ⟨ho, hm, hz⟩
      rw [if_pos (by simp [ho, hm, hz])]

theorem placeNative_stale (h : c.Stale objectId event) : c.placeNative objectId event = (c, false) := by
  unfold placeNative; split
  · rfl
  · exact if_pos h

theorem applyNativePlacement_stale (h : c.Stale objectId event) :
    c.applyNativePlacement objectId event = (c, false) ↔ ¬c.Raises objectId event := by
  unfold applyNativePlacement
  cases ho : c.state.overviewActive with
  | true =>
    refine iff_of_true (if_pos rfl) ?_
    rintro ⟨-, -, hin, -⟩
    rw [ho] at hin; cases hin
  | false =>
    simp only [Bool.false_eq_true, if_false]
    by_cases hbe : event.phase = .begin ∧ event.change ≠ .layoutPreview
    · have hn : (event.phase = .begin && !layoutPreview event) = true := by
        simp [layoutPreview, hbe.1, hbe.2]
      have hst : (c.activate objectId).Stale objectId event := by
        unfold Stale
        rw [activate_sequences]; exact h
      rw [if_pos hn, placeNative_stale hst, Prod.mk.injEq, and_iff_left rfl, activate_eq_iff]
      unfold Raises
      constructor
      · rintro hk ⟨-, -, -, p, hp, hs⟩
        obtain ⟨-, hm, hz⟩ := hk p hp
        rcases hs with hs | hs
        · rw [hm] at hs; cases hs
        · exact hs hz
      · intro hr p hp
        refine ⟨ho, ?_, ?_⟩
        · by_contra hm
          exact hr ⟨hbe.1, hbe.2, ho, p, hp, .inl (by simpa using hm)⟩
        · by_contra hz
          exact hr ⟨hbe.1, hbe.2, ho, p, hp, .inr hz⟩
    · have hn : ¬(event.phase = .begin && !layoutPreview event) = true := by
        simpa [layoutPreview] using hbe
      rw [if_neg hn, placeNative_stale h]
      exact iff_of_true rfl fun hr => hbe ⟨hr.1, hr.2.1⟩

end DesktopWorkspaceController

open DesktopWorkspaceController

def workspaceAfter (arrange : Arrange) (calls : List WorkspaceCall) : DesktopWorkspaceController :=
  exec (DesktopWorkspaceController.call arrange) {} calls

/-- In every workspace that calls lead to: a stale placement event changes nothing exactly if it does not raise its
window by beginning a grab; the sequence recorded for a window does not fall over any further calls that leave it
placed; and the z of each placement is below the next one and no other's. -/
theorem stale_placements (arrange : Arrange) (calls : List WorkspaceCall) :
    let c := workspaceAfter arrange calls
    (∀ objectId event, c.Stale objectId event →
      (c.applyNativePlacement objectId event = (c, false) ↔ ¬c.Raises objectId event)) ∧
    (∀ objectId n more, (c.state.placements.get? objectId).isSome → c.nativeSequences.get? objectId = some n →
      Along (DesktopWorkspaceController.call arrange)
        (fun c call => ((c.call arrange call).state.placements.get? objectId).isSome) c more →
      ∃ m, (workspaceAfter arrange (calls ++ more)).nativeSequences.get? objectId = some m ∧ n ≤ m) ∧
    (∀ objectId p, c.state.placements.get? objectId = some p → p.z < c.state.nextZ) ∧
    ∀ objectId objectId' p p', c.state.placements.get? objectId = some p →
      c.state.placements.get? objectId' = some p' → objectId ≠ objectId' → p.z ≠ p'.z := by
  intro c
  have hord : c.ZOrdered :=
    exec_invariant (I := ZOrdered) (fun _ call h => call_zOrdered h call) calls initial_zOrdered
  refine ⟨fun objectId event h => applyNativePlacement_stale h, ?_, ?_, ?_⟩
  · intro objectId n more hplac hn hmor
    have hrun := exec_invariant_along
      (I := fun c : DesktopWorkspaceController => (c.state.placements.get? objectId).isSome ∧ ∃ m, c.nativeSequences.get? objectId = some m ∧ n ≤ m)
      (fun c call ⟨hplac, m, hm, hle⟩ haft => by
        obtain ⟨m', hm', hle'⟩ := call_sequences_rise hplac haft hm
        exact ⟨haft, m', hm', hle.trans hle'⟩) ⟨hplac, n, hn, le_refl n⟩ hmor
    unfold workspaceAfter
    rw [exec_append]; exact hrun.2
  · exact fun objectId p hp => hord.below objectId p.z (holdsZ_of_get? hp)
  · intro objectId objectId' p p' hp hp' hne hz
    exact hne (hord.distinct objectId objectId' p.z (holdsZ_of_get? hp) (hz ▸ holdsZ_of_get? hp'))

def exampleWindow (objectId : Int) : DenialWindow where
  objectId := objectId
  geometryX := 100
  geometryY := 100
  geometryWidth := 640
  geometryHeight := 480
  monitorId := 0

/-- A snapshot of two windows with sequence 5, the second above the first. -/
def twoWindows : List WorkspaceCall :=
  [.syncWindows ⟨0, [exampleWindow 1, exampleWindow 2]⟩ ⟨1920, 1080⟩ (.finite 1) 5]

/-- A grab of the first that began before, at sequence 3. -/
def staleBegin : DenialWindowPlacementEvent where
  sequence := 3
  contentRect := .fromLTWH 100 100 640 480
  monitorId := 0
  workspaceId := 1
  phase := .begin
  change := .move

theorem stale_begin_raises :
    (workspaceAfter (fun _ _ => .empty) twoWindows).Stale 1 staleBegin ∧
      (workspaceAfter (fun _ _ => .empty) twoWindows).applyNativePlacement 1 staleBegin ≠
        (workspaceAfter (fun _ _ => .empty) twoWindows, false) := by
  unfold Stale
  decide +kernel

end Deniald.Desktop
