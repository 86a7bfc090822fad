/-
Configure requests and their authors. The workspace, the publisher and the last author of every frame go through
calls and publications together; every request is due to a frame of the shell's own exactly if, at each
publication, what the compositor wrote was seen by the tracker before.
-/
import Deniald.Desktop.Authorship
import Deniald.Desktop.Publisher

namespace Deniald.Desktop

open Deniald.Lib

/-! ## Requests of a publication -/

theorem clamp_ge {α : Type} [LinearOrder α] {x lo hi : α} (h : lo ≤ hi) : lo ≤ clamp x lo hi := (clamp_mem h).1

/-- The request for one placement, from the rectangle that the tracker saw before the publication. -/
def placementRequest (tracker : DesktopWindowConfigureTracker) (windowsById : LinkedMap Int DenialWindow)
    (e : Int × DesktopWindowPlacement) : Option ConfigureRequest :=
  (windowsById.get? e.1).bind fun window =>
    (DesktopWindowConfigureTracker.update tracker window.objectId e.2.contentRect e.2.dragging).2.bind fun geometry =>
      configureWindow window geometry false

theorem configureWindow_rect (window : DenialWindow) (contentRect : Rect) :
    (configureWindow window (configuredGeometry contentRect).rect false).isSome = true ↔ 0 < window.windowId := by
  have hw : (64 : ℚ) ≤ (configuredGeometry contentRect).rect.width := by
    have h : (64 : Int) ≤ (configuredGeometry contentRect).width := clamp_ge (by decide)
    unfold ConfiguredGeometry.rect Rect.fromLTWH Rect.width; rw [add_sub_cancel_left]
    exact_mod_cast h
  have hh : (64 : ℚ) ≤ (configuredGeometry contentRect).rect.height := by
    have h : (64 : Int) ≤ (configuredGeometry contentRect).height := clamp_ge (by decide)
    unfold ConfiguredGeometry.rect Rect.fromLTWH Rect.height; rw [add_sub_cancel_left]
    exact_mod_cast h
  unfold configureWindow
  by_cases hid : window.windowId ≤ 0
  · rw [if_pos (.inl hid)]
    exact iff_of_false Bool.false_ne_true (not_lt.2 hid)
  rw [if_neg]
  · exact iff_of_true rfl (not_le.1 hid)
  · rintro (h | h | h)
    · exact hid h
    · linarith
    · linarith

theorem windowsById_objectId {source : DesktopInputLayoutSource} {k : Int} {window : DenialWindow}
    (h : source.windowsById.get? k = some window) : window.objectId = k := by
  obtain ⟨w, -, heq⟩ := List.mem_map.1 (LinkedMap.mem_of_ofList h)
  obtain ⟨rfl, rfl⟩ := Prod.mk.inj heq; rfl

section

open DesktopInputLayoutPublisher

variable {windowsById : LinkedMap Int DenialWindow}
  (hids : ∀ {k window}, windowsById.get? k = some window → window.objectId = k)

include hids in
theorem configureWindowGeometry_other {acc : DesktopWindowConfigureTracker × List ConfigureRequest}
    {e : Int × DesktopWindowPlacement} {k : Int} (hk : k ≠ e.1) :
    (configureWindowGeometry windowsById acc e).1.get? k = acc.1.get? k := by
  unfold configureWindowGeometry
  cases hw : windowsById.get? e.1 with
  | none => rfl
  | some window =>
    dsimp only [DesktopWindowConfigureTracker.update]
    rw [hids hw, LinkedMap.get?_set, if_neg hk]

theorem configureWindowGeometry_requests (acc : DesktopWindowConfigureTracker × List ConfigureRequest)
    (e : Int × DesktopWindowPlacement) :
    (configureWindowGeometry windowsById acc e).2 = acc.2 ++ (placementRequest acc.1 windowsById e).toList := by
  unfold configureWindowGeometry placementRequest
  cases windowsById.get? e.1 with
  | none => exact (List.append_nil _).symm
  | some window => rfl

include hids in
theorem placementRequest_congr {tracker t' : DesktopWindowConfigureTracker} {e : Int × DesktopWindowPlacement}
    (h : t'.get? e.1 = tracker.get? e.1) :
    placementRequest t' windowsById e = placementRequest tracker windowsById e := by
  unfold placementRequest
  cases hw : windowsById.get? e.1 with
  | none => rfl
  | some window =>
    dsimp only [Option.bind_some, DesktopWindowConfigureTracker.update]; rw [hids hw, h]

include hids in
theorem mem_requests {r : ConfigureRequest} : ∀ {es : List (Int × DesktopWindowPlacement)}
    {acc : DesktopWindowConfigureTracker × List ConfigureRequest}, (es.map Prod.fst).Nodup →
    (r ∈ (es.foldl (configureWindowGeometry windowsById) acc).2 ↔
      r ∈ acc.2 ∨ ∃ e ∈ es, placementRequest acc.1 windowsById e = some r)
  | [], acc, _ => by simp
  | e :: es, acc, hn => by
    obtain ⟨hw, hn⟩ := List.nodup_cons.1 hn
    have hs : ∀ e' ∈ es, placementRequest (configureWindowGeometry windowsById acc e).1 windowsById e' =
        placementRequest acc.1 windowsById e' := by
      intro e' he'
      refine placementRequest_congr hids (configureWindowGeometry_other hids fun heq => hw ?_)
      exact heq ▸ List.mem_map_of_mem he'
    rw [List.foldl_cons, mem_requests hn, configureWindowGeometry_requests, List.mem_append, Option.mem_toList]
    constructor
    · rintro ((hr | hr) | ⟨e', he', hr⟩)
      · exact .inl hr
      · exact .inr ⟨e, List.mem_cons_self .., hr⟩
      · exact .inr ⟨e', List.mem_cons_of_mem _ he', hs e' he' ▸ hr⟩
    · rintro (hr | ⟨e', he', hr⟩)
      · exact .inl (.inl hr)
      · rcases List.mem_cons.1 he' with rfl | he'
        · exact .inl (.inr hr)
        · exact .inr ⟨e', he', (hs e' he').trans hr⟩

end

variable {tracker : DesktopWindowConfigureTracker} {e : Int × DesktopWindowPlacement}

theorem placementRequest_isSome_iff {source : DesktopInputLayoutSource} :
    (placementRequest tracker source.windowsById e).isSome = true ↔
      ∃ window, source.windowsById.get? e.1 = some window ∧ 0 < window.windowId ∧ e.2.dragging = false ∧
        ∃ prev, tracker.get? e.1 = some prev ∧ prev ≠ configuredGeometry e.2.contentRect := by
  unfold placementRequest
  cases hw : source.windowsById.get? e.1 with
  | none => simp
  | some window =>
    rw [Option.bind_some, DesktopWindowConfigureTracker.update, windowsById_objectId hw]
    cases tracker.get? e.1 with
    | none => simp
    | some prev =>
      dsimp only
      by_cases hqu : (e.2.dragging || decide (prev = configuredGeometry e.2.contentRect)) = true
      · rw [if_pos hqu, Option.bind_none]
        refine iff_of_false Bool.false_ne_true ?_
        rintro ⟨window, -, -, hd, previous', hr, hh⟩; cases hr
        simp [hd, hh] at hqu
      · rw [if_neg hqu, Option.bind_some, configureWindow_rect]
        simp only [Bool.or_eq_true, decide_eq_true_eq, not_or, Bool.not_eq_true] at hqu
        simp [hqu.1, hqu.2]

theorem placementRequest_objectId {source : DesktopInputLayoutSource} {r : ConfigureRequest}
    (h : placementRequest tracker source.windowsById e = some r) : r.objectId = e.1 := by
  unfold placementRequest at h
  obtain ⟨window, hw, h⟩ := Option.bind_eq_some_iff.1 h
  obtain ⟨geometry, -, h⟩ := Option.bind_eq_some_iff.1 h; unfold configureWindow at h
  split at h
  · cases h
  · cases h; exact windowsById_objectId hw

theorem placements_nodup (source : DesktopInputLayoutSource) : (source.placements.reverse.map Prod.fst).Nodup := by
  rw [List.map_reverse, List.nodup_reverse]
  refine ((List.mergeSort_perm ..).map Prod.fst).nodup_iff.2 ?_
  exact source.desktop.placements.nodup.sublist (List.filter_sublist.map _)

/-- A publication that is due. -/
def DesktopInputLayoutPublisher.Publishes (publisher : DesktopInputLayoutPublisher) (source : DesktopInputLayoutSource) :
    Prop :=
  ¬(publisher.lastSource.any fun last => last.hasSameInputsAs source) ∧ 0 < source.viewSize.width ∧
    0 < source.viewSize.height

theorem mem_publishSource {p : DesktopInputLayoutPublisher} {source : DesktopInputLayoutSource}
    {lay : Bool} {r : ConfigureRequest} : r ∈ (p.publishSource source lay).2 ↔ p.Publishes source ∧
      ∃ e ∈ source.placements, placementRequest p.configureTracker source.windowsById e = some r := by
  unfold DesktopInputLayoutPublisher.publishSource DesktopInputLayoutPublisher.Publishes
  by_cases hm : (p.lastSource.any fun last => last.hasSameInputsAs source) = true
  · rw [if_pos hm]
    exact iff_of_false (List.not_mem_nil) fun h => h.1.1 hm
  rw [if_neg hm]; unfold DesktopInputLayoutPublisher.publish
  by_cases hs : source.viewSize.width ≤ 0 ∨ source.viewSize.height ≤ 0
  · rw [if_pos hs]
    refine iff_of_false (List.not_mem_nil) fun h => ?_
    obtain ⟨⟨-, hw, hh⟩, -⟩ := h
    rcases hs with hs | hs
    · exact absurd hs (not_le.2 hw)
    · exact absurd hs (not_le.2 hh)
  · rw [if_neg hs]; dsimp only
    rw [mem_requests windowsById_objectId (placements_nodup source)]
    have hpos : 0 < source.viewSize.width ∧ 0 < source.viewSize.height := by
      simpa [not_or] using hs
    simp [hm, hpos]

/-! ## Sessions -/

/-- The workspace, the publisher, and the last author of each frame. -/
structure ConfigureSession where
  workspace : DesktopWorkspaceController := {}
  publisher : DesktopInputLayoutPublisher := {}
  writers : Writers := fun _ => none

/-- The callback of `_schedulePublish` calls `syncWorkspaceConfiguration` and `syncWindows` before it publishes. -/
inductive ConfigureEvent where
  | call (call : WorkspaceCall)
  /-- The end of a drag in the overview (`_endOverviewDrag` of the shell). -/
  | drop (window : DenialWindow) (outputBounds workAreas : LinkedMap Int Rect)
  /-- A publication, which reads the workspace itself. -/
  | publish (source : DesktopInputLayoutSource) (layoutTaken : Bool)

namespace ConfigureSession

variable (arrange : Arrange) (s : ConfigureSession)

def source (source : DesktopInputLayoutSource) : DesktopInputLayoutSource := { source with desktop := s.workspace.state }

def called (call : WorkspaceCall) : ConfigureSession :=
  { s with workspace := s.workspace.call arrange call, writers := s.writers.wrote (s.workspace.writes arrange call) }

def next : ConfigureEvent → ConfigureSession
  | .call call => s.called arrange call
  | .drop window outputBounds workAreas => s.called arrange (.endOverviewDrag window.objectId outputBounds workAreas)
  | .publish source layoutTaken => { s with publisher := (s.publisher.publishSource (s.source source) layoutTaken).1 }

def requests : ConfigureEvent → List ConfigureRequest
  | .call _ => []
  | .drop window outputBounds workAreas =>
    let (workspace, transferred) := s.workspace.endOverviewDrag window.objectId outputBounds workAreas
    if transferred then
      ((workspace.state.placements.get? window.objectId).bind fun p => configureWindow window p.contentRect true).toList
    else []
  | .publish source layoutTaken => (s.publisher.publishSource (s.source source) layoutTaken).2

/-- Every request is due to a frame of the shell's own, written after any of the compositor's. -/
def Authored (e : ConfigureEvent) : Prop :=
  ∀ r ∈ s.requests e, (s.next arrange e).writers r.objectId = some .shell

/-- A publication finds the tracker to have seen the rectangle of every presented window for which no frame of the
shell's own is pending, unless the window is dragged or new to it. -/
def Seen : ConfigureEvent → Prop
  | .publish source _ => s.publisher.Publishes (s.source source) →
    ∀ e ∈ (s.source source).placements, ∀ window, (s.source source).windowsById.get? e.1 = some window →
      0 < window.windowId → e.2.dragging = false → s.workspace.pendingNativeFrames.get? e.1 = none →
        ∀ previous, s.publisher.configureTracker.get? e.1 = some previous →
          previous = configuredGeometry e.2.contentRect
  | _ => True

variable {arrange} {s}

open DesktopWorkspaceController

def Inv (s : ConfigureSession) : Prop :=
  Recorded s.writers s.workspace.state.placements s.workspace.pendingNativeFrames

theorem Inv.next (h : s.Inv) (e : ConfigureEvent) : (s.next arrange e).Inv := by
  cases e with
  | call call => exact call_recorded h call
  | drop window bnds wa => exact call_recorded h _
  | publish source lay => exact h

theorem mem_placements {source : DesktopInputLayoutSource} {e : Int × DesktopWindowPlacement}
    (h : e ∈ source.placements) : source.desktop.placements.get? e.1 = some e.2 :=
  LinkedMap.get?_eq_some_iff.2 (List.mem_filter.1 ((List.mergeSort_perm ..).mem_iff.1 h)).1

theorem drop_authored (window : DenialWindow) (bnds wa : LinkedMap Int Rect) :
    s.Authored arrange (.drop window bnds wa) := by
  intro r hr; unfold requests at hr
  dsimp only at hr; split at hr
  · rename_i hn
    obtain ⟨p, -, hre⟩ := Option.bind_eq_some_iff.1 (Option.mem_toList.1 hr)
    unfold configureWindow at hre; split at hre
    · cases hre
    cases hre
    have hw : s.workspace.writes arrange (.endOverviewDrag window.objectId bnds wa) =
        [(window.objectId, .shell)] := if_pos hn
    unfold next called; dsimp only
    rw [hw, wrote_singleton, Function.update_self]
  · cases hr

/-- A publication sends only what the shell wrote exactly if the tracker has seen the rest. -/
theorem Inv.seen_iff (h : s.Inv) (e : ConfigureEvent) : s.Seen e ↔ s.Authored arrange e := by
  cases e with
  | call call =>
    refine iff_of_true trivial fun r hr => ?_; cases hr
  | drop window bnds wa => exact iff_of_true trivial (drop_authored window bnds wa)
  | publish source lay =>
    constructor
    · intro hse r hr
      obtain ⟨hpu, e, he, hre⟩ := mem_publishSource.1 hr
      obtain ⟨window, hw, hid, hd, previous, hv, hh⟩ :=
        placementRequest_isSome_iff.1 (Option.isSome_iff_exists.2 ⟨r, hre⟩)
      have hn : (s.workspace.pendingNativeFrames.get? e.1).isSome = true := by
        by_contra hno
        exact hh (hse hpu e he window hw hid hd (Option.not_isSome_iff_eq_none.1 hno) previous
          hv)
      rw [placementRequest_objectId hre]; exact ((h e.1).1 hn).2
    · intro hau hpu e he window hw hid hd hn previous hv
      by_contra hh
      obtain ⟨r, hre⟩ := Option.isSome_iff_exists.1
        (placementRequest_isSome_iff.2 ⟨window, hw, hid, hd, previous, hv, hh⟩)
      have hs := hau r (mem_publishSource.2 ⟨hpu, e, he, hre⟩)
      rw [placementRequest_objectId hre] at hs
      have hpl : (s.workspace.state.placements.get? e.1).isSome = true :=
        Option.isSome_iff_exists.2 ⟨e.2, mem_placements he⟩
      have hm := (h e.1).2 ⟨hpl, hs⟩
      rw [hn] at hm; cases hm

/-- Over every run of calls, drops and publications, each configure request is due to a frame that the shell wrote
after any of the compositor's, exactly if each publication finds the compositor's frames seen by the tracker. -/
theorem configures_authored (arrange : Arrange) (events : List ConfigureEvent) :
    Along (next arrange) Seen {} events ↔ Along (next arrange) (Authored arrange) {} events := by
  have hstar : Inv {} := initial_recorded
  constructor
  · exact Along.of_invariant (fun _ e h _ => h.next e) (fun _ e h hseen => (h.seen_iff e).1 hseen) hstar
  · exact Along.of_invariant (fun _ e h _ => h.next e) (fun _ e h haut => (h.seen_iff e).2 haut) hstar

def exampleSource : DesktopInputLayoutSource where
  viewSize := ⟨1920, 1080⟩
  devicePixelRatio := .finite 1
  windows := ⟨0, [exampleWindow 1]⟩
  windowSnapshotSequence := 1
  desktop := .initial
  switcher := none
  interactions := ⟨0, false⟩

def scheduledCalls : List ConfigureEvent :=
  [.call (.syncWorkspaceConfiguration true 4 [0]),
    .call (.syncWindows ⟨0, [exampleWindow 1]⟩ ⟨1920, 1080⟩ (.finite 1) 1)]

/-- A layout preview moves the window off the left edge between two publications. -/
def previewOffScreen : List ConfigureEvent :=
  scheduledCalls ++
    [.publish exampleSource true,
      .call (.applyNativePlacement 1
        { sequence := 2
          contentRect := .fromLTWH (-200) 100 640 480
          monitorId := 0
          workspaceId := 1
          phase := .begin
          change := .layoutPreview })] ++
    scheduledCalls

/-- The second publication sends the window back to the edge. -/
theorem preview_echoed :
    (exec (next fun _ _ => .empty) {} previewOffScreen).requests (.publish exampleSource true) =
        [⟨1, 1, ⟨0, 100, 640, 480⟩, false⟩] ∧
      (exec (next fun _ _ => .empty) {} previewOffScreen).writers 1 = some .compositor := by
  decide +kernel

end ConfigureSession

end Deniald.Desktop
