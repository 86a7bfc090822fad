/-
Which workspace a window belongs to: what every operation of the workspaces keeps, and what those keep that no remembered
window is moved away under its workspace's memory.
-/
import Deniald.Workspace.State

namespace Deniald.Workspace

open Deniald.Lib Deniald.Settings Deniald.Topology

/-! ## What is kept -/

def WaylandFrontend.InRange (s : WaylandFrontend) (workspace : UInt8) :
    Prop := 1 ≤ workspace ∧ workspace ≤ s.workspaceCount

/-- A window is in a workspace or minimized, a workspace that is used exists, and so does one shown. -/
structure Membership (s : WaylandFrontend) : Prop where
  apart : ∀ w location, s.windowWorkspaces.lookup w = some location → s.minimizedWindowOutputs.lookup w = none
  located : ∀ w location, s.windowWorkspaces.lookup w = some location →
    location.output ∈ s.outputs ∧ s.InRange location.workspace
  active : ∀ output, s.InRange (s.activeWorkspace output)

structure Remembered (s : WaylandFrontend) : Prop where
  located : ∀ key w, s.workspaceFocusHistory.lookup key = some w →
    s.windowWorkspaces.lookup w = some ⟨key.1, key.2⟩
  shown : ∀ key w, s.workspaceFocusHistory.lookup key = some w → w ∉ s.minimized

structure Kept (s : WaylandFrontend) : Prop extends Membership s where
  count : 1 ≤ s.workspaceCount
  ticker : ∀ output, s.tickerOutput = some output → output ∈ s.outputs
  minimized : ∀ w output, s.minimizedWindowOutputs.lookup w = some output → w ∈ s.minimized

/-! ### One window -/

/-- What one operation leaves as it was: all but one window. -/
structure Touches (w : WindowId) (s s' : WaylandFrontend) : Prop where
  outputs : s'.outputs = s.outputs
  tickerOutput : s'.tickerOutput = s.tickerOutput
  workspacesEnabled : s'.workspacesEnabled = s.workspacesEnabled
  workspaceCount : s'.workspaceCount = s.workspaceCount
  activeWorkspaces : s'.activeWorkspaces = s.activeWorkspaces
  windowWorkspaces : ∀ v, v ≠ w → s'.windowWorkspaces.lookup v = s.windowWorkspaces.lookup v
  minimizedWindowOutputs : ∀ v, v ≠ w → s'.minimizedWindowOutputs.lookup v = s.minimizedWindowOutputs.lookup v
  minimized : ∀ v, v ≠ w → (v ∈ s'.minimized ↔ v ∈ s.minimized)
  history : ∀ key v, v ≠ w → s'.workspaceFocusHistory.lookup key = some v → s.workspaceFocusHistory.lookup key = some v

structure Placed (w : WindowId) (s : WaylandFrontend) : Prop where
  apart : ∀ location, s.windowWorkspaces.lookup w = some location → s.minimizedWindowOutputs.lookup w = none
  located : ∀ location, s.windowWorkspaces.lookup w = some location →
    location.output ∈ s.outputs ∧ s.InRange location.workspace
  minimized : ∀ output, s.minimizedWindowOutputs.lookup w = some output → w ∈ s.minimized

variable {s s' s'' : WaylandFrontend} {w : WindowId}

theorem Touches.refl (w : WindowId) (s : WaylandFrontend) : Touches w s s :=
  ⟨rfl, rfl, rfl, rfl, rfl, fun _ _ => rfl, fun _ _ => rfl, fun _ _ => .rfl, fun _ _ _ h => h⟩

theorem Touches.trans (h : Touches w s s') (h' : Touches w s' s'') : Touches w s s'' :=
  ⟨h'.outputs.trans h.outputs, h'.tickerOutput.trans h.tickerOutput, h'.workspacesEnabled.trans h.workspacesEnabled,
    h'.workspaceCount.trans h.workspaceCount, h'.activeWorkspaces.trans h.activeWorkspaces,
    fun v hv => (h'.windowWorkspaces v hv).trans (h.windowWorkspaces v hv),
    fun v hv => (h'.minimizedWindowOutputs v hv).trans (h.minimizedWindowOutputs v hv),
    fun v hv => (h'.minimized v hv).trans (h.minimized v hv),
    fun key v hv hk => h.history key v hv (h'.history key v hv hk)⟩

theorem Kept.placed (h : Kept s) (w : WindowId) : Placed w s := ⟨h.apart w, h.located w, h.minimized w⟩

theorem Kept.of_touches (h : Kept s) (ht : Touches w s s') (hp : Placed w s') : Kept s' where
  apart v location hv := by
    by_cases heq : v = w
    · subst heq; exact hp.apart location hv
    · rw [ht.minimizedWindowOutputs v heq]
      exact h.apart v location ((ht.windowWorkspaces v heq).symm.trans hv)
  located v location hv := by
    by_cases heq : v = w
    · subst heq; exact hp.located location hv
    unfold WaylandFrontend.InRange; rw [ht.outputs, ht.workspaceCount]
    exact h.located v location ((ht.windowWorkspaces v heq).symm.trans hv)
  active output := by
    unfold WaylandFrontend.InRange WaylandFrontend.activeWorkspace
    rw [ht.workspaceCount, ht.activeWorkspaces]; exact h.active output
  count := by
    rw [ht.workspaceCount]; exact h.count
  ticker output ho := by
    rw [ht.outputs]
    exact h.ticker output (ht.tickerOutput.symm.trans ho)
  minimized v output hv := by
    by_cases heq : v = w
    · subst heq; exact hp.minimized output hv
    · exact (ht.minimized v heq).2 (h.minimized v output ((ht.minimizedWindowOutputs v heq).symm.trans hv))

theorem Remembered.of_touches (h : Remembered s) (ht : Touches w s s')
    (hw : ∀ key, s'.workspaceFocusHistory.lookup key = some w →
      s'.windowWorkspaces.lookup w = some ⟨key.1, key.2⟩ ∧ w ∉ s'.minimized) : Remembered s' where
  located key v hk := by
    by_cases heq : v = w
    · subst heq; exact (hw key hk).1
    · rw [ht.windowWorkspaces v heq]; exact h.located key v (ht.history key v heq hk)
  shown key v hk := by
    by_cases heq : v = w
    · subst heq; exact (hw key hk).2
    · rw [ht.minimized v heq]; exact h.shown key v (ht.history key v heq hk)

theorem Remembered.not_minimized (h : Remembered s) (hw : w ∈ s.minimized) (key : OutputId × UInt8) :
    s.workspaceFocusHistory.lookup key ≠ some w := fun hk => h.shown key w hk hw

namespace WaylandFrontend

theorem lookup_unremember {key : OutputId × UInt8} {v : WindowId} :
    (s.unremember w).workspaceFocusHistory.lookup key = some v ↔
      s.workspaceFocusHistory.lookup key = some v ∧ v ≠ w := by
  unfold unremember
  rw [lookup_retainValues, Option.filter_eq_some_iff, bne_iff_ne]

/-! ## Operations on one window -/

theorem reconcile_touches (w : WindowId) (output : OutputId) (m : Bool) (s : WaylandFrontend) :
    Touches w s (s.reconcileWorkspaceAssignment w output m) := by
  unfold reconcileWorkspaceAssignment; split
  · exact Touches.refl w s
  split
  · split
    · refine ⟨rfl, rfl, rfl, rfl, rfl, fun v hv => ?_, fun v hv => ?_, fun _ _ => .rfl, fun _ _ _ h => h⟩
      · exact AList.lookup_erase_ne hv
      · exact AList.lookup_insert_ne hv
    · refine ⟨rfl, rfl, rfl, rfl, rfl, fun _ _ => rfl, fun v hv => ?_, fun _ _ => .rfl, fun _ _ _ h => h⟩
      exact AList.lookup_insert_ne hv
  · refine ⟨rfl, rfl, rfl, rfl, rfl, fun v hv => ?_, fun v hv => ?_, fun _ _ => .rfl, fun _ _ _ h => h⟩
    · exact AList.lookup_insert_ne hv
    · exact AList.lookup_erase_ne hv

theorem assigned_cases (s : WaylandFrontend) (w : WindowId) (output : OutputId) :
    s.windowWorkspaces.lookup w = some (s.assigned w output) ∧ (s.assigned w output).output = output ∨
      s.assigned w output = ⟨output, s.activeWorkspace output⟩ := by
  unfold assigned
  cases hk : s.windowWorkspaces.lookup w with
  | none => exact .inr rfl
  | some loc =>
    dsimp only; split
    · exact .inr rfl
    · rename_i hs; exact .inl ⟨rfl, not_not.1 hs⟩

variable {output : OutputId} {workspace : UInt8} {settings : WorkspaceSettings}

theorem reconcile_kept (h : Kept s) {m : Bool} (hw : m = true → w ∈ s.minimized) :
    Kept (s.reconcileWorkspaceAssignment w output m) := by
  refine h.of_touches (reconcile_touches w output m s) ?_; unfold reconcileWorkspaceAssignment
  split
  · exact h.placed w
  rename_i ho; split
  · rename_i hm
    cases hk : s.windowWorkspaces.lookup w with
    | some prev =>
      refine ⟨fun loc hlo => ?_, fun loc hlo => ?_, fun _ _ => hw hm⟩
      · rw [AList.lookup_erase] at hlo; cases hlo
      · rw [AList.lookup_erase] at hlo; cases hlo
    | none =>
      refine ⟨fun loc hlo => ?_, fun loc hlo => ?_, fun _ _ => hw hm⟩
      · rw [hk] at hlo; cases hlo
      · rw [hk] at hlo; cases hlo
  · refine ⟨fun _ _ => AList.lookup_erase .., fun loc hlo => ?_, fun out' ho' => ?_⟩
    · obtain rfl := Option.some.inj ((AList.lookup_insert _).symm.trans hlo)
      rcases s.assigned_cases w output with ⟨hs, -⟩ | hn
      · exact h.located w _ hs
      · rw [hn]; exact ⟨not_not.1 ho, h.active output⟩
    · rw [AList.lookup_erase] at ho'; cases ho'

theorem reconcile_remembered (h : Remembered s) {m : Bool}
    (hw : ∀ key, s.workspaceFocusHistory.lookup key = some w → m = false ∧ key.1 = output) :
    Remembered (s.reconcileWorkspaceAssignment w output m) := by
  refine h.of_touches (reconcile_touches w output m s) fun key hk => ?_
  have hk : s.workspaceFocusHistory.lookup key = some w := by
    unfold reconcileWorkspaceAssignment at hk; split at hk
    · exact hk
    split at hk
    · split at hk <;> exact hk
    · exact hk
  obtain ⟨hm, ho⟩ := hw key hk
  have hlo := h.located key w hk; unfold reconcileWorkspaceAssignment
  split
  · exact ⟨hlo, h.shown key w hk⟩
  rw [if_neg (by simp [hm])]
  refine ⟨?_, h.shown key w hk⟩; rw [AList.lookup_insert]
  unfold assigned
  rw [hlo]; simp [ho]

theorem remove_touches (w : WindowId) (s : WaylandFrontend) {outputs : AList fun _ : WindowId => OutputId}
    (ho : ∀ v, v ≠ w → outputs.lookup v = s.minimizedWindowOutputs.lookup v) :
    Touches w s { s.unremember w with
      windowWorkspaces := s.windowWorkspaces.erase w, minimizedWindowOutputs := outputs } where
  outputs := rfl
  tickerOutput := rfl
  workspacesEnabled := rfl
  workspaceCount := rfl
  activeWorkspaces := rfl
  windowWorkspaces _ hv := AList.lookup_erase_ne hv
  minimizedWindowOutputs := ho
  minimized _ _ := .rfl
  history _ _ _ hk := (lookup_unremember.1 hk).1

theorem mark_touches (w : WindowId) (dflt : OutputId) (s : WaylandFrontend) :
    Touches w s (s.markWindowMinimized w dflt) := remove_touches w s fun _ hv => AList.lookup_insert_ne hv

theorem forget_touches (w : WindowId) (s : WaylandFrontend) : Touches w s (s.forgetWindowWorkspace w) :=
  remove_touches w s fun _ hv => AList.lookup_erase_ne hv

theorem remembered_of_forgotten (h : Remembered s) (ht : Touches w s s')
    (hw : ∀ key, s'.workspaceFocusHistory.lookup key ≠ some w) : Remembered s' :=
  h.of_touches ht fun key hk => absurd hk (hw key)

theorem unremember_ne (key : OutputId × UInt8) : (s.unremember w).workspaceFocusHistory.lookup key ≠ some w :=
  fun hk => (lookup_unremember.1 hk).2 rfl

theorem placed_of_erased (hn : s.windowWorkspaces.lookup w = none)
    (hm : ∀ output, s.minimizedWindowOutputs.lookup w = some output → w ∈ s.minimized) : Placed w s where
  apart location hlo := by
    rw [hn] at hlo; cases hlo
  located location hlo := by
    rw [hn] at hlo; cases hlo
  minimized := hm

/-! ### Restoring -/

theorem restore_touches (w : WindowId) (s : WaylandFrontend) : Touches w s (s.restoreWindowWorkspace w) := by
  unfold restoreWindowWorkspace; dsimp only
  split
  · exact ⟨rfl, rfl, rfl, rfl, rfl, fun _ _ => rfl, fun _ hv => AList.lookup_erase_ne hv, fun _ _ => .rfl,
      fun _ _ _ h => h⟩
  split
  · exact ⟨rfl, rfl, rfl, rfl, rfl, fun _ _ => rfl, fun _ hv => AList.lookup_erase_ne hv, fun _ _ => .rfl,
      fun _ _ _ h => h⟩
  · exact ⟨rfl, rfl, rfl, rfl, rfl, fun _ hv => AList.lookup_insert_ne hv, fun _ hv => AList.lookup_erase_ne hv,
      fun _ _ => .rfl, fun _ _ _ h => h⟩

theorem restore_cases (w : WindowId) (s : WaylandFrontend) :
    (s.restoreWindowWorkspace w).minimizedWindowOutputs.lookup w = none ∧
      (s.restoreWindowWorkspace w).workspaceFocusHistory = s.workspaceFocusHistory ∧
      (s.restoreWindowWorkspace w).minimized = s.minimized ∧
      ((s.restoreWindowWorkspace w).windowWorkspaces.lookup w = s.windowWorkspaces.lookup w ∨
        s.windowWorkspaces.lookup w = none ∧ ∃ output, s.restoreOutput w = some output ∧
          (s.restoreWindowWorkspace w).windowWorkspaces.lookup w = some ⟨output, s.activeWorkspace output⟩) := by
  unfold restoreWindowWorkspace; dsimp only
  split
  · exact ⟨AList.lookup_erase .., rfl, rfl, .inl rfl⟩
  rename_i hn; split
  · exact ⟨AList.lookup_erase .., rfl, rfl, .inl rfl⟩
  · rename_i output ho
    exact ⟨AList.lookup_erase .., rfl, rfl, .inr ⟨hn, output, ho, AList.lookup_insert _⟩⟩

theorem restoreOutput_mem (hk : ∀ output, s.tickerOutput = some output → output ∈ s.outputs)
    (h : s.restoreOutput w = some output) : output ∈ s.outputs := by
  unfold restoreOutput at h
  rcases Option.or_eq_some_iff.1 h with hke | ⟨-, h⟩
  · simpa using (Option.filter_eq_some_iff.1 hke).2
  rcases Option.or_eq_some_iff.1 h with hti | ⟨-, hf⟩
  · exact hk output hti
  · exact List.mem_of_head? hf

theorem restore_placed (h : Kept s) (hs : Touches w s s') (hpl : s'.windowWorkspaces = s.windowWorkspaces) :
    Placed w (s'.restoreWindowWorkspace w) := by
  obtain ⟨hn, -, -, hlo⟩ := restore_cases w s'
  have ht := restore_touches w s'
  refine ⟨fun _ _ => hn, fun loc hw => ?_, fun output hou => ?_⟩
  · unfold InRange
    rw [ht.outputs, ht.workspaceCount, hs.outputs, hs.workspaceCount]
    rcases hlo with hk | ⟨-, output, hou, hne⟩
    · rw [hk, hpl] at hw; exact h.located w loc hw
    rw [hne] at hw; cases hw
    refine ⟨?_, ?_⟩
    · have := restoreOutput_mem (s := s') (fun o ho => by
        rw [hs.outputs]
        exact h.ticker o (hs.tickerOutput.symm.trans ho)) hou
      rwa [hs.outputs] at this
    · have hac : s'.activeWorkspace output = s.activeWorkspace output := by
        unfold activeWorkspace; rw [hs.activeWorkspaces]
      rw [hac]; exact h.active output
  · rw [hn] at hou; cases hou

theorem restore_kept (h : Kept s) : Kept (s.restoreWindowWorkspace w) :=
  h.of_touches (restore_touches w s) (restore_placed h (Touches.refl w s) rfl)

theorem restore_remembered (h : Remembered s) : Remembered (s.restoreWindowWorkspace w) := by
  obtain ⟨-, hh, hm, hlc⟩ := restore_cases w s
  refine h.of_touches (restore_touches w s) fun key hk => ?_; rw [hh] at hk
  have hlo := h.located key w hk; rw [hm]
  refine ⟨?_, h.shown key w hk⟩
  rcases hlc with hke | ⟨hn, -⟩
  · rw [hke, hlo]
  · rw [hn] at hlo; cases hlo

/-! ### Minimizing -/

theorem flag_touches (w : WindowId) {flags : Finset WindowId} (h : ∀ v, v ≠ w → (v ∈ flags ↔ v ∈ s.minimized)) :
    Touches w s { s with minimized := flags } :=
  ⟨rfl, rfl, rfl, rfl, rfl, fun _ _ => rfl, fun _ _ => rfl, h, fun _ _ _ h => h⟩

theorem insert_touches (w : WindowId) (s : WaylandFrontend) :
    Touches w s { s with minimized := insert w s.minimized } :=
  flag_touches w fun v hv => by simp [hv]

theorem erase_touches (w : WindowId) (s : WaylandFrontend) : Touches w s { s with minimized := s.minimized.erase w } :=
  flag_touches w fun v hv => by simp [hv]

theorem setMinimized_touches (w : WindowId) (m : Bool) (geometry : Option OutputId) (s : WaylandFrontend) :
    Touches w s (s.setMinimized w m geometry) := by
  unfold setMinimized; split
  · split
    · exact Touches.refl w s
    dsimp only; split
    · exact insert_touches w s
    · exact (insert_touches w s).trans (mark_touches w _ _)
  · split
    · exact (erase_touches w s).trans (restore_touches w _)
    · exact Touches.refl w s

theorem setMinimized_kept (h : Kept s) (m : Bool) (geometry : Option OutputId) :
    Kept (s.setMinimized w m geometry) := by
  refine h.of_touches (setMinimized_touches w m geometry s) ?_; unfold setMinimized
  split
  · split
    · exact h.placed w
    dsimp only; split
    · exact ⟨h.apart w, h.located w, fun _ _ => Finset.mem_insert_self ..⟩
    · exact placed_of_erased (AList.lookup_erase ..) fun _ _ => Finset.mem_insert_self ..
  · split
    · exact restore_placed h (erase_touches w s) rfl
    · exact h.placed w

theorem nothing_remembered (h : Kept s) (hr : Remembered s) (ho : s.outputs = []) (key : OutputId × UInt8)
    (v : WindowId) : s.workspaceFocusHistory.lookup key ≠ some v := by
  intro hk
  have := (h.located v _ (hr.located key v hk)).1
  rw [ho] at this; cases this

theorem setMinimized_remembered (h : Kept s) (hr : Remembered s) (m : Bool) (geometry : Option OutputId) :
    Remembered (s.setMinimized w m geometry) := by
  have ht := setMinimized_touches w m geometry s
  unfold setMinimized at ht ⊢; split at ht
  · rw [if_pos (by assumption)]; split at ht
    · rw [if_pos (by assumption)]; exact hr
    rw [if_neg (by assumption)]
    dsimp only at ht ⊢; split at ht
    · rename_i hn
      refine remembered_of_forgotten hr ht fun key => nothing_remembered h hr ?_ key w
      obtain ⟨-, hla⟩ := Option.or_eq_none_iff.1 hn
      exact List.head?_eq_none_iff.1 (Option.or_eq_none_iff.1 hla).2
    · exact remembered_of_forgotten hr ht unremember_ne
  · rw [if_neg (by assumption)]; split at ht
    · rename_i hw; rw [if_pos hw]
      refine remembered_of_forgotten hr ht fun key => ?_
      rw [(restore_cases w _).2.1]; exact hr.not_minimized hw key
    · rw [if_neg (by assumption)]; exact hr

/-! ### Focusing -/

theorem record_touches (w : WindowId) (s : WaylandFrontend) : Touches w s (s.recordWorkspaceFocus w) := by
  unfold recordWorkspaceFocus; split
  · exact Touches.refl w s
  refine ⟨rfl, rfl, rfl, rfl, rfl, fun _ _ => rfl, fun _ _ => rfl, fun _ _ => .rfl, fun key v hv hk => ?_⟩
  simp only [lookup_insert_eq] at hk; split at hk
  · exact absurd (Option.some.inj hk).symm hv
  · exact hk

theorem record_windowWorkspaces (w : WindowId) (s : WaylandFrontend) :
    (s.recordWorkspaceFocus w).windowWorkspaces = s.windowWorkspaces := by
  unfold recordWorkspaceFocus
  split <;> rfl

theorem record_kept (h : Kept s) : Kept (s.recordWorkspaceFocus w) := by
  refine h.of_touches (record_touches w s) ?_; unfold recordWorkspaceFocus
  split
  · exact h.placed w
  · exact ⟨h.apart w, h.located w, h.minimized w⟩

theorem record_remembered (hr : Remembered s) (hw : w ∉ s.minimized) : Remembered (s.recordWorkspaceFocus w) := by
  refine hr.of_touches (record_touches w s) fun key hk => ?_
  unfold recordWorkspaceFocus at hk ⊢; split at hk
  · exact ⟨hr.located key w hk, hw⟩
  rename_i loc hlo
  refine ⟨?_, hw⟩
  simp only [lookup_insert_eq] at hk; split at hk
  · rename_i heq; rw [heq]; exact hlo
  · exact hr.located key w hk

theorem setMinimized_of_not (hw : w ∉ s.minimized) (geometry : Option OutputId) :
    s.setMinimized w false geometry = s := by
  unfold setMinimized; rw [if_neg (by simp), if_neg hw]

theorem not_minimized_of_shown (w : WindowId) (s : WaylandFrontend) (geometry : Option OutputId) :
    w ∉ (s.setMinimized w false geometry).minimized := by
  by_cases hw : w ∈ s.minimized
  · unfold setMinimized
    rw [if_neg (by simp), if_pos hw, (restore_cases w _).2.2.1]; exact Finset.notMem_erase w _
  · rw [setMinimized_of_not hw]; exact hw

theorem activateWindow_kept (h : Kept s) (w : WindowId) (foc : Bool) (lo : Option OutputId) :
    Kept (s.activateWindow w foc lo).1 := by
  unfold activateWindow; split
  · exact h
  dsimp only
  have hr : Kept (if w ∈ s.minimized then s.restoreWindowWorkspace w else s) := by
    split
    · exact restore_kept h
    · exact h
  split
  · exact hr
  refine record_kept ?_
  have hs := setMinimized_kept (w := w) hr false none
  generalize (if w ∈ s.minimized then s.restoreWindowWorkspace w else s).setMinimized w
    false none = shown at hs ⊢
  split
  · exact hs
  split
  · exact reconcile_kept hs (fun hno => nomatch hno)
  · exact hs

theorem activateWindow_remembered (h : Kept s) (hr : Remembered s) (w : WindowId) (foc : Bool)
    (lo : Option OutputId) : Remembered (s.activateWindow w foc lo).1 := by
  by_cases hw : w ∈ s.minimized
  · unfold activateWindow; rw [if_neg fun hno => hno.1 hw]
    simp only [if_pos hw]
    have hk := restore_kept (w := w) h
    have hs := restore_remembered (w := w) hr; split
    · exact hs
    have hf : w ∈ (s.restoreWindowWorkspace w).minimized := by rwa [(restore_cases w s).2.2.1]
    have hh := setMinimized_remembered (w := w) hk hs false none
    refine record_remembered ?_ ?_
    · split
      · exact hh
      -- The window was minimized, so that nothing remembers it where it is laid out.
      refine reconcile_remembered hh fun key hy => absurd hy ?_; unfold setMinimized
      rw [if_neg (by simp), if_pos hf, (restore_cases w _).2.1]; exact hs.not_minimized hf key
    · have ho := not_minimized_of_shown w (s.restoreWindowWorkspace w) none; split
      · exact ho
      · unfold reconcileWorkspaceAssignment
        split <;> exact ho
  · unfold activateWindow
    simp only [if_neg hw, setMinimized_of_not hw]; split
    · exact hr
    split
    · exact hr
    refine record_remembered ?_ ?_
    · split <;> exact hr
    · split <;> exact hw

theorem activateLocal_kept (h : Kept s) (w : WindowId) : Kept (s.activateLocalFlutterWindow w).1 := by
  unfold activateLocalFlutterWindow; split
  · exact h
  dsimp only; split
  · exact setMinimized_kept h false none
  · exact record_kept (setMinimized_kept h false none)

theorem activateLocal_remembered (h : Kept s) (hr : Remembered s) (w : WindowId) :
    Remembered (s.activateLocalFlutterWindow w).1 := by
  unfold activateLocalFlutterWindow; split
  · exact hr
  dsimp only; split
  · exact setMinimized_remembered h hr false none
  · exact record_remembered (setMinimized_remembered h hr false none) (not_minimized_of_shown w s none)

theorem activate_kept (h : Kept s) (w : WindowId) (foc : Bool) (lo : Option OutputId) :
    Kept (s.activate w foc lo).1 := by
  unfold activate; split
  · exact activateLocal_kept h w
  split
  · exact activateWindow_kept h w foc lo
  · exact h

theorem activate_remembered (h : Kept s) (hr : Remembered s) (w : WindowId) (foc : Bool) (lo : Option OutputId) :
    Remembered (s.activate w foc lo).1 := by
  unfold activate; split
  · exact activateLocal_remembered h hr w
  split
  · exact activateWindow_remembered h hr w foc lo
  · exact hr

theorem activate_windowWorkspaces (hw : w ∉ s.minimized) (foc : Bool) (lo : Option OutputId) :
    (s.activate w foc lo).1.windowWorkspaces = s.windowWorkspaces := by
  unfold activate activateLocalFlutterWindow activateWindow
  simp only [setMinimized_of_not hw, if_neg hw]; split
  · split
    · rfl
    · exact record_windowWorkspaces w s
  split
  · split
    · rfl
    split
    · rfl
    cases lo with
    | none => exact record_windowWorkspaces w s
    | some output => exact record_windowWorkspaces w s
  · rfl

/-! ### Moving -/

theorem unremember_touches (w : WindowId) (s : WaylandFrontend) : Touches w s (s.unremember w) :=
  ⟨rfl, rfl, rfl, rfl, rfl, fun _ _ => rfl, fun _ _ => rfl, fun _ _ => .rfl, fun _ _ _ h => (lookup_unremember.1 h).1⟩

theorem moveWindow_touches (w : WindowId) (output : Option OutputId) (workspace : UInt8) (s : WaylandFrontend) :
    Touches w s (s.moveWindowToWorkspace w output workspace).1 := by
  unfold moveWindowToWorkspace; split
  · exact Touches.refl w s
  split
  · exact Touches.refl w s
  split
  · exact unremember_touches w s
  · exact ⟨rfl, rfl, rfl, rfl, rfl, fun _ hv => AList.lookup_insert_ne hv, fun _ _ => rfl, fun _ _ => .rfl,
      fun _ _ _ h => (lookup_unremember.1 h).1⟩

theorem inRange_of_has (h : s.hasWorkspace workspace = true) : s.InRange workspace := by
  simpa [hasWorkspace, InRange] using h

theorem moveWindow_kept (h : Kept s) (w : WindowId) (output : Option OutputId) (workspace : UInt8) :
    Kept (s.moveWindowToWorkspace w output workspace).1 := by
  refine h.of_touches (moveWindow_touches w output workspace s) ?_; unfold moveWindowToWorkspace
  split
  · exact h.placed w
  rename_i hpos; split
  · exact h.placed w
  rename_i hr
  cases hk : s.windowWorkspaces.lookup w with
  | none => exact ⟨h.apart w, h.located w, h.minimized w⟩
  | some loc =>
    refine ⟨fun _ _ => h.apart w loc hk, fun m hm => ?_, h.minimized w⟩
    obtain rfl := Option.some.inj ((AList.lookup_insert _).symm.trans hm)
    refine ⟨?_, inRange_of_has ?_⟩
    · cases output with
      | none => exact (h.located w loc hk).1
      | some output =>
        show output ∈ s.outputs
        simpa using hr
    · simp only [Bool.or_eq_true, not_or, Bool.not_eq_true', Bool.not_eq_false] at hpos
      exact hpos.2

theorem moveWindow_remembered (hr : Remembered s) (w : WindowId) (output : Option OutputId) (workspace : UInt8) :
    Remembered (s.moveWindowToWorkspace w output workspace).1 := by
  have ht := moveWindow_touches w output workspace s
  unfold moveWindowToWorkspace at ht ⊢; split
  · exact hr
  split
  · exact hr
  rename_i hpos hs; rw [if_neg hpos, if_neg hs] at ht; split
  · rename_i hn; rw [hn] at ht; exact remembered_of_forgotten hr ht unremember_ne
  · rename_i loc hlo; rw [hlo] at ht; exact remembered_of_forgotten hr ht unremember_ne

/-! ### The scene -/

theorem inherit_cases (s : WaylandFrontend) (w : WindowId) (parent : Option WindowId) :
    s.inheritWorkspace w parent = s ∨ w ∉ s.minimized ∧ s.windowWorkspaces.lookup w = none ∧ ∃ v location,
      s.windowWorkspaces.lookup v = some location ∧
        s.inheritWorkspace w parent = { s with windowWorkspaces := s.windowWorkspaces.insert w location } := by
  unfold inheritWorkspace; split
  · exact .inl rfl
  rename_i hf
  obtain ⟨hs, hn⟩ := not_or.1 hf; split
  · exact .inl rfl
  rename_i location hr
  obtain ⟨v, -, hv⟩ := Option.bind_eq_some_iff.1 hr
  exact .inr ⟨hs, by simpa using hn, v, location, hv, rfl⟩

theorem inherit_touches (w : WindowId) (loc : WorkspaceLocation) (s : WaylandFrontend) :
    Touches w s { s with windowWorkspaces := s.windowWorkspaces.insert w loc } :=
  ⟨rfl, rfl, rfl, rfl, rfl, fun _ hv => AList.lookup_insert_ne hv, fun _ _ => rfl, fun _ _ => .rfl, fun _ _ _ h => h⟩

theorem inherit_kept (h : Kept s) (w : WindowId) (parent : Option WindowId) : Kept (s.inheritWorkspace w parent) := by
  rcases s.inherit_cases w parent with hm | ⟨hs, -, v, location, hv, hn⟩
  · rwa [hm]
  rw [hn]
  refine h.of_touches (inherit_touches w location s) ⟨fun _ _ => ?_, fun f hf => ?_, h.minimized w⟩
  · cases ho : s.minimizedWindowOutputs.lookup w with
    | none => rfl
    | some output => exact absurd (h.minimized w output ho) hs
  · obtain rfl := Option.some.inj ((AList.lookup_insert _).symm.trans hf); exact h.located v _ hv

theorem inherit_remembered (hr : Remembered s) (w : WindowId) (parent : Option WindowId) :
    Remembered (s.inheritWorkspace w parent) := by
  rcases s.inherit_cases w parent with hs | ⟨-, hno, v, location, -, hn⟩
  · rwa [hs]
  rw [hn]
  refine remembered_of_forgotten hr (inherit_touches w location s) fun key hk => ?_
  have := hr.located key w hk
  rw [hno] at this; cases this

theorem inherit_same (s : WaylandFrontend) (w : WindowId) (parent : Option WindowId) :
    (s.inheritWorkspace w parent).minimized = s.minimized ∧
      (s.inheritWorkspace w parent).workspaceFocusHistory = s.workspaceFocusHistory := by
  rcases s.inherit_cases w parent with hs | ⟨-, -, v, location, -, hn⟩
  · rw [hs]; exact ⟨rfl, rfl⟩
  · rw [hn]; exact ⟨rfl, rfl⟩

theorem describe_kept (h : Kept s) (w : WindowId) (parent : Option WindowId) (geometry : Option OutputId) :
    Kept (s.describeWindow w parent geometry) := by
  cases geometry with
  | none => exact inherit_kept h w parent
  | some output =>
    refine reconcile_kept (inherit_kept h w parent) fun hm => ?_
    rw [(s.inherit_same w parent).1]; exact of_decide_eq_true hm

theorem describe_remembered (hr : Remembered s) (w : WindowId) (parent : Option WindowId) {geometry : Option OutputId}
    (hw : ∀ output, geometry = some output → ∀ key, s.workspaceFocusHistory.lookup key = some w → key.1 = output) :
    Remembered (s.describeWindow w parent geometry) := by
  cases geometry with
  | none => exact inherit_remembered hr w parent
  | some output =>
    refine reconcile_remembered (inherit_remembered hr w parent) fun key hk => ?_
    rw [(s.inherit_same w parent).2] at hk
    exact ⟨decide_eq_false (hr.shown key w hk), hw output rfl key hk⟩

/-! ## Switching -/

theorem switch_kept (h : Kept s) (monitorId : Int64) (workspace : UInt8) :
    Kept (s.switchWorkspace monitorId workspace).1 := by
  unfold switchWorkspace; split
  · exact h
  rename_i hpos; split
  · exact h
  · simp only [Bool.or_eq_true, not_or, Bool.not_eq_true', Bool.not_eq_false] at hpos
    refine ⟨⟨h.apart, h.located, fun output => ?_⟩, h.count, h.ticker, h.minimized⟩
    show s.InRange (((s.activeWorkspaces.insert _ workspace).lookup output).getD 1); rw [lookup_insert_eq]
    split
    · exact inRange_of_has hpos.2
    · exact h.active output

theorem switch_remembered (hr : Remembered s) (monitorId : Int64) (workspace : UInt8) :
    Remembered (s.switchWorkspace monitorId workspace).1 := by
  unfold switchWorkspace; split
  · exact hr
  split
  · exact hr
  · exact ⟨hr.located, hr.shown⟩

theorem switchMonitor_kept (h : Kept s) (monitorId : Int64) (workspace : UInt8) (foc : Bool)
    (lo : Option OutputId) : Kept (s.switchMonitorWorkspace monitorId workspace foc lo).1 := by
  have hs := switch_kept h monitorId workspace; unfold switchMonitorWorkspace
  dsimp only; split
  · exact hs
  split
  · exact hs
  · exact activate_kept hs _ foc lo

theorem switchMonitor_remembered (h : Kept s) (hr : Remembered s) (monitorId : Int64) (workspace : UInt8) (foc : Bool)
    (lo : Option OutputId) : Remembered (s.switchMonitorWorkspace monitorId workspace foc lo).1 := by
  have hs := switch_remembered hr monitorId workspace; unfold switchMonitorWorkspace
  dsimp only; split
  · exact hs
  split
  · exact hs
  · exact activate_remembered (switch_kept h monitorId workspace) hs _ foc lo

theorem switchMonitor_focuses (hr : Remembered s) {monitorId : Int64} {foc : Bool} {lo : Option OutputId}
    (h : (s.switchMonitorWorkspace monitorId workspace foc lo).2 = some w) :
    ∃ output, outputOfMonitor monitorId = some output ∧
      (s.switchMonitorWorkspace monitorId workspace foc lo).1.windowWorkspaces.lookup w = some ⟨output, workspace⟩ := by
  have hs := switch_remembered hr monitorId workspace
  unfold switchMonitorWorkspace at h ⊢
  dsimp only at h ⊢; split at h
  · cases h
  rename_i hh; rw [if_neg hh]; split at h
  · cases h
  rename_i v hv
  obtain ⟨output, ho, hk⟩ := Option.bind_eq_some_iff.1 hv
  have hm : v = w := by
    dsimp only at h; split at h
    · exact Option.some.inj h
    · cases h
  subst hm
  refine ⟨output, ho, ?_⟩
  rw [activate_windowWorkspaces (hs.shown _ _ hk)]; exact hs.located _ _ hk

theorem moveToWorkspace_kept (h : Kept s) (w : WindowId) (monitorId : Option Int64) (workspace : UInt8)
    (f foc : Bool) (lo : Option OutputId) : Kept (s.moveToWorkspace w monitorId workspace f foc lo) := by
  have hm := moveWindow_kept (setMinimized_kept (w := w) h false none) w (monitorId.bind outputOfMonitor) workspace
  unfold moveToWorkspace; dsimp only
  split
  · exact hm
  split
  · exact activate_kept (switchMonitor_kept hm _ workspace foc lo) w foc lo
  · exact hm

theorem moveToWorkspace_remembered (h : Kept s) (hr : Remembered s) (w : WindowId) (monitorId : Option Int64)
    (workspace : UInt8) (f foc : Bool) (lo : Option OutputId) :
    Remembered (s.moveToWorkspace w monitorId workspace f foc lo) := by
  have hv := moveWindow_kept (setMinimized_kept (w := w) h false none) w (monitorId.bind outputOfMonitor) workspace
  have hm := moveWindow_remembered (setMinimized_remembered (w := w) h hr false none) w
    (monitorId.bind outputOfMonitor)
    workspace
  unfold moveToWorkspace; dsimp only
  split
  · exact hm
  split
  · exact activate_remembered (switchMonitor_kept hv _ workspace foc lo)
      (switchMonitor_remembered hv hm _ workspace foc lo) w foc lo
  · exact hm

/-! ## Settings -/

theorem workspaceSettings_count (doc : JsonMap) : 1 ≤ (workspaceSettings doc).count := by
  unfold workspaceSettings
  cases hr : parseWorkspaceSettings doc with
  | error error =>
    show (1 : UInt8) ≤ 4; decide
  | ok settings =>
    have := (has_of_parseWorkspaceSettings hr).valid.1
    show 1 ≤ settings.count
    rw [UInt8.le_iff_toNat_le] at this ⊢; exact le_trans (by decide) this

theorem min_inRange {a b : UInt8} (ha : 1 ≤ a) (hb : 1 ≤ b) : 1 ≤ min a b ∧ min a b ≤ b := by
  rw [UInt8.min_def]; split
  · rename_i hle; exact ⟨ha, hle⟩
  · exact ⟨hb, UInt8.le_refl b⟩

theorem merged_inRange (hn : 1 ≤ settings.count) (h : 1 ≤ workspace) :
    1 ≤ merged settings workspace ∧ merged settings workspace ≤ settings.count := by
  unfold merged; split
  · exact min_inRange h hn
  · exact ⟨UInt8.le_refl 1, hn⟩

theorem settings_kept (h : Kept s) (hn : 1 ≤ settings.count) : Kept (s.setWorkspaceSettings settings) := by
  unfold setWorkspaceSettings; split
  · exact h
  refine ⟨⟨fun w loc hw => ?_, fun w loc hw => ?_, fun output => ?_⟩, hn, h.ticker, h.minimized⟩
  · simp only [lookup_mapValues, Option.map_eq_some_iff] at hw
    obtain ⟨before, hf, -⟩ := hw; exact h.apart w before hf
  · simp only [lookup_mapValues, Option.map_eq_some_iff] at hw
    obtain ⟨before, hf, rfl⟩ := hw
    obtain ⟨ho, hr⟩ := h.located w before hf; exact ⟨ho, merged_inRange hn hr.1⟩
  · have hac := h.active output
    unfold InRange activeWorkspace at hac ⊢
    simp only [lookup_mapValues]
    cases hk : s.activeWorkspaces.lookup output with
    | none => exact ⟨UInt8.le_refl 1, hn⟩
    | some workspace =>
      rw [hk] at hac; exact merged_inRange hn hac.1

theorem settings_remembered (hr : Remembered s)
    (hm : (s.workspacesEnabled = settings.enabled ∧ s.workspaceCount = settings.count) ∨
      ∀ key w, s.workspaceFocusHistory.lookup key = some w → merged settings key.2 = key.2) :
    Remembered (s.setWorkspaceSettings settings) := by
  unfold setWorkspaceSettings; split
  · exact hr
  rename_i hh
  refine ⟨fun key w hk => ?_, hr.shown⟩
  simp only [lookup_mapValues]; rw [hr.located key w hk]
  show some (⟨key.1, merged settings key.2⟩ : WorkspaceLocation) = _
  rw [hm.resolve_left hh key w hk]

/-! ## Outputs -/

theorem openOutputs_all {P : UInt8 → Prop} (hf : P 1) : ∀ (outputs : List OutputId)
    {active : AList fun _ : OutputId => UInt8}, (∀ output workspace, active.lookup output = some workspace →
    P workspace) →
    ∀ output workspace, (openOutputs outputs active).lookup output = some workspace → P workspace
  | [], _, h => h
  | first :: outputs, active, h => by
    refine openOutputs_all hf outputs fun output workspace hk => ?_; rw [lookup_insert_eq] at hk
    split at hk
    · cases hk
      cases hbe : active.lookup first with
      | none => exact hf
      | some before => exact h first before hbe
    · exact h output workspace hk

theorem clamp_inRange (hn : 1 ≤ s.workspaceCount) (workspace : UInt8) :
    1 ≤ s.clampWorkspace workspace ∧ s.clampWorkspace workspace ≤ s.workspaceCount := by
  have hm : min workspace s.workspaceCount ≤ s.workspaceCount := by
    rw [UInt8.min_def]; split
    · assumption
    · exact UInt8.le_refl _
  unfold clampWorkspace; rw [UInt8.max_def]
  split
  · exact ⟨UInt8.le_refl 1, hn⟩
  · rename_i hle; exact ⟨UInt8.le_of_lt (UInt8.not_le.1 hle), hm⟩

theorem clamp_of_inRange (h : s.InRange workspace) : s.clampWorkspace workspace = workspace := by
  unfold clampWorkspace; rw [UInt8.min_def, if_pos h.2, UInt8.max_def]
  split
  · rename_i hle; exact UInt8.le_antisymm h.1 hle
  · rfl

theorem fallback_mem {dflt : OutputId} (h : s.fallbackOutput = some dflt) : dflt ∈ s.outputs := by
  unfold fallbackOutput at h
  rcases Option.or_eq_some_iff.1 h with hti | ⟨-, hf⟩
  · simpa using (Option.filter_eq_some_iff.1 hti).2
  · exact List.mem_of_head? hf

theorem active_of_open {ac : AList fun _ : OutputId => UInt8} (hn : 1 ≤ s.workspaceCount)
    (h : ∀ output, s.InRange ((ac.lookup output).getD 1)) (output : OutputId) :
    s.InRange (((openOutputs s.outputs (retainKeys (· ∈ s.outputs) ac)).lookup output).getD 1) := by
  cases hk : (openOutputs s.outputs (retainKeys (· ∈ s.outputs) ac)).lookup output with
  | none => exact ⟨UInt8.le_refl 1, hn⟩
  | some workspace =>
    refine openOutputs_all (P := s.InRange) ⟨UInt8.le_refl 1, hn⟩ s.outputs
      (fun o a hk => ?_) output workspace hk
    have := h o
    rwa [(lookup_retainKeys.1 hk).1] at this

/-- What an update of the outputs starts from: all that is kept but that the outputs used are there. -/
structure Unplugged (s : WaylandFrontend) : Prop where
  apart : ∀ w location, s.windowWorkspaces.lookup w = some location → s.minimizedWindowOutputs.lookup w = none
  located : ∀ w location, s.windowWorkspaces.lookup w = some location → s.InRange location.workspace
  active : ∀ output, s.InRange (s.activeWorkspace output)
  count : 1 ≤ s.workspaceCount
  ticker : ∀ output, s.tickerOutput = some output → output ∈ s.outputs
  minimized : ∀ w output, s.minimizedWindowOutputs.lookup w = some output → w ∈ s.minimized

variable {hash : HashOrder (Σ _ : OutputId × UInt8, WindowId)}

theorem outputs_kept (h : Unplugged s) : Kept (s.reconcileWorkspaceOutputs hash) := by
  unfold reconcileWorkspaceOutputs; dsimp only
  split
  · refine ⟨⟨?_, ?_, active_of_open h.count h.active⟩, h.count, h.ticker, ?_⟩
    · rintro w loc ⟨⟩
    · rintro w loc ⟨⟩
    · rintro w output ⟨⟩
  rename_i dflt hfa
  refine ⟨⟨fun w loc hw => ?_, fun w loc hw => ?_, active_of_open h.count h.active⟩, h.count, h.ticker,
    fun w output hw => ?_⟩
  · simp only [lookup_mapValues, Option.map_eq_some_iff] at hw
    obtain ⟨before, hf, -⟩ := hw
    simp only [lookup_mapValues]
    rw [h.apart w before hf]; rfl
  · simp only [lookup_mapValues, Option.map_eq_some_iff] at hw
    obtain ⟨before, hf, rfl⟩ := hw
    refine ⟨?_, clamp_inRange h.count before.workspace⟩; dsimp only
    split
    · assumption
    · exact fallback_mem hfa
  · simp only [lookup_mapValues, Option.map_eq_some_iff] at hw
    obtain ⟨before, hf, -⟩ := hw; exact h.minimized w before hf

theorem migrated_cases {dflt : OutputId} : ∀ (ents : List (Σ _ : OutputId × UInt8, WindowId))
    {history : AList fun _ : OutputId × UInt8 => WindowId} {key : OutputId × UInt8} {w : WindowId},
    (ents.foldl (s.migrateFocus dflt) history).lookup key = some w → history.lookup key = some w ∨
      ∃ ent ∈ ents, key = (dflt, s.clampWorkspace ent.1.2) ∧ ent.2 = w
  | [], _, _, _, h => .inl h
  | ent :: ents, history, key, w, h => by
    rcases migrated_cases ents h with hf | ⟨f, hn, hk, hw⟩
    · unfold migrateFocus at hf; rw [lookup_insert_eq] at hf
      split at hf
      · rename_i hk
        cases hh : history.lookup (dflt, s.clampWorkspace ent.1.2) with
        | none =>
          rw [hh] at hf
          exact .inr ⟨ent, List.mem_cons_self .., hk, Option.some.inj hf⟩
        | some v =>
          rw [hh] at hf
          rw [hk, hh]; exact .inl hf
      · exact .inl hf
    · exact .inr ⟨f, List.mem_cons_of_mem _ hn, hk, hw⟩

theorem outputs_remembered (h : Unplugged s) (hr : Remembered s) : Remembered (s.reconcileWorkspaceOutputs hash) := by
  have hke : ∀ {key : OutputId × UInt8} {w : WindowId}, s.workspaceFocusHistory.lookup key = some w →
      s.clampWorkspace key.2 = key.2 := fun hk => clamp_of_inRange (h.located _ _ (hr.located _ _ hk))
  unfold reconcileWorkspaceOutputs; dsimp only
  split
  · constructor <;> rintro key w ⟨⟩
  rename_i dflt hfa
  have hs : ∀ key w, AList.lookup key (((hash.order s.workspaceFocusHistory.entries).filter
      fun ent => ent.1.1 ∉ s.outputs).foldl (s.migrateFocus dflt)
        (retainKeys (·.1 ∈ s.outputs) s.workspaceFocusHistory)) = some w →
      ∃ before : OutputId × UInt8, s.workspaceFocusHistory.lookup before = some w ∧ before.2 = key.2 ∧
        (if before.1 ∈ s.outputs then before.1 else dflt) = key.1 := by
    intro key w hk
    rcases migrated_cases _ hk with hkp | ⟨ent, he, rfl, rfl⟩
    · obtain ⟨hf, hpr⟩ := lookup_retainKeys.1 hkp
      exact ⟨key, hf, rfl, if_pos (of_decide_eq_true hpr)⟩
    obtain ⟨hmem, hn⟩ := List.mem_filter.1 he
    have hf : s.workspaceFocusHistory.lookup ent.1 = some ent.2 :=
      AList.mem_lookup_iff.2 ((hash.perm _).mem_iff.1 hmem)
    exact ⟨ent.1, hf, (hke hf).symm, if_neg (of_decide_eq_true hn)⟩
  refine ⟨fun key w hk => ?_, fun key w hk => ?_⟩
  · obtain ⟨before, hf, hw, ho⟩ := hs key w hk
    simp only [lookup_mapValues]; rw [hr.located before w hf]
    show some (⟨if before.1 ∈ s.outputs then before.1 else dflt, s.clampWorkspace before.2⟩ : WorkspaceLocation) = _
    rw [ho, hke hf, hw]
  · obtain ⟨before, hf, -⟩ := hs key w hk; exact hr.shown before w hf

end WaylandFrontend

end Deniald.Workspace
