/-
The workspaces over a whole session: windows come and go, are focused, minimized, restored and moved, and workspaces are
switched while settings and outputs change.
-/
import Deniald.Workspace.Membership

namespace Deniald.Workspace

open Deniald.Lib Deniald.Settings Deniald.Topology

structure Hotplug where
  outputs : List OutputId
  ticker : Option OutputId
  ticker_mem : ∀ output, ticker = some output → output ∈ outputs

inductive Event where
  | create (w : WindowId) (isLocal : Bool)
  | destroy (w : WindowId)
  | describe (w : WindowId) (parent : Option WindowId) (geometry : Option OutputId)
  /-- `apply_layout_drop` and `reconcile_window_layout`. -/
  | layOut (w : WindowId) (output : OutputId)
  | minimize (w : WindowId) (geometry : Option OutputId)
  | restore (w : WindowId)
  | focus (w : WindowId) (focusable : Bool) (laidOut : Option OutputId)
  | move (w : WindowId) (monitorId : Option Int64) (workspace : UInt8) (follow focusable : Bool)
      (laidOut : Option OutputId)
  | switch (monitorId : Int64) (workspace : UInt8) (focusable : Bool) (laidOut : Option OutputId)
  | settings (document : JsonMap)
  | topology (hash : HashOrder (Σ _ : OutputId × UInt8, WindowId)) (hotplug : Hotplug)

namespace WaylandFrontend

def start (document : JsonMap) (hotplug : Hotplug) : WaylandFrontend where
  outputs := hotplug.outputs
  tickerOutput := hotplug.ticker
  workspacesEnabled := (workspaceSettings document).enabled
  workspaceCount := (workspaceSettings document).count
  activeWorkspaces := openOutputs hotplug.outputs ∅

def managed (s : WaylandFrontend) (w : WindowId) : Bool := w ∈ s.windows ∨ w ∈ s.localWindows

def create (s : WaylandFrontend) (w : WindowId) (isLocal : Bool) : WaylandFrontend :=
  if s.managed w then s
  else if isLocal then { s with localWindows := insert w s.localWindows }
  else { s with windows := insert w s.windows }

/-- `remove_local_flutter_window`, and the part of `remove_surface_state` for a window. -/
def destroy (s : WaylandFrontend) (w : WindowId) : WaylandFrontend :=
  { s.forgetWindowWorkspace w with
    minimized := s.minimized.erase w
    windows := s.windows.erase w
    localWindows := s.localWindows.erase w }

/-- `update_topology`. -/
def updateTopology (s : WaylandFrontend) (hash : HashOrder (Σ _ : OutputId × UInt8, WindowId)) (hotplug : Hotplug) :
    WaylandFrontend :=
  { s with outputs := hotplug.outputs, tickerOutput := hotplug.ticker }.reconcileWorkspaceOutputs hash

/-- One event; those for a window that does not exist do nothing. -/
def next (s : WaylandFrontend) : Event → WaylandFrontend
  | .create w isLocal => s.create w isLocal
  | .destroy w => s.destroy w
  | .describe w parent geometry => if s.managed w then s.describeWindow w parent geometry else s
  | .layOut w output => if s.managed w then s.reconcileWorkspaceAssignment w output false else s
  | .minimize w geometry => if s.managed w then s.setMinimized w true geometry else s
  | .restore w => s.setMinimized w false none
  | .focus w focusable laidOut => (s.activate w focusable laidOut).1
  | .move w monitorId workspace follow focusable laidOut =>
    s.moveToWorkspace w monitorId workspace follow focusable laidOut
  | .switch monitorId workspace focusable laidOut =>
    (s.switchMonitorWorkspace monitorId workspace focusable laidOut).1
  | .settings document => s.setWorkspaceSettings (workspaceSettings document)
  | .topology hash hotplug => s.updateTopology hash hotplug

/-- A window that a workspace remembers is not reconciled with another output, and the settings merge no workspace that
remembers a window. -/
def Settled (s : WaylandFrontend) : Event → Prop
  | .describe w _ (some output) | .layOut w output => ∀ e ∈ s.workspaceFocusHistory.entries, e.2 = w → e.1.1 = output
  | .settings document =>
    let settings := workspaceSettings document
    (s.workspacesEnabled = settings.enabled ∧ s.workspaceCount = settings.count) ∨
      ∀ e ∈ s.workspaceFocusHistory.entries, merged settings e.1.2 = e.1.2
  | _ => True

instance decidableSettled (s : WaylandFrontend) : ∀ e, Decidable (s.Settled e)
  | .describe w _ (some output) | .layOut w output =>
    inferInstanceAs (Decidable (∀ e ∈ s.workspaceFocusHistory.entries, e.2 = w → e.1.1 = output))
  | .settings document =>
    inferInstanceAs (Decidable ((s.workspacesEnabled = (workspaceSettings document).enabled ∧
      s.workspaceCount = (workspaceSettings document).count) ∨
        ∀ e ∈ s.workspaceFocusHistory.entries, merged (workspaceSettings document) e.1.2 = e.1.2))
  | .create .. | .destroy .. | .describe _ _ none | .minimize .. | .restore .. | .focus .. | .move .. | .switch ..
  | .topology .. => isTrue trivial

def SwitchesInside (s : WaylandFrontend) : Prop :=
  ∀ monitorId workspace focusable laidOut w,
    (s.switchMonitorWorkspace monitorId workspace focusable laidOut).2 = some w → ∃ output,
      outputOfMonitor monitorId = some output ∧
        (s.switchMonitorWorkspace monitorId workspace focusable laidOut).1.windowWorkspaces.lookup w =
          some ⟨output, workspace⟩

/-! ## Steps -/

variable {s : WaylandFrontend}

theorem start_kept (doc : JsonMap) (hotplug : Hotplug) : Kept (start doc hotplug) := by
  have hn := workspaceSettings_count doc
  refine ⟨⟨?_, ?_, fun out => ?_⟩, hn, hotplug.ticker_mem, ?_⟩
  · rintro w loc ⟨⟩
  · rintro w loc ⟨⟩
  · cases hk : (openOutputs hotplug.outputs ∅).lookup out with
    | none =>
      show _ ∧ _
      simp only [start, activeWorkspace, hk]; exact ⟨UInt8.le_refl 1, hn⟩
    | some wsp =>
      show _ ∧ _
      simp only [start, activeWorkspace, hk]
      refine openOutputs_all (P := fun a => 1 ≤ a ∧ a ≤ (workspaceSettings doc).count)
        ⟨UInt8.le_refl 1, hn⟩ hotplug.outputs ?_ out wsp hk
      rintro o a ⟨⟩
  · rintro w out ⟨⟩

theorem start_remembered (doc : JsonMap) (hotplug : Hotplug) : Remembered (start doc hotplug) := by
  constructor <;> rintro key w ⟨⟩

theorem create_kept (h : Kept s) (w : WindowId) (isLocal : Bool) : Kept (s.create w isLocal) := by
  unfold create; split
  · exact h
  split <;> exact ⟨⟨h.apart, h.located, h.active⟩, h.count, h.ticker, h.minimized⟩

theorem create_remembered (hr : Remembered s) (w : WindowId) (isLocal : Bool) : Remembered (s.create w isLocal) := by
  unfold create; split
  · exact hr
  split <;> exact ⟨hr.located, hr.shown⟩

theorem destroy_touches (s : WaylandFrontend) (w : WindowId) : Touches w s (s.destroy w) := by
  have ht := forget_touches w s
  exact ⟨rfl, rfl, rfl, rfl, rfl, ht.windowWorkspaces, ht.minimizedWindowOutputs, fun v hv => by simp [destroy, hv],
    ht.history⟩

theorem destroy_kept (h : Kept s) (w : WindowId) : Kept (s.destroy w) := by
  refine h.of_touches (destroy_touches s w) (placed_of_erased (AList.lookup_erase ..) fun output ho => ?_)
  have ho : (s.minimizedWindowOutputs.erase w).lookup w = some output := ho
  rw [AList.lookup_erase] at ho; cases ho

theorem unplugged (h : Kept s) (hotplug : Hotplug) :
    Unplugged { s with outputs := hotplug.outputs, tickerOutput := hotplug.ticker } :=
  ⟨h.apart, fun w loc hw => (h.located w loc hw).2, h.active, h.count, hotplug.ticker_mem, h.minimized⟩

theorem next_kept (s : WaylandFrontend) (e : Event) (h : Kept s) : Kept (s.next e) := by
  cases e with
  | create w isLocal => exact create_kept h w isLocal
  | destroy w => exact destroy_kept h w
  | describe w parent geometry =>
    simp only [next]; split
    · exact describe_kept h w parent geometry
    · exact h
  | layOut w out =>
    simp only [next]; split
    · exact reconcile_kept h fun hno => nomatch hno
    · exact h
  | minimize w geometry =>
    simp only [next]; split
    · exact setMinimized_kept h true geometry
    · exact h
  | restore w => exact setMinimized_kept h false none
  | focus w foc lo => exact activate_kept h w foc lo
  | move w monitorId wsp f foc lo =>
    exact moveToWorkspace_kept h w monitorId wsp f foc lo
  | switch monitorId wsp foc lo => exact switchMonitor_kept h monitorId wsp foc lo
  | settings document => exact settings_kept h (workspaceSettings_count document)
  | topology hash hotplug => exact outputs_kept (unplugged h hotplug)

theorem next_remembered (s : WaylandFrontend) (e : Event) (h : Kept s) (hr : Remembered s) (he : s.Settled e) :
    Remembered (s.next e) := by
  cases e with
  | create w isLocal => exact create_remembered hr w isLocal
  | destroy w => exact remembered_of_forgotten hr (destroy_touches s w) unremember_ne
  | describe w parent geometry =>
    simp only [next]; split
    · refine describe_remembered hr w parent ?_
      rintro out rfl key hk; exact he ⟨key, w⟩ (AList.mem_lookup_iff.1 hk) rfl
    · exact hr
  | layOut w out =>
    simp only [next]; split
    · exact reconcile_remembered hr fun key hk => ⟨rfl, he ⟨key, w⟩ (AList.mem_lookup_iff.1 hk) rfl⟩
    · exact hr
  | minimize w geometry =>
    simp only [next]; split
    · exact setMinimized_remembered h hr true geometry
    · exact hr
  | restore w => exact setMinimized_remembered h hr false none
  | focus w foc lo => exact activate_remembered h hr w foc lo
  | move w monitorId wsp f foc lo =>
    exact moveToWorkspace_remembered h hr w monitorId wsp f foc lo
  | switch monitorId wsp foc lo =>
      exact switchMonitor_remembered h hr monitorId wsp foc lo
  | settings document =>
    refine settings_remembered hr (he.imp_right fun hm key w hk => ?_)
    exact hm ⟨key, w⟩ (AList.mem_lookup_iff.1 hk)
  | topology hash hotplug =>
    exact outputs_remembered (unplugged h hotplug) ⟨hr.located, hr.shown⟩

/-! ## Sessions -/

/-- In every session a window is in at most one place, which exists; and while no remembered window is moved away under the
memory, what a workspace remembers is one of its windows, and a switch focuses no other. -/
theorem windows_belong (document : JsonMap) (hotplug : Hotplug) (es : List Event) :
    Membership (exec next (start document hotplug) es) ∧
      (Along next Settled (start document hotplug) es →
        Remembered (exec next (start document hotplug) es) ∧
        (exec next (start document hotplug) es).SwitchesInside) := by
  constructor
  · exact (exec_invariant next_kept es (start_kept document hotplug)).toMembership
  · intro hset
    have hrun := exec_invariant_along (I := fun s => Kept s ∧ Remembered s)
      (fun s e h he => ⟨next_kept s e h.1, next_remembered s e h.1 h.2 he⟩)
      ⟨start_kept document hotplug, start_remembered document hotplug⟩ hset
    exact ⟨hrun.2, fun _ _ _ _ _ hfoc => switchMonitor_focuses hrun.2 hfoc⟩

/-- Two outputs, of which the first ticks. -/
def twoOutputs : Hotplug := ⟨[1, 2], some 1, by rintro output ⟨⟩; decide⟩

/-- A window is focused, its workspace left, and found again. -/
def revisited : List Event :=
  [.create 5 false, .describe 5 none (some 1), .focus 5 true none, .switch 1 2 true none, .switch 1 1 true none]

theorem windows_belong_revisited :
    Remembered (exec next (start [] twoOutputs) revisited) ∧
      (exec next (start [] twoOutputs) revisited).SwitchesInside :=
  (windows_belong [] twoOutputs revisited).2 (by decide +kernel)

/-- A focused window is dragged to the other output, and the workspace it was on left. -/
def dragged : List Event :=
  [.create 5 false, .describe 5 none (some 1), .focus 5 true none, .describe 5 none (some 2), .switch 1 2 true none]

/-- Its old workspace still remembers it: going back there focuses it on the other output. -/
theorem dragged_window_focused :
    (exec next (start [] twoOutputs) dragged).workspaceFocusHistory.lookup (1, 1) = some 5 ∧
      (exec next (start [] twoOutputs) dragged).windowWorkspaces.lookup 5 = some ⟨2, 1⟩ ∧
      ¬(exec next (start [] twoOutputs) dragged).SwitchesInside := by
  refine ⟨by decide +kernel, by decide +kernel, fun h => ?_⟩
  have hfoc : ((exec next (start [] twoOutputs) dragged).switchMonitorWorkspace 1 1 true none).2 = some 5 := by
    decide +kernel
  have hloc : ((exec next (start [] twoOutputs) dragged).switchMonitorWorkspace 1 1 true
    none).1.windowWorkspaces.lookup
      5 = some ⟨2, 1⟩ := by decide +kernel
  obtain ⟨output, houtput, hins⟩ := h 1 1 true none 5 hfoc
  obtain rfl : 1 = output := Option.some.inj ((by decide : some 1 = outputOfMonitor 1).trans houtput)
  rw [hloc] at hins; exact absurd hins (by decide)

end WaylandFrontend

end Deniald.Workspace
