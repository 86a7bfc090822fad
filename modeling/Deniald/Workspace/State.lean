/-
Monitor-local workspaces (wayland_frontend/workspace.rs): a window belongs to one workspace of one output, or is minimized
and remembers only an output; and for each workspace the window last focused there is remembered.
-/
import Deniald.Settings.Document
import Deniald.Topology.Manager

namespace Deniald.Workspace

open Deniald.Lib Deniald.Settings Deniald.Topology

/-- An identity shared by no two windows, of clients or of the shell (`register_surface`, `LocalWindows::create`). -/
abbrev WindowId := UInt64

structure WorkspaceLocation where
  output : OutputId
  workspace : UInt8
  deriving DecidableEq

/-- The workspaces of the frontend, with what they are kept for: outputs, windows, and those that are minimized. -/
structure WaylandFrontend where
  outputs : List OutputId
  tickerOutput : Option OutputId
  workspacesEnabled : Bool
  workspaceCount : UInt8
  activeWorkspaces : AList fun _ : OutputId => UInt8
  windowWorkspaces : AList fun _ : WindowId => WorkspaceLocation := ∅
  minimizedWindowOutputs : AList fun _ : WindowId => OutputId := ∅
  workspaceFocusHistory : AList fun _ : OutputId × UInt8 => WindowId := ∅
  windows : Finset WindowId := ∅
  localWindows : Finset WindowId := ∅
  /-- `minimized_windows` and `minimized_local_windows`. -/
  minimized : Finset WindowId := ∅

/-- `OutputId(u64::try_from(monitor_id))`. -/
def outputOfMonitor (monitorId : Int64) : Option OutputId := if 0 ≤ monitorId then some monitorId.toInt.toNat else none

def workspaceSettings (document : JsonMap) : WorkspaceSettings := (parseWorkspaceSettings document).toOption.getD {}

namespace WaylandFrontend

def activeWorkspace (s : WaylandFrontend) (output : OutputId) : UInt8 := (s.activeWorkspaces.lookup output).getD 1

/-! ## Windows -/

/-- The workspace a window with some geometry is on: its own while it stays on the output, else the one visible there. -/
def assigned (s : WaylandFrontend) (w : WindowId) (output : OutputId) : WorkspaceLocation :=
  match s.windowWorkspaces.lookup w with
  | none => ⟨output, s.activeWorkspace output⟩
  | some location => if location.output ≠ output then ⟨output, s.activeWorkspace output⟩ else location

def reconcileWorkspaceAssignment (s : WaylandFrontend) (w : WindowId) (output : OutputId) (minimized : Bool) :
    WaylandFrontend :=
  if output ∉ s.outputs then s
  else if minimized then
    match s.windowWorkspaces.lookup w with
    | some previous =>
      { s with
        windowWorkspaces := s.windowWorkspaces.erase w
        minimizedWindowOutputs := s.minimizedWindowOutputs.insert w previous.output }
    | none =>
      { s with minimizedWindowOutputs :=
          s.minimizedWindowOutputs.insert w ((s.minimizedWindowOutputs.lookup w).getD output) }
  else
    { s with
      minimizedWindowOutputs := s.minimizedWindowOutputs.erase w
      windowWorkspaces := s.windowWorkspaces.insert w (s.assigned w output) }

def unremember (s : WaylandFrontend) (w : WindowId) : WaylandFrontend :=
  { s with workspaceFocusHistory := retainValues (· != w) s.workspaceFocusHistory }

def markWindowMinimized (s : WaylandFrontend) (w : WindowId) (fallback : OutputId) : WaylandFrontend :=
  { s.unremember w with
    windowWorkspaces := s.windowWorkspaces.erase w
    minimizedWindowOutputs :=
      s.minimizedWindowOutputs.insert w (((s.windowWorkspaces.lookup w).map (·.output)).getD fallback) }

def restoreOutput (s : WaylandFrontend) (w : WindowId) : Option OutputId :=
  ((s.minimizedWindowOutputs.lookup w).filter (· ∈ s.outputs)).or (s.tickerOutput.or s.outputs.head?)

def restoreWindowWorkspace (s : WaylandFrontend) (w : WindowId) : WaylandFrontend :=
  let s' := { s with minimizedWindowOutputs := s.minimizedWindowOutputs.erase w }
  match s.windowWorkspaces.lookup w with
  | some _ => s'
  | none =>
    match s.restoreOutput w with
    | none => s'
    | some output =>
      { s' with windowWorkspaces := s.windowWorkspaces.insert w ⟨output, s.activeWorkspace output⟩ }

def forgetWindowWorkspace (s : WaylandFrontend) (w : WindowId) : WaylandFrontend :=
  { s.unremember w with
    windowWorkspaces := s.windowWorkspaces.erase w
    minimizedWindowOutputs := s.minimizedWindowOutputs.erase w }

def recordWorkspaceFocus (s : WaylandFrontend) (w : WindowId) : WaylandFrontend :=
  match s.windowWorkspaces.lookup w with
  | none => s
  | some location =>
    { s with workspaceFocusHistory := s.workspaceFocusHistory.insert (location.output, location.workspace) w }

def rememberedWorkspaceFocus (s : WaylandFrontend) (monitorId : Int64) (workspace : UInt8) : Option WindowId :=
  (outputOfMonitor monitorId).bind fun output => s.workspaceFocusHistory.lookup (output, workspace)

def windowIsOnActiveWorkspace (s : WaylandFrontend) (w : WindowId) : Bool :=
  !s.workspacesEnabled ||
    (s.windowWorkspaces.lookup w).any fun location => location.workspace == s.activeWorkspace location.output

/-- `(1..=self.workspace_count).contains(&workspace)`. -/
def hasWorkspace (s : WaylandFrontend) (workspace : UInt8) : Bool := 1 ≤ workspace && workspace ≤ s.workspaceCount

/-- Whether the workspace changed. -/
def switchWorkspace (s : WaylandFrontend) (monitorId : Int64) (workspace : UInt8) : WaylandFrontend × Bool :=
  if !s.workspacesEnabled || !s.hasWorkspace workspace then (s, false)
  else
    match (outputOfMonitor monitorId).filter (· ∈ s.outputs) with
    | none => (s, false)
    | some output =>
      ({ s with activeWorkspaces := s.activeWorkspaces.insert output workspace }, s.activeWorkspace output != workspace)

def moveWindowToWorkspace (s : WaylandFrontend) (w : WindowId) (output : Option OutputId) (workspace : UInt8) :
    WaylandFrontend × Option WorkspaceLocation :=
  if !s.workspacesEnabled || !s.hasWorkspace workspace then (s, none)
  else if output.any fun output => output ∉ s.outputs then (s, none)
  else
    match s.windowWorkspaces.lookup w with
    | none => (s.unremember w, none)
    | some location =>
      let location : WorkspaceLocation := ⟨output.getD location.output, workspace⟩
      ({ s.unremember w with windowWorkspaces := s.windowWorkspaces.insert w location }, some location)

/-! ## Settings and outputs -/

/-- A workspace after a change of the settings: the highest that remains, or the first. -/
def merged (settings : WorkspaceSettings) (workspace : UInt8) : UInt8 :=
  if settings.enabled then min workspace settings.count else 1

def setWorkspaceSettings (s : WaylandFrontend) (settings : WorkspaceSettings) : WaylandFrontend :=
  if s.workspacesEnabled = settings.enabled ∧ s.workspaceCount = settings.count then s
  else
    { s with
      workspacesEnabled := settings.enabled
      workspaceCount := settings.count
      activeWorkspaces := mapValues (merged settings) s.activeWorkspaces
      windowWorkspaces :=
        mapValues (fun location => ⟨location.output, merged settings location.workspace⟩) s.windowWorkspaces }

/-- `workspace.min(self.workspace_count).max(1)`. -/
def clampWorkspace (s : WaylandFrontend) (workspace : UInt8) : UInt8 := max (min workspace s.workspaceCount) 1

def fallbackOutput (s : WaylandFrontend) : Option OutputId :=
  (s.tickerOutput.filter (· ∈ s.outputs)).or s.outputs.head?

def migrateFocus (s : WaylandFrontend) (fallback : OutputId) (history : AList fun _ : OutputId × UInt8 => WindowId)
    (entry : Σ _ : OutputId × UInt8, WindowId) : AList fun _ : OutputId × UInt8 => WindowId :=
  let key := (fallback, s.clampWorkspace entry.1.2)
  history.insert key ((history.lookup key).getD entry.2)

/-- The outputs' active workspaces, with the first where there is none. -/
def openOutputs (outputs : List OutputId) (active : AList fun _ : OutputId => UInt8) :
    AList fun _ : OutputId => UInt8 :=
  outputs.foldl (fun active output => active.insert output ((active.lookup output).getD 1)) active

def reconcileWorkspaceOutputs (hash : HashOrder (Σ _ : OutputId × UInt8, WindowId)) (s : WaylandFrontend) :
    WaylandFrontend :=
  let activeWorkspaces := openOutputs s.outputs (retainKeys (· ∈ s.outputs) s.activeWorkspaces)
  match s.fallbackOutput with
  | none =>
    { s with activeWorkspaces, windowWorkspaces := ∅, minimizedWindowOutputs := ∅, workspaceFocusHistory := ∅ }
  | some fallback =>
    let migratedFocus := (hash.order s.workspaceFocusHistory.entries).filter fun entry => entry.1.1 ∉ s.outputs
    { s with
      activeWorkspaces
      workspaceFocusHistory := migratedFocus.foldl (s.migrateFocus fallback)
        (retainKeys (·.1 ∈ s.outputs) s.workspaceFocusHistory)
      windowWorkspaces := mapValues (fun location =>
        ⟨if location.output ∈ s.outputs then location.output else fallback, s.clampWorkspace location.workspace⟩)
        s.windowWorkspaces
      minimizedWindowOutputs :=
        mapValues (fun output => if output ∈ s.outputs then output else fallback) s.minimizedWindowOutputs }

/-! ## Window management -/

/-- `set_surface_minimized` and `set_local_flutter_window_minimized`, with the output under the window. -/
def setMinimized (s : WaylandFrontend) (w : WindowId) (minimized : Bool) (geometry : Option OutputId) :
    WaylandFrontend :=
  if minimized then
    if w ∈ s.minimized then s
    else
      let s := { s with minimized := insert w s.minimized }
      match (geometry.filter (· ∈ s.outputs)).or (s.tickerOutput.or s.outputs.head?) with
      | none => s
      | some fallback => s.markWindowMinimized w fallback
  else if w ∈ s.minimized then { s with minimized := s.minimized.erase w }.restoreWindowWorkspace w
  else s

/-- `activate_window`: whether the window can be focused is decided outside, and a window that was minimized may be laid
out on an output. -/
def activateWindow (s : WaylandFrontend) (w : WindowId) (focusable : Bool) (laidOut : Option OutputId) :
    WaylandFrontend × Bool :=
  if w ∉ s.minimized ∧ s.windowIsOnActiveWorkspace w = false then (s, false)
  else
    let restored := if w ∈ s.minimized then s.restoreWindowWorkspace w else s
    if !focusable then (restored, false)
    else
      let shown := restored.setMinimized w false none
      let shown := match laidOut with
        | none => shown
        | some output => if w ∈ s.minimized then shown.reconcileWorkspaceAssignment w output false else shown
      (shown.recordWorkspaceFocus w, true)

def activateLocalFlutterWindow (s : WaylandFrontend) (w : WindowId) : WaylandFrontend × Bool :=
  if w ∉ s.minimized ∧ s.windowIsOnActiveWorkspace w = false then (s, false)
  else
    let shown := s.setMinimized w false none
    if w ∉ s.localWindows then (shown, false) else (shown.recordWorkspaceFocus w, true)

def activate (s : WaylandFrontend) (w : WindowId) (focusable : Bool) (laidOut : Option OutputId) :
    WaylandFrontend × Bool :=
  if w ∈ s.localWindows then s.activateLocalFlutterWindow w
  else if w ∈ s.windows then s.activateWindow w focusable laidOut
  else (s, false)

/-- `switch_monitor_workspace`, with the window it focuses. -/
def switchMonitorWorkspace (s : WaylandFrontend) (monitorId : Int64) (workspace : UInt8) (focusable : Bool)
    (laidOut : Option OutputId) : WaylandFrontend × Option WindowId :=
  let switched := s.switchWorkspace monitorId workspace
  if !switched.2 then (switched.1, none)
  else
    match switched.1.rememberedWorkspaceFocus monitorId workspace with
    | none => (switched.1, none)
    | some w =>
      let activated := switched.1.activate w focusable laidOut
      (activated.1, if activated.2 then some w else none)

/-- `i64::try_from(output)`. -/
def monitorOfOutput (output : OutputId) : Option Int64 := if output < 2 ^ 63 then some (Int64.ofNat output) else none

/-- `move_window_to_workspace` of the window management. -/
def moveToWorkspace (s : WaylandFrontend) (w : WindowId) (monitorId : Option Int64) (workspace : UInt8) (follow : Bool)
    (focusable : Bool) (laidOut : Option OutputId) : WaylandFrontend :=
  let moved := (s.setMinimized w false none).moveWindowToWorkspace w (monitorId.bind outputOfMonitor) workspace
  match moved.2.bind fun location => monitorOfOutput location.output with
  | none => moved.1
  | some monitorId =>
    if follow then
      ((moved.1.switchMonitorWorkspace monitorId workspace focusable laidOut).1.activate w focusable laidOut).1
    else moved.1

def inheritWorkspace (s : WaylandFrontend) (w : WindowId) (parent : Option WindowId) : WaylandFrontend :=
  if w ∈ s.minimized ∨ (s.windowWorkspaces.lookup w).isSome then s
  else match parent.bind s.windowWorkspaces.lookup with
    | none => s
    | some location => { s with windowWorkspaces := s.windowWorkspaces.insert w location }

def describeWindow (s : WaylandFrontend) (w : WindowId) (parent : Option WindowId) (geometry : Option OutputId) :
    WaylandFrontend :=
  match geometry with
  | none => s.inheritWorkspace w parent
  | some output => (s.inheritWorkspace w parent).reconcileWorkspaceAssignment w output (w ∈ s.minimized)

end WaylandFrontend

end Deniald.Workspace
