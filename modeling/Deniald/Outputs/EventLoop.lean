/-
The output transactions of the event loop (flutter_event_loop.rs): sensor rotations, apply requests along their
three paths, confirmations with their deadline, and rescans of the connectors. A pass of the loop body is its
phases in their order, each of which may continue with the next pass; what the hardware, the scheduler and the
file system answer in a pass is part of the event.
-/
import Deniald.Lib.Fallible
import Deniald.Lib.Lists
import Deniald.Lib.Turn
import Deniald.Outputs.Configuration

namespace Deniald.Outputs

open Deniald.Lib Deniald.Topology

/-! ## State -/

inductive Orientation where
  | undefined
  | normal
  | bottomUp
  | leftUp
  | rightUp

def Orientation.outputRotation : Orientation → OutputTransform
  | .undefined | .normal => .normal
  | .bottomUp => .rotate180
  | .leftUp => .rotate270
  | .rightUp => .rotate90

structure Scanout where
  output : ConnectedOutput
  powered : Bool

/-- What one line group of the output configuration file says of an output. -/
structure PersistedOutput where
  name : String
  enabled : Bool
  x : Int
  y : Int
  width : Nat
  height : Nat
  refreshMillihz : Nat
  scale120 : Nat
  transform : OutputTransform
  adaptiveSync : Bool

structure PersistedConfiguration where
  primaryOutput : Option String
  outputs : List PersistedOutput

inductive OutputConfirmationAction where
  | keep
  | rollback
  deriving DecidableEq

structure PendingOutputConfirmation where
  token : Nat
  action : OutputConfirmationAction

structure ActiveOutputConfirmation where
  token : Nat
  deadline : Nat
  rollbackConfiguration : RuntimeOutputConfiguration
  rollbackPower : LinkedMap OutputId Bool
  preparedPersistence : Option PersistedConfiguration

/-! ### Displays that are off -/

/-- `DPMS_WAKE_TOPOLOGY_GRACE`, in milliseconds. -/
def wakeTopologyGrace : Nat := 5000

structure DpmsTopologyGuard where
  parkedOutputs : Finset OutputId := ∅
  wakingOutputs : Finset OutputId := ∅
  wakeGraceUntil : Option Nat := none
  deferredRemoval : Bool := false

namespace DpmsTopologyGuard

/-- `DpmsTopologyGuard::cancel`. -/
def cancel : DpmsTopologyGuard := {}

variable (guard : DpmsTopologyGuard)

def notePoweredOff (output : OutputId) : DpmsTopologyGuard :=
  let wakingOutputs := guard.wakingOutputs.erase output
  { guard with
    wakingOutputs := wakingOutputs
    parkedOutputs := insert output guard.parkedOutputs
    wakeGraceUntil := if wakingOutputs = ∅ then none else guard.wakeGraceUntil }

def noteWake (output : OutputId) (now : Nat) : DpmsTopologyGuard :=
  { guard with
    parkedOutputs := guard.parkedOutputs.erase output
    wakingOutputs := insert output guard.wakingOutputs
    wakeGraceUntil := some (now + wakeTopologyGrace) }

def expireWakeGrace (now : Nat) : DpmsTopologyGuard :=
  if guard.wakeGraceUntil.any (· ≤ now) then
    { guard with wakingOutputs := ∅, wakeGraceUntil := none, deferredRemoval := false }
  else guard

/-- `defer_missing_outputs`: whether the removal of the outputs that are missing waits for them. -/
def deferMissingOutputs (now : Nat) (current observed : List OutputId) : DpmsTopologyGuard × Bool :=
  let guard := guard.expireWakeGrace now
  let missing := current.filter (· ∉ observed)
  if missing = [] then ({ guard with deferredRemoval := false }, false)
  else if (observed.any (· ∉ current)) ||
      missing.any fun output => output ∉ guard.parkedOutputs && output ∉ guard.wakingOutputs then
    (cancel, false)
  else ({ guard with deferredRemoval := true }, true)

/-- `service_deadline`: whether a deferred removal is due. -/
def serviceDeadline (now : Nat) : DpmsTopologyGuard × Bool :=
  if guard.wakeGraceUntil.any (· ≤ now) then
    ({ guard with wakingOutputs := ∅, wakeGraceUntil := none, deferredRemoval := false }, guard.deferredRemoval)
  else (guard, false)

end DpmsTopologyGuard

/-! ### The loop -/

/-- What the loop did about its output configuration. -/
inductive Act where
  | rotated (rotation : OutputTransform)
  | applied (configuration : RuntimeOutputConfiguration)
  | began (token : Nat) (connected : List String) (configuration : RuntimeOutputConfiguration)
      (persistence : Option PersistedConfiguration)
  | wrote (connected : List String) (persistence : PersistedConfiguration)
  | answered (request : PendingOutputConfirmation) (outcome : Except FailureCode Unit)
  | expired
  | refused (code : FailureCode)
  | power (powered requests : LinkedMap OutputId Bool)

structure OutputLoop where
  configuration : RuntimeOutputConfiguration
  pendingSensorRotation : OutputTransform := .normal
  scanouts : List Scanout
  topology : TopologyManager
  /-- The connectors as the kernel has them now. -/
  connectors : ConnectorScan
  outputsDisconnected : Bool := false
  scanoutRebased : Bool := false
  topologyDirty : Bool := false
  kmsReconfigureRequested : Bool := false
  residentGeometryReconfigureRequested : Bool := false
  outputControlDirty : Bool := false
  dpmsTopology : DpmsTopologyGuard := {}
  outputPowerRequests : LinkedMap OutputId Bool := .empty
  pendingOutputApplies : List ApplyOutputConfiguration := []
  pendingOutputConfirmations : List PendingOutputConfirmation := []
  readyOutputApply : Option (ApplyOutputConfiguration × List ConnectedConnector) := none
  activeOutputConfirmation : Option ActiveOutputConfirmation := none
  serial : Nat
  /-- The confirmation in the published snapshot. -/
  publishedConfirmation : Option Nat := none
  /-- What the loop last wrote to the output configuration file. -/
  outputConfig : Option PersistedConfiguration := none
  ended : Bool := false
  log : List Act := []

/-- What stays the same while the loop runs. -/
structure Setup where
  names : ConnectorNames
  rounding : Rounding
  maxOutputs : Nat
  persistenceAvailable : Bool

/-! ## Passes -/

/-- What becomes of clearing the outputs that are to be powered off. -/
inductive PowerOff where
  | waits
  | clears
  | fails

inductive HotplugOutcome where
  | accepted
  | refused
  /-- refused, with Flutter shut down -/
  | lost

/-- What `PreparedOutputConfig::commit` comes to: the file replaced and synced, not replaced, or replaced in a
directory that could not be synced. -/
inductive CommitOutcome where
  | replaced
  | refused
  | unsynced
  deriving DecidableEq

/-- One pass of the loop body: its time, what arrived before it, and what it is answered. -/
structure Pass where
  now : Nat
  orientation : Option Orientation := none
  connectors : Option ConnectorScan := none
  applies : List ApplyOutputConfiguration := []
  confirmations : List PendingOutputConfirmation := []
  powerRequests : List (OutputId × Bool) := []
  topologyDirty : Bool := false
  kmsReconfigure : Bool := false
  rebased : Bool := false
  controlDirty : Bool := false
  rotationIdle : Bool := true
  rotationAccepted : Bool := true
  published : Bool := false
  powerOff : PowerOff := .clears
  scanned : Bool := true
  stagingBusy : Bool := false
  applyBusy : Bool := false
  prepared : Bool := true
  residentAccepted : Bool := true
  hotplug : HotplugOutcome := .accepted
  commit : CommitOutcome := .replaced
  begun : Nat := 0
  scanoutBusy : Bool := false
  targetsBusy : Bool := false

namespace OutputLoop

/-- `(scanout.output.id, scanout.powered)` of every scanout. -/
def powers (s : OutputLoop) : LinkedMap OutputId Bool :=
  .ofList (s.scanouts.map fun scanout => (scanout.output.id, scanout.powered))

def did (act : Act) (s : OutputLoop) : OutputLoop := { s with log := s.log ++ [act] }

def notePower (s : OutputLoop) : OutputLoop := s.did (.power s.powers s.outputPowerRequests)

/-! ### What arrives -/

/-- The events that were dispatched before the pass. -/
def receive (p : Pass) (s : OutputLoop) : OutputLoop :=
  { s with
    connectors := p.connectors.getD s.connectors
    -- udev announces every change of the connectors
    topologyDirty := s.topologyDirty || p.topologyDirty || p.connectors.isSome
    kmsReconfigureRequested := s.kmsReconfigureRequested || p.kmsReconfigure
    scanoutRebased := s.scanoutRebased || p.rebased
    outputControlDirty := s.outputControlDirty || p.controlDirty
    pendingOutputApplies := s.pendingOutputApplies ++ p.applies
    pendingOutputConfirmations := s.pendingOutputConfirmations ++ p.confirmations }

def serviceWakeDeadline (p : Pass) (s : OutputLoop) : OutputLoop :=
  let (dpmsTopology, due) := s.dpmsTopology.serviceDeadline p.now
  { s with dpmsTopology, topologyDirty := s.topologyDirty || due }

def observeOrientation (p : Pass) (s : OutputLoop) : OutputLoop :=
  match p.orientation with
  | some orientation => { s with pendingSensorRotation := orientation.outputRotation }
  | none => s

/-! ### Geometry -/

section

variable (F : Type) [PlacementArith F]

/-- `apply_resident_output_geometry`; what it changes, it changes last. -/
def applyResidentOutputGeometry (accepted : Bool) (outputs : List ConnectedOutput)
    (staged : RuntimeOutputConfiguration) (s : OutputLoop) : Option OutputLoop := do
  let topology ← updateTopologyForOutputs F s.topology outputs staged
  let scanouts ← s.scanouts.mapM fun scanout =>
    (outputs.find? fun output => output.id = scanout.output.id).map fun output => { scanout with output := output }
  if accepted then some { s with scanouts, topology, configuration := staged, outputControlDirty := true }
  else none

/-- `apply_hotplug_topology`; a scanout that stays keeps its power. -/
def applyHotplugTopology (outputs : List ConnectedOutput) (configuration : RuntimeOutputConfiguration)
    (s : OutputLoop) : Option OutputLoop :=
  if outputs = [] then none
  else
    (updateTopologyForOutputs F s.topology outputs configuration).map fun topology =>
      { s with
        topology
        outputControlDirty := true
        scanouts := outputs.map fun output =>
          { output
            powered := ((s.scanouts.find? fun scanout => scanout.output.id = output.id).map (·.powered)).getD true } }

def rotateRollback (rotation : OutputTransform) (s : OutputLoop) : OutputLoop :=
  { s with
    activeOutputConfirmation := s.activeOutputConfirmation.map fun pending =>
      { pending with rollbackConfiguration := { pending.rollbackConfiguration with sensorRotation := rotation } } }

/-- `apply_automatic_orientation`, and the rotation of what a pending confirmation rolls back to. -/
def applyAutomaticOrientation (p : Pass) (s : OutputLoop) : Turn OutputLoop OutputLoop :=
  let rotation := s.pendingSensorRotation
  let staged := { s.configuration with sensorRotation := rotation }
  let outputs := s.scanouts.map fun scanout =>
    { scanout.output with transform := staged.effectiveTransform scanout.output.name }
  let applied :=
    if outputs.map (·.transform) = s.scanouts.map (·.output.transform) then some { s with configuration := staged }
    else s.applyResidentOutputGeometry F p.rotationAccepted outputs staged
  match applied with
  | none => .leave
  | some s => .ok ((s.rotateRollback rotation).did (.rotated rotation))

def rotate (p : Pass) (s : OutputLoop) : Turn OutputLoop OutputLoop :=
  if s.pendingSensorRotation ≠ s.configuration.sensorRotation ∧ p.rotationIdle then
    s.applyAutomaticOrientation F p
  else .ok s

end

/-! ### Confirmations -/

/-- What an end of a confirmation other than a keep does. -/
def rollBack (pending : ActiveOutputConfirmation) (s : OutputLoop) : OutputLoop :=
  { s with
    configuration := pending.rollbackConfiguration
    outputPowerRequests := s.outputPowerRequests.extend pending.rollbackPower
    residentGeometryReconfigureRequested := true
    outputControlDirty := true
    activeOutputConfirmation := none }

def expireConfirmation (p : Pass) (s : OutputLoop) : OutputLoop :=
  match s.activeOutputConfirmation with
  | none => s
  | some pending => if pending.deadline ≤ p.now then (s.rollBack pending).did .expired else s

/-- The state of the file after a commit, and whether the commit succeeds. -/
def commit (outcome : CommitOutcome) (prepared : PersistedConfiguration) (s : OutputLoop) : OutputLoop × Bool :=
  match outcome with
  | .replaced => ({ s with outputConfig := some prepared }, true)
  | .refused => (s, false)
  -- the file is renamed into place before its directory is synced
  | .unsynced => ({ s with outputConfig := some prepared }, false)

def kept (s : OutputLoop) : OutputLoop := { s with activeOutputConfirmation := none, outputControlDirty := true }

/-- The loop body over the confirmation requests: one request, and whether it ended the confirmation. -/
def answer (p : Pass) (s : OutputLoop) (request : PendingOutputConfirmation) : OutputLoop × Bool :=
  match s.activeOutputConfirmation with
  | none => (s.did (.answered request (.error .staleConfirmation)), false)
  | some pending =>
    if request.token ≠ pending.token then (s.did (.answered request (.error .staleConfirmation)), false)
    else
      match request.action with
      | .rollback => ((s.rollBack pending).did (.answered request (.ok ())), true)
      | .keep =>
        let (s, committed) :=
          match pending.preparedPersistence with
          | none => (s, true)
          | some prepared => s.commit p.commit prepared
        if committed then
          (s.kept.did (.answered request (.ok ())), true)
        else ((s.rollBack pending).did (.answered request (.error .persistenceFailed)), true)

def answerConfirmations (p : Pass) (s : OutputLoop) : Turn OutputLoop OutputLoop :=
  let (s', handled) := s.pendingOutputConfirmations.foldl
    (fun (acc : OutputLoop × Bool) request =>
      let (s, handled) := acc.1.answer p request
      (s, acc.2 || handled))
    ({ s with pendingOutputConfirmations := [] }, false)
  if handled then .again s' else .ok s'

/-! ### Publication and power -/

/-- `MAX_EXACT_JSON_INTEGER`. -/
def maxExactJsonInteger : Nat := 2 ^ 53 - 1

def nextSerial (serial : Nat) : Nat := if maxExactJsonInteger ≤ serial then 1 else serial + 1

/-- `publish_if_dirty`; a snapshot that says something new has a new serial. -/
def publish (p : Pass) (s : OutputLoop) : OutputLoop :=
  if s.outputControlDirty then
    let confirmation := s.activeOutputConfirmation.map (·.token)
    { s with
      outputControlDirty := false
      publishedConfirmation := confirmation
      serial := if p.published ∨ confirmation ≠ s.publishedConfirmation then nextSerial s.serial else s.serial }
  else s

/-- Whether the scanouts have lost their scheduler since the last pass. -/
def takeRebased (s : OutputLoop) : OutputLoop × Bool :=
  ({ s with scanoutRebased := false },
    s.scanoutRebased || (s.outputsDisconnected && s.scanouts.any (·.powered)))

/-- The requests that would change an output's power, `on` or off. -/
def powerChanges (on : Bool) (s : OutputLoop) : List OutputId :=
  (s.outputPowerRequests.entries.filter fun (output, powered) =>
    powered == on && s.powers.get? output == some !on).map Prod.fst

def setPowered (outputs : List OutputId) (powered : Bool) (s : OutputLoop) : OutputLoop :=
  { s with
    scanouts := s.scanouts.map fun scanout =>
      if scanout.output.id ∈ outputs then { scanout with powered := powered } else scanout }

def requestPower (requests : LinkedMap OutputId Bool) (s : OutputLoop) : OutputLoop :=
  { s with outputPowerRequests := s.outputPowerRequests.extend requests }

def powerOffOutputs (p : Pass) (outputs : List OutputId) (s : OutputLoop) : OutputLoop :=
  if outputs = [] then s
  else
    match p.powerOff with
    | .waits => { s with outputPowerRequests := .ofList (outputs.map fun output => (output, false)) }
    | .fails => s
    | .clears =>
      { s.setPowered outputs false with
        dpmsTopology := outputs.foldl DpmsTopologyGuard.notePoweredOff s.dpmsTopology
        outputControlDirty := true }

def powerOnOutputs (p : Pass) (outputs : List OutputId) (s : OutputLoop) : OutputLoop :=
  if outputs = [] then s
  else
    { s.setPowered outputs true with
      dpmsTopology := outputs.foldl (fun guard output => guard.noteWake output p.now) s.dpmsTopology
      topologyDirty := true
      outputControlDirty := true }

/-- `apply_output_power_requests`. -/
def applyOutputPowerRequests (p : Pass) (s : OutputLoop) : OutputLoop :=
  let off := s.powerChanges false
  let on := s.powerChanges true
  ((({ s with outputPowerRequests := .empty } : OutputLoop).powerOffOutputs p off).powerOnOutputs p on).notePower

/-- The power requests of clients and of the idle policy, collected, and applied where the scheduler still owns the
scanouts. -/
def servicePower (p : Pass) (rebased : Bool) (s : OutputLoop) : OutputLoop :=
  let s := (s.requestPower (.ofList p.powerRequests)).notePower
  if !rebased && !s.outputPowerRequests.isEmpty then s.applyOutputPowerRequests p else s

/-! ### Apply requests -/

section

variable (F : Type) [PlacementArith F] (setup : Setup)

/-- A resume invalidates the connectors that a request was prepared against. -/
def requeue (rebased : Bool) (s : OutputLoop) : OutputLoop :=
  match rebased, s.readyOutputApply with
  | true, some (request, _) =>
    { s with readyOutputApply := none, pendingOutputApplies := request :: s.pendingOutputApplies }
  | _, _ => s

/-- The next request, with the connectors that it will be validated against in the pass after. -/
def stage (p : Pass) (rebased : Bool) (s : OutputLoop) : Turn OutputLoop OutputLoop :=
  if !rebased && s.readyOutputApply.isNone then
    match s.pendingOutputApplies with
    | [] => .ok s
    | request :: rest =>
      let popped := { s with pendingOutputApplies := rest }
      if s.activeOutputConfirmation.isSome then .again (popped.did (.refused .confirmationPending))
      else if p.stagingBusy then .again s
      else if !p.scanned then .again ({ popped with topologyDirty := true }.did (.refused .applyFailed))
      else
        .again { popped with
          outputControlDirty := true
          readyOutputApply := some (request, currentConnectedConnectors setup.names s.connectors) }
  else .ok s

def sameHardware (a b : ConnectedOutput) : Bool :=
  a.crtc = b.crtc && a.mode = b.mode && a.connector = b.connector && a.vrrEnabled = b.vrrEnabled

def observedOutputChanged (scanouts : List Scanout) (outputs : List ConnectedOutput) : Bool :=
  outputs.any fun output =>
    match scanouts.find? fun scanout => scanout.output.id = output.id with
    | none => true
    | some scanout => !sameHardware scanout.output output

def hardwareChanged (scanouts : List Scanout) (outputs : List ConnectedOutput) : Bool :=
  outputs.length ≠ scanouts.length || observedOutputChanged scanouts outputs

def persistedOutput (staged : RuntimeOutputConfiguration) (output : RequestedOutput) : PersistedOutput where
  name := output.name
  enabled := output.enabled
  x := output.x
  y := output.y
  width := output.modeWidth
  height := output.modeHeight
  refreshMillihz := output.modeRefreshMillihz
  scale120 := match output.scale with
    | .finite scale => requestedScale120 setup.rounding scale
    | _ => 0
  transform := (staged.transforms.get? output.name).getD .normal
  adaptiveSync := output.adaptiveSync

/-- A validated request, for the outputs `connected`. -/
structure StagedApply where
  connected : List String
  configuration : RuntimeOutputConfiguration
  desiredPower : LinkedMap OutputId Bool
  outputs : List ConnectedOutput
  preview : TopologyManager
  persistence : Option PersistedConfiguration

def validate (p : Pass) (request : ApplyOutputConfiguration) (connectors : List ConnectedConnector) (s : OutputLoop) :
    Except FailureCode StagedApply := do
  let (configuration, desiredPower) ← configurationFromOutputRequest setup.names setup.rounding request connectors
    setup.maxOutputs s.configuration setup.persistenceAvailable
  let some outputs := configuredOutputs setup.names connectors setup.maxOutputs configuration
    | .error .invalidConfiguration
  let some preview := updateTopologyForOutputs F s.topology outputs configuration | .error .invalidConfiguration
  if request.persistent && !p.prepared then .error .persistenceFailed
  else
    .ok { connected := connectors.map fun connector => setup.names.name connector.handle
          configuration, desiredPower, outputs, preview
          persistence :=
            if request.persistent then
              some { primaryOutput := request.primaryOutput
                     outputs := request.outputs.map (persistedOutput setup configuration) }
            else none }

/-- The persistence of an apply that asks for no confirmation. -/
def persistApplied (p : Pass) (connected : List String) (prepared : PersistedConfiguration) (s : OutputLoop) :
    OutputLoop :=
  let (s, committed) := { s with outputControlDirty := true }.commit p.commit prepared
  let s := if p.commit = .refused then s else s.did (.wrote connected prepared)
  if committed then s else s.did (.refused .persistenceFailed)

/-- What the three paths of an apply have in common: its power, and then its confirmation or its persistence. The
confirmation goes back to the state `before`. -/
def finishApply (p : Pass) (request : ApplyOutputConfiguration) (staged : StagedApply) (before s : OutputLoop) :
    OutputLoop :=
  let s := { s with configuration := staged.configuration, outputControlDirty := true }
  match request.confirmationTimeoutMilliseconds, staged.persistence with
  | some timeout, persistence =>
    let token := nextSerial s.serial
    let s := s.did (.began token staged.connected staged.configuration persistence)
    let s := (s.requestPower staged.desiredPower).applyOutputPowerRequests p
    { s with
      activeOutputConfirmation := some
        { token
          deadline := p.begun + timeout
          rollbackConfiguration := before.configuration
          rollbackPower := before.powers
          preparedPersistence := persistence } }
  | none, none => ((s.did (.applied staged.configuration)).requestPower staged.desiredPower).applyOutputPowerRequests p
  | none, some prepared =>
    let s := ((s.did (.applied staged.configuration)).requestPower staged.desiredPower).applyOutputPowerRequests p
    s.persistApplied p staged.connected prepared

/-- The three paths of a validated request. -/
def applyStaged (p : Pass) (request : ApplyOutputConfiguration) (staged : StagedApply) (s : OutputLoop) :
    Turn OutputLoop OutputLoop :=
  let changed := hardwareChanged s.scanouts staged.outputs
  let current := s.topology.snapshot F
  let preview := staged.preview.snapshot F
  if !changed && preview.outputs = current.outputs && preview.ticker = current.ticker then
    .again (finishApply p request staged s s)
  else if !changed then
    match s.applyResidentOutputGeometry F p.residentAccepted staged.outputs staged.configuration with
    | none => .again ({ s with outputControlDirty := true }.did (.refused .applyFailed))
    | some applied => .again (finishApply p request staged s applied)
  else
    match p.hotplug, s.applyHotplugTopology F staged.outputs staged.configuration with
    | .accepted, some applied => .again { finishApply p request staged s applied with scanoutRebased := false }
    | .lost, _ => .leave
    | _, _ => .again ({ s with outputControlDirty := true }.did (.refused .applyFailed))

def applyReady (p : Pass) (rebased : Bool) (s : OutputLoop) : Turn OutputLoop OutputLoop :=
  match rebased, s.readyOutputApply with
  | false, some (request, connectors) =>
    if p.applyBusy then .again s
    else
      let s := { s with readyOutputApply := none }
      if request.serial ≠ s.serial then
        .again ({ s with topologyDirty := true }.did (.refused .staleConfiguration))
      else
        match s.validate F setup p request connectors with
        | .error code => .again (s.did (.refused code))
        | .ok staged => s.applyStaged F p request staged
  | _, _ => .ok s

/-! ### Rescans -/

/-- What a rescan has consumed and found. -/
structure Rescan where
  rebased : Bool
  kms : Bool
  resident : Bool
  changed : Bool
  outputs : List ConnectedOutput

def reconfigure (p : Pass) (found : Rescan) (s : OutputLoop) : Turn OutputLoop OutputLoop :=
  let residentOnly := found.resident && !found.changed && !found.kms
  if !found.rebased && (p.scanoutBusy || residentOnly && p.targetsBusy) then
    .again { s with
      topologyDirty := true
      kmsReconfigureRequested := found.kms
      residentGeometryReconfigureRequested := found.resident }
  else if residentOnly && !found.rebased then
    match s.applyResidentOutputGeometry F p.residentAccepted found.outputs s.configuration with
    | none => .again { s with topologyDirty := true }
    | some s => .again { s with scanoutRebased := false }
  else
    match p.hotplug, s.applyHotplugTopology F found.outputs s.configuration with
    | .accepted, some s => .again { s with scanoutRebased := false }.notePower
    | .lost, _ => .leave
    | _, _ => if found.rebased then .again { s with scanoutRebased := true, topologyDirty := true } else .leave

/-- The outputs that a scan of the connectors makes now. -/
def connectedOutputs (s : OutputLoop) : Option (List ConnectedOutput) :=
  configuredOutputs setup.names (currentConnectedConnectors setup.names s.connectors) setup.maxOutputs s.configuration

/-- Whether the removal of outputs waits for them; nothing waits where there is another change or a request. -/
def deferRemoval (p : Pass) (forced : Bool) (outputs : List ConnectedOutput) (s : OutputLoop) :
    DpmsTopologyGuard × Bool :=
  if forced || observedOutputChanged s.scanouts outputs then (.cancel, false)
  else s.dpmsTopology.deferMissingOutputs p.now (s.scanouts.map (·.output.id)) (outputs.map (·.id))

def disconnect (dpmsTopology : DpmsTopologyGuard) (s : OutputLoop) : OutputLoop :=
  { s with
    dpmsTopology
    outputsDisconnected := true
    outputControlDirty := s.outputControlDirty || !s.outputsDisconnected
    topologyDirty := true }

/-- A scan that is not of a desk without outputs. -/
def observeOutputs (dpmsTopology : DpmsTopologyGuard) (deferred : Bool) (s : OutputLoop) : OutputLoop :=
  if deferred then { s with dpmsTopology }
  else { s with dpmsTopology, outputsDisconnected := false, outputControlDirty := true }

/-- What a scan for the requests `rebased`, `kms` and `resident` finds. -/
def scanned (p : Pass) (rebased kms resident : Bool) (outputs : List ConnectedOutput) (s : OutputLoop) :
    Turn OutputLoop OutputLoop :=
  let forced := rebased || kms || resident
  let (dpmsTopology, deferred) := s.deferRemoval p forced outputs
  if outputs = [] ∧ deferred = false then .again (s.disconnect dpmsTopology)
  else
    let changed := !deferred && hardwareChanged s.scanouts outputs
    let s := s.observeOutputs dpmsTopology deferred
    if changed || forced then s.reconfigure F p { rebased, kms, resident, changed, outputs } else .ok s

def consume (s : OutputLoop) : OutputLoop :=
  { s with kmsReconfigureRequested := false, residentGeometryReconfigureRequested := false, topologyDirty := false }

def rescan (p : Pass) (rebased : Bool) (s : OutputLoop) : Turn OutputLoop OutputLoop :=
  let kms := s.kmsReconfigureRequested
  let resident := s.residentGeometryReconfigureRequested
  if s.topologyDirty || rebased || kms || resident then
    match if p.scanned then s.connectedOutputs setup else none with
    | none => .leave
    | some outputs => s.consume.scanned F p rebased kms resident outputs
  else .ok s

/-! ### The loop body -/

/-- The loop body up to the confirmation requests, with whether the scanouts were rebased. -/
def beforeAnswers (p : Pass) (s : OutputLoop) : Turn OutputLoop (OutputLoop × Bool) := do
  let s ← (((s.receive p).serviceWakeDeadline p).observeOrientation p).rotate F p
  let (s, rebased) := ((s.expireConfirmation p).publish p).takeRebased
  let s := s.servicePower p rebased
  -- power changes are published before anything else is processed
  if s.outputControlDirty then .again s else .ok (s, rebased)

def beforeRescan (p : Pass) (s : OutputLoop) : Turn OutputLoop (OutputLoop × Bool) := do
  let (s, rebased) ← s.beforeAnswers F p
  let s ← s.answerConfirmations p
  let s ← (s.requeue rebased).stage setup p rebased
  let s ← s.applyReady F setup p rebased
  .ok (s, rebased)

def pass (p : Pass) (s : OutputLoop) : Turn OutputLoop OutputLoop := do
  let (s, rebased) ← s.beforeRescan F setup p
  s.rescan F setup p rebased

def next (s : OutputLoop) (p : Pass) : OutputLoop :=
  if s.ended then s else (s.pass F setup p).finish (fun s => { s with ended := true }) s

def start (configuration : RuntimeOutputConfiguration) (connectors : ConnectorScan) (serial : Nat) :
    Option OutputLoop := do
  let outputs ← configuredOutputs setup.names (currentConnectedConnectors setup.names connectors) setup.maxOutputs
    configuration
  let specs ← outputSpecs F outputs configuration
  match outputs, TopologyManager.newWithPrimaryOutput F specs configuration.primaryOutput with
  | _ :: _, .ok topology =>
    some { configuration, topology, connectors, serial
           pendingSensorRotation := configuration.sensorRotation
           scanouts := outputs.map fun output => { output, powered := true } }
  | _, _ => none

end

/-! ## What a phase changes -/

section

variable {F : Type} [PlacementArith F] {s t : OutputLoop} {p : Pass}

theorem applyResidentOutputGeometry_spec {accepted : Bool} {outputs : List ConnectedOutput}
    {stg : RuntimeOutputConfiguration} (h : s.applyResidentOutputGeometry F accepted outputs stg = some t) :
    ∃ topology scanouts, t = { s with scanouts, topology, configuration := stg, outputControlDirty := true } ∧
      updateTopologyForOutputs F s.topology outputs stg = some topology ∧
      List.Forall₂ (fun before after : Scanout => after.powered = before.powered ∧
        after.output.id = before.output.id ∧ after.output ∈ outputs) s.scanouts scanouts := by
  obtain ⟨topology, hto, h⟩ := Option.bind_eq_some_iff.1 h
  obtain ⟨scanouts, hs, h⟩ := Option.bind_eq_some_iff.1 h; split at h
  · refine ⟨topology, scanouts, (Option.some.inj h).symm, hto, ?_⟩
    refine (mapM_some.1 hs).imp ?_; intro before after haf
    obtain ⟨out, hf, rfl⟩ := Option.map_eq_some_iff.1 haf
    exact ⟨rfl, by simpa using List.find?_some hf, List.mem_of_find?_eq_some hf⟩
  · cases h

theorem applyHotplugTopology_spec {outputs : List ConnectedOutput} {configuration : RuntimeOutputConfiguration}
    (h : s.applyHotplugTopology F outputs configuration = some t) :
    ∃ topology scanouts, t = { s with scanouts, topology, outputControlDirty := true } ∧
      updateTopologyForOutputs F s.topology outputs configuration = some topology ∧
      scanouts.map (·.output) = outputs := by
  unfold applyHotplugTopology at h; split at h
  · cases h
  · obtain ⟨topology, hto, rfl⟩ := Option.map_eq_some_iff.1 h
    exact ⟨topology, _, rfl, hto, by simp [Function.comp_def]⟩

theorem foldl_notePoweredOff_deferredRemoval : ∀ (outputs : List OutputId) (guard : DpmsTopologyGuard),
    (outputs.foldl DpmsTopologyGuard.notePoweredOff guard).deferredRemoval = guard.deferredRemoval
  | [], _ => rfl
  | _ :: outputs, _ => foldl_notePoweredOff_deferredRemoval outputs _

theorem foldl_noteWake_deferredRemoval (now : Nat) : ∀ (outputs : List OutputId) (guard : DpmsTopologyGuard),
    (outputs.foldl (fun guard out => guard.noteWake out now) guard).deferredRemoval = guard.deferredRemoval
  | [], _ => rfl
  | _ :: outputs, _ => foldl_noteWake_deferredRemoval now outputs _

theorem map_output_setPowered (outputs : List OutputId) (powered : Bool) :
    (s.setPowered outputs powered).scanouts.map (·.output) = s.scanouts.map (·.output) := by
  unfold setPowered; rw [List.map_map]
  refine List.map_congr_left fun scan _ => ?_
  simp only [Function.comp_apply]
  split <;> rfl

/-- Power changes which scanouts are on, and the requests; what it may ask for is a rescan. -/
def Powers (s t : OutputLoop) : Prop :=
  ∃ scanouts guard dirty control requests,
    t = { s with
      scanouts
      dpmsTopology := guard
      topologyDirty := s.topologyDirty || dirty
      outputControlDirty := s.outputControlDirty || control
      outputPowerRequests := requests } ∧
    scanouts.map (·.output) = s.scanouts.map (·.output) ∧ guard.deferredRemoval = s.dpmsTopology.deferredRemoval

theorem Powers.requests (requests : LinkedMap OutputId Bool) : Powers s { s with outputPowerRequests := requests } :=
  ⟨_, _, false, false, requests, by simp, rfl, rfl⟩

theorem Powers.trans {u : OutputLoop} (hst : Powers s t) (htu : Powers t u) : Powers s u := by
  obtain ⟨ss, guard, dirty, control, requests, rfl, hs, hr⟩ := hst
  obtain ⟨ss', guard', dirty', control', requests', rfl, hs', hg'⟩ := htu
  exact ⟨ss', guard', dirty || dirty', control || control', requests', by simp [Bool.or_assoc],
    hs'.trans hs, hg'.trans hr⟩

theorem powerOffOutputs_powers (outputs : List OutputId) : Powers s (s.powerOffOutputs p outputs) := by
  unfold powerOffOutputs; split
  · exact .requests _
  split
  · exact .requests _
  · exact .requests _
  · exact ⟨_, _, false, true, s.outputPowerRequests, by simp [setPowered], map_output_setPowered outputs false,
      foldl_notePoweredOff_deferredRemoval outputs _⟩

theorem powerOnOutputs_powers (outputs : List OutputId) : Powers s (s.powerOnOutputs p outputs) := by
  unfold powerOnOutputs; split
  · exact .requests _
  · exact ⟨_, _, true, true, s.outputPowerRequests, by simp [setPowered], map_output_setPowered outputs true,
      foldl_noteWake_deferredRemoval p.now outputs _⟩

variable (s p) in
theorem applyOutputPowerRequests_powers : ∃ t, s.applyOutputPowerRequests p = t.notePower ∧ Powers s t :=
  ⟨_, rfl, ((Powers.requests _).trans (powerOffOutputs_powers _)).trans (powerOnOutputs_powers _)⟩

end

end OutputLoop

/-! ## A desk with one monitor -/

def displayPorts : ConnectorNames where
  interface _ := "DP"
  interfaceId handle := handle
  distinct _ _ _ h := h

def oneMonitor : ConnectorScan where
  connectors :=
    [{ handle := 1, crtc := 1, subpixel := .unknown, sizeMm := ⟨600, 340⟩
       modes := [{ width := 1920, height := 1080, refresh := 60000, preferred := true, timing := 0 }] }]
  nodup := by decide

def workbench : Setup where
  names := displayPorts
  rounding := .exact
  maxOutputs := 4
  persistenceAvailable := true

/-- The monitor moved, on trial for ten seconds, and kept in the file if it is confirmed. -/
def moveMonitor : ApplyOutputConfiguration where
  serial := 1
  persistent := true
  confirmationTimeoutMilliseconds := some 10000
  outputs :=
    [{ name := "DP-1", enabled := true, powered := true, x := 100, y := 0, modeWidth := 1920, modeHeight := 1080
       modeRefreshMillihz := 60000, scale := .finite 1, transform := .normal, adaptiveSync := false }]

/-- The passes that take the move on trial. -/
def tryMove : List Pass := [{ now := 0, applies := [moveMonitor] }, { now := 1, begun := 1 }]

end Deniald.Outputs
