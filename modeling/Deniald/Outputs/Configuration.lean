/-
Output configuration (output_topology.rs): the outputs that connectors and a configuration make, the specs
they are placed by, and the configuration that an apply request stages. The kernel names its connectors, each
its own way.
-/
import Deniald.Lib.LinkedMap
import Deniald.Lib.Number
import Deniald.Topology.Manager
import Mathlib.Data.Nat.Dist
import Mathlib.Data.Prod.Lex
import Mathlib.Data.String.Basic

namespace Deniald.Outputs

open Deniald.Lib Deniald.Topology

/-! ## Transforms -/

/-- The quarter turns of a transform, without its reflection. -/
def turns : OutputTransform → Nat
  | .normal | .flipped => 0
  | .rotate90 | .flipped90 => 1
  | .rotate180 | .flipped180 => 2
  | .rotate270 | .flipped270 => 3

def isReflected : OutputTransform → Bool
  | .flipped | .flipped90 | .flipped180 | .flipped270 => true
  | _ => false

/-- `OutputTransform::rotated_by`. -/
def rotatedBy (transform rotation : OutputTransform) : OutputTransform :=
  match (turns transform + turns rotation) % 4, isReflected transform with
  | 0, false => .normal
  | 1, false => .rotate90
  | 2, false => .rotate180
  | _, false => .rotate270
  | 0, true => .flipped
  | 1, true => .flipped90
  | 2, true => .flipped180
  | _, true => .flipped270

def inverseRotation : OutputTransform → OutputTransform
  | .normal | .flipped => .normal
  | .rotate90 | .flipped90 => .rotate270
  | .rotate180 | .flipped180 => .rotate180
  | .rotate270 | .flipped270 => .rotate90

/-! ## Connectors -/

/-- How the kernel names its connectors: no two alike. -/
structure ConnectorNames where
  interface : Nat → String
  interfaceId : Nat → Nat
  distinct : ∀ a b, interface a = interface b → interfaceId a = interfaceId b → a = b

namespace ConnectorNames

variable (names : ConnectorNames)

/-- `{interface}-{interface_id}`. -/
def name (handle : Nat) : String := names.interface handle ++ "-" ++ toString (names.interfaceId handle)

/-- The order in which connectors are listed. -/
def le (a b : Nat) : Bool :=
  names.interface a < names.interface b ||
    names.interface a = names.interface b && names.interfaceId a ≤ names.interfaceId b

end ConnectorNames

/-- A mode of a connector; `timing` stands for the timings that set modes of one size and refresh apart. -/
structure Mode where
  width : Nat
  height : Nat
  refresh : Int
  preferred : Bool
  timing : Nat
  deriving DecidableEq

structure ConnectedConnector where
  handle : Nat
  crtc : Nat
  modes : List Mode
  subpixel : OutputSubpixel
  sizeMm : PixelSize

/-- What a scan finds: every connector once. -/
structure ConnectorScan where
  connectors : List ConnectedConnector
  nodup : (connectors.map (·.handle)).Nodup

structure ConnectedOutput where
  id : OutputId
  name : String
  connector : Nat
  crtc : Nat
  mode : Mode
  transform : OutputTransform
  vrrEnabled : Bool
  subpixel : OutputSubpixel
  sizeMm : PixelSize

/-! ## Configuration -/

structure OutputModePreference where
  width : Option Nat
  height : Option Nat
  refreshMillihz : Option Nat
  deriving DecidableEq

structure RuntimeOutputConfiguration where
  primaryOutput : Option String := none
  positions : LinkedMap String LogicalPoint := .empty
  modes : LinkedMap String OutputModePreference := .empty
  scales120 : LinkedMap String Nat := .empty
  transforms : LinkedMap String OutputTransform := .empty
  subpixels : LinkedMap String OutputSubpixel := .empty
  sensorRotation : OutputTransform := .normal
  vrrOutputs : Finset String := ∅
  disabledOutputs : Finset String := ∅
  deriving DecidableEq

/-- `orientation_sensor_output`. -/
def orientationSensorOutput (name : String) : Bool :=
  "DSI-".toList.isPrefixOf name.toList || "eDP-".toList.isPrefixOf name.toList || "LVDS-".toList.isPrefixOf name.toList

namespace RuntimeOutputConfiguration

variable (configuration : RuntimeOutputConfiguration)

def effectiveTransform (name : String) : OutputTransform :=
  let baseline := (configuration.transforms.get? name).getD .normal
  if orientationSensorOutput name then rotatedBy baseline configuration.sensorRotation else baseline

def baselineTransform (name : String) (effective : OutputTransform) : OutputTransform :=
  if orientationSensorOutput name then rotatedBy effective (inverseRotation configuration.sensorRotation)
  else effective

end RuntimeOutputConfiguration

/-! ## Connected outputs -/

/-- `select_refresh_millihz`: the highest refresh, or the one closest to the configured, the higher of two. -/
def selectRefreshMillihz (refreshes : List Nat) (configured : Option Nat) : Option Nat :=
  let better (refresh best : Nat) : Bool :=
    match configured with
    | none => best < refresh
    | some configured =>
      Nat.dist refresh configured < Nat.dist best configured ||
        Nat.dist refresh configured = Nat.dist best configured && best < refresh
  match refreshes with
  | [] => none
  | first :: rest => some (rest.foldl (fun best refresh => if better refresh best then refresh else best) first)

/-- A number that fits in 16 bits. -/
def toU16 (n : Nat) : Option Nat := if n < 2 ^ 16 then some n else none

/-- The refresh as an unsigned number. -/
def Mode.refreshMillihz (mode : Mode) : Option Nat := if 0 ≤ mode.refresh then some mode.refresh.toNat else none

def selectOutputMode (modes : List Mode) (preference : Option OutputModePreference) : Option Mode := do
  let preferred ← (modes.find? (·.preferred)).or modes.head?
  let selectedSize ←
    match preference with
    | none => some (preferred.width, preferred.height)
    | some ⟨some width, some height, _⟩ => do some (← toU16 width, ← toU16 height)
    | some ⟨none, none, _⟩ => some (preferred.width, preferred.height)
    | some _ => none
  let matchingModes := modes.filterMap fun mode =>
    if (mode.width, mode.height) = selectedSize then mode.refreshMillihz.map fun refresh => (mode, refresh) else none
  let selectedRefresh ← selectRefreshMillihz (matchingModes.map Prod.snd) (preference.bind (·.refreshMillihz))
  (matchingModes.find? fun (_, refresh) => refresh = selectedRefresh).map Prod.fst

section

variable (names : ConnectorNames)

/-- `current_connected_connectors`: in the order of their names. -/
def currentConnectedConnectors (scan : ConnectorScan) : List ConnectedConnector :=
  scan.connectors.mergeSort fun a b => names.le a.handle b.handle

def configuredOutput (configuration : RuntimeOutputConfiguration) (connector : ConnectedConnector) :
    Option ConnectedOutput :=
  let name := names.name connector.handle
  (selectOutputMode connector.modes (configuration.modes.get? name)).map fun mode =>
    { id := connector.handle
      name := name
      connector := connector.handle
      crtc := connector.crtc
      mode := mode
      transform := configuration.effectiveTransform name
      vrrEnabled := name ∈ configuration.vrrOutputs
      subpixel := connector.subpixel
      sizeMm := connector.sizeMm }

/-- `configured_outputs`; it fails where an enabled output has no usable mode. -/
def configuredOutputs (connected : List ConnectedConnector) (maxOutputs : Nat)
    (configuration : RuntimeOutputConfiguration) : Option (List ConnectedOutput) :=
  ((connected.filter fun connector => names.name connector.handle ∉ configuration.disabledOutputs).take
    maxOutputs).mapM (configuredOutput names configuration)

end

/-! ## Specs -/

/-- What placement does with a width: `width.ceil() as i64` in 32 bits. -/
class PlacementArith (F : Type) extends LogicalArith F where
  ceilI32 : F → Option Int

/-- A number in the range of `i32`. -/
def toI32 (n : Int) : Option Int := if -2 ^ 31 ≤ n ∧ n < 2 ^ 31 then some n else none

instance : PlacementArith Rat where
  ceilI32 := fun width => toI32 ⌈width⌉

instance : PlacementArith Float where
  ceilI32 := fun width => toI32 width.ceil.toInt64.toInt

section

variable (F : Type) [PlacementArith F]

/-- `HorizontalOutputPlacement::include`, with the x up to which the desktop reaches. -/
def includeOutput (defaultX : Int) (spec : OutputSpec) : Option Int := do
  let logicalWidth ← PlacementArith.ceilI32 (spec.logicalRect F).width
  let right ← toI32 (spec.position.x + logicalWidth)
  some (max defaultX right)

def pendingSpec (configuration : RuntimeOutputConfiguration) (output : ConnectedOutput) : Option (OutputSpec × Bool) :=
  output.mode.refreshMillihz.map fun refreshMillihz =>
    let configuredPosition := configuration.positions.get? output.name
    ({ id := output.id
       name := output.name
       position := configuredPosition.getD ⟨0, 0⟩
       mode := ⟨output.mode.width, output.mode.height⟩
       scale120 := (configuration.scales120.get? output.name).getD scaleBase
       refreshMillihz := refreshMillihz
       transform := output.transform
       subpixel := (configuration.subpixels.get? output.name).getD output.subpixel
       sizeMm := output.sizeMm }, configuredPosition.isSome)

/-- The loop that places the outputs, the others to the right of all before them. -/
def placeSpecs : Int → List (OutputSpec × Bool) → Option (List OutputSpec)
  | _, [] => some []
  | defaultX, (spec, configured) :: pending => do
    let spec := if configured then spec else { spec with position := ⟨defaultX, 0⟩ }
    let defaultX ← includeOutput F defaultX spec
    let specs ← placeSpecs defaultX pending
    some (spec :: specs)

/-- `output_specs`; it fails where the layout overflows. -/
def outputSpecs (outputs : List ConnectedOutput) (configuration : RuntimeOutputConfiguration) :
    Option (List OutputSpec) := do
  let pending ← outputs.mapM (pendingSpec configuration)
  let defaultX ← (pending.filter (·.2)).foldlM (fun defaultX (spec, _) => includeOutput F defaultX spec) 0
  placeSpecs F defaultX pending

/-- `update_topology_for_outputs`, where it succeeds. -/
def updateTopologyForOutputs (topology : TopologyManager) (outputs : List ConnectedOutput)
    (configuration : RuntimeOutputConfiguration) : Option TopologyManager := do
  let specs ← outputSpecs F outputs configuration
  match topology.updateForOutputs F specs configuration.primaryOutput with
  | (topology, .ok _) => some topology
  | (_, .error _) => none

end

/-! ## Apply requests -/

structure RequestedOutput where
  name : String
  enabled : Bool
  powered : Bool
  x : Int
  y : Int
  modeWidth : Nat
  modeHeight : Nat
  modeRefreshMillihz : Nat
  scale : F64
  transform : OutputTransform
  adaptiveSync : Bool

structure ApplyOutputConfiguration where
  serial : Nat
  primaryOutput : Option String := none
  persistent : Bool := false
  confirmationTimeoutMilliseconds : Option Nat := none
  outputs : List RequestedOutput

/-- The codes of `OutputControlFailure`. -/
inductive FailureCode where
  | unsupported
  | invalidConfiguration
  | staleConfiguration
  | confirmationPending
  | staleConfirmation
  | persistenceFailed
  | applyFailed
  deriving DecidableEq

/-- `char::is_control`. -/
def isControl (c : Char) : Bool := c.toNat < 0x20 || (0x7f ≤ c.toNat && c.toNat < 0xa0)

/-- A primary output's name that the configuration file can hold. -/
def validPrimaryOutput (name : String) : Bool :=
  !name.isEmpty && trim name.toList = name.toList &&
    !name.toList.any fun c => isControl c || c = '#' || c = ',' || c = '='

/-- A scale in 120ths: `(scale * 120).round()`. -/
def requestedScale120 (r : Rounding) (scale : ℚ) : Nat := (roundHalfAway (r.fl (scale * scaleBase))).toNat

section

variable (names : ConnectorNames) (r : Rounding)

/-- The loop body of `configuration_from_output_request`: one connector's output, with the power requests so far. -/
def stageOutput (current : RuntimeOutputConfiguration) (requested : List RequestedOutput)
    (acc : RuntimeOutputConfiguration × LinkedMap OutputId Bool) (connector : ConnectedConnector) :
    Except FailureCode (RuntimeOutputConfiguration × LinkedMap OutputId Bool) :=
  let (staged, power) := acc
  let name := names.name connector.handle
  match requested.find? fun output => output.name = name with
  | none => .error .invalidConfiguration
  | some output =>
    if !output.enabled && output.powered then .error .invalidConfiguration
    else
      match output.scale with
      | .infinite _ | .nan => .error .invalidConfiguration
      | .finite scale =>
        if scale < 1 / 4 ∨ 8 < scale then .error .invalidConfiguration
        else
          let mode : OutputModePreference := ⟨some output.modeWidth, some output.modeHeight, some output.modeRefreshMillihz⟩
          if (selectOutputMode connector.modes (some mode)).isNone then .error .invalidConfiguration
          else
            .ok ({ staged with
                positions := staged.positions.set name ⟨output.x, output.y⟩
                modes := staged.modes.set name mode
                scales120 := staged.scales120.set name (requestedScale120 r scale)
                transforms := staged.transforms.set name (current.baselineTransform name output.transform)
                disabledOutputs :=
                  if output.enabled then staged.disabledOutputs.erase name else insert name staged.disabledOutputs
                vrrOutputs :=
                  if output.adaptiveSync then insert name staged.vrrOutputs else staged.vrrOutputs.erase name },
              if output.enabled then power.set connector.handle output.powered else power.erase connector.handle)

/-- `configuration_from_output_request`: the staged configuration and the power states it asks for. -/
def configurationFromOutputRequest (request : ApplyOutputConfiguration) (connectors : List ConnectedConnector)
    (maxOutputs : Nat) (current : RuntimeOutputConfiguration) (persistenceAvailable : Bool) :
    Except FailureCode (RuntimeOutputConfiguration × LinkedMap OutputId Bool) :=
  let enabledCount := (request.outputs.filter (·.enabled)).length
  if request.persistent && !persistenceAvailable then .error .unsupported
  else if request.confirmationTimeoutMilliseconds.any fun timeout => timeout < 1000 || 60000 < timeout then
    .error .invalidConfiguration
  else if request.primaryOutput.any fun name => !validPrimaryOutput name then .error .invalidConfiguration
  else if request.outputs.length ≠ connectors.length then .error .invalidConfiguration
  else if ¬(request.outputs.map (·.name)).Nodup then .error .invalidConfiguration
  else if (connectors.map fun connector => names.name connector.handle).toFinset ≠
      (request.outputs.map (·.name)).toFinset then .error .invalidConfiguration
  else if enabledCount = 0 ∨ maxOutputs < enabledCount then .error .invalidConfiguration
  else
    connectors.foldlM (stageOutput names r current request.outputs)
      ({ current with primaryOutput := request.primaryOutput }, .empty)

end

end Deniald.Outputs
