/-
The inactivity policy: when to lock, to blank the outputs and to suspend, and which outputs to wake again. Its
configuration comes in packets of Flutter, which are decoded with all their checks.
-/
import Deniald.Lib.LittleEndian
import Deniald.Lib.Fallible
import Deniald.Lib.Time
import Deniald.Topology.Output
import Mathlib.Data.Finset.Sort

namespace Deniald.Idle

open Deniald.Lib
open Deniald.Topology (OutputId)

/-! ## Configuration packets -/

inductive SuspendMode where
  | systemDefault
  | s2Idle
  | shallow
  | deep
  deriving DecidableEq

def SuspendMode.decode : UInt8 → Option SuspendMode
  | 0 => some .systemDefault
  | 1 => some .s2Idle
  | 2 => some .shallow
  | 3 => some .deep
  | _ => none

structure IdlePolicyConfiguration where
  lockTimeout : Option Nat := none
  dpmsTimeout : Option Nat := none
  suspendTimeout : Option Nat := none
  suspendMode : SuspendMode := .systemDefault
  deriving DecidableEq

inductive IdlePolicyPacketError where
  | invalidSize (size : Nat)
  | unsupportedVersion (version : UInt8)
  | invalidFlags (flags : UInt8)
  | invalidSuspendMode (mode : UInt8)
  | nonZeroReservedBytes
  | zeroTimeout (action : String)
  | timeoutTooLarge (action : String) (milliseconds : Nat)
  | timeoutAfterSuspend (action : String)

def legacyPacketBytes : Nat := 8

def packetBytes : Nat := 32

def legacyConfigurationPacketVersion : UInt8 := 1

def packetVersion : UInt8 := 2

def lockEnabled : UInt8 := 1

def dpmsEnabled : UInt8 := 2

def suspendEnabled : UInt8 := 4

def enabledMask : UInt8 := lockEnabled ||| dpmsEnabled ||| suspendEnabled

/-- `MAX_TIMEOUT`: seven days. -/
def maxTimeout : Nat := 7 * 24 * 60 * 60 * 1000000000

def decodeTimeout (action : String) (milliseconds : Nat) : Except IdlePolicyPacketError Nat :=
  let timeout := milliseconds * 1000000
  if maxTimeout < timeout then .error (.timeoutTooLarge action milliseconds) else .ok timeout

def decodePacketTimeout (action : String) (bytes : List UInt8) : Except IdlePolicyPacketError Nat :=
  let milliseconds := fromLeBytes bytes
  if milliseconds = 0 then .error (.zeroTimeout action) else decodeTimeout action milliseconds

/-- The bytes of a packet from one position up to another. -/
def slice (packet : List UInt8) (first last : Nat) : List UInt8 := (packet.drop first).take (last - first)

def decodeSuspendMode (packet : List UInt8) : Except IdlePolicyPacketError SuspendMode :=
  let version := packet.getD 0 0
  if version = legacyConfigurationPacketVersion then
    if (slice packet 2 8).any (· ≠ 0) then .error .nonZeroReservedBytes else .ok .systemDefault
  else if version = packetVersion then
    if (slice packet 3 8).any (· ≠ 0) then .error .nonZeroReservedBytes
    else match SuspendMode.decode (packet.getD 2 0) with
      | some mode => .ok mode
      | none => .error (.invalidSuspendMode (packet.getD 2 0))
  else .error (.unsupportedVersion version)

/-- `enabled.then_some(timeout)`. -/
def enabledTimeout (flags flag : UInt8) (timeout : Nat) : Option Nat := if flags &&& flag ≠ 0 then some timeout else none

def decodeConfiguration (packet : List UInt8) : Except IdlePolicyPacketError IdlePolicyConfiguration :=
  if packet.length = legacyPacketBytes then
    let milliseconds := fromLeBytes packet
    if milliseconds = 0 then .ok {}
    else do
      let timeout ← decodeTimeout "display power-off" milliseconds
      .ok { dpmsTimeout := some timeout }
  else if packet.length ≠ packetBytes then .error (.invalidSize packet.length)
  else do
    let suspendMode ← decodeSuspendMode packet
    let flags := packet.getD 1 0
    if flags &&& ~~~enabledMask ≠ 0 then .error (.invalidFlags flags)
    else do
      let lockTimeout ← decodePacketTimeout "lock" (slice packet 8 16)
      let dpmsTimeout ← decodePacketTimeout "display power-off" (slice packet 16 24)
      let suspendTimeout ← decodePacketTimeout "suspend" (slice packet 24 32)
      if suspendTimeout < lockTimeout then .error (.timeoutAfterSuspend "lock")
      else if suspendTimeout < dpmsTimeout then .error (.timeoutAfterSuspend "display power-off")
      else
        .ok { lockTimeout := enabledTimeout flags lockEnabled lockTimeout
              dpmsTimeout := enabledTimeout flags dpmsEnabled dpmsTimeout
              suspendTimeout := enabledTimeout flags suspendEnabled suspendTimeout
              suspendMode := suspendMode }

/-- The timeouts of a configuration come in order: none is later than the suspend timeout, and none is zero. -/
structure IdlePolicyConfiguration.Ordered (c : IdlePolicyConfiguration) : Prop where
  lock : ∀ lock suspend, c.lockTimeout = some lock → c.suspendTimeout = some suspend → lock ≤ suspend
  dpms : ∀ dpms suspend, c.dpmsTimeout = some dpms → c.suspendTimeout = some suspend → dpms ≤ suspend
  positive : (∀ t, c.lockTimeout = some t → 0 < t) ∧ (∀ t, c.dpmsTimeout = some t → 0 < t) ∧
    ∀ t, c.suspendTimeout = some t → 0 < t

theorem ordered_default : IdlePolicyConfiguration.Ordered {} where
  lock _ _ h := nomatch h
  dpms _ _ h := nomatch h
  positive := ⟨fun _ h => (nomatch h), fun _ h => (nomatch h), fun _ h => nomatch h⟩

theorem decodeTimeout_ok {action : String} {ms timeout : Nat} (h : decodeTimeout action ms = .ok timeout) :
    timeout = ms * 1000000 ∧ timeout ≤ maxTimeout := by
  unfold decodeTimeout at h
  simp only at h
  split at h
  · cases h
  · rename_i hle; cases h; exact ⟨rfl, not_lt.1 hle⟩

theorem decodePacketTimeout_pos {action : String} {bytes : List UInt8} {timeout : Nat}
    (h : decodePacketTimeout action bytes = .ok timeout) : 0 < timeout := by
  unfold decodePacketTimeout at h
  simp only at h
  split at h
  · cases h
  · have := (decodeTimeout_ok h).1
    omega

theorem enabledTimeout_some {flags flag : UInt8} {timeout t : Nat} (h : enabledTimeout flags flag timeout = some t) :
    t = timeout := by
  unfold enabledTimeout at h; split at h
  · exact (Option.some.inj h).symm
  · cases h

theorem decodeConfiguration_ordered {p : List UInt8} {c : IdlePolicyConfiguration}
    (h : decodeConfiguration p = .ok c) : c.Ordered := by
  unfold decodeConfiguration at h
  simp only at h
  split at h
  · split at h
    · cases h; exact ordered_default
    rename_i hz
    obtain ⟨timeout, hti, h⟩ := bind_ok.1 h; cases h
    have hpos : 0 < timeout := by
      have := (decodeTimeout_ok hti).1
      omega
    exact ⟨fun _ _ h => (nomatch h), fun _ _ _ h => (nomatch h),
      fun _ h => (nomatch h), fun t ht => by obtain rfl := Option.some.inj ht; exact hpos, fun _ h => nomatch h⟩
  · split at h
    · cases h
    obtain ⟨mode, -, h⟩ := bind_ok.1 h; split at h
    · cases h
    obtain ⟨lock, hlo, h⟩ := bind_ok.1 h
    obtain ⟨dpms, hm, h⟩ := bind_ok.1 h
    obtain ⟨ss, hsu, h⟩ := bind_ok.1 h; split at h
    · cases h
    rename_i hls; split at h
    · cases h
    · rename_i hds; cases h
      refine ⟨fun l s hl hs => ?_, fun d s hd hs => ?_, fun t ht => ?_, fun t ht => ?_, fun t ht => ?_⟩
      · rw [enabledTimeout_some hl, enabledTimeout_some hs]; exact not_lt.1 hls
      · rw [enabledTimeout_some hd, enabledTimeout_some hs]; exact not_lt.1 hds
      · rw [enabledTimeout_some ht]; exact decodePacketTimeout_pos hlo
      · rw [enabledTimeout_some ht]; exact decodePacketTimeout_pos hm
      · rw [enabledTimeout_some ht]; exact decodePacketTimeout_pos hsu

/-! ## The policy -/

structure IdlePowerRequest where
  output : OutputId
  powered : Bool
  deriving DecidableEq

structure IdlePolicyActions where
  powerRequests : List IdlePowerRequest := []
  lock : Bool := false
  suspend : Bool := false

structure IdlePolicy where
  configuration : IdlePolicyConfiguration
  lastActivity : Int
  inhibited : Bool
  lockTriggered : Bool
  dpmsTriggered : Bool
  suspendTriggered : Bool
  blankedOutputs : Finset OutputId
  manuallyBlanked : Bool

def blank (blanked : Finset OutputId) : List (OutputId × Bool) → Finset OutputId × List IdlePowerRequest
  | [] => (blanked, [])
  | (output, powered) :: outputs =>
    if powered = true ∧ output ∉ blanked then
      let rest := blank (insert output blanked) outputs
      (rest.1, ⟨output, false⟩ :: rest.2)
    else blank blanked outputs

/-- `timeout.is_some_and(|timeout| elapsed >= timeout)`. -/
def Elapsed (timeout : Option Nat) (elapsed : Nat) : Prop := ∃ t ∈ timeout, t ≤ elapsed

instance (timeout : Option Nat) (elapsed : Nat) : Decidable (Elapsed timeout elapsed) :=
  match timeout with
  | none => isFalse fun ⟨_, h, _⟩ => nomatch h
  | some t => decidable_of_iff (t ≤ elapsed) ⟨fun h => ⟨t, rfl, h⟩, fun ⟨_, ht, h⟩ => Option.some.inj ht ▸ h⟩

namespace IdlePolicy

/-- `IdlePolicy::default()` at an instant. -/
def start (now : Int) : IdlePolicy where
  configuration := {}
  lastActivity := now
  inhibited := false
  lockTriggered := false
  dpmsTriggered := false
  suspendTriggered := false
  blankedOutputs := ∅
  manuallyBlanked := false

def resetIdleInterval (p : IdlePolicy) (now : Int) : IdlePolicy :=
  { p with lastActivity := now, lockTriggered := false, dpmsTriggered := false, suspendTriggered := false }

def wakeBlankedOutputs (p : IdlePolicy) : IdlePolicy × List IdlePowerRequest :=
  ({ p with blankedOutputs := ∅, manuallyBlanked := false }, p.blankedOutputs.sort.map fun output => ⟨output, true⟩)

def blankNow (p : IdlePolicy) (outputs : List (OutputId × Bool)) : IdlePolicy × List IdlePowerRequest :=
  let blanked := blank p.blankedOutputs outputs
  ({ p with blankedOutputs := blanked.1, manuallyBlanked := p.manuallyBlanked || !blanked.2.isEmpty }, blanked.2)

def toggleNow (p : IdlePolicy) (outputs : List (OutputId × Bool)) (now : Int) : IdlePolicy × IdlePolicyActions :=
  let p := p.resetIdleInterval now
  if outputs.any (·.2) then
    let (p, requests) := p.blankNow outputs
    (p, { powerRequests := requests, lock := true })
  else
    ({ p with blankedOutputs := ∅, manuallyBlanked := false },
      { powerRequests := outputs.map fun output => ⟨output.1, true⟩ })

def configure (p : IdlePolicy) (configuration : IdlePolicyConfiguration) (now : Int) :
    IdlePolicy × List IdlePowerRequest :=
  if p.configuration = configuration then (p, [])
  else
    let p := { p with configuration := configuration }.resetIdleInterval now
    if configuration.dpmsTimeout.isNone then p.wakeBlankedOutputs else (p, [])

def noteActivity (p : IdlePolicy) (now : Int) : IdlePolicy × List IdlePowerRequest :=
  (p.resetIdleInterval now).wakeBlankedOutputs

/-- `std::mem::replace(&mut self.inhibited, inhibited)`, with a new idle interval where it changed. -/
def inhibit (p : IdlePolicy) (now : Int) (inhibited : Bool) : IdlePolicy :=
  if p.inhibited = inhibited then p else { p with inhibited := inhibited }.resetIdleInterval now

/-- `self.blanked_outputs.retain(|output| live_outputs.contains(output))`. -/
def retainLive (p : IdlePolicy) (outputs : List (OutputId × Bool)) : IdlePolicy :=
  { p with blankedOutputs := p.blankedOutputs.filter fun output => output ∈ outputs.map (·.1) }

def evaluateLock (p : IdlePolicy) (elapsed : Nat) : IdlePolicy × Bool :=
  if p.lockTriggered = false ∧ Elapsed p.configuration.lockTimeout elapsed then ({ p with lockTriggered := true }, true)
  else (p, false)

def evaluateDpms (p : IdlePolicy) (elapsed : Nat) (outputs : List (OutputId × Bool)) :
    IdlePolicy × List IdlePowerRequest :=
  if p.dpmsTriggered = false ∧ Elapsed p.configuration.dpmsTimeout elapsed then
    let blanked := blank p.blankedOutputs outputs
    ({ p with dpmsTriggered := true, blankedOutputs := blanked.1 }, blanked.2)
  else (p, [])

def evaluateSuspend (p : IdlePolicy) (elapsed : Nat) (powerRequests : List IdlePowerRequest) : IdlePolicy × Bool :=
  if powerRequests.isEmpty ∧ p.suspendTriggered = false ∧ Elapsed p.configuration.suspendTimeout elapsed then
    ({ p with suspendTriggered := true }, true)
  else (p, false)

def evaluate (p : IdlePolicy) (now : Int) (inhibited : Bool) (outputs : List (OutputId × Bool)) :
    IdlePolicy × IdlePolicyActions :=
  let p := p.inhibit now inhibited
  if inhibited then
    if p.manuallyBlanked then (p, {})
    else
      let (p, requests) := p.wakeBlankedOutputs
      (p, { powerRequests := requests })
  else
    let p := p.retainLive outputs
    let elapsed := saturatingDurationSince now p.lastActivity
    let (p, lock) := p.evaluateLock elapsed
    let (p, powerRequests) := p.evaluateDpms elapsed outputs
    let (p, suspend) := p.evaluateSuspend elapsed powerRequests
    (p, { powerRequests := powerRequests, lock := lock, suspend := suspend })

def noteExternalPowerRequest (p : IdlePolicy) (output : OutputId) (_powered : Bool) : IdlePolicy :=
  { p with blankedOutputs := p.blankedOutputs.erase output }

def notePowerFailure (p : IdlePolicy) (output : OutputId) (_now : Int) : IdlePolicy :=
  { p with blankedOutputs := p.blankedOutputs.erase output }

end IdlePolicy

end Deniald.Idle
