/-
The shell's settings controller (settings_controller.dart) with the queue of writes of its store (settings_store.dart):
changes are put into the state at once and kept as a patch until a write of them has succeeded, documents that arrive
are taken with the patch put into them, and a write that is rejected goes back to what the store reads.
-/
import Deniald.Lib.Run
import Deniald.Shell.Settings

namespace Deniald.Shell

open Deniald.Lib

/-! ## Controller -/

/-- `ShellSettingsController`; of its timer only whether it runs. -/
structure ShellSettingsController where
  state : ShellSettings
  pendingMutationPatch : Patch ShellField SettingValue := .empty
  writeTimer : Bool := false
  mutationSerial : Nat := 0
  hasAuthoritativeState : Bool := false
  rejectedWrite : Option ShellSettings := none

namespace ShellSettingsController

/-- `_update`. -/
def update (c : ShellSettingsController) (next : ShellSettings) : ShellSettingsController :=
  if next = c.state then c
  else { c with
    state := next
    pendingMutationPatch := c.pendingMutationPatch.join (next.differenceFrom c.state)
    mutationSerial := c.mutationSerial + 1
    writeTimer := c.hasAuthoritativeState || c.writeTimer }

/-- `_acceptAuthoritativeState`, which fails where the patch cannot be put into the document. -/
def acceptAuthoritativeState (c : ShellSettingsController) (restored : ShellSettings) :
    Option ShellSettingsController :=
  let accept (resolved : ShellSettings) (writeTimer : Bool) : ShellSettingsController :=
    { c with state := resolved, hasAuthoritativeState := true, mutationSerial := c.mutationSerial + 1, writeTimer }
  if c.pendingMutationPatch.Empty then some (accept restored c.writeTimer)
  else (applySettingsPatch restored.toJson c.pendingMutationPatch).map fun document => accept (.fromJson document) true

/-- `retryFailedWrite`. -/
def retryFailedWrite (c : ShellSettingsController) : ShellSettingsController :=
  match c.rejectedWrite with
  | some rejected => update { c with rejectedWrite := none } rejected
  | none => c

def dismissWriteFailure (c : ShellSettingsController) : ShellSettingsController := { c with rejectedWrite := none }

/-- What `flush` does when its write has succeeded. -/
def committed (c : ShellSettingsController) (committedPatch : Patch ShellField SettingValue) :
    ShellSettingsController :=
  let pending := c.pendingMutationPatch.without committedPatch
  { c with
    rejectedWrite := none
    pendingMutationPatch := pending
    writeTimer := c.writeTimer && !decide pending.Empty }

/-- What `_writeSafely` does with the settings that the store read after it rejected a write. -/
def rollBack (c : ShellSettingsController) (rejected restored : ShellSettings) : ShellSettingsController :=
  { c with
    pendingMutationPatch := .empty
    hasAuthoritativeState := true
    state := restored
    rejectedWrite := some rejected }

end ShellSettingsController

/-! ## Writes -/

/-- A `_writeSafely` that waits, with what it took before. -/
structure SafeWrite where
  writeSerial : Nat
  rejected : ShellSettings

/-- A `flush` that waits for its write, by itself or for a `_writeSafely`. Beside them is the document that was accepted
last before, with the fields that have changed since. -/
structure StoreWrite where
  written : ShellSettings
  committedPatch : Patch ShellField SettingValue
  safe : Option SafeWrite
  received : Option ShellSettings
  changed : ShellField → Bool

/-- The controller with the writes in the store's queue, of which the first may be in flight, and the `_writeSafely`
that read the store after their write failed. The last document that was accepted, the fields that have changed since,
and the last write that succeeded are kept beside them. -/
structure SettingsSession where
  controller : ShellSettingsController
  writeQueue : List StoreWrite := []
  rollbacks : List SafeWrite := []
  authoritative : Option ShellSettings := none
  changed : ShellField → Bool := fun _ => false
  lastWritten : Option ShellSettings := none

inductive SettingsEvent where
  | mutate (next : ShellSettings)
  | debounceExpired
  | flush
  | writeSucceeded
  | writeFailed
  | rollbackRead (index : Nat) (restored : Option ShellDocument)
  | nativeDocument (document : ShellDocument)
  | retryFailedWrite
  | dismissWriteFailure

namespace SettingsSession

def become (s : SettingsSession) (controller : ShellSettingsController) : SettingsSession :=
  { s with
    controller
    changed := fun field =>
      s.changed field || decide (controller.state.values field ≠ s.controller.state.values field) }

/-- `flush`, up to the write. -/
def flush (s : SettingsSession) (safe : Option SafeWrite) : SettingsSession :=
  let write : StoreWrite :=
    ⟨s.controller.state, s.controller.pendingMutationPatch, safe, s.authoritative, s.changed⟩
  { s with controller := { s.controller with writeTimer := false }, writeQueue := s.writeQueue ++ [write] }

/-- `_writeSafely`, up to the write. -/
def writeSafely (s : SettingsSession) : SettingsSession :=
    s.flush (some ⟨s.controller.mutationSerial, s.controller.state⟩)

def writeSucceeded (s : SettingsSession) : SettingsSession :=
  match s.writeQueue with
  | [] => s
  | write :: writes =>
    { s with
      controller := s.controller.committed write.committedPatch
      writeQueue := writes
      lastWritten := some write.written }

/-- The store is read again, unless the state is another by now; a `flush` by itself only fails. -/
def writeFailed (s : SettingsSession) : SettingsSession :=
  match s.writeQueue with
  | [] => s
  | write :: writes =>
    let reads := write.safe.toList.filter fun safe => safe.writeSerial = s.controller.mutationSerial
    { s with writeQueue := writes, rollbacks := s.rollbacks ++ reads }

def rollbackRead (s : SettingsSession) (index : Nat) (restored : Option ShellDocument) : SettingsSession :=
  match s.rollbacks[index]? with
  | none => s
  | some safe =>
    let s := { s with rollbacks := s.rollbacks.eraseIdx index }
    match restored with
    | none => s
    | some document =>
      if safe.writeSerial = s.controller.mutationSerial then
        { s with
          controller := s.controller.rollBack safe.rejected (.fromJson document)
          authoritative := some (.fromJson document)
          changed := fun _ => false }
      else s

/-- `_applyNativeDocument`: where it fails, the document is dropped. -/
def nativeDocument (s : SettingsSession) (document : ShellDocument) : SettingsSession :=
  match s.controller.acceptAuthoritativeState (.fromJson document) with
  | some controller =>
    { s with
      controller
      authoritative := some (.fromJson document)
      changed := fun field => (s.controller.pendingMutationPatch field).isSome ||
        decide (controller.state.values field ≠ (ShellSettings.fromJson document).values field) }
  | none => s

end SettingsSession

def settingsNext (s : SettingsSession) : SettingsEvent → SettingsSession
  | .mutate next => s.become (s.controller.update next)
  | .debounceExpired => if s.controller.writeTimer then s.writeSafely else s
  | .flush => if s.controller.hasAuthoritativeState then s.flush none else s
  | .writeSucceeded => s.writeSucceeded
  | .writeFailed => s.writeFailed
  | .rollbackRead index restored => s.rollbackRead index restored
  | .nativeDocument document => s.nativeDocument document
  | .retryFailedWrite => s.become s.controller.retryFailedWrite
  | .dismissWriteFailure => s.become s.controller.dismissWriteFailure

def SettingsSession.start (initialSettings : ShellSettings) : SettingsSession :=
    { controller := { state := initialSettings } }

end Deniald.Shell
