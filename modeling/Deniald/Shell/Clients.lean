/-
Shell clients of the compositor's settings: each with its controller and its store (settings_store.dart), which writes
one after the other, reads the document anew after a conflict and writes once more; and the compositor
(flutter_settings_sync.rs), which takes one request after the other. Documents are delivered late and more than once.
-/
import Deniald.Settings.Store
import Deniald.Shell.Controller
import Deniald.Shell.Document

namespace Deniald.Shell

open Deniald.Lib Deniald.Settings

/-- `DenialSettingsDocument`. -/
structure SettingsDocument where
  revision : UInt64
  json : JsonMap

/-! ## Clients -/

/-- How far `_write` is with the first write of the queue. -/
inductive WritePhase where
  | idle
  | reading (retried : Bool)
  | writing (retried : Bool) (request : Nat)

/-- A controller with its `NativeSettingsStore`, of which the queue is the session's. -/
structure SettingsClient where
  session : SettingsSession
  revision : UInt64 := 0
  documentVersion : Option UInt64 := none
  phase : WritePhase := .idle

/-- `ShellSettings.schemaVersion`. -/
def shellSchemaVersion : UInt64 := 23

def documentVersionOf (json : JsonMap) : Option UInt64 :=
  ((json.get "version").bind Json.asU64).filter fun version => 0 < version

namespace SettingsClient

/-- `_rememberDocument`, which refuses a document without a revision. -/
def rememberDocument (client : SettingsClient) (document : SettingsDocument) : Option SettingsClient :=
  if document.revision = 0 then none
  else some { client with
    revision := max client.revision document.revision
    documentVersion := (documentVersionOf document.json).or client.documentVersion }

/-- A document of `settingsDocumentUpdates`. -/
def receive (client : SettingsClient) (document : SettingsDocument) : SettingsClient :=
  match client.rememberDocument document with
  | some client => { client with session := client.session.nativeDocument (shellValues document.json) }
  | none => client

/-- The store's `read` for a write that was rejected. -/
def rollbackRead (client : SettingsClient) (index : Nat) (document : Option SettingsDocument) : SettingsClient :=
  match document.bind client.rememberDocument with
  | some client =>
    let restored := document.map fun document => shellValues document.json
    { client with session := client.session.rollbackRead index restored }
  | none => { client with session := client.session.rollbackRead index none }

def fail (client : SettingsClient) : SettingsClient :=
  { client with phase := .idle, session := client.session.writeFailed }

def succeed (client : SettingsClient) (revision : UInt64) : SettingsClient :=
  { client with phase := .idle, revision, session := client.session.writeSucceeded }

end SettingsClient

/-- What the user and the timer do; the other events are the store's. -/
def SettingsEvent.isUsers : SettingsEvent → Bool
  | .mutate _ | .debounceExpired | .flush | .retryFailedWrite | .dismissWriteFailure => true
  | .writeSucceeded | .writeFailed | .rollbackRead .. | .nativeDocument _ => false

/-! ## The compositor -/

/-- A `WriteDocument` on its way, with the write that it is for. -/
structure WriteRequest (B : Type) where
  id : Nat
  expectedRevision : UInt64
  json : B
  write : StoreWrite

/-- What was committed natively, last of each. -/
structure NativeSettings where
  keyboard : KeyboardSettings
  mouse : MouseSettings
  touchpad : TouchpadSettings

/-- The compositor's settings with every document that it published, the clients, and what is between them. -/
structure SettingsSystem (B : Type) where
  manager : SettingsManager B
  file : Option B
  native : NativeSettings
  documents : List SettingsDocument
  clients : Nat → SettingsClient
  requests : List (WriteRequest B) := []
  answers : List (Nat × Option UInt64) := []
  nextRequest : Nat := 0

inductive SystemEvent (B : Type) where
  | user (client : Nat) (event : SettingsEvent)
  | receive (client document : Nat)
  | rollbackRead (client index : Nat) (document : Option Nat)
  | startWrite (client : Nat)
  | readDocument (client : Nat) (document : Option Nat)
  | handle (index : Nat) (written : Bool) (io : FileIo)
  | answer (client : Nat)
  | timeout (client : Nat)
  | native (request : SettingsManager.SettingsRequest B) (written : Bool) (io : FileIo)

def NativeSettings.apply {B : Type} (native : NativeSettings) : SettingsManager.SettingsRequest B → NativeSettings
  | .shell .. => native
  | .keyboard _ keyboard _ => { native with keyboard }
  | .touchpad _ touchpad => { native with touchpad }
  | .mouse _ mouse => { native with mouse }

namespace SettingsSystem

variable {B : Type} [DecidableEq B] (text : JsonText B)

def setClient (s : SettingsSystem B) (i : Nat) (client : SettingsClient) : SettingsSystem B :=
  { s with clients := Function.update s.clients i client }

def send (s : SettingsSystem B) (i : Nat) (client : SettingsClient) (retried : Bool) : SettingsSystem B :=
  match client.session.writeQueue with
  | [] => s.setClient i client
  | write :: _ =>
    let json := text.encode (write.written.encode (client.documentVersion.getD shellSchemaVersion))
    let request : WriteRequest B := ⟨s.nextRequest, client.revision, json, write⟩
    { s.setClient i { client with phase := .writing retried s.nextRequest } with
      requests := s.requests ++ [request]
      nextRequest := s.nextRequest + 1 }

/-- `_write`, when its turn has come. -/
def startWrite (s : SettingsSystem B) (i : Nat) : SettingsSystem B :=
  let client := s.clients i
  match client.phase, client.session.writeQueue with
  | .idle, _ :: _ =>
    if client.revision = 0 then s.setClient i { client with phase := .reading false } else s.send text i client false
  | _, _ => s

/-- `_write` goes on with the document that was read. -/
def readDocument (s : SettingsSystem B) (i : Nat) (document : Option SettingsDocument) : SettingsSystem B :=
  let client := s.clients i
  match client.phase with
  | .reading retried =>
    match document.bind client.rememberDocument with
    | some client => s.send text i client retried
    | none => s.setClient i client.fail
  | _ => s

def commitRequest (s : SettingsSystem B) (request : SettingsManager.SettingsRequest B) (written : Bool) (io : FileIo) :
    Option (SettingsManager B × Option B) :=
  match s.manager.prepareRequest text (request, written) with
  | .error _ => none
  | .ok prepared =>
    let (store, result) := s.manager.commit text s.file io prepared
    if result.isOk then some store else none

def publish (s : SettingsSystem B) (store : SettingsManager B × Option B) : SettingsSystem B :=
  { s with manager := store.1, file := store.2, documents := s.documents ++ [⟨store.1.revision, store.1.document⟩] }

def handle (s : SettingsSystem B) (index : Nat) (written : Bool) (io : FileIo) : SettingsSystem B :=
  match s.requests[index]? with
  | none => s
  | some request =>
    let s := { s with requests := s.requests.eraseIdx index }
    match s.commitRequest text (.shell request.expectedRevision request.json) written io with
    | some store => { s.publish store with answers := s.answers ++ [(request.id, some store.1.revision)] }
    | none => { s with answers := s.answers ++ [(request.id, none)] }

/-- An error is a `StateError`, after which `_write` reads the document and writes once more. -/
def answer (s : SettingsSystem B) (i : Nat) : SettingsSystem B :=
  let client := s.clients i
  match client.phase with
  | .writing retried request =>
    match s.answers.find? fun answer => answer.1 = request with
    | none => s
    | some (_, some revision) => s.setClient i (client.succeed revision)
    | some (_, none) => s.setClient i (if retried then client.fail else { client with phase := .reading true })
  | _ => s

def timeout (s : SettingsSystem B) (i : Nat) : SettingsSystem B :=
  match (s.clients i).phase with
  | .idle => s
  | .reading _ | .writing .. => s.setClient i (s.clients i).fail

def nativeUpdate (s : SettingsSystem B) (request : SettingsManager.SettingsRequest B) (written : Bool) (io : FileIo) :
    SettingsSystem B :=
  match request with
  | .shell .. => s
  | _ =>
    match s.commitRequest text request written io with
    | some store => { s.publish store with native := s.native.apply request }
    | none => s

end SettingsSystem

variable {B : Type} [DecidableEq B] (text : JsonText B)

def systemNext (s : SettingsSystem B) : SystemEvent B → SettingsSystem B
  | .user i event =>
    if event.isUsers then s.setClient i { s.clients i with session := settingsNext (s.clients i).session event } else s
  | .receive i document =>
    match s.documents[document]? with
    | some document => s.setClient i ((s.clients i).receive document)
    | none => s
  | .rollbackRead i index document =>
    s.setClient i ((s.clients i).rollbackRead index (document.bind fun document => s.documents[document]?))
  | .startWrite i => s.startWrite text i
  | .readDocument i document => s.readDocument text i (document.bind fun document => s.documents[document]?)
  | .handle index written io => s.handle text index written io
  | .answer i => s.answer i
  | .timeout i => s.timeout i
  | .native request written io => s.nativeUpdate text request written io

def SettingsSystem.start (store : SettingsManager B × Option B) (initialSettings : Nat → ShellSettings) :
    SettingsSystem B where
  manager := store.1
  file := store.2
  native := ⟨store.1.keyboard, store.1.mouse, store.1.touchpad⟩
  documents := [⟨store.1.revision, store.1.document⟩]
  clients i := { session := .start (initialSettings i) }

end Deniald.Shell
