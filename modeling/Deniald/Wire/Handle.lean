/-
Messages from the shell, handled (wire/decode.rs, `handle`): a message adds one command or replaces one pending
update, or asks for a snapshot and changes nothing, or is refused.
-/
import Deniald.Wire.Decode
import Mathlib.Data.Nat.Bitwise

namespace Deniald.Wire

open Deniald.Lib Deniald.Topology

/-! ## Messages -/

inductive WindowRequestKind where
  | listWindows
  | getDisplayLayout
  | closeWindow
  | focusWindow
  | configureWindow
  | createLocalWindow
  | configureSystemBar
  | switchWorkspace
  | moveWindowToWorkspace
  | minimizeWindow
  | unknown
  deriving DecidableEq

structure WindowRequest where
  kind : WindowRequestKind
  windowId : UInt64 := 0
  geometry : Option WireRect := none
  appId : Option String := none
  title : Option String := none
  /-- The side, where it is one that is known. -/
  systemBarSide : Option SystemBarSide := some .top
  systemBarMonitorIds : Option (List Int64) := none
  flags : UInt32 := 0
  monitorId : Int64 := -1
  workspaceId : UInt32 := 1
  systemBarThickness : F64 := .finite 0
  maximizePadding : F64 := .finite 0

/-- `fb::Payload`: each of the types a message to the compositor may have, with its table where that is there. -/
inductive Payload where
  | inputLayout (layout : Option InputLayoutTable)
  | keyboardCommand (command : Option KeyboardCommandTable)
  | desktopNotificationCommand (command : Option NotificationCommandTable)
  | xembedTrayCommand (command : Option XEmbedTrayCommandTable)
  | themeState (accentSrgb : Option UInt32)
  | settingsRequest (request : Option SettingsRequest)
  | windowRequest (request : Option WindowRequest)
  | none
  | other

structure Envelope where
  protocolVersion : UInt16
  sequence : UInt64
  requestId : UInt64
  payload : Payload

/-- A message: its size, whether it has the identifier, and the envelope that the verifier finds in it. -/
structure Message where
  bytes : Nat
  identified : Bool
  envelope : Option Envelope

def protocolVersion : UInt16 := 1
def minEnvelopeBytes : Nat := 12
def maxPendingWindowCommands : Nat := 4096
def maxPendingKeyboardCommands : Nat := 256
def maxPendingNotificationCommands : Nat := 256
def maxPendingXembedTrayCommands : Nat := 256
def maxPendingSettingsCommands : Nat := 64
def maxLocalAppIdBytes : Nat := 256
def maxLocalWindowTitleBytes : Nat := 1024

/-! ## Window requests -/

/-- `monitor_id`: an identity that is one of the wire's. -/
def monitorId (id : OutputId) : Option Int64 := if id < 2 ^ 63 then some (Int64.ofNat id) else none

/-- `u8::try_from`, of a number that a workspace can have. -/
def decodeWorkspace (workspaceId : UInt32) : Except WireError UInt8 :=
  if 1 ≤ workspaceId && workspaceId ≤ 9 then .ok workspaceId.toUInt8 else .error .identity

def configureFlagsMask : UInt32 := 3

def decodeSwitchWorkspace (request : WindowRequest) : Except WireError WindowCommand := do
  let workspaceId ← decodeWorkspace request.workspaceId
  if request.monitorId < 0 then .error .identity else return .switchWorkspace request.monitorId workspaceId

def decodeMoveToWorkspace (request : WindowRequest) : Except WireError WindowCommand := do
  let workspaceId ← decodeWorkspace request.workspaceId
  if request.windowId = 0 ∨ request.flags &&& ~~~1 ≠ 0 then .error .identity
  else
    let monitorId := if 0 ≤ request.monitorId then some request.monitorId else none
    return .moveToWorkspace request.windowId monitorId workspaceId (request.flags &&& 1 ≠ 0)

def decodeConfigure (rounding : Rounding) (request : WindowRequest) : Except WireError WindowCommand :=
  if request.flags &&& ~~~configureFlagsMask ≠ 0 ∨ request.flags &&& configureFlagsMask = configureFlagsMask then
    .error .flags
  else do
    let geometry ← decodeWindowGeometry rounding (← required request.geometry .geometry)
    return .configure request.windowId geometry (request.flags &&& 1 ≠ 0) (request.flags &&& 2 ≠ 0)

def decodeWindowCommand (rounding : Rounding) (request : WindowRequest) : Except WireError WindowCommand :=
  if request.windowId = 0 then .error .identity
  else match request.kind with
    | .closeWindow => .ok (.close request.windowId)
    | .focusWindow => .ok (.focus request.windowId)
    | .minimizeWindow => .ok (.minimize request.windowId)
    | _ => decodeConfigure rounding request

def decodeCreateLocal (rounding : Rounding) (request : WindowRequest) : Except WireError WindowCommand := do
  let appId ← required request.appId .payload
  let title ← required request.title .payload
  if appId.isEmpty || maxLocalAppIdBytes < appId.utf8ByteSize || title.isEmpty ||
      maxLocalWindowTitleBytes < title.utf8ByteSize || Shortcut.containsNul appId || Shortcut.containsNul title then
    .error .payload
  else do
    let geometry ← decodeWindowGeometry rounding (← required request.geometry .geometry)
    return .createLocal appId title geometry

def decodeMonitors (outputs : List OutputSpec) : List Int64 → List Int64 → Except WireError (List String)
  | _, [] => .ok []
  | unique, id :: ids =>
    if id < 0 ∨ id ∈ unique then .error .identity
    else match outputs.find? fun output => monitorId output.id == some id with
      | none => .error (.topology "system bar monitor is not live")
      | some output => do return output.name :: (← decodeMonitors outputs (id :: unique) ids)

def decodeSystemBar (outputs : List OutputSpec) (request : WindowRequest) :
    Except WireError (SystemBarSide × List String) := do
  let side ← required (request.systemBarSide.filter fun side => side != .hidden) .enumeration
  let ids ← required request.systemBarMonitorIds .payload
  if ids.isEmpty || outputs.length < ids.length then .error .count
  else return (side, ← decodeMonitors outputs [] ids)

/-- `MAX_SYSTEM_BAR_THICKNESS`. -/
def maxSystemBarThickness : ℚ := 512

/-- `MAX_MAXIMIZE_PADDING`. -/
def maxMaximizePadding : ℚ := 256

def positive (value : F64) : Bool := value.isFinite && F64.lt (.finite 0) value

/-! ## Handling -/

abbrev Handled (F : Type) := WireBridge F × Except WireError (Option (Outbound F))

section Handle

variable {F : Type} (builder : Builder F) (rounding : Rounding)

/-- A new state, or the old one with an error. -/
def settle (b : WireBridge F) (result : Except WireError (WireBridge F)) : Handled F :=
  match result with
  | .error error => (b, .error error)
  | .ok b' => (b', .ok none)

/-- A command behind those that are pending, of which there is a limit. -/
def enqueue {α : Type} (limit : Nat) (pending : List α) (decoded : Except WireError α) : Except WireError (List α) :=
  if limit ≤ pending.length then .error .count else do return pending ++ [← decoded]

def respond (b : WireBridge F) (message : UInt64 → Outbound F) : Handled F :=
  let (sequence, b) := b.takeSequence
  (b, (encode builder (message sequence)).map some)

/-- The options for the bar, with the padding that comes with them. -/
def withPadding (workArea : WorkAreaOptions) (padding : F64) : WorkAreaOptions :=
  if positive padding && F64.le padding (.finite maxMaximizePadding) then { workArea with maximizePadding := padding }
  else workArea

def configureSystemBar (b : WireBridge F) (requestId : UInt64) (request : WindowRequest) : Handled F :=
  match decodeSystemBar b.snapshot.outputs request with
  | .error error => (b, .error error)
  | .ok (side, outputs) =>
    let workArea := { b.workArea with systemBar := { b.workArea.systemBar with outputs, side } }
    if positive request.systemBarThickness && F64.lt (.finite maxSystemBarThickness) request.systemBarThickness then
      ({ b with workArea }, .error .geometry)
    else
      let workArea := if positive request.systemBarThickness then
          { workArea with systemBar := { workArea.systemBar with thickness := request.systemBarThickness } }
        else workArea
      let workArea := withPadding workArea request.maximizePadding
      respond builder { b with workArea, pendingWorkArea := some workArea } fun sequence =>
        .displayLayout sequence requestId b.snapshot b.atlas workArea

def pushWindowCommand (b : WireBridge F) (decoded : Except WireError WindowCommand) : Handled F :=
  settle b do
    return { b with
      pendingWindowCommands := ← enqueue maxPendingWindowCommands b.pendingWindowCommands decoded }

def handleWindowRequest (b : WireBridge F) (requestId : UInt64) (request : WindowRequest) : Handled F :=
  match request.kind with
  | .listWindows =>
    if requestId = 0 then (b, .error .requestId)
    else respond builder b fun sequence => .windowsResponse sequence requestId b.windows b.restoredWindowIds
  | .getDisplayLayout =>
    if requestId = 0 then (b, .error .requestId)
    else respond builder b fun sequence => .displayLayout sequence requestId b.snapshot b.atlas b.workArea
  | .configureSystemBar =>
    if requestId = 0 then (b, .error .requestId) else configureSystemBar builder b requestId request
  | .switchWorkspace =>
    if requestId ≠ 0 then (b, .error .requestId) else pushWindowCommand b (decodeSwitchWorkspace request)
  | .moveWindowToWorkspace =>
    if requestId ≠ 0 then (b, .error .requestId) else pushWindowCommand b (decodeMoveToWorkspace request)
  | .closeWindow | .focusWindow | .minimizeWindow | .configureWindow =>
    pushWindowCommand b (decodeWindowCommand rounding request)
  | .createLocalWindow =>
    if requestId ≠ 0 then (b, .error .requestId) else pushWindowCommand b (decodeCreateLocal rounding request)
  | .unknown => (b, .error .request)

def decodeTheme (requestId : UInt64) (accentSrgb : Option UInt32) : Except WireError UInt32 :=
  if requestId ≠ 0 then .error .requestId
  else do
    let accent ← required accentSrgb .payload
    if accent &&& 0xff000000 ≠ 0 then .error .payload else return accent

def handlePayload (b : WireBridge F) (requestId : UInt64) : Payload → Handled F
  | .inputLayout layout => settle b do
    return { b with pendingInputLayout := some (← decodeInputLayout (← required layout .payload)) }
  | .keyboardCommand command => settle b do
    let command ← required command .payload
    return { b with
      pendingKeyboardCommands :=
        ← enqueue maxPendingKeyboardCommands b.pendingKeyboardCommands (decodeKeyboardCommand command) }
  | .desktopNotificationCommand command => settle b do
    let command ← required command .payload
    return { b with
      pendingNotificationCommands :=
        ← enqueue maxPendingNotificationCommands b.pendingNotificationCommands (decodeNotificationCommand command) }
  | .xembedTrayCommand command => settle b do
    let command ← required command .payload
    return { b with
      pendingXembedTrayCommands :=
        ← enqueue maxPendingXembedTrayCommands b.pendingXembedTrayCommands (decodeXembedTrayCommand command) }
  | .themeState accentSrgb => settle b do
    return { b with pendingThemeAccent := some (← decodeTheme requestId accentSrgb) }
  | .settingsRequest request =>
    if requestId = 0 then (b, .error .requestId)
    else settle b do
      return { b with
        pendingSettingsCommands := ← enqueue maxPendingSettingsCommands b.pendingSettingsCommands do
          decodeSettingsRequest requestId (← required request .payload) }
  | .windowRequest none => (b, .error .payload)
  | .windowRequest (some request) => handleWindowRequest builder rounding b requestId request
  | .none => (b, .error .payload)
  | .other => (b, .error .direction)

def handle (b : WireBridge F) (message : Message) : Handled F :=
  if message.bytes < minEnvelopeBytes ∨ maxMessageBytes < message.bytes then (b, .error (.size message.bytes))
  else if !message.identified then (b, .error .identifier)
  else match message.envelope with
    | none => (b, .error .flatBuffer)
    | some envelope =>
      if envelope.protocolVersion ≠ protocolVersion then (b, .error (.version envelope.protocolVersion))
      else if envelope.sequence = 0 then (b, .error .sequence)
      else handlePayload builder rounding b envelope.requestId envelope.payload

end Handle

/-! ## What a message does -/

/-- A window's identity is not 0, a monitor's not negative, a workspace is one of nine, and geometry is bounded. -/
def WindowCommand.Sound : WindowCommand → Prop
  | .createLocal appId title geometry => appId.isEmpty = false ∧ appId.utf8ByteSize ≤ maxLocalAppIdBytes ∧
      title.isEmpty = false ∧ title.utf8ByteSize ≤ maxLocalWindowTitleBytes ∧ geometry.Bounded
  | .close windowId | .focus windowId | .minimize windowId => windowId ≠ 0
  | .configure windowId geometry exact layoutDrop => windowId ≠ 0 ∧ geometry.Bounded ∧
      ¬(exact = true ∧ layoutDrop = true)
  | .switchWorkspace monitorId workspaceId => 0 ≤ monitorId ∧ 1 ≤ workspaceId ∧ workspaceId ≤ 9
  | .moveToWorkspace windowId monitorId workspaceId _ => windowId ≠ 0 ∧ (∀ id ∈ monitorId, 0 ≤ id) ∧ 1 ≤ workspaceId ∧
      workspaceId ≤ 9

/-- Options as they were, but for a side that is shown, outputs that are there, and numbers in their bounds. -/
structure SoundWorkArea (outputs : List OutputSpec) (old workArea : WorkAreaOptions) : Prop where
  side : workArea.systemBar.side ≠ .hidden
  outputs : ∀ name ∈ workArea.systemBar.outputs, ∃ output ∈ outputs, output.name = name
  thickness : workArea.systemBar.thickness = old.systemBar.thickness ∨
    ∃ q : ℚ, workArea.systemBar.thickness = .finite q ∧ 0 < q ∧ q ≤ maxSystemBarThickness
  padding : workArea.maximizePadding = old.maximizePadding ∨
    ∃ q : ℚ, workArea.maximizePadding = .finite q ∧ 0 < q ∧ q ≤ maxMaximizePadding

inductive Updates {F : Type} (b : WireBridge F) : WireBridge F → Prop
  | inputLayout (layout : InputLayoutSnapshot) (sound : layout.Sound) :
      Updates b { b with pendingInputLayout := some layout }
  | window (command : WindowCommand) (sound : command.Sound) :
    Updates b { b with pendingWindowCommands := b.pendingWindowCommands ++ [command] }
  | keyboard (command : KeyboardCommand) (sound : command.Sound) :
    Updates b { b with pendingKeyboardCommands := b.pendingKeyboardCommands ++ [command] }
  | notification (command : NotificationCommand) (sound : command.Sound) :
    Updates b { b with pendingNotificationCommands := b.pendingNotificationCommands ++ [command] }
  | tray (command : XEmbedTrayCommand) (sound : command.windowId ≠ 0) :
    Updates b { b with pendingXembedTrayCommands := b.pendingXembedTrayCommands ++ [command] }
  | settings (command : SettingsCommand) (sound : command.Sound) :
    Updates b { b with pendingSettingsCommands := b.pendingSettingsCommands ++ [command] }
  | theme (accent : UInt32) (sound : accent &&& 0xff000000 = 0) : Updates b { b with pendingThemeAccent := some accent }
  | workArea (workArea : WorkAreaOptions) (nextSequence : UInt64)
    (sound : SoundWorkArea b.snapshot.outputs b.workArea workArea) :
    Updates b { b with workArea, pendingWorkArea := some workArea, nextSequence }

structure Unchanged {F : Type} (b b' : WireBridge F) : Prop where
  inputLayout : b'.pendingInputLayout = b.pendingInputLayout
  windowCommands : b'.pendingWindowCommands = b.pendingWindowCommands
  keyboardCommands : b'.pendingKeyboardCommands = b.pendingKeyboardCommands
  notificationCommands : b'.pendingNotificationCommands = b.pendingNotificationCommands
  trayCommands : b'.pendingXembedTrayCommands = b.pendingXembedTrayCommands
  settingsCommands : b'.pendingSettingsCommands = b.pendingSettingsCommands
  themeAccent : b'.pendingThemeAccent = b.pendingThemeAccent
  windows : b'.windows = b.windows
  windowsRevision : b'.windowsRevision = b.windowsRevision
  restoredWindowIds : b'.restoredWindowIds = b.restoredWindowIds

def SameWorkArea {F : Type} (b b' : WireBridge F) : Prop :=
  b'.workArea = b.workArea ∧ b'.pendingWorkArea = b.pendingWorkArea

def Message.asks (message : Message) (kinds : List WindowRequestKind) : Prop :=
  ∃ envelope request, message.envelope = some envelope ∧ envelope.payload = .windowRequest (some request) ∧
    request.kind ∈ kinds

variable {request : WindowRequest} {command : WindowCommand}

variable {rounding : Rounding} {outputs : List OutputSpec}

section Contract

variable {F : Type} {builder : Builder F} {rounding : Rounding} {b : WireBridge F}

theorem Unchanged.refl (b : WireBridge F) : Unchanged b b := ⟨rfl, rfl, rfl, rfl, rfl, rfl, rfl, rfl, rfl, rfl⟩

theorem SameWorkArea.refl (b : WireBridge F) : SameWorkArea b b := ⟨rfl, rfl⟩

/-- What one kind of message does, of those that do not ask for a snapshot. -/
structure Refuses (b : WireBridge F) (handled : Handled F) : Prop where
  refused : ∀ error, handled.2 = .error error → handled.1 = b
  updated : ∀ reply, handled.2 = .ok reply → Updates b handled.1

theorem enqueue_ok {α : Type} {limit : Nat} {pending pend' : List α} {dec : Except WireError α}
    (h : enqueue limit pending dec = .ok pend') : ∃ command, dec = .ok command ∧ pend' = pending ++ [command] := by
  unfold enqueue at h; split at h
  · cases h
  obtain ⟨command, hm, h⟩ := bind_ok.1 h; exact ⟨command, hm, (Except.ok.inj h).symm⟩

end Contract

/-- A bridge before its first message. -/
def freshBridge : WireBridge ℚ :=
  { snapshot := ⟨1, none, none, []⟩, atlas := ⟨1, (0, 0), (0, 0), 120, ⟨0, 0⟩, []⟩, workArea := {} }

/-- The shell asks for the windows. -/
def listWindows : Message := ⟨64, true, some ⟨protocolVersion, 1, 7, .windowRequest (some { kind := .listWindows })⟩⟩

end Deniald.Wire
