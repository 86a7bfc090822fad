/-
Shortcut bindings on the wire (wire/encode.rs, wire/decode.rs): the table that the shell is sent, and the one that it
sends back in a request. FlatBuffers is taken to deliver each field as it was written.
-/
import Deniald.Shortcut.Store
import Deniald.Lib.Number

namespace Deniald.Wire

open Deniald.Lib Deniald.Shortcut

/-! ## Tables -/

inductive WireError where
  | size (bytes : Nat)
  | identifier
  | flatBuffer
  | version (version : UInt16)
  | sequence
  | requestId
  | payload
  | enumeration
  | flags
  | string
  | count
  | identity
  | geometry
  | ordering
  | direction
  | request
  | topology (reason : String)
  deriving DecidableEq

/-- `fb::ShortcutActionKind`: a byte, with names for some of its values. -/
inductive ShortcutActionKind where
  | shutdown
  | openApplications
  | openOverview
  | toggleVerticalMaximize
  | windowSwitcher
  | openClipboard
  | captureRegion
  | closeWindow
  | minimizeWindow
  | toggleMaximize
  | toggleFullscreen
  | releasePointer
  | lockScreen
  | volumeUp
  | volumeDown
  | volumeMute
  | brightnessUp
  | brightnessDown
  | nextKeyboardLayout
  | previousKeyboardLayout
  | openSettings
  | openDashboard
  | minimizeAllWindows
  | focusLeft
  | focusRight
  | focusUp
  | focusDown
  | swapLeft
  | swapRight
  | swapUp
  | swapDown
  | previousWorkspace
  | nextWorkspace
  | moveToPreviousWorkspace
  | moveToNextWorkspace
  | switchWorkspace1
  | switchWorkspace2
  | switchWorkspace3
  | switchWorkspace4
  | switchWorkspace5
  | switchWorkspace6
  | switchWorkspace7
  | switchWorkspace8
  | switchWorkspace9
  | moveToWorkspace1
  | moveToWorkspace2
  | moveToWorkspace3
  | moveToWorkspace4
  | moveToWorkspace5
  | moveToWorkspace6
  | moveToWorkspace7
  | moveToWorkspace8
  | moveToWorkspace9
  | unknown (value : UInt8)

/-- `fb::ShortcutTarget`, a union with one of the tables it names. -/
inductive ShortcutTargetTable where
  | denialAction (action : ShortcutActionKind)
  | spawn (command : Option (List String)) (desktopFileId : Option String)
  | spawnSh (command : Option String)
  /-- The type of one table, and not that table. -/
  | missing
  | unknown

structure ShortcutBindingTable where
  shortcut : Option String
  target : ShortcutTargetTable

/-! ## Encoding -/

def shortcutActionToWire : ShortcutAction → ShortcutActionKind
  | .shutdown => .shutdown
  | .openApplications => .openApplications
  | .openDashboard => .openDashboard
  | .openOverview => .openOverview
  | .toggleVerticalMaximize => .toggleVerticalMaximize
  | .windowSwitcher => .windowSwitcher
  | .openClipboard => .openClipboard
  | .captureRegion => .captureRegion
  | .closeWindow => .closeWindow
  | .minimizeWindow => .minimizeWindow
  | .minimizeAllWindows => .minimizeAllWindows
  | .toggleMaximize => .toggleMaximize
  | .toggleFullscreen => .toggleFullscreen
  | .releasePointer => .releasePointer
  | .lockScreen => .lockScreen
  | .volumeUp => .volumeUp
  | .volumeDown => .volumeDown
  | .volumeMute => .volumeMute
  | .brightnessUp => .brightnessUp
  | .brightnessDown => .brightnessDown
  | .nextKeyboardLayout => .nextKeyboardLayout
  | .previousKeyboardLayout => .previousKeyboardLayout
  | .openSettings => .openSettings
  | .focusLeft => .focusLeft
  | .focusRight => .focusRight
  | .focusUp => .focusUp
  | .focusDown => .focusDown
  | .swapLeft => .swapLeft
  | .swapRight => .swapRight
  | .swapUp => .swapUp
  | .swapDown => .swapDown
  | .previousWorkspace => .previousWorkspace
  | .nextWorkspace => .nextWorkspace
  | .moveToPreviousWorkspace => .moveToPreviousWorkspace
  | .moveToNextWorkspace => .moveToNextWorkspace
  | .switchWorkspace1 => .switchWorkspace1
  | .switchWorkspace2 => .switchWorkspace2
  | .switchWorkspace3 => .switchWorkspace3
  | .switchWorkspace4 => .switchWorkspace4
  | .switchWorkspace5 => .switchWorkspace5
  | .switchWorkspace6 => .switchWorkspace6
  | .switchWorkspace7 => .switchWorkspace7
  | .switchWorkspace8 => .switchWorkspace8
  | .switchWorkspace9 => .switchWorkspace9
  | .moveToWorkspace1 => .moveToWorkspace1
  | .moveToWorkspace2 => .moveToWorkspace2
  | .moveToWorkspace3 => .moveToWorkspace3
  | .moveToWorkspace4 => .moveToWorkspace4
  | .moveToWorkspace5 => .moveToWorkspace5
  | .moveToWorkspace6 => .moveToWorkspace6
  | .moveToWorkspace7 => .moveToWorkspace7
  | .moveToWorkspace8 => .moveToWorkspace8
  | .moveToWorkspace9 => .moveToWorkspace9

def encodeShortcutTarget : ShortcutTarget → ShortcutTargetTable
  | .denialAction action => .denialAction (shortcutActionToWire action)
  | .spawn command desktopFileId => .spawn (some command) desktopFileId
  | .spawnSh command => .spawnSh (some command)

def encodeShortcutBinding (binding : ShortcutBinding) : ShortcutBindingTable where
  shortcut := some binding.shortcut
  target := encodeShortcutTarget binding.target

/-! ## Decoding -/

/-- `MAX_STRING_BYTES`. -/
def maxStringBytes : Nat := 4096

/-- `MAX_SPAWN_ARGUMENTS`. -/
def maxSpawnArguments : Nat := 64

def validShortcutWireString (value : String) (emptyAllowed : Bool) : Bool :=
  (emptyAllowed || !value.isEmpty) && value.utf8ByteSize ≤ maxStringBytes && !containsNul value

def shortcutActionFromWire : ShortcutActionKind → Except WireError ShortcutAction
  | .shutdown => .ok .shutdown
  | .openApplications => .ok .openApplications
  | .openDashboard => .ok .openDashboard
  | .openOverview => .ok .openOverview
  | .toggleVerticalMaximize => .ok .toggleVerticalMaximize
  | .windowSwitcher => .ok .windowSwitcher
  | .openClipboard => .ok .openClipboard
  | .captureRegion => .ok .captureRegion
  | .closeWindow => .ok .closeWindow
  | .minimizeWindow => .ok .minimizeWindow
  | .minimizeAllWindows => .ok .minimizeAllWindows
  | .toggleMaximize => .ok .toggleMaximize
  | .toggleFullscreen => .ok .toggleFullscreen
  | .releasePointer => .ok .releasePointer
  | .lockScreen => .ok .lockScreen
  | .volumeUp => .ok .volumeUp
  | .volumeDown => .ok .volumeDown
  | .volumeMute => .ok .volumeMute
  | .brightnessUp => .ok .brightnessUp
  | .brightnessDown => .ok .brightnessDown
  | .nextKeyboardLayout => .ok .nextKeyboardLayout
  | .previousKeyboardLayout => .ok .previousKeyboardLayout
  | .openSettings => .ok .openSettings
  | .focusLeft => .ok .focusLeft
  | .focusRight => .ok .focusRight
  | .focusUp => .ok .focusUp
  | .focusDown => .ok .focusDown
  | .swapLeft => .ok .swapLeft
  | .swapRight => .ok .swapRight
  | .swapUp => .ok .swapUp
  | .swapDown => .ok .swapDown
  | _ => .error .enumeration

def requireString (value : Option String) (emptyAllowed : Bool) : Except WireError String :=
  match value.filter fun value => validShortcutWireString value emptyAllowed with
  | none => .error .string
  | some value => .ok value

def decodeSpawn (command : List String) (desktopFileId : Option String) : Except WireError ShortcutTarget :=
  if maxSpawnArguments < command.length then .error .count
  else if !command.all fun argument => validShortcutWireString argument true then .error .string
  else if desktopFileId.any fun desktopFileId => !(validateDesktopFileId desktopFileId).isOk then .error .string
  else .ok (.spawn command desktopFileId)

def decodeShortcutTarget : ShortcutTargetTable → Except WireError ShortcutTarget
  | .denialAction action => do return .denialAction (← shortcutActionFromWire action)
  | .spawn none _ => .error .payload
  | .spawn (some command) desktopFileId => decodeSpawn command desktopFileId
  | .spawnSh command => do return .spawnSh (← requireString command true)
  | .missing => .error .payload
  | .unknown => .error .enumeration

def decodeShortcutBinding (binding : ShortcutBindingTable) : Except WireError ShortcutBinding := do
  let shortcut ← requireString binding.shortcut true
  let target ← decodeShortcutTarget binding.target
  return { shortcut, target }

end Deniald.Wire
