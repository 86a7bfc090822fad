/-
The control packets of the clipboard: what a request of Flutter decodes to, the response and the snapshot it is
answered with, and the runs of the clipboard over all its operations.
-/
import Deniald.Clipboard.State
import Deniald.Lib.Run

namespace Deniald.Clipboard

open Deniald.Lib

def requestMagic : List UInt8 := asBytes "DCLP"

def responseMagic : List UInt8 := asBytes "DCLS"

def protocolVersion : Nat := 1

def maxRequestBytes : Nat := 4096

def maxQueryBytes : Nat := 256

/-! ## Requests -/

def commandSnapshot : UInt8 := 0

def commandRead : UInt8 := 1

def commandActivate : UInt8 := 2

def commandSetPinned : UInt8 := 3

def commandDelete : UInt8 := 4

def commandClear : UInt8 := 5

def commandSetPaused : UInt8 := 6

def commandStartDrag : UInt8 := 7

inductive ClipboardRequest where
  | snapshot (query : String)
  | read (itemId : UInt64) (mimeType : String)
  | activate (itemId : UInt64)
  | setPinned (itemId : UInt64) (pinned : Bool)
  | delete (itemId : UInt64)
  | clear
  | setPaused (paused : Bool)
  | startDrag (itemId : UInt64)

/-- A decoder reads from the bytes that are left. -/
abbrev Decoder (α : Type) : Type := StateT (List UInt8) (Except ClipboardError) α

namespace Decoder

def take (length : Nat) : Decoder (List UInt8) := fun bytes =>
  if bytes.length < length then .error .badRequest else .ok (bytes.take length, bytes.drop length)

def u8 : Decoder UInt8 := do
  let value ← take 1
  return value.getD 0 0

def u16 : Decoder Nat := do
  let value ← take 2
  return fromLeBytes value

def u64 : Decoder UInt64 := do
  let value ← take 8
  return .ofNat (fromLeBytes value)

def nonzeroU64 : Decoder UInt64 := do
  let value ← u64
  if value ≠ 0 then return value else throw .badRequest

def boolean : Decoder Bool := do
  let value ← u8
  if value = 0 then return false else if value = 1 then return true else throw .badRequest

def stringU16 (maximum : Nat) : Decoder String := do
  let length ← u16
  if maximum < length then throw .tooLarge
  let value ← take length
  match fromUtf8 value with
  | none => throw .badRequest
  | some text => if 0 ∈ value then throw .badRequest else return text

end Decoder

def decodeCommand : Decoder UInt8 := do
  let magic ← Decoder.take 4
  if magic ≠ requestMagic then throw .badRequest
  let version ← Decoder.u16
  if version ≠ protocolVersion then throw .badRequest
  let command ← Decoder.u8
  if commandStartDrag < command then throw .badRequest
  let reserved ← Decoder.u8
  if reserved ≠ 0 then throw .badRequest
  return command

def decodeBody (command : UInt8) : Decoder ClipboardRequest :=
  if command = commandSnapshot then do
    let query ← Decoder.stringU16 maxQueryBytes
    return .snapshot query
  else if command = commandRead then do
    let itemId ← Decoder.nonzeroU64
    let mimeType ← Decoder.stringU16 maxMimeBytes
    return .read itemId mimeType
  else if command = commandActivate then do
    let itemId ← Decoder.nonzeroU64
    return .activate itemId
  else if command = commandSetPinned then do
    let itemId ← Decoder.nonzeroU64
    let pinned ← Decoder.boolean
    return .setPinned itemId pinned
  else if command = commandDelete then do
    let itemId ← Decoder.nonzeroU64
    return .delete itemId
  else if command = commandClear then return .clear
  else if command = commandSetPaused then do
    let paused ← Decoder.boolean
    return .setPaused paused
  else if command = commandStartDrag then do
    let itemId ← Decoder.nonzeroU64
    return .startDrag itemId
  else throw .badRequest

def decodeRequest (packet : List UInt8) : Except ClipboardError ClipboardRequest :=
  if maxRequestBytes < packet.length then .error .tooLarge
  else do
    let (request, rest) ← (decodeCommand >>= decodeBody).run packet
    if rest ≠ [] then .error .badRequest else .ok request

/-! ## Responses -/

def responseAck : UInt8 := 0

def responseSnapshot : UInt8 := 1

def responseData : UInt8 := 2

def responseError : UInt8 := 255

def statusOk : UInt8 := 0

def ClipboardError.status : ClipboardError → UInt8
  | .badRequest => 1
  | .notFound => 2
  | .locked => 3
  | .tooLarge => 4
  | .unsupported => 5

def ClipboardError.message : ClipboardError → String
  | .badRequest => "Malformed clipboard request"
  | .notFound => "Clipboard entry not found"
  | .locked => "Clipboard history is unavailable while locked"
  | .tooLarge => "Clipboard payload exceeds its limit"
  | .unsupported => "Clipboard representation is unsupported"

def snapshotPaused : UInt8 := 1

def snapshotLocked : UInt8 := 2

def entryPinned : UInt8 := 1

def entryActive : UInt8 := 2

def flag (set : Bool) (mask : UInt8) : UInt8 := if set then mask else 0

/-- `Encoder::string_u16`. -/
def encodeString (value : String) : List UInt8 :=
  let bytes := asBytes value
  let length := min bytes.length 0xffff
  toLeBytes 2 length ++ bytes.take length

def encodeHeader (kind status : UInt8) : List UInt8 := responseMagic ++ toLeBytes 2 protocolVersion ++ [kind, status]

def encodeAck (revision : UInt64) : List UInt8 := encodeHeader responseAck statusOk ++ toLeBytes 8 revision.toNat

def encodeError (error : ClipboardError) : List UInt8 :=
  encodeHeader responseError error.status ++ encodeString error.message

def encodeData (itemId : UInt64) (mimeType : String) (data : List UInt8) : List UInt8 :=
  encodeHeader responseData statusOk ++ toLeBytes 8 itemId.toNat ++ encodeString mimeType ++
    toLeBytes 8 data.length ++ data

/-- What a snapshot says of an item. -/
def encodeEntry (activeId : UInt64) (item : ClipboardItem) : List UInt8 :=
  toLeBytes 8 item.id.toNat ++ toLeBytes 8 item.capturedUnixMs ++ toLeBytes 8 item.byteLen ++
    toLeBytes 4 item.width ++ toLeBytes 4 item.height ++
    [item.origin.toByte, item.kind.toByte, flag item.pinned entryPinned ||| flag (activeId = item.id) entryActive,
      .ofNat (min item.representations.length 255)] ++
    encodeString item.preview ++ encodeString (item.source.elim "" (·.appId)) ++
    encodeString (item.source.elim "" (·.title)) ++ item.representations.flatMap fun r => encodeString r.mimeType

section

-- `str::to_lowercase`, whose Unicode tables nothing depends on
variable (toLowercase : String → String)

def encodeSnapshot (s : ClipboardState) (foldedQuery : String) : List UInt8 :=
  let historyBytes := if s.locked then 0 else s.historyBytes
  let activeId := (if s.locked then none else s.activeHistoryId).getD 0
  let visible :=
    if s.locked then [] else (s.history.filter (·.matchesQuery toLowercase foldedQuery)).take maxHistoryItems
  encodeHeader responseSnapshot statusOk ++ toLeBytes 8 s.revision.toNat ++ toLeBytes 8 historyBytes ++
    toLeBytes 8 activeId.toNat ++ [flag s.paused snapshotPaused ||| flag s.locked snapshotLocked] ++
    toLeBytes 2 (min visible.length 0xffff) ++ visible.flatMap (encodeEntry activeId)

/-- `map_or_else(encode_error, encode_ack)`. -/
def encodeResult : Except ClipboardError UInt64 → List UInt8
  | .ok revision => encodeAck revision
  | .error error => encodeError error

namespace ClipboardState

def statePacket (s : ClipboardState) : List UInt8 := encodeSnapshot toLowercase s ""

def read (s : ClipboardState) (itemId : UInt64) (mimeType : String) : List UInt8 :=
  if s.locked then encodeError .locked
  else match s.historyItem itemId with
    | none => encodeError .notFound
    | some item => match item.data mimeType with
      | none => encodeError .unsupported
      | some data => encodeData itemId mimeType data

def respond (s : ClipboardState) : ClipboardRequest → ClipboardState × List UInt8
  | .snapshot query => (s, encodeSnapshot toLowercase s (toLowercase query))
  | .read itemId mimeType => (s, s.read itemId mimeType)
  | .activate itemId => (s.activate itemId).map id encodeResult
  | .setPinned itemId pinned => (s.setPinned itemId pinned).map id encodeResult
  | .delete itemId => (s.delete itemId).map id encodeResult
  | .clear => s.clear.map id encodeResult
  | .setPaused paused => (s.setPaused paused).map id encodeResult
  | .startDrag itemId => (s.startDrag itemId).map id encodeResult

def handleControlPacket (s : ClipboardState) (packet : List UInt8) : ClipboardState × List UInt8 :=
  match decodeRequest packet with
  | .ok request => s.respond toLowercase request
  | .error error => (s, encodeError error)

end ClipboardState

end

/-! ## Runs -/

/-- An operation of the clipboard; `now` is the wall clock in milliseconds, where the operation reads it. -/
inductive ClipboardEvent where
  | setLocked (locked : Bool)
  | observeExternalSelection (origin : ClipboardOrigin) (offeredMimeTypes : List String)
    (source : Option ClipboardSourceIdentity)
  | finishCapture (now : Nat) (epoch : UInt64) (mimeType : String) (data : Option (List UInt8))
  | setText (now : Nat) (text : String)
  | setImagePng (now : Nat) (data : List UInt8)
  | takeActions
  | enforceLimits
  | handleControlPacket (packet : List UInt8)

/-- The state after an operation. -/
def next (toLowercase : String → String) (s : ClipboardState) : ClipboardEvent → ClipboardState
  | .setLocked locked => s.setLocked locked
  | .observeExternalSelection origin offeredMimeTypes source =>
    (s.observeExternalSelection origin offeredMimeTypes source).1
  | .finishCapture now epoch mimeType data => s.finishCapture now epoch mimeType data
  | .setText now text => (s.setText now text).1
  | .setImagePng now data => (s.setImagePng now data).1
  | .takeActions => s.takeActions.2
  | .enforceLimits => s.enforceLimits
  | .handleControlPacket packet => (s.handleControlPacket toLowercase packet).1

end Deniald.Clipboard
