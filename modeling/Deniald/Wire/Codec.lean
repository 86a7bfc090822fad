/-
The shell's codec (denial_wire.dart, denial_wire_aligned_builders.dart): the messages the shell writes for the
compositor. What it does not refuse is numbered and put in an envelope, in the units of the wire.
-/
import Deniald.Lib.Utf16
import Deniald.Wire.Handle
import Deniald.Wire.Windows

namespace Deniald.Wire.Codec

open Deniald.Lib Deniald.Topology

/-! ## What the shell has -/

/-- `Rect` of dart:ui. -/
structure Rect where
  left : F64
  top : F64
  right : F64
  bottom : F64

def negate : F64 → F64
  | .finite q => .finite (-q)
  | .infinite negative => .infinite !negative
  | .nan => .nan

/-- The windows' own identities, of which a region uses its surface where it has none. -/
structure DenialWindow where
  objectId : Int64
  surfaceId : Int64
  windowId : Int64

structure InputWindowRegion where
  window : DenialWindow
  rect : Rect
  sourceRect : Rect
  z : Int64
  surfaceId : Option Int64 := none
  visible : Bool := true
  hitTest : Bool := true
  geometryLocked : Bool := false

def InputWindowRegion.targetSurfaceId (w : InputWindowRegion) : Int64 := w.surfaceId.getD w.window.surfaceId

structure InputLayoutSnapshot where
  epoch : Int64
  shellRegions : List Rect
  windows : List InputWindowRegion
  visibleSurfaceIds : List Int64 := []
  softwareKeyboardRegions : List Rect := []
  keyboardCapture : Bool := false
  exclusiveShellMode : Bool := false
  observeClientPointerPresses : Bool := false

/-- The arguments of `encodeWindowRequest`. A text is its code units, which need not pair. -/
structure WindowArguments where
  requestId : Int64 := 0
  windowId : Int64 := 0
  geometry : Option Rect := none
  appId : Option (List UInt16) := none
  title : Option (List UInt16) := none
  systemBarSide : Option SystemBarSide := none
  systemBarMonitorIds : Option (List Int64) := none
  flags : Int64 := 0
  monitorId : Option Int64 := none
  workspaceId : Option Int64 := none

/-- The arguments of `encodeSystemBarConfiguration`. -/
structure SystemBarArguments where
  requestId : Int64
  side : SystemBarSide
  monitorIds : List Int64
  thickness : F64
  maximizePadding : F64 := .finite 0

/-! ## Envelopes -/

/-- The FlatBuffers builder of the shell: what a message takes, which is more than its header. -/
structure FlatBuffers where
  bytes : Envelope → Nat
  header : ∀ envelope, minEnvelopeBytes ≤ bytes envelope

theorem succ_pos {seq : Int64} (h : 0 < seq) (hr : ¬0x7ffffffffffffffe ≤ seq) : 0 < seq + 1 := by
  rw [Int64.not_le, Int64.lt_iff_toInt_lt] at hr
  rw [Int64.lt_iff_toInt_lt] at h ⊢; rw [Int64.toInt_add]
  have hn : (0x7ffffffffffffffe : Int64).toInt = 2 ^ 63 - 2 := by decide
  have hz : (0 : Int64).toInt = 0 := by decide
  have ho : (1 : Int64).toInt = 1 := by decide
  rw [ho, Int.bmod_eq_of_le] <;> omega

structure DenialWireCodec where
  nextSequence : Int64 := 1
  positive : 0 < nextSequence := by decide

def DenialWireCodec.takeSequence (c : DenialWireCodec) : Int64 × DenialWireCodec :=
  (c.nextSequence,
    if h : 0x7ffffffffffffffe ≤ c.nextSequence then {}
    else { nextSequence := c.nextSequence + 1, positive := succ_pos c.positive h })

/-- What an encoder gives, where it neither refuses nor throws, and the codec it leaves. -/
abbrev Encoded := Option Message × DenialWireCodec

/-- `_encodeEnvelope`: a message that is too long is thrown out with its number. -/
def encodeEnvelope (buffers : FlatBuffers) (c : DenialWireCodec) (requestId : Int64) (payload : Payload) : Encoded :=
  let (sequence, c) := c.takeSequence
  let envelope : Envelope := ⟨protocolVersion, sequence.toUInt64, requestId.toUInt64, payload⟩
  (if maxMessageBytes < buffers.bytes envelope then none else some ⟨buffers.bytes envelope, true, some envelope⟩, c)

/-! ## Fields -/

/-- The characters of `utf8.encode`, where a surrogate of no pair is replaced. -/
def replaceUnpaired : List UInt16 → List Char
  | [] => []
  | unit :: units =>
    if isLeadingSurrogate unit then
      match units with
      | [] => ['\uFFFD']
      | trailing :: rest =>
        if isTrailingSurrogate trailing then pairChar unit trailing :: replaceUnpaired rest
        else '\uFFFD' :: replaceUnpaired (trailing :: rest)
    else if isTrailingSurrogate unit then '\uFFFD' :: replaceUnpaired units
    else .ofNat unit.toNat :: replaceUnpaired units

/-- A text as FlatBuffers stores it. -/
def utf8Text (units : List UInt16) : String := .ofList (replaceUnpaired units)

section Fields

variable (rounding : Rounding)

def Rect.width (r : Rect) : F64 := F64.add rounding r.right (negate r.left)

def Rect.height (r : Rect) : F64 := F64.add rounding r.bottom (negate r.top)

/-- `_rectBuilder`. -/
def rectBuilder (r : Rect) : WireRect := ⟨r.left, r.top, r.width rounding, r.height rounding⟩

/-- `_validRect`. -/
def validRect (r : Rect) : Bool :=
  r.left.isFinite && r.top.isFinite && (r.width rounding).isFinite && (r.height rounding).isFinite &&
    F64.lt (.finite 0) (r.width rounding) && F64.lt (.finite 0) (r.height rounding)

/-- `_validWindowGeometry`. -/
def validWindowGeometry (r : Rect) : Bool :=
  validRect rounding r && F64.le (.finite 0) r.left && F64.le (.finite 0) r.top && F64.le r.left (.finite 16384) &&
    F64.le r.top (.finite 16384) && F64.le (.finite 64) (r.width rounding) && F64.le (.finite 64) (r.height rounding) &&
    F64.le (r.width rounding) (.finite 16384) && F64.le (r.height rounding) (.finite 16384) && r.right.isFinite &&
    r.bottom.isFinite && F64.le r.right (.finite 0x7fffffff) && F64.le r.bottom (.finite 0x7fffffff)

end Fields

/-! ## The input layout -/

/-- `_compareInputWindows`: the greater depth first, then the greater surface. -/
def compareInputWindows (left right : InputWindowRegion) : Ordering :=
  (compareOfLessAndEq right.z left.z).then (compareOfLessAndEq right.targetSurfaceId left.targetSurfaceId)

/-- `_inputWindowsAreOrdered`. -/
def inputWindowsAreOrdered : List InputWindowRegion → Bool
  | left :: right :: windows => compareInputWindows left right != .gt && inputWindowsAreOrdered (right :: windows)
  | [_] | [] => true

def orderedWindows (windows : List InputWindowRegion) : List InputWindowRegion :=
  if inputWindowsAreOrdered windows then windows
  else windows.mergeSort fun left right => compareInputWindows left right != .gt

def validWindow (rounding : Rounding) (w : InputWindowRegion) : Bool :=
  0 < w.window.objectId && 0 < w.targetSurfaceId && 0 < w.window.windowId && validRect rounding w.rect &&
    validRect rounding w.sourceRect

def bit (flag : UInt32) (condition : Bool) : UInt32 := if condition then flag else 0

def InputWindowRegion.flags (w : InputWindowRegion) : UInt32 := bit 1 w.visible ||| bit 2 (!w.hitTest) ||| bit 4 w.geometryLocked

def InputLayoutSnapshot.flags (l : InputLayoutSnapshot) : UInt32 :=
  bit 1 l.keyboardCapture ||| bit 2 l.exclusiveShellMode ||| bit 4 l.observeClientPointerPresses

def windowTable (rounding : Rounding) (w : InputWindowRegion) : InputWindowTable :=
  ⟨w.window.objectId.toUInt64, w.targetSurfaceId.toUInt64, w.window.windowId.toUInt64, rectBuilder rounding w.rect,
    rectBuilder rounding w.sourceRect, w.z.toInt32, w.flags⟩

def encodeInputLayout (buffers : FlatBuffers) (rounding : Rounding) (c : DenialWireCodec)
    (snapshot : InputLayoutSnapshot) : Encoded :=
  if maxRegions < snapshot.shellRegions.length || maxRegions < snapshot.softwareKeyboardRegions.length ||
      maxRegions < snapshot.windows.length || maxSurfaces < snapshot.visibleSurfaceIds.length ||
      snapshot.visibleSurfaceIds.any fun surfaceId => surfaceId ≤ 0 then (none, c)
  else if !snapshot.shellRegions.all (validRect rounding) then (none, c)
  else if !snapshot.softwareKeyboardRegions.all (validRect rounding) then (none, c)
  else
    let windows := orderedWindows snapshot.windows
    if !windows.all (validWindow rounding) then (none, c)
    else encodeEnvelope buffers c 0 <| .inputLayout <| some {
      epoch := snapshot.epoch.toUInt64
      flags := snapshot.flags
      shellRegions := some (snapshot.shellRegions.map (rectBuilder rounding))
      softwareKeyboardRegions := some (snapshot.softwareKeyboardRegions.map (rectBuilder rounding))
      windows := some (windows.map (windowTable rounding))
      visibleSurfaceIds := some (snapshot.visibleSurfaceIds.map (·.toUInt64)) }

/-! ## Requests and texts -/

/-- The table of a request, with the defaults of the fields that are left out. -/
def requestTable (rounding : Rounding) (kind : WindowRequestKind) (r : WindowArguments) : WindowRequest where
  kind
  windowId := r.windowId.toUInt64
  geometry := r.geometry.map (rectBuilder rounding)
  appId := r.appId.map utf8Text
  title := r.title.map utf8Text
  systemBarSide := some (r.systemBarSide.getD .top)
  systemBarMonitorIds := r.systemBarMonitorIds
  flags := r.flags.toUInt64.toUInt32
  monitorId := r.monitorId.getD (-1)
  workspaceId := (r.workspaceId.getD 1).toUInt64.toUInt32

def encodeWindowRequest (buffers : FlatBuffers) (rounding : Rounding) (c : DenialWireCodec) (kind : WindowRequestKind)
    (r : WindowArguments) : Encoded :=
  encodeEnvelope buffers c r.requestId (.windowRequest (some (requestTable rounding kind r)))

def encodeSystemBarConfiguration (buffers : FlatBuffers) (c : DenialWireCodec) (r : SystemBarArguments) : Encoded :=
  if r.requestId ≤ 0 || r.side == .hidden || r.monitorIds.isEmpty || maxWindows < r.monitorIds.length ||
      (r.monitorIds.any fun monitorId => monitorId < 0) || !decide r.monitorIds.Nodup || !r.thickness.isFinite ||
      F64.le r.thickness (.finite 0) || !r.maximizePadding.isFinite || F64.lt r.maximizePadding (.finite 0) then (none, c)
  else encodeEnvelope buffers c r.requestId <| .windowRequest <| some {
    kind := .configureSystemBar
    systemBarSide := some r.side
    systemBarMonitorIds := some r.monitorIds
    systemBarThickness := r.thickness
    maximizePadding := r.maximizePadding }

def encodeCreateLocalWindow (buffers : FlatBuffers) (rounding : Rounding) (c : DenialWireCodec) (appId title : List UInt16)
    (geometry : Rect) : Encoded :=
  let appIdBytes := (utf8Text appId).utf8ByteSize
  let titleBytes := (utf8Text title).utf8ByteSize
  if appIdBytes = 0 || maxLocalAppIdBytes < appIdBytes || titleBytes = 0 || maxLocalWindowTitleBytes < titleBytes ||
      appId.contains 0 || title.contains 0 || !validWindowGeometry rounding geometry then (none, c)
  else encodeWindowRequest buffers rounding c .createLocalWindow
    { geometry := some geometry, appId := some appId, title := some title }

def encodeKeyboardText (buffers : FlatBuffers) (c : DenialWireCodec) (text : List UInt16) : Encoded :=
  encodeEnvelope buffers c 0 <| .keyboardCommand <| some { kind := .text, text := some (utf8Text text) }

end Deniald.Wire.Codec
