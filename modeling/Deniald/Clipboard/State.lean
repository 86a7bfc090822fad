/-
The state of the clipboard: its history with the limits on it, the current selection, the capture in progress and the
actions queued for the compositor, with every operation on them.
-/
import Deniald.Clipboard.Item
import Deniald.Lib.Counter

namespace Deniald.Clipboard

open Deniald.Lib

inductive ClipboardError where
  | badRequest
  | notFound
  | locked
  | tooLarge
  | unsupported

structure ClipboardCapturePlan where
  epoch : UInt64
  representations : List CaptureRepresentation

inductive ClipboardAction where
  | publish (epoch itemId : UInt64) (paste : Bool)
  | clear (epoch : UInt64)
  | startDrag (itemId : UInt64)

inductive CurrentSelection where
  | none
  | external (epoch : UInt64) (historyItemId : Option UInt64)
  | managed (epoch itemId : UInt64)
  deriving DecidableEq

/-- An external selection bound to an evicted item is bound to nothing any more. -/
def CurrentSelection.forget (current : CurrentSelection) (itemId : UInt64) : CurrentSelection :=
  match current with
  | .external epoch (some id) => if id = itemId then .external epoch .none else current
  | _ => current

def CurrentSelection.isExternal (current : CurrentSelection) (epoch : UInt64) : Bool :=
  match current with
  | .external e _ => e == epoch
  | _ => false

/-- A capture in progress; its representations are kept by their MIME types, in order. -/
structure PendingCapture where
  epoch : UInt64
  origin : ClipboardOrigin
  source : Option ClipboardSourceIdentity
  remaining : Finset String
  representations : List (String × ClipboardRepresentation)

/-- `BTreeMap::insert`. -/
def insertSorted (key : String) (value : ClipboardRepresentation) (entries : List (String × ClipboardRepresentation)) :
    List (String × ClipboardRepresentation) :=
  (entries.filter fun entry => entry.1 ≠ key).orderedInsert (fun a b => a.1 ≤ b.1) (key, value)

/-- A capture with one representation less to come; it is kept if it is valid. -/
def PendingCapture.received (capture : PendingCapture) (mimeType : String) (data : Option (List UInt8)) :
    PendingCapture :=
  { capture with
    remaining := capture.remaining.erase mimeType
    representations := match data.bind (validateRepresentation mimeType) with
      | some representation => insertSorted mimeType representation capture.representations
      | none => capture.representations }

structure ClipboardState where
  revision : UInt64 := 1
  nextItemId : UInt64 := 1
  nextEpoch : UInt64 := 1
  paused : Bool := false
  locked : Bool := false
  history : List ClipboardItem := []
  historyBytes : Nat := 0
  current : CurrentSelection := .none
  managed : Option ClipboardItem := none
  pendingCapture : Option PendingCapture := none
  actions : List ClipboardAction := []

namespace ClipboardState

/-! ## History -/

def bumpRevision (s : ClipboardState) : ClipboardState := { s with revision := bump s.revision }

def newEpoch (s : ClipboardState) : UInt64 × ClipboardState := (s.nextEpoch, { s with nextEpoch := bump s.nextEpoch })

def newItemId (s : ClipboardState) : UInt64 × ClipboardState := (s.nextItemId, { s with nextItemId := bump s.nextItemId })

def historyItem (s : ClipboardState) (itemId : UInt64) : Option ClipboardItem := s.history.find? (·.id = itemId)

def retainedItem (s : ClipboardState) (itemId : UInt64) : Option ClipboardItem :=
  (s.managed.filter (·.id = itemId)) <|> s.historyItem itemId

def activeHistoryId (s : ClipboardState) : Option UInt64 :=
  match s.current with
  | .managed _ itemId => (s.historyItem itemId).map fun _ => itemId
  | _ => none

def recalculateHistoryBytes (s : ClipboardState) : ClipboardState :=
  { s with historyBytes := (s.history.map (·.byteLen)).sum }

def evictIndex (history : List ClipboardItem) : Nat :=
  let age := history.reverse.findIdx fun item => !item.pinned
  if age < history.length then history.length - 1 - age else history.length - 1

def evict (s : ClipboardState) : ClipboardState :=
  let index := evictIndex s.history
  match s.history[index]? with
  | some removed =>
    { s with
      history := s.history.eraseIdx index
      historyBytes := s.historyBytes - removed.byteLen
      current := s.current.forget removed.id }
  | none => s

/-- The loop of `enforce_limits_to`; every round evicts an item, so there are at most as many as items. -/
def enforceLoop (maximumItems maximumBytes : Nat) : Nat → ClipboardState → ClipboardState
  | 0, s => s
  | fuel + 1, s =>
    if maximumItems < s.history.length ∨ maximumBytes < s.historyBytes then
      enforceLoop maximumItems maximumBytes fuel s.evict
    else s

def enforceLimitsTo (s : ClipboardState) (maximumItems maximumBytes : Nat) : ClipboardState :=
  enforceLoop maximumItems maximumBytes s.history.length s.recalculateHistoryBytes

def enforceLimits (s : ClipboardState) : ClipboardState := s.enforceLimitsTo maxHistoryItems maxHistoryBytes

/-- The item goes to the front of the history; it takes the place, the id and the pin of a front item of the same
content. -/
def pushFront (s : ClipboardState) (item : ClipboardItem) : ClipboardItem × ClipboardState :=
  match s.history with
  | previous :: rest =>
    if previous.sameContent item then
      let item := { item with id := previous.id, pinned := previous.pinned }
      (item, { s with history := item :: rest, historyBytes := s.historyBytes - previous.byteLen })
    else (item, { s with history := item :: s.history })
  | [] => (item, { s with history := [item] })

def insertHistoryItem (s : ClipboardState) (item : ClipboardItem) : ClipboardItem × ClipboardState :=
  let (item, s) := s.pushFront item
  (item, s.enforceLimits)

/-! ## Selections -/

def setLocked (s : ClipboardState) (locked : Bool) : ClipboardState :=
  if s.locked = locked then s
  else
    let actions := match s.current with
      | .managed epoch itemId => if locked then [] else [.publish epoch itemId false]
      | _ => []
    { s with locked := locked, pendingCapture := none, actions := actions }.bumpRevision

/-- The capture of an external selection, unless the history is locked or paused or there is nothing to capture. -/
def startCapture (s : ClipboardState) (epoch : UInt64) (origin : ClipboardOrigin) (offeredMimeTypes : List String)
    (source : Option ClipboardSourceIdentity) : ClipboardState × Option ClipboardCapturePlan :=
  if s.locked ∨ s.paused then (s, none)
  else
    let representations := selectCaptureRepresentations offeredMimeTypes
    if representations = [] then (s, none)
    else
      let remaining := (representations.map (·.mimeType)).toFinset
      ({ s with pendingCapture := some ⟨epoch, origin, source, remaining, []⟩ }, some ⟨epoch, representations⟩)

def observeExternalSelection (s : ClipboardState) (origin : ClipboardOrigin) (offeredMimeTypes : List String)
    (source : Option ClipboardSourceIdentity) : ClipboardState × Option ClipboardCapturePlan :=
  let (epoch, s) := s.newEpoch
  let s := { s with actions := [], pendingCapture := none, managed := none }
  if offeredMimeTypes = [] then ({ s with current := .none }.bumpRevision, none)
  else { s with current := .external epoch .none }.bumpRevision.startCapture epoch origin offeredMimeTypes source

/-- `retain` of the representations that fit into an item, one after the other. -/
def retainWithin : Nat → List ClipboardRepresentation → List ClipboardRepresentation
  | _, [] => []
  | retainedBytes, r :: representations =>
    let following := retainedBytes + r.data.length
    if maxItemBytes < following then retainWithin retainedBytes representations
    else r :: retainWithin following representations

def bindSelection (s : ClipboardState) (epoch itemId : UInt64) : ClipboardState :=
  match s.current with
  | .external e _ =>
    if e = epoch then { s with current := .external e (if (s.historyItem itemId).isSome then some itemId else none) }
    else s
  | _ => s

def finalizeCapture (s : ClipboardState) (now : Nat) (capture : PendingCapture) : ClipboardState :=
  if s.locked ∨ s.paused ∨ ¬s.current.isExternal capture.epoch ∨ capture.representations = [] then s
  else
    let representations := sortByPriority (·.mimeType) (capture.representations.map Prod.snd)
    let representations := retainWithin 0 representations
    if h : representations = [] then s
    else
      let (candidateId, s) := s.newItemId
      let (item, s) := s.insertHistoryItem
        (itemFromRepresentations candidateId now capture.origin capture.source representations false h)
      (s.bindSelection capture.epoch item.id).bumpRevision

def finishCapture (s : ClipboardState) (now : Nat) (epoch : UInt64) (mimeType : String) (data : Option (List UInt8)) :
    ClipboardState :=
  match s.pendingCapture with
  | none => s
  | some capture =>
    if capture.epoch ≠ epoch ∨ mimeType ∉ capture.remaining then s
    else
      let capture := capture.received mimeType data
      if capture.remaining ≠ ∅ then { s with pendingCapture := some capture }
      else { s with pendingCapture := none }.finalizeCapture now capture

def setManagedRepresentation (s : ClipboardState) (now : Nat) (representation : ClipboardRepresentation)
    (sourceTitle : String) : ClipboardState × Except ClipboardError UInt64 :=
  if s.locked then (s, .error .locked)
  else
    let (id, s) := s.newItemId
    let item := itemFromRepresentations id now .flutter
      (ClipboardSourceIdentity.bounded "denial" sourceTitle) [representation] false (List.cons_ne_nil _ _)
    let (item, s) := if s.paused then (item, s) else s.insertHistoryItem item
    let (epoch, s) := s.newEpoch
    ({ s with
        current := .managed epoch item.id
        managed := some item
        pendingCapture := none
        actions := [.publish epoch item.id false] }.bumpRevision, .ok item.id)

def setText (s : ClipboardState) (now : Nat) (text : String) : ClipboardState × Except ClipboardError UInt64 :=
  let bytes := asBytes text
  if maxTextBytes < bytes.length then (s, .error .tooLarge)
  else if 0 ∈ bytes then (s, .error .unsupported)
  else match validateRepresentation "text/plain;charset=utf-8" bytes with
    | none => (s, .error .unsupported)
    | some representation => s.setManagedRepresentation now representation "Denial shell"

def setImagePng (s : ClipboardState) (now : Nat) (data : List UInt8) : ClipboardState × Except ClipboardError UInt64 :=
  if maxImageBytes < data.length then (s, .error .tooLarge)
  else match validateRepresentation "image/png" data with
    | none => (s, .error .unsupported)
    | some representation => s.setManagedRepresentation now representation "Denial screenshot"

/-! ## What the compositor reads -/

def currentText (s : ClipboardState) : Option String :=
  if s.locked then none
  else match s.current with
    | .managed _ itemId => (s.retainedItem itemId).bind (·.text)
    | .external _ (some itemId) => (s.historyItem itemId).bind (·.text)
    | _ => none

def retainedData (s : ClipboardState) (itemId : UInt64) (mimeType : String) : Option (List UInt8) :=
  if s.locked then none else (s.retainedItem itemId).bind (·.data mimeType)

def retainedMimeTypes (s : ClipboardState) (epoch itemId : UInt64) : Option (List String) :=
  if s.locked ∨ s.current ≠ .managed epoch itemId then none
  else (s.retainedItem itemId).map fun item => item.representations.map (·.mimeType)

/-- `drag_payload`, without the id it is asked for. -/
def dragPayload (s : ClipboardState) (itemId : UInt64) : Option (List (String × List UInt8)) :=
  if s.locked then none
  else (s.historyItem itemId).map fun item => item.representations.map fun r => (r.mimeType, r.data)

def takeActions (s : ClipboardState) : List ClipboardAction × ClipboardState := (s.actions, { s with actions := [] })

/-! ## Control -/

def activate (s : ClipboardState) (itemId : UInt64) : ClipboardState × Except ClipboardError UInt64 :=
  if s.locked then (s, .error .locked)
  else match s.historyItem itemId with
    | none => (s, .error .notFound)
    | some item =>
      let (epoch, s) := s.newEpoch
      let s := { s with
        current := .managed epoch itemId
        managed := some item
        pendingCapture := none
        actions := [.publish epoch itemId true] }.bumpRevision
      (s, .ok s.revision)

def setPinned (s : ClipboardState) (itemId : UInt64) (pinned : Bool) : ClipboardState × Except ClipboardError UInt64 :=
  if s.locked then (s, .error .locked)
  else
    let index := s.history.findIdx (·.id = itemId)
    match s.history[index]? with
    | none => (s, .error .notFound)
    | some item =>
      if item.pinned = pinned then (s, .ok s.revision)
      else
        let item := { item with pinned := pinned }
        let managed := if s.managed.any (·.id = itemId) then some item else s.managed
        let s := { s with history := s.history.set index item, managed := managed }.bumpRevision
        (s, .ok s.revision)

/-- A selection of a removed item is no selection any more. -/
def deselect (s : ClipboardState) (itemId : UInt64) : ClipboardState :=
  match s.current with
  | .managed _ activeId =>
    if activeId = itemId then
      let (epoch, s) := s.newEpoch
      { s with current := .none, managed := none, actions := [.clear epoch] }
    else s
  | current => { s with current := current.forget itemId }

def delete (s : ClipboardState) (itemId : UInt64) : ClipboardState × Except ClipboardError UInt64 :=
  if s.locked then (s, .error .locked)
  else
    let index := s.history.findIdx (·.id = itemId)
    match s.history[index]? with
    | none => (s, .error .notFound)
    | some removed =>
      let s := { s with history := s.history.eraseIdx index, historyBytes := s.historyBytes - removed.byteLen }
      let s := (s.deselect itemId).bumpRevision
      (s, .ok s.revision)

def reselect (s : ClipboardState) : ClipboardState :=
  match s.current with
  | .managed _ itemId =>
    match s.historyItem itemId with
    | some item => { s with managed := some item }
    | none =>
      let (epoch, s) := s.newEpoch
      { s with current := .none, managed := none, actions := [.clear epoch] }
  | .external epoch historyItemId =>
    { s with
      current := .external epoch (historyItemId.filter fun itemId => (s.historyItem itemId).isSome)
      managed := none }
  | .none => { s with managed := none }

def clear (s : ClipboardState) : ClipboardState × Except ClipboardError UInt64 :=
  if s.locked then (s, .error .locked)
  else
    let s := { s with history := s.history.filter (·.pinned) }.recalculateHistoryBytes
    let s := ({ s with pendingCapture := none } : ClipboardState).reselect.bumpRevision
    (s, .ok s.revision)

def setPaused (s : ClipboardState) (paused : Bool) : ClipboardState × Except ClipboardError UInt64 :=
  if s.locked then (s, .error .locked)
  else if s.paused = paused then (s, .ok s.revision)
  else
    let pendingCapture := if paused then none else s.pendingCapture
    let s := { s with paused := paused, pendingCapture := pendingCapture }.bumpRevision
    (s, .ok s.revision)

def startDrag (s : ClipboardState) (itemId : UInt64) : ClipboardState × Except ClipboardError UInt64 :=
  if s.locked then (s, .error .locked)
  else if (s.historyItem itemId).isNone then (s, .error .notFound)
  else ({ s with actions := s.actions ++ [.startDrag itemId] }, .ok s.revision)

end ClipboardState

end Deniald.Clipboard
