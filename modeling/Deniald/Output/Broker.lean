/-
The output buffer broker (flutter_runtime/output_pipeline.rs): one pool of framebuffers for each
output, from which Flutter acquires a buffer for an authorized frame, hands it back rendered, and has
it published to scanout. Operations on one pool come first, the broker's own, which find the pool,
after them.
-/
import Deniald.Damage.Region
import Deniald.Frame.Timeline
import Deniald.Lib.Counter
import Deniald.Lib.Keyed
import Mathlib.Data.List.Sort

namespace Deniald.Output

open Deniald.Lib Deniald.Damage
open Deniald.Topology (OutputId PixelSize)
open Deniald.Frame (OutputFrameRequest)

/-! ## Buffers -/

inductive BufferState where
  | free | rendering | ready | pending
  deriving DecidableEq

inductive RenderTargetBlocked where
  | readyHandoff | poolExhausted

/-- An owned fence descriptor. -/
abbrev Fence := Nat

/-- A surface's pending presentation feedback, passed along with its frame. -/
abbrev SurfaceFeedback := Nat

structure OutputBufferSlot where
  framebuffer : UInt32
  state : BufferState
  outputRefs : Nat
  fence : Option Fence
  readyDamage : Option DamageRegion
  damage : DamageRegion
  screenshotRequestId : Option Nat
  renderedAt : Option Int
  readyTransaction : UInt64
  feedback : List SurfaceFeedback
  request : Option OutputFrameRequest

structure AuthorizedOutputRequest where
  request : OutputFrameRequest
  authorizedAt : Int

structure OutputBufferPool where
  outputId : OutputId
  renderViewId : Int
  configurationGeneration : Nat
  size : PixelSize
  slots : List OutputBufferSlot
  authorizedRequest : Option AuthorizedOutputRequest

structure OutputBufferBroker where
  pools : List OutputBufferPool
  transaction : UInt64
  nextScreenshot : Option (OutputId × Nat)

structure ReadyOutputFrame where
  outputId : OutputId
  renderViewId : Int
  configurationGeneration : Nat
  index : Nat
  fence : Option Fence
  damage : DamageRegion
  screenshotRequestId : Option Nat
  renderedAt : Option Int
  request : OutputFrameRequest
  feedback : List SurfaceFeedback

structure OutputPoolDescriptor where
  outputId : OutputId
  renderViewId : Int
  configurationGeneration : Nat
  size : PixelSize
  initialScanout : Nat
  framebuffers : List UInt32

namespace OutputBufferSlot

/-- A slot whose rendering was given up: all of it has to be painted again. -/
def abandon (slot : OutputBufferSlot) : OutputBufferSlot :=
  { slot with
    damage := slot.damage.invalidate
    state := .free
    fence := none
    readyDamage := none
    renderedAt := none
    screenshotRequestId := none
    readyTransaction := 0
    request := none }

/-- `begin_transaction`, for one slot. -/
def beginTransaction (slot : OutputBufferSlot) : OutputBufferSlot :=
  if slot.state = .rendering ∧ slot.outputRefs = 0 then slot.abandon else slot

def publish (slot : OutputBufferSlot) : Except String OutputBufferSlot :=
  if slot.state ≠ .pending ∨ slot.outputRefs ≠ 0 then
    .error "Flutter output publication slot is not exclusively pending"
  else .ok { slot with state := .free, outputRefs := 1 }

def release (slot : OutputBufferSlot) : Except String OutputBufferSlot :=
  if slot.outputRefs = 0 then .error "released a Flutter buffer without an output owner"
  else .ok { slot with outputRefs := slot.outputRefs - 1 }

def retain (slot : OutputBufferSlot) : Except String OutputBufferSlot :=
  if slot.state ≠ .free ∨ slot.outputRefs = 0 then .error "retained a Flutter buffer without a published output owner"
  -- `checked_add` on `usize`
  else if 2 ^ 64 ≤ slot.outputRefs + 1 then .error "Flutter output reference count overflow"
  else .ok { slot with outputRefs := slot.outputRefs + 1 }

def cancelScreenshot (requestId : Nat) (slot : OutputBufferSlot) : OutputBufferSlot :=
  if slot.screenshotRequestId = some requestId then { slot with screenshotRequestId := none } else slot

end OutputBufferSlot

namespace OutputBufferPool

def targetAvailable (pool : OutputBufferPool) : Bool :=
  pool.authorizedRequest.isNone && !(pool.slots.any fun slot => slot.state ≠ .free) &&
    pool.slots.any fun slot => slot.state = .free && slot.outputRefs = 0

/-- `acquire`, once the pool is found. -/
def acquire (pool : OutputBufferPool) (nextScreenshot : Option (OutputId × Nat)) :
    Except RenderTargetBlocked (OutputBufferPool × UInt32) :=
  match pool.authorizedRequest with
  | none => .error .poolExhausted
  | some authorization =>
    if pool.slots.any fun slot => slot.state = .ready then .error .readyHandoff
    else
      match findEntry (fun slot => slot.state = .free && slot.outputRefs = 0) pool.slots with
      | none => .error .poolExhausted
      | some (index, slot) =>
        .ok ({ pool with
          authorizedRequest := none
          slots := pool.slots.set index { slot with
            state := .rendering
            fence := none
            readyDamage := none
            renderedAt := none
            screenshotRequestId := (nextScreenshot.filter fun tag => tag.1 = pool.outputId).map (·.2)
            readyTransaction := 0
            request := some authorization.request } }, slot.framebuffer)

variable (r : Rounding)

def propagateDamage (pool : OutputBufferPool) (index : Nat) (frameDamage : DamageRegion) : List OutputBufferSlot :=
  pool.slots.mapIdx fun otherIndex slot =>
    if otherIndex = index then { slot with damage := slot.damage.clear }
    else { slot with damage := slot.damage.union r frameDamage }

/-- `mark_ready_with_feedback`, once the pool is found. -/
def markReady (pool : OutputBufferPool) (transaction : UInt64) (framebuffer : UInt32)
    (frameDamage bufferDamage : List FlutterRect) (fence : Option Fence) (renderedAt : Option Int)
    (feedback : List SurfaceFeedback) : Option OutputBufferPool :=
  match findEntry (fun slot => slot.framebuffer = framebuffer) pool.slots with
  | none => none
  | some (index, slot) =>
    if slot.state ≠ .rendering ∨
        pool.slots.zipIdx.any fun (other, otherIndex) => otherIndex ≠ index && other.state = .ready then none
    else
      let empty := DamageRegion.empty pool.size.width pool.size.height
      let frameDamageRegion := empty.replaceFromFlutter r frameDamage
      let bufferDamageRegion := empty.replaceFromFlutter r bufferDamage
      some { pool with
        slots := (pool.propagateDamage r index frameDamageRegion).modify index fun slot =>
          { slot with
            readyDamage := some bufferDamageRegion
            state := .ready
            fence := fence
            renderedAt := renderedAt
            feedback := feedback
            readyTransaction := transaction } }

/-- `finish_transaction`, for one pool: the slot made ready in this transaction is handed out. -/
def finishTransaction (transaction : UInt64) (pool : OutputBufferPool) : OutputBufferPool × Option ReadyOutputFrame :=
  match findEntry (fun slot => slot.state = .ready && slot.readyTransaction = transaction) pool.slots with
  | none => (pool, none)
  | some (index, slot) =>
    match slot.request, slot.readyDamage with
    | some request, some damage =>
      ({ pool with
          slots := pool.slots.set index { slot with
            state := .pending
            readyTransaction := 0
            request := none
            readyDamage := none
            fence := none
            screenshotRequestId := none
            renderedAt := none
            feedback := [] } },
        some {
          outputId := pool.outputId
          renderViewId := pool.renderViewId
          configurationGeneration := pool.configurationGeneration
          index := index
          fence := slot.fence
          damage := damage
          screenshotRequestId := slot.screenshotRequestId
          renderedAt := slot.renderedAt
          request := request
          feedback := slot.feedback })
    -- a ready frame without its request or damage cannot be published; its slot is recycled
    | _, _ =>
      ({ pool with
          slots := pool.slots.set index { slot with
            state := .free
            damage := slot.damage.invalidate
            readyTransaction := 0
            request := none
            readyDamage := none
            fence := none
            screenshotRequestId := none
            renderedAt := none
            feedback := [] } }, none)

end OutputBufferPool

/-! ## The broker -/

namespace OutputBufferBroker

def takeFramebuffers : List UInt32 → List UInt32 → Option (List UInt32)
  | [], taken => some taken
  | framebuffer :: rest, taken =>
    if framebuffer = 0 ∨ framebuffer ∈ taken then none else takeFramebuffers rest (framebuffer :: taken)

def newPool (descriptor : OutputPoolDescriptor) : OutputBufferPool where
  outputId := descriptor.outputId
  renderViewId := descriptor.renderViewId
  configurationGeneration := descriptor.configurationGeneration
  size := descriptor.size
  slots := descriptor.framebuffers.mapIdx fun index framebuffer =>
    { framebuffer := framebuffer
      state := .free
      outputRefs := if index = descriptor.initialScanout then 1 else 0
      fence := none
      readyDamage := none
      damage := .full descriptor.size.width descriptor.size.height
      screenshotRequestId := none
      renderedAt := none
      readyTransaction := 0
      feedback := []
      request := none }
  authorizedRequest := none

/-- The loop of `new`: the ids and framebuffers taken by the pools before, and their generation. -/
def newLoop : List OutputPoolDescriptor → List OutputId → List Int → List UInt32 → Option Nat →
    Except String (List OutputBufferPool)
  | [], _, _, _, _ => .ok []
  | descriptor :: rest, outputIds, renderViewIds, framebuffers, generation =>
    match takeFramebuffers descriptor.framebuffers framebuffers with
    | none => .error "invalid physical output framebuffer pool"
    | some taken =>
      if descriptor.configurationGeneration = 0 ∨
          generation.any (fun value => value ≠ descriptor.configurationGeneration) ∨
          descriptor.outputId ∈ outputIds ∨ descriptor.renderViewId ∈ renderViewIds ∨
          descriptor.size.width = 0 ∨ descriptor.size.height = 0 ∨
          descriptor.framebuffers.length ≤ descriptor.initialScanout ∨ descriptor.framebuffers.length < 3 then
        .error "invalid physical output framebuffer pool"
      else
        (newLoop rest (descriptor.outputId :: outputIds) (descriptor.renderViewId :: renderViewIds) taken
          (some descriptor.configurationGeneration)).map (newPool descriptor :: ·)

def new (descriptors : List OutputPoolDescriptor) : Except String OutputBufferBroker :=
  match newLoop descriptors [] [] [] none with
  | .error e => .error e
  | .ok [] => .error "physical output framebuffer pools are empty"
  | .ok pools =>
    .ok { pools := pools.insertionSort fun a b => a.renderViewId ≤ b.renderViewId
          transaction := 0
          nextScreenshot := none }

def pool (b : OutputBufferBroker) (output : OutputId) : Option OutputBufferPool :=
  b.pools.find? fun pool => pool.outputId = output

def modifyPool (b : OutputBufferBroker) (output : OutputId) (f : OutputBufferPool → OutputBufferPool) :
    OutputBufferBroker :=
  { b with pools := modifyFirst (fun pool => pool.outputId = output) f b.pools }

def beginTransaction (b : OutputBufferBroker) : OutputBufferBroker :=
  { b with
    transaction := bump b.transaction
    pools := b.pools.map fun pool => { pool with slots := pool.slots.map OutputBufferSlot.beginTransaction } }

def targetAvailable (b : OutputBufferBroker) (output : OutputId) : Bool :=
  (b.pool output).any OutputBufferPool.targetAvailable

def authorize (b : OutputBufferBroker) (request : OutputFrameRequest) (now : Int) :
    OutputBufferBroker × Option Int :=
  if request.dirtySerial = 0 ∨ !b.targetAvailable request.tick.output then (b, none)
  else
    match b.pool request.tick.output with
    | none => (b, none)
    | some pool =>
      (b.modifyPool request.tick.output fun pool => { pool with authorizedRequest := some ⟨request, now⟩ },
        some pool.renderViewId)

def cancelAuthorizations (b : OutputBufferBroker) (renderViewIds : List Int) : OutputBufferBroker :=
  { b with
    pools := b.pools.map fun pool =>
      if pool.renderViewId ∈ renderViewIds then { pool with authorizedRequest := none } else pool }

def shouldExpire (now : Int) (pool : OutputBufferPool) : Bool :=
  pool.authorizedRequest.any fun authorization =>
    authorization.request.tick.interval * 2 ≤ saturatingDurationSince now authorization.authorizedAt

def expireAuthorizations (b : OutputBufferBroker) (now : Int) : OutputBufferBroker × Nat :=
  ({ b with
      pools := b.pools.map fun pool =>
        if shouldExpire now pool then { pool with authorizedRequest := none } else pool },
    (b.pools.filter (shouldExpire now)).length)

def acquire (b : OutputBufferBroker) (renderViewId : Int) (size : PixelSize) :
    OutputBufferBroker × Except RenderTargetBlocked UInt32 :=
  match b.pools.find? fun pool => pool.renderViewId = renderViewId && pool.size = size with
  | none => (b, .error .poolExhausted)
  | some pool =>
    match pool.acquire b.nextScreenshot with
    | .error e => (b, .error e)
    | .ok (pool, framebuffer) =>
      ({ b with
          pools := modifyFirst (fun pool => pool.renderViewId = renderViewId && pool.size = size) (fun _ => pool)
            b.pools }, .ok framebuffer)

def markReadyWithFeedback (r : Rounding) (b : OutputBufferBroker) (renderViewId : Int) (framebuffer : UInt32)
    (frameDamage bufferDamage : List FlutterRect) (fence : Option Fence) (renderedAt : Option Int)
    (feedback : List SurfaceFeedback) : OutputBufferBroker × Bool :=
  match b.pools.find? fun pool => pool.renderViewId = renderViewId with
  | none => (b, false)
  | some pool =>
    match pool.markReady r b.transaction framebuffer frameDamage bufferDamage fence renderedAt feedback with
    | none => (b, false)
    | some pool =>
      ({ b with pools := modifyFirst (fun pool => pool.renderViewId = renderViewId) (fun _ => pool) b.pools }, true)

def finishTransaction (b : OutputBufferBroker) : OutputBufferBroker × List ReadyOutputFrame :=
  let finished := b.pools.map (OutputBufferPool.finishTransaction b.transaction)
  let outputs := finished.filterMap (·.2)
  let nextScreenshot := match b.nextScreenshot with
    | some (output, requestId) =>
      if outputs.any fun frame => frame.outputId = output && frame.screenshotRequestId = some requestId then none
      else b.nextScreenshot
    | none => none
  ({ b with pools := finished.map (·.1), nextScreenshot := nextScreenshot }, outputs)

/-- `populate_existing_damage`: the repair damage of a framebuffer, added to the engine's list. -/
def populateExistingDamage (b : OutputBufferBroker) (framebuffer : Int) (output : List FlutterRect) :
    List FlutterRect × Bool :=
  -- `u32::try_from`
  if framebuffer < 0 ∨ 2 ^ 32 ≤ framebuffer then (output, false)
  else
    match (b.pools.flatMap (·.slots)).find? fun slot => slot.framebuffer.toNat = framebuffer.toNat with
    | none => (output, false)
    | some slot => (output ++ slot.damage.writeFlutter, true)

/-- A slot of an output changed by an operation that may refuse. -/
def updateSlot (b : OutputBufferBroker) (output : OutputId) (index : Nat) (missing : String)
    (f : OutputBufferSlot → Except String OutputBufferSlot) : Except String OutputBufferBroker :=
  match (b.pool output).bind fun pool => pool.slots[index]? with
  | none => .error missing
  | some slot =>
    match f slot with
    | .error e => .error e
    | .ok slot => .ok (b.modifyPool output fun pool => { pool with slots := pool.slots.set index slot })

def publish (b : OutputBufferBroker) (output : ReadyOutputFrame) : Except String OutputBufferBroker :=
  b.updateSlot output.outputId output.index "Flutter output publication slot is out of range" OutputBufferSlot.publish

def releaseOutput (b : OutputBufferBroker) (output : OutputId) (index : Nat) : Except String OutputBufferBroker :=
  b.updateSlot output index "Flutter released output slot is out of range" OutputBufferSlot.release

def retainOutput (b : OutputBufferBroker) (output : OutputId) (index : Nat) : Except String OutputBufferBroker :=
  b.updateSlot output index "Flutter retained output slot is out of range" OutputBufferSlot.retain

def tagNextFrameForScreenshot (b : OutputBufferBroker) (output : OutputId) (requestId : Nat) :
    Except String OutputBufferBroker :=
  if requestId = 0 ∨ b.nextScreenshot.isSome ∨ !(b.pools.any fun pool => pool.outputId = output) then
    .error "a screenshot frame is already pending"
  else .ok { b with nextScreenshot := some (output, requestId) }

def cancelScreenshotFrame (b : OutputBufferBroker) (requestId : Nat) : OutputBufferBroker :=
  { b with
    nextScreenshot := if b.nextScreenshot.any fun tag => tag.2 = requestId then none else b.nextScreenshot
    pools := b.pools.map fun pool =>
      { pool with slots := pool.slots.map (OutputBufferSlot.cancelScreenshot requestId) } }

end OutputBufferBroker

end Deniald.Output
