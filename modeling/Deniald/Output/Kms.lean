/-
The KMS output scheduler (output_scheduler.rs, `OutputScheduler`) with what it works on: the buffer
broker and the frames its engine completed, the native buffer pools, Volition's queue, and the
page flips the kernel reported. A pipeline for each powered output takes its frames from publication
to the display. The audit, the Wayland notifications and the fields of a plane commit are left out:
nothing here reads them.
-/
import Deniald.Frame.Scheduler
import Deniald.Output.Frames

namespace Deniald.Output

open Deniald.Lib Deniald.Damage
open Deniald.Topology (OutputId PixelSize)
open Deniald.Frame (OutputFrameRequest Scanout)

/-! ## Volition -/

/-- A queued commit. The last field is a ghost: the output whose frame it is. -/
structure CommitJob where
  commit : CommitId
  framebuffer : Nat
  damage : Option PlaneDamage
  notBefore : Int
  owner : OutputId

structure Failure where
  instance' : Nat
  commit : CommitId
  errno : Nat

/-- The owner of a commit is a ghost, copied from its job. -/
inductive VolitionEvent where
  | submitted (instance' : Nat) (commit : CommitId) (submittedAt : Int) (owner : OutputId)
  | stalled (failure : Failure) (owner : OutputId)
  | failed (failure : Failure) (owner : OutputId)

def VolitionEvent.instance' : VolitionEvent → Nat
  | .submitted instance' _ _ _ => instance'
  | .stalled failure _ => failure.instance'
  | .failed failure _ => failure.instance'

def VolitionEvent.commit : VolitionEvent → CommitId
  | .submitted _ commit _ _ => commit
  | .stalled failure _ => failure.commit
  | .failed failure _ => failure.commit

def VolitionEvent.owner : VolitionEvent → OutputId
  | .submitted _ _ _ owner => owner
  | .stalled _ owner => owner
  | .failed _ owner => owner

inductive Submission where
  | queued | backpressured

/-- What the kernel made of a queued commit. -/
inductive SubmissionOutcome where
  | submitted (submittedAt : Int)
  | stalled (errno : Nat)
  | failed (errno : Nat)

/-- `jobs` are queued with the worker, `events` are its reports not yet acknowledged. -/
structure Volition where
  instance' : Nat
  capacity : Nat
  jobs : List CommitJob
  events : List VolitionEvent

/-- `LOOKAHEAD_SUBMIT_LEAD`, 2 ms. -/
def lookaheadSubmitLead : Nat := 2000000

def lookaheadNotBefore (presentationTarget now : Int) : Int := max (presentationTarget - lookaheadSubmitLead) now

namespace Volition

def submitForTarget (v : Volition) (commit : CommitId) (framebuffer : Nat) (damage : Option PlaneDamage)
    (presentationTarget now : Int) (owner : OutputId) : Volition × Submission :=
  if v.capacity ≤ v.jobs.length then (v, .backpressured)
  else
    ({ v with jobs := v.jobs ++ [⟨commit, framebuffer, damage, lookaheadNotBefore presentationTarget now, owner⟩] },
      .queued)

/-- The worker's report on a job. -/
def eventOf (v : Volition) (job : CommitJob) : SubmissionOutcome → VolitionEvent
  | .submitted submittedAt => .submitted v.instance' job.commit submittedAt job.owner
  | .stalled errno => .stalled ⟨v.instance', job.commit, errno⟩ job.owner
  | .failed errno => .failed ⟨v.instance', job.commit, errno⟩ job.owner

/-- The worker finishes a queued commit and reports it. -/
def report (v : Volition) (job : Nat) (outcome : SubmissionOutcome) : Volition :=
  match v.jobs[job]? with
  | none => v
  | some j => { v with jobs := v.jobs.eraseIdx job, events := v.events ++ [v.eventOf j outcome] }

end Volition

/-! ## The scheduler's state -/

structure OutputSwapchain where
  outputId : OutputId
  renderViewId : Int
  configurationGeneration : Nat
  size : PixelSize
  /-- The framebuffer handles of the buffers. -/
  buffers : List Nat
  current : Nat

structure OutputReadyFences where
  outputId : OutputId
  renderViewId : Int
  configurationGeneration : Nat
  size : PixelSize
  slots : List ReadyFenceSlot

/-- The last three fields are ghosts: the buffer scanned at first, the frames scheduled for the display so
far, and those retired by a page flip, in order. -/
structure OutputPipeline where
  outputId : OutputId
  scanoutIndex : Nat
  scanning : Nat
  scanningScreenshotRequestId : Option Nat
  frames : OutputPipelineFrames
  poweringOff : Bool
  wakeModeset : Option WakeModeset
  initialScanning : Nat
  scheduled : List OutputFrame
  retired : List OutputFrame

structure PageFlipCompletion where
  crtc : UInt32
  observedAt : Int
  presentedAt : Option Nat
  sequence : Option Nat

structure PresentedOutput where
  id : OutputId
  observedAt : Int
  presentedAt : Option Nat
  sequence : Option Nat
  timelineTarget : Int

/-- `readyFrames` are the frames the engine completed and nobody published yet, `leases` the buffers
held by asynchronous readers, `stalled` the first stall of the last acknowledgement. -/
structure Kms where
  broker : OutputBufferBroker
  readyFrames : List ReadyOutputFrame
  swapchains : List OutputSwapchain
  scanouts : List Scanout
  volition : Volition
  pipelines : List OutputPipeline
  presentedOutputs : List PresentedOutput
  readyFences : List OutputReadyFences
  parked : List (OutputId × Nat)
  completedPageFlips : List PageFlipCompletion
  nextReadyFenceToken : UInt64
  recoveryRequested : Bool
  stalled : Option Failure
  leases : List (OutputId × Nat)

namespace Kms

def forOutput (k : Kms) (output : OutputId) : Option OutputSwapchain :=
  k.swapchains.find? fun pool => pool.outputId = output

def framebuffer (k : Kms) (output : OutputId) (index : Nat) : Option Nat :=
  (k.forOutput output).bind fun pool => pool.buffers[index]?

def scanoutOutput (k : Kms) (scanoutIndex : Nat) : Option OutputId := (k.scanouts[scanoutIndex]?).map (·.output.id)

def scanoutCrtc (k : Kms) (scanoutIndex : Nat) : Option UInt32 := (k.scanouts[scanoutIndex]?).map (·.output.crtc)

def pipelineOf (k : Kms) (output : OutputId) : Option (Nat × OutputPipeline) :=
  findEntry (fun pipeline => k.scanoutOutput pipeline.scanoutIndex = some output) k.pipelines

def setPipeline (k : Kms) (index : Nat) (pipeline : OutputPipeline) : Kms :=
  { k with pipelines := k.pipelines.set index pipeline }

def fencePool (k : Kms) (output : OutputId) : Option OutputReadyFences :=
  k.readyFences.find? fun pool => pool.outputId = output

def fenceSlot (k : Kms) (output : OutputId) (index : Nat) : Option ReadyFenceSlot :=
  (k.fencePool output).bind fun pool => pool.slots[index]?

def setFenceSlot (k : Kms) (output : OutputId) (index : Nat) (slot : ReadyFenceSlot) : Kms :=
  { k with
    readyFences := modifyFirst (fun pool => pool.outputId = output)
      (fun pool => { pool with slots := pool.slots.set index slot }) k.readyFences }

def releaseOutput (k : Kms) (output : OutputId) (index : Nat) : Except String Kms := do
  let broker ← k.broker.releaseOutput output index
  pure { k with broker := broker }

def releaseFrame (k : Kms) (output : OutputId) (index : Nat) (slot : ReadyFenceSlot) : Except String Kms := do
  let k ← k.releaseOutput output index
  let slot ← slot.releaseUser
  pure (k.setFenceSlot output index slot)

/-- A user of a buffer the output no longer needs: its release waits for the GPU to finish the buffer. -/
def discardUser (k : Kms) (output : OutputId) (index : Nat) (slot : ReadyFenceSlot) : Except String Kms :=
  if slot.signaled then k.releaseFrame output index slot
  else do
    let slot ← slot.discardUserWhenSignaled
    pure (k.setFenceSlot output index slot)

/-- `discard_ready_frame`, where `lost` is the caller's complaint about a missing fence pool. -/
def discardReadyFrame (k : Kms) (output : OutputId) (frame : OutputFrame) (lost : String) : Except String Kms :=
  match k.fencePool output with
  | none => .error lost
  | some pool =>
    match pool.slots[frame.index]? with
    | none => .error "discarded Flutter frame exceeds the fence pool"
    | some slot => k.discardUser output frame.index slot

/-! ### Publication and fences -/

/-- `next_ready_fence_token`: the counter's value, skipping zero, and the counter after it. -/
def takeReadyFenceToken (next : UInt64) : UInt64 × UInt64 := if next = 0 then (1, 2) else (next, next + 1)

def matchesSize (damage : DamageRegion) (size : PixelSize) : Bool :=
  damage.bounds = ⟨0, 0, size.width, size.height⟩

def readyHandoffAvailable (k : Kms) (output : OutputId) : Bool :=
  match k.pipelines.find? fun pipeline => pipeline.outputId = output with
  | none => true
  | some pipeline => pipeline.poweringOff || pipeline.frames.renderAvailable

def metadataMismatch (pool : OutputReadyFences) (output : ReadyOutputFrame) : Bool :=
  output.configurationGeneration = 0 || output.configurationGeneration ≠ pool.configurationGeneration ||
    output.renderViewId ≠ pool.renderViewId || !matchesSize output.damage pool.size ||
    !(pool.slots[output.index]?.any ReadyFenceSlot.isAvailable) || output.request.tick.output ≠ output.outputId ||
    output.request.tick.presentationTarget ≠ output.request.tick.renderDeadline + output.request.tick.interval

/-- A published frame becomes its pipeline's ready frame, or its only user is discarded where no
pipeline takes frames. -/
def handOff (k : Kms) (output : ReadyOutputFrame) (slot : ReadyFenceSlot) (now : Int) : Except String Kms :=
  match findEntry (fun pipeline => pipeline.outputId = output.outputId && !pipeline.poweringOff) k.pipelines with
  | some (index, pipeline) => do
    let frames ← pipeline.frames.installReady (output.outputFrame now)
    pure (k.setPipeline index { pipeline with frames := frames })
  | none => k.discardUser output.outputId output.index slot

def publishReady (k : Kms) (output : ReadyOutputFrame) (now : Int) : Except String (Kms × Option ReadyFenceSignal) :=
  match k.fencePool output.outputId with
  | none => .error "Flutter published a frame for an unknown output"
  | some pool =>
    if metadataMismatch pool output then .error "Flutter output metadata does not match its native pool"
    else if (k.pipelines.find? fun pipeline => pipeline.outputId = output.outputId).any
        fun pipeline => !pipeline.frames.renderAvailable then
      .error "cannot replace an unconsumed Flutter output frame"
    else do
      let (token, nextToken) := takeReadyFenceToken k.nextReadyFenceToken
      let broker ← k.broker.publish output
      let slot ← ((pool.slots[output.index]?).getD .default).claim output.fence 1 token
      let k := { k with broker := broker, nextReadyFenceToken := nextToken }.setFenceSlot output.outputId
        output.index slot
      let k ← k.handOff output slot now
      pure (k, output.fence.map fun _ => ⟨output.outputId, output.index, token⟩)

/-- `take_ready_frame` and the publication of what it takes. -/
def publishNext (k : Kms) (now : Int) : Except String Kms :=
  match findEntry (fun frame : ReadyOutputFrame => k.readyHandoffAvailable frame.outputId) k.readyFrames with
  | none => .ok k
  | some (index, frame) => do
    let (k, _) ← { k with readyFrames := k.readyFrames.eraseIdx index }.publishReady frame now
    pure k

def releaseDiscarded (output : OutputId) (index : Nat) : Nat → Kms → Except String Kms
  | 0, k => .ok k
  | users + 1, k =>
    match k.fenceSlot output index with
    | none => .ok k
    | some slot => do
      let k ← k.releaseFrame output index slot
      releaseDiscarded output index users k

def acknowledgeReadyFence (k : Kms) (signal : ReadyFenceSignal) : Except String Kms :=
  match k.fenceSlot signal.output signal.index with
  | none => .ok k
  | some slot =>
    match slot.markSignaled signal.token with
    | (_, false) => .ok k
    | (slot, true) =>
      releaseDiscarded signal.output signal.index slot.discardUsersOnSignal
        (k.setFenceSlot signal.output signal.index { slot with discardUsersOnSignal := 0 })

def acknowledgeReadyFences (k : Kms) (signals : List ReadyFenceSignal) : Except String Kms :=
  signals.foldlM acknowledgeReadyFence k

/-! ### Submission -/

def submitWake (k : Kms) (now : Int) (accepts : Bool) (index : Nat) (pipeline : OutputPipeline) (frame : OutputFrame)
    (fence : ReadyFenceSlot) (wake : WakeModeset) : Except String Kms :=
  if now < wake.retryAt then .ok k
  else
    match k.scanouts[pipeline.scanoutIndex]?, k.forOutput pipeline.outputId with
    | none, _ => .error "DPMS wake pipeline references a missing scanout"
    | _, none => .error "DPMS wake output lost its native buffer pool"
    | some _, some _ =>
      if accepts then do
        let commit : CommitId := ⟨index, frame.index⟩
        let frames ← pipeline.frames.scheduleReady commit
        let (frames, _) ← frames.acknowledgeSubmission commit now
        let fence ← fence.releaseUser
        let pipeline := { pipeline with
          frames := frames, wakeModeset := none, scheduled := pipeline.scheduled ++ [frame] }
        pure ((k.setPipeline index pipeline).setFenceSlot pipeline.outputId frame.index fence)
      else
        let (wake, recoveryRequired) := wake.recordFailure now
        .ok { k.setPipeline index { pipeline with wakeModeset := some wake } with
          recoveryRequested := k.recoveryRequested || recoveryRequired }

def submitQueued (k : Kms) (now : Int) (index : Nat) (pipeline : OutputPipeline) (frame : OutputFrame)
    (fence : ReadyFenceSlot) (framebuffer : Nat) : Except String Kms :=
  let commit : CommitId := ⟨index, frame.index⟩
  match k.volition.submitForTarget commit framebuffer (some frame.damage) frame.request.tick.presentationTarget now
      pipeline.outputId with
  | (_, .backpressured) => .ok k
  | (volition, .queued) => do
    let frames ← pipeline.frames.scheduleReady commit
    let fence ← fence.releaseUser
    let pipeline := { pipeline with frames := frames, scheduled := pipeline.scheduled ++ [frame] }
    pure (({ k with volition := volition }.setPipeline index pipeline).setFenceSlot pipeline.outputId frame.index fence)

/-- The body of `submit_ready`'s loop over the pipelines; `accepts` tells which wake modesets succeed. -/
def submitPipeline (now : Int) (accepts : OutputId → Bool) (k : Kms) (index : Nat) : Except String Kms :=
  match k.pipelines[index]? with
  | none => .ok k
  | some pipeline =>
    if pipeline.poweringOff ∨ pipeline.frames.inFlight.isSome then .ok k
    else
      match pipeline.frames.ready with
      | none => .ok k
      | some frame =>
        match k.fencePool pipeline.outputId with
        | none => .error "output pipeline lost its render-fence pool"
        | some pool =>
          match pool.slots[frame.index]? with
          | none => .error "ready frame exceeds its output fence pool"
          | some fence =>
            -- rendering has to be complete before a frame crosses into Volition
            if !fence.signaled then .ok k
            else
              match k.framebuffer pipeline.outputId frame.index with
              | none => .error "ready frame exceeds its native output pool"
              | some framebuffer =>
                match pipeline.wakeModeset with
                | some wake => k.submitWake now (accepts pipeline.outputId) index pipeline frame fence wake
                | none => k.submitQueued now index pipeline frame fence framebuffer

def submitReady (k : Kms) (now : Int) (accepts : OutputId → Bool) : Except String Kms :=
  (List.range k.pipelines.length).foldlM (submitPipeline now accepts) k

/-! ### Acknowledgements and completions -/

def acknowledgeSubmitted (k : Kms) (commit : CommitId) (submittedAt : Int) : Except String Kms :=
  match findEntry (fun pipeline : OutputPipeline => pipeline.frames.scheduledCommit = some commit) k.pipelines with
  | none => .error "Volition accepted a commit with no pending output frame"
  | some (index, pipeline) => do
    let (frames, _) ← pipeline.frames.acknowledgeSubmission commit submittedAt
    if (k.fencePool pipeline.outputId).isNone then .error "submitted output lost its render-fence pool"
    else pure (k.setPipeline index { pipeline with frames := frames })

/-- The body of `acknowledge_volition_events`' loop. A stalled commit keeps its pending frame; the stall
is noted for the caller, which rebuilds the scheduler. -/
def acknowledgeVolitionEvent (k : Kms) (event : VolitionEvent) : Except String Kms :=
  if event.instance' ≠ k.volition.instance' then .ok k
  else
    match event with
    | .submitted _ commit submittedAt _ => k.acknowledgeSubmitted commit submittedAt
    | .stalled failure _ => .ok { k with stalled := k.stalled.or (some failure) }
    | .failed failure _ =>
      .error ("Volition lookahead failed for stream " ++ toString failure.commit.stream ++ " frame " ++
        toString failure.commit.frame ++ ": " ++ toString failure.errno)

def acknowledgeOldest (k : Kms) : Except String Kms :=
  match k.volition.events with
  | [] => .ok k
  | event :: events => acknowledgeVolitionEvent { k with volition := { k.volition with events := events } } event

def acknowledgeLoop : Nat → Kms → Except String Kms
  | 0, k => .ok k
  | reports + 1, k => do
    let k ← k.acknowledgeOldest
    acknowledgeLoop reports k

/-- `acknowledge_volition_events`, for all reports that arrived. -/
def acknowledgeVolitionEvents (k : Kms) : Except String Kms :=
  acknowledgeLoop k.volition.events.length { k with stalled := none }

def present (k : Kms) (output : OutputId) (index : Nat) : Except String Kms :=
  match k.forOutput output with
  | none => .error "presented output has no native buffer pool"
  | some pool =>
    if pool.buffers.length ≤ index then .error "presented output buffer exceeds its native pool"
    else
      .ok { k with
        swapchains := modifyFirst (fun pool => pool.outputId = output) (fun pool => { pool with current := index })
          k.swapchains }

def dropElapsed (k : Kms) (index : Nat) (observedAt : Int) : Except String Kms :=
  match k.pipelines[index]? with
  | none => .ok k
  | some pipeline =>
    match pipeline.frames.ready with
    | none => .ok k
    | some ready =>
      if ready.targetElapsed observedAt then
        (k.setPipeline index { pipeline with frames := { pipeline.frames with ready := none } }).discardReadyFrame
          pipeline.outputId ready "elapsed output successor lost its render-fence pool"
      else .ok k

def retire (k : Kms) (index : Nat) (pipeline : OutputPipeline) (frames : OutputPipelineFrames)
    (presented : OutputFrame) (completion : PageFlipCompletion) : Except String Kms := do
  let k := k.setPipeline index { pipeline with
    frames := frames
    scanning := presented.index
    scanningScreenshotRequestId := presented.screenshotRequestId
    retired := pipeline.retired ++ [presented] }
  let k ← k.releaseOutput pipeline.outputId pipeline.scanning
  let k ← k.present pipeline.outputId presented.index
  let k ← k.dropElapsed index completion.observedAt
  pure { k with
    presentedOutputs := k.presentedOutputs ++ [{
      id := (k.scanoutOutput pipeline.scanoutIndex).getD pipeline.outputId
      observedAt := completion.observedAt
      presentedAt := completion.presentedAt
      sequence := completion.sequence
      timelineTarget := presented.request.tick.presentationTarget }] }

/-- The body of `handle_completions_inner`'s loop, for the oldest completion. -/
def handleCompletion (k : Kms) : Except String Kms :=
  match k.completedPageFlips with
  | [] => .ok k
  | completion :: rest =>
    let k := { k with completedPageFlips := rest }
    match findEntry (fun pipeline => k.scanoutCrtc pipeline.scanoutIndex = some completion.crtc) k.pipelines with
    | none => .ok k
    | some (index, pipeline) =>
      match pipeline.frames.retireCompletion with
      | (frames, .retired presented) => k.retire index pipeline frames presented completion
      -- a flip faster than Volition's acknowledgement waits for it
      | (_, .deferred) => .ok { k with completedPageFlips := rest ++ [completion] }
      | (_, .stale) => .ok k

/-- The first completions of the queue, one after another. -/
def handleCompletionsLoop : Nat → Kms → Except String Kms
  | 0, k => .ok k
  | queued + 1, k => do
    let k ← k.handleCompletion
    handleCompletionsLoop queued k

/-- Only the completions present when the pass begins are processed. -/
def handleCompletions (k : Kms) : Except String Kms :=
  handleCompletionsLoop k.completedPageFlips.length { k with presentedOutputs := [] }

/-! ### Screencopies -/

def framebufferIndexForOutput (k : Kms) (output : OutputId) : Option Nat :=
  (k.pipelines.find? fun pipeline => !pipeline.poweringOff && k.scanoutOutput pipeline.scanoutIndex = some output).map
    (·.scanning)

def retainScreencopy (k : Kms) (output : OutputId) : Except String Kms :=
  match k.framebufferIndexForOutput output with
  | none => .ok k
  | some index => do
    let broker ← k.broker.retainOutput output index
    pure { k with broker := broker, leases := (output, index) :: k.leases }

def releaseScreencopy (k : Kms) (lease : Nat) : Except String Kms :=
  match k.leases[lease]? with
  | none => .ok k
  | some (output, index) => do
    let broker ← k.broker.releaseOutput output index
    pure { k with broker := broker, leases := k.leases.eraseIdx lease }

/-! ### Power -/

/-- The scheduler after power-off began, and whether it has to wait for a frame in flight. -/
def beginPowerOff (k : Kms) (output : OutputId) : Except String (Kms × Bool) :=
  match k.pipelineOf output with
  | none => .ok (k, false)
  | some (index, pipeline) =>
    let k := k.setPipeline index { pipeline with
      poweringOff := true, frames := { pipeline.frames with ready := none } }
    let submitted := pipeline.frames.inFlight.isSome
    match pipeline.frames.ready with
    | none => .ok (k, submitted)
    | some ready => do
      let k ← k.discardReadyFrame output ready "power-off output lost its render-fence pool"
      pure (k, submitted)

def cancelPowerOff (k : Kms) (output : OutputId) : Kms :=
  match k.pipelineOf output with
  | none => k
  | some (index, pipeline) => k.setPipeline index { pipeline with poweringOff := false }

/-- The caller's note of an output's power, made with the scheduler's change. -/
def setPowered (k : Kms) (output : OutputId) (powered : Bool) : Kms :=
  { k with
    scanouts := k.scanouts.map fun scanout =>
      if scanout.output.id = output then { scanout with powered := powered } else scanout }

def powerOff (k : Kms) (output : OutputId) : Except String Kms :=
  match k.pipelineOf output with
  | none => .ok k
  | some (index, pipeline) =>
    if pipeline.frames.inFlight.isSome then .error "cannot power off an output with pending scanout work"
    else do
      let k := { k with pipelines := k.pipelines.eraseIdx index }
      let k ← match pipeline.frames.ready with
        | none => pure k
        | some ready => k.discardReadyFrame output ready "power-off output lost its render-fence pool"
      pure { k with parked := k.parked ++ [(output, pipeline.scanning)] }

/-- A request to power an output off, as its caller serves it: an output without a pipeline has no
framebuffer to park. -/
def powerOffOutput (k : Kms) (output : OutputId) : Except String Kms :=
  if (k.pipelineOf output).isNone then .error "DPMS power-off output has no scheduler framebuffer"
  else do
    let k ← k.powerOff output
    pure (k.setPowered output false)

def stableFramebufferIndex (k : Kms) (output : OutputId) : Option Nat :=
  ((k.pipelines.find? fun pipeline => pipeline.outputId = output).map (·.scanning)).or
    ((k.parked.find? fun candidate => candidate.1 = output).map (·.2))

def wakingPipeline (output : OutputId) (scanoutIndex framebufferIndex : Nat) (now : Int) : OutputPipeline where
  outputId := output
  scanoutIndex := scanoutIndex
  scanning := framebufferIndex
  scanningScreenshotRequestId := none
  frames := .default
  poweringOff := false
  wakeModeset := some (.new now)
  initialScanning := framebufferIndex
  scheduled := []
  retired := []

def powerOn (k : Kms) (scanoutIndex : Nat) (framebufferIndex : Nat) (now : Int) : Except String Kms :=
  match k.scanouts[scanoutIndex]? with
  | none => .error "DPMS wake references a missing scanout"
  | some scanout =>
    if k.pipelines.any fun pipeline => pipeline.scanoutIndex = scanoutIndex then .ok k
    else if (scanout.output.id, framebufferIndex) ∉ k.parked then
      .error "DPMS wake disagrees with the parked output buffer"
    else
      match k.forOutput scanout.output.id with
      | none => .error "DPMS wake output has no native framebuffer pool"
      | some pool =>
        if pool.current ≠ framebufferIndex then .error "DPMS wake pool disagrees with scheduler scanout"
        else
          .ok { k with
            -- `swap_remove`, whose order nothing reads
            parked := k.parked.erase (scanout.output.id, framebufferIndex)
            pipelines := k.pipelines ++ [wakingPipeline scanout.output.id scanoutIndex framebufferIndex now] }

/-- A request to power an output on, as its caller serves it: only for one that is off. -/
def powerOnOutput (k : Kms) (scanoutIndex : Nat) (now : Int) : Except String Kms :=
  match k.scanouts[scanoutIndex]? with
  | none => .ok k
  | some scanout =>
    if scanout.powered then .ok k
    else
      match k.stableFramebufferIndex scanout.output.id with
      | none => .error "DPMS wake output has no parked framebuffer"
      | some index => do
        let k ← k.powerOn scanoutIndex index now
        pure (k.setPowered scanout.output.id true)

/-! ### A fresh scheduler -/

def newPipeline (swapchains : List OutputSwapchain) (scanoutIndex : Nat) (scanout : Scanout) :
    Except String OutputPipeline :=
  match swapchains.find? fun pool => pool.outputId = scanout.output.id with
  | none => .error "output scheduler has no native framebuffer pool"
  | some pool =>
    .ok {
      outputId := scanout.output.id
      scanoutIndex := scanoutIndex
      scanning := pool.current
      scanningScreenshotRequestId := none
      frames := .default
      poweringOff := false
      wakeModeset := none
      initialScanning := pool.current
      scheduled := []
      retired := [] }

def newParked (swapchains : List OutputSwapchain) (scanout : Scanout) : Except String (OutputId × Nat) :=
  match swapchains.find? fun pool => pool.outputId = scanout.output.id with
  | none => .error "powered-off output has no native framebuffer pool"
  | some pool => .ok (scanout.output.id, pool.current)


def new (scanouts : List Scanout) (swapchains : List OutputSwapchain) (broker : OutputBufferBroker)
    (instance' : Nat) (nextReadyFenceToken : UInt64) : Except String Kms := do
  let powered := scanouts.zipIdx.filter fun entry => entry.1.powered
  let pipelines ← powered.mapM fun entry => newPipeline swapchains entry.2 entry.1
  let parked ← (scanouts.filter fun scanout => !scanout.powered).mapM (newParked swapchains)
  pure {
    broker := broker
    readyFrames := []
    swapchains := swapchains
    scanouts := scanouts
    volition := { instance' := instance', capacity := max scanouts.length 1, jobs := [], events := [] }
    pipelines := pipelines
    presentedOutputs := []
    readyFences := swapchains.map fun pool =>
      { outputId := pool.outputId
        renderViewId := pool.renderViewId
        configurationGeneration := pool.configurationGeneration
        size := pool.size
        slots := pool.buffers.map fun _ => .default }
    parked := parked
    completedPageFlips := []
    nextReadyFenceToken := nextReadyFenceToken
    recoveryRequested := false
    stalled := none
    leases := [] }

def poolDescriptor (target : OutputId → Nat → UInt32) (pool : OutputSwapchain) : OutputPoolDescriptor where
  outputId := pool.outputId
  renderViewId := pool.renderViewId
  configurationGeneration := pool.configurationGeneration
  size := pool.size
  initialScanout := pool.current
  framebuffers := (List.range pool.buffers.length).map (target pool.outputId)

/-- `validate_scanout_identities` (kms_state.rs), with the identities of the scanouts before. -/
def validateScanoutIdentities : List Scanout → List Scanout → Except String Unit
  | [], _ => .ok ()
  | scanout :: rest, before =>
    if scanout.output.id = 0 then .error "scanout has zero output identity"
    else if scanout.output.connector = 0 then .error "scanout has zero connector identity"
    else if scanout.output.crtc = 0 then .error "scanout has zero CRTC identity"
    else if scanout.plane = 0 then .error "scanout has zero plane identity"
    else if before.any fun other => other.output.id = scanout.output.id then
      .error ("output " ++ toString scanout.output.id ++ " owns multiple scanouts")
    else if before.any fun other => other.output.connector = scanout.output.connector then
      .error ("connector " ++ toString scanout.output.connector ++ " owns multiple scanouts")
    else if before.any fun other => other.output.crtc = scanout.output.crtc then
      .error ("CRTC " ++ toString scanout.output.crtc ++ " has multiple owners")
    else if before.any fun other => other.plane = scanout.plane then
      .error ("primary plane " ++ toString scanout.plane ++ " has multiple owners")
    else if scanout.output.id ≠ scanout.output.connector.toNat then
      .error ("output " ++ toString scanout.output.id ++ " does not match connector " ++
        toString scanout.output.connector)
    else validateScanoutIdentities rest (scanout :: before)

/-- The start of a session: the scanouts' identities are checked, the native pools match the scanouts as
their allocation checks, and the broker and the scheduler are built for them. -/
def start (scanouts : List Scanout) (swapchains : List OutputSwapchain) (target : OutputId → Nat → UInt32)
    (instance' : Nat) (nextReadyFenceToken : UInt64) : Except String Kms := do
  validateScanoutIdentities scanouts []
  if swapchains.length ≠ scanouts.length ∨ swapchains = [] then
    .error "physical output pools do not match the active scanouts"
  else if swapchains.any fun pool => !(scanouts.any fun scanout => scanout.output.id = pool.outputId) then
    .error "physical output pool has no matching scanout"
  else do
    let broker ← OutputBufferBroker.new (swapchains.map (poolDescriptor target))
    new scanouts swapchains broker instance' nextReadyFenceToken

end Kms

/-! ## Runs -/

/-- What the engine and its embedder do with the broker. -/
inductive RenderEvent where
  | authorize (request : OutputFrameRequest) (now : Int)
  | cancelAuthorizations (renderViewIds : List Int)
  | expireAuthorizations (now : Int)
  | acquire (renderViewId : Int) (size : PixelSize)
  | beginTransaction
  | markReady (renderViewId : Int) (framebuffer : UInt32) (frameDamage bufferDamage : List FlutterRect)
      (fence : Option Fence) (renderedAt : Option Int) (feedback : List SurfaceFeedback)
  | finishTransaction
  | tagNextFrameForScreenshot (output : OutputId) (requestId : Nat)
  | cancelScreenshotFrame (requestId : Nat)

inductive KmsEvent where
  | render (event : RenderEvent)
  | publishReady (now : Int)
  | acknowledgeReadyFences (signals : List ReadyFenceSignal)
  | submitReady (now : Int) (accepts : OutputId → Bool)
  | volitionReport (job : Nat) (outcome : SubmissionOutcome)
  /-- A worker of an earlier scheduler reports. -/
  | foreignReport (event : VolitionEvent)
  | acknowledgeVolition
  | pageFlip (completion : PageFlipCompletion)
  | handleCompletions
  | retainScreencopy (output : OutputId)
  | releaseScreencopy (lease : Nat)
  | beginPowerOff (output : OutputId)
  | cancelPowerOff (output : OutputId)
  | powerOff (output : OutputId)
  | powerOn (scanoutIndex : Nat) (now : Int)

def OutputBufferBroker.render (r : Rounding) (b : OutputBufferBroker) : RenderEvent →
    OutputBufferBroker × List ReadyOutputFrame
  | .authorize request now => ((b.authorize request now).1, [])
  | .cancelAuthorizations renderViewIds => (b.cancelAuthorizations renderViewIds, [])
  | .expireAuthorizations now => ((b.expireAuthorizations now).1, [])
  | .acquire renderViewId size => ((b.acquire renderViewId size).1, [])
  | .beginTransaction => (b.beginTransaction, [])
  | .markReady renderViewId framebuffer frameDamage bufferDamage fence renderedAt feedback =>
    ((b.markReadyWithFeedback r renderViewId framebuffer frameDamage bufferDamage fence renderedAt feedback).1, [])
  | .finishTransaction => b.finishTransaction
  | .tagNextFrameForScreenshot output requestId => (attempt b (b.tagNextFrameForScreenshot output requestId), [])
  | .cancelScreenshotFrame requestId => (b.cancelScreenshotFrame requestId, [])

namespace Kms

/-- A report of another instance's worker arrives. -/
def foreignReport (k : Kms) (event : VolitionEvent) : Kms :=
  if event.instance' = k.volition.instance' then k
  else { k with volition := { k.volition with events := k.volition.events ++ [event] } }

/-- An event handled, or refused with an error, which ends the event loop. -/
def handle (r : Rounding) (k : Kms) : KmsEvent → Except String Kms
  | .render event =>
    let (broker, frames) := k.broker.render r event
    .ok { k with broker := broker, readyFrames := k.readyFrames ++ frames }
  | .publishReady now => k.publishNext now
  | .acknowledgeReadyFences signals => k.acknowledgeReadyFences signals
  | .submitReady now accepts => k.submitReady now accepts
  | .volitionReport job outcome => .ok { k with volition := k.volition.report job outcome }
  | .foreignReport event => .ok (k.foreignReport event)
  | .acknowledgeVolition => k.acknowledgeVolitionEvents
  | .pageFlip completion => .ok { k with completedPageFlips := k.completedPageFlips ++ [completion] }
  | .handleCompletions => k.handleCompletions
  | .retainScreencopy output => k.retainScreencopy output
  | .releaseScreencopy lease => k.releaseScreencopy lease
  | .beginPowerOff output => (k.beginPowerOff output).map (·.1)
  | .cancelPowerOff output => .ok (k.cancelPowerOff output)
  | .powerOff output => k.powerOffOutput output
  | .powerOn scanoutIndex now => k.powerOnOutput scanoutIndex now

/-- The state after an event; an event that fails leaves it as it was. -/
def next (r : Rounding) (k : Kms) (e : KmsEvent) : Kms := attempt k (k.handle r e)

end Kms

end Deniald.Output
