/-
Screen copies (wayland_frontend/screencopy.rs): requests that wait for a presentation of their output, the worker that
transfers them, and their completions. Clients destroy frames and buffers when they like, and the worker may be missing
or stop.
-/
import Deniald.Lib.Counter
import Deniald.Lib.Keyed
import Deniald.Topology.Output

namespace Deniald.Screencopy

open Deniald.Lib Topology

def bytesPerPixel : Int := 4

def maxPendingScreencopies : Nat := 64

def maxCopiesPerPresentation : Nat := 4

def maxInFlightScreencopies : Nat := 4

/-! ## Frames and buffers -/

structure CaptureTarget where
  output : OutputId
  width : Int
  height : Int
  deriving DecidableEq

/-- A frame object, by its number. -/
structure Frame where
  target : Option CaptureTarget
  used : Bool
  alive : Bool := true

inductive ShmFormat where
  | xrgb8888 | other
  deriving DecidableEq

structure ShmData where
  offset : Int
  stride : Int
  width : Int
  height : Int
  format : ShmFormat

/-- The four characters and the modifier. -/
structure DmabufFormat where
  code : String
  modifier : Nat
  deriving DecidableEq

inductive BufferContents where
  | shm (poolLen : Nat) (data : ShmData)
  | dmabuf (width height : Nat) (format : DmabufFormat)
  | other

structure Buffer where
  contents : BufferContents
  alive : Bool := true

/-- The last row of the pool ends within it. -/
def poolRangeIsValid (poolLen : Nat) (offset stride width height : Int) : Bool :=
  0 ≤ offset && 0 ≤ stride && 0 ≤ width && 1 ≤ height &&
    offset + (height - 1) * stride + width * bytesPerPixel ≤ poolLen

def xrgb8888 : String := "XR24"

def validateCaptureBuffer (contents : BufferContents) (target : CaptureTarget) (dmabufFormats : List DmabufFormat) :
    Except String Bool :=
  match contents with
  | .dmabuf width height format =>
    if format ∉ dmabufFormats then .error "DMA-BUF capture was not advertised"
    else if (width : Int) ≠ target.width ∨ (height : Int) ≠ target.height ∨ format.code ≠ xrgb8888 then
      .error "DMA-BUF dimensions or format do not match the capture frame"
    else .ok true
  | .shm poolLen data =>
    if data.width = target.width ∧ data.height = target.height ∧
        data.stride = max (min (target.width * bytesPerPixel) (2 ^ 31 - 1)) (-2 ^ 31) ∧ data.format = .xrgb8888 ∧
        poolRangeIsValid poolLen data.offset data.stride data.width data.height = true then .ok false
    else .error "wl_shm dimensions, stride, format, or pool size are invalid"
  | .other => .error "capture buffer is neither a supported wl_shm buffer nor a DMA-BUF"

/-! ## Requests -/

structure PendingScreencopy where
  /-- The number of the request among those that were queued. -/
  id : Nat
  frame : Nat
  target : CaptureTarget
  buffer : Nat
  dmabuf : Bool
  withDamage : Bool
  deriving DecidableEq

structure InFlightScreencopy where
  request : PendingScreencopy
  /-- Nanoseconds. -/
  presented : Nat
  cancelled : Bool := false

inductive CapturePayload where
  /-- The length of the pixels. -/
  | shm (pixels : Nat)
  | dmabuf

structure CaptureCompletion where
  token : UInt64
  /-- Nothing where the capture failed. -/
  result : Option CapturePayload

/-- The thread with its bounded channel; the job it is at has left the channel. -/
structure CaptureWorker where
  jobs : List UInt64 := []
  running : Option UInt64 := none
  stopped : Bool := false

/-- What the client of a request is told. -/
inductive Signal where
  | flags
  | damage (width height : Nat)
  | ready (secondsHigh secondsLow nanoseconds : Nat)
  | failed
  | release
  deriving DecidableEq

/-- The signals that end a request. -/
def Signal.verdict : Signal → Bool
  | .ready _ _ _ | .failed => true
  | .flags | .damage _ _ | .release => false

structure ScreencopyManager where
  frames : List Frame := []
  buffers : List Buffer := []
  dmabufFormats : List DmabufFormat := []
  pending : List PendingScreencopy := []
  worker : Option CaptureWorker := none
  inFlight : AList fun _ : UInt64 => InFlightScreencopy := ∅
  nextToken : UInt64 := 1
  /-- Completions that are on their way to the event loop. -/
  completions : List CaptureCompletion := []
  /-- How many leases of source buffers are held. -/
  leases : Nat := 0
  /-- How many requests were queued, and those the manager is done with. -/
  accepted : Nat := 0
  finished : List PendingScreencopy := []
  /-- What the clients of queued requests were told. -/
  signals : List (Nat × Signal) := []

namespace ScreencopyManager

variable (s : ScreencopyManager)

def frameAlive (frame : Nat) : Bool := s.frames[frame]?.any (·.alive)

def bufferAlive (buffer : Nat) : Bool := s.buffers[buffer]?.any (·.alive)

def send (request : PendingScreencopy) (signals : List Signal) : ScreencopyManager :=
  { s with signals := s.signals ++ signals.map (request.id, ·) }

/-- `PendingBuffer::release`. -/
def release (request : PendingScreencopy) : ScreencopyManager :=
  if s.bufferAlive request.buffer then s.send request [.release] else s

def finish (request : PendingScreencopy) : ScreencopyManager := { s with finished := s.finished ++ [request] }

/-! ## Dispatch -/

inductive CopyError where
  | alreadyUsed
  | noTarget
  | invalidBuffer (message : String)
  | queueFull

/-- `claim`, then the checks. -/
def checkScreencopy (frame buffer : Nat) : Except CopyError (CaptureTarget × Bool) :=
  match s.frames[frame]?, s.buffers[buffer]? with
  | some f, some b =>
    if f.used then .error .alreadyUsed
    else
      match f.target with
      | none => .error .noTarget
      | some target =>
        match validateCaptureBuffer b.contents target s.dmabufFormats with
        | .error message => .error (.invalidBuffer message)
        | .ok dmabuf => if maxPendingScreencopies ≤ s.pending.length then .error .queueFull else .ok (target, dmabuf)
  | _, _ => .error .alreadyUsed

def claim (frame : Nat) : ScreencopyManager := { s with frames := s.frames.modify frame ({ · with used := true }) }

def queueScreencopy (frame buffer : Nat) (withDamage : Bool) : ScreencopyManager :=
  match s.checkScreencopy frame buffer with
  | .error _ => s.claim frame
  | .ok (target, dmabuf) =>
    { s.claim frame with
      pending := s.pending ++ [⟨s.accepted, frame, target, buffer, dmabuf, withDamage⟩]
      accepted := s.accepted + 1 }

/-- `retain` over the pending requests: those not kept are let go one after the other. -/
def retainPending (keep : PendingScreencopy → Bool)
    (letGo : ScreencopyManager → PendingScreencopy → ScreencopyManager) :
    ScreencopyManager :=
  (s.pending.filter fun request => !keep request).foldl letGo { s with pending := s.pending.filter keep }

def cancelScreencopy (frame : Nat) : ScreencopyManager :=
  s.retainPending (·.frame != frame) fun s request => (s.release request).finish request

def frameDestroyed (frame : Nat) : ScreencopyManager := if s.frameAlive frame then s else s.cancelScreencopy frame

/-! ## Presentations -/

/-- `try_send`: the channel holds as many jobs as may be in flight. -/
inductive Submission where
  | sent (worker : CaptureWorker)
  | full
  | disconnected

def trySubmit (worker : CaptureWorker) (token : UInt64) : Submission :=
  if worker.stopped then .disconnected
  else if maxInFlightScreencopies ≤ worker.jobs.length then .full
  else .sent { worker with jobs := worker.jobs ++ [token] }

/-- `request.buffer.release(); request.frame.failed();`, the frame being alive. -/
def fail (request : PendingScreencopy) : ScreencopyManager :=
  ((s.release request).send request [.failed]).finish request

/-- What becomes of a pending request at a presentation. -/
inductive Turn where
  | retained
  | done
  | queued
  /-- The function returns. -/
  | exit

def submit (presented : Nat) (request : PendingScreencopy) : ScreencopyManager × Turn :=
  let token := max s.nextToken 1
  let s := { s with nextToken := bump token }
  match s.worker with
  | none => (s.fail request, .exit)
  | some worker =>
    match trySubmit worker token with
    | .sent worker =>
      -- An entry that is replaced is dropped with its lease.
      let replaced := if (s.inFlight.lookup token).isSome then 1 else 0
      ({ s with
        worker := some worker
        inFlight := s.inFlight.insert token { request, presented }
        leases := s.leases + 1 - replaced }, .queued)
    | .full => (s, .retained)
    | .disconnected => (s.fail request, .done)

/-- The body of the loop. -/
def turn (output : OutputId) (presented : Nat) (retain : Nat → Bool) (queued : Nat) (request : PendingScreencopy) :
    ScreencopyManager × Turn :=
  if request.target.output ≠ output ∨ maxCopiesPerPresentation ≤ queued ∨
      maxInFlightScreencopies ≤ s.inFlight.entries.length then (s, .retained)
  else if !s.frameAlive request.frame then ((s.release request).finish request, .done)
  else if !s.bufferAlive request.buffer then ((s.send request [.failed]).finish request, .done)
  else if !retain request.id then (s.fail request, .done)
  else s.submit presented request

/-- The loop over the requests taken out of `pending`, with those it retains; nothing where it has returned. -/
def processLoop (output : OutputId) (presented : Nat) (retain : Nat → Bool) (queued : Nat)
    (retained : List PendingScreencopy) (s : ScreencopyManager) :
    List PendingScreencopy → ScreencopyManager × Option (List PendingScreencopy)
  | [] => (s, some retained)
  | request :: rest =>
    match s.turn output presented retain queued request with
    | (s, .retained) => processLoop output presented retain queued (retained ++ [request]) s rest
    | (s, .done) => processLoop output presented retain queued retained s rest
    | (s, .queued) => processLoop output presented retain (queued + 1) retained s rest
    | (s, .exit) => (s, none)

/-- `retain` says which requests the source buffer can be retained for. -/
def processScreencopies (width height : Nat) (output : OutputId) (presented : Nat) (retain : Nat → Bool) :
    ScreencopyManager :=
  if 2 ^ 31 ≤ width ∨ 2 ^ 31 ≤ height then s
  else
    match processLoop output presented retain 0 [] { s with pending := [] } s.pending with
    | (s, some retained) => { s with pending := retained ++ s.pending }
    | (s, none) => s

/-! ## Completions -/

/-- `copy_pixels_to_shm`, with the length of the pool where it can be accessed. -/
def copyPixelsToShm (contents : BufferContents) (access : Option Nat) (pixels : Nat) (target : CaptureTarget) : Bool :=
  match contents, access with
  | .shm _ data, some poolLen =>
    0 ≤ target.width && 0 ≤ target.height && target.width * bytesPerPixel * target.height ≤ pixels &&
      poolRangeIsValid poolLen data.offset data.stride data.width data.height
  | _, _ => false

def transferred (request : PendingScreencopy) (result : Option CapturePayload) (access : Option Nat) : Bool :=
  match result, request.dmabuf with
  | some (.shm pixels), false =>
    s.buffers[request.buffer]?.any fun buffer => copyPixelsToShm buffer.contents access pixels request.target
  | some .dmabuf, true => true
  | _, _ => false

def readySignals (capture : InFlightScreencopy) : List Signal :=
  let target := capture.request.target
  let seconds := capture.presented / 10 ^ 9
  [.flags] ++ (if capture.request.withDamage then [.damage target.width.toNat target.height.toNat] else []) ++
    [.ready (seconds / 2 ^ 32 % 2 ^ 32) (seconds % 2 ^ 32) (capture.presented % 10 ^ 9)]

def finishScreencopy (completion : CaptureCompletion) (access : Option Nat) : ScreencopyManager :=
  match s.inFlight.lookup completion.token with
  | none => s
  | some capture =>
    let s := { s with inFlight := s.inFlight.erase completion.token, leases := s.leases - 1 }
    let request := capture.request
    let succeeded := !capture.cancelled && s.frameAlive request.frame && s.bufferAlive request.buffer &&
      s.transferred request completion.result access
    let signals :=
      if !s.frameAlive request.frame then [] else if succeeded then readySignals capture else [.failed]
    ((s.release request).send request signals).finish request

/-- The event loop takes the next completion. -/
def deliver (access : Option Nat) : ScreencopyManager :=
  match s.completions with
  | [] => s
  | completion :: completions => { s with completions := completions }.finishScreencopy completion access

/-! ## Removals -/

def failScreencopies (failed : OutputId → Bool) : ScreencopyManager :=
  let s := s.retainPending (fun request => !failed request.target.output) fun s request =>
    ((s.release request).send request (if s.frameAlive request.frame then [.failed] else [])).finish request
  { s with
    inFlight := mapValues
      (fun capture => if failed capture.request.target.output then { capture with cancelled := true } else capture)
      s.inFlight }

def failScreencopiesForOutput (output : OutputId) : ScreencopyManager := s.failScreencopies (· == output)

def failAllScreencopies : ScreencopyManager := s.failScreencopies fun _ => true

/-! ## Worker -/

/-- `init_renderer`. -/
def initScreencopyWorker (formats : List DmabufFormat) : ScreencopyManager :=
  { s with worker := some (s.worker.getD {}), dmabufFormats := formats }

def workerTake : ScreencopyManager :=
  match s.worker with
  | some { jobs := token :: jobs, running := none, stopped := false } =>
    { s with worker := some { jobs, running := some token } }
  | _ => s

def workerDone (result : Option CapturePayload) : ScreencopyManager :=
  match s.worker with
  | some { jobs, running := some token, stopped := false } =>
    { s with worker := some { jobs }, completions := s.completions ++ [⟨token, result⟩] }
  | _ => s

/-- The thread ends, with the jobs it had. -/
def workerStop : ScreencopyManager := { s with worker := s.worker.map fun _ => { stopped := true } }

/-! ## Machine -/

inductive ScreencopyEvent where
  | frame (target : Option CaptureTarget)
  | buffer (contents : BufferContents)
  | copy (frame buffer : Nat) (withDamage : Bool)
  /-- The object is gone; for a frame, its handler is still to run. -/
  | killFrame (frame : Nat)
  | frameDestroyed (frame : Nat)
  | killBuffer (buffer : Nat)
  | presented (width height : Nat) (output : OutputId) (presented : Nat) (retain : Nat → Bool)
  | completion (access : Option Nat)
  | outputRemoved (output : OutputId)
  | topologyChanged
  | rendererReady (formats : List DmabufFormat)
  | workerTake
  | workerDone (result : Option CapturePayload)
  | workerStop

def next : ScreencopyEvent → ScreencopyManager
  | .frame target => { s with frames := s.frames ++ [⟨target, target.isNone, true⟩] }
  | .buffer contents => { s with buffers := s.buffers ++ [⟨contents, true⟩] }
  | .copy frame buffer withDamage => s.queueScreencopy frame buffer withDamage
  | .killFrame frame => { s with frames := s.frames.modify frame ({ · with alive := false }) }
  | .frameDestroyed frame => s.frameDestroyed frame
  | .killBuffer buffer => { s with buffers := s.buffers.modify buffer ({ · with alive := false }) }
  | .presented width height output presented retain => s.processScreencopies width height output presented retain
  | .completion access => s.deliver access
  | .outputRemoved output => s.failScreencopiesForOutput output
  | .topologyChanged => s.failAllScreencopies
  | .rendererReady formats => s.initScreencopyWorker formats
  | .workerTake => s.workerTake
  | .workerDone result => s.workerDone result
  | .workerStop => s.workerStop

end ScreencopyManager

end Deniald.Screencopy
