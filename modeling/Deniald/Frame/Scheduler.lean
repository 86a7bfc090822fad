/-
The frame scheduler (frame_scheduler.rs, `FrameScheduler`): a timeline for each powered output, the
outputs marked dirty with the serial of their newest mark and the textures they wait for, and the
renders a step authorizes. The audit counters are left out: nothing reads them back.
-/
import Deniald.Frame.Timeline
import Deniald.Lib.Counter
import Deniald.Lib.Keyed

namespace Deniald.Frame

open Deniald.Lib
open Deniald.Topology (OutputId OutputTransform)

/-! ## Scanouts -/

structure PixelRect where
  x : UInt32
  y : UInt32
  width : UInt32
  height : UInt32
  deriving DecidableEq

/-- A DRM mode: what identifies it, and the refresh rate `OutputMode::from` gives it. -/
structure DrmMode where
  identity : Nat
  refresh : Int
  deriving DecidableEq

structure ConnectedOutput where
  id : OutputId
  connector : UInt32
  crtc : UInt32
  mode : DrmMode
  transform : OutputTransform
  vrrEnabled : Bool

structure Scanout where
  output : ConnectedOutput
  plane : UInt32
  sourceRect : PixelRect
  powered : Bool

structure OutputSignature where
  mode : DrmMode
  transform : OutputTransform
  sourceRect : PixelRect
  connector : UInt32
  crtc : UInt32
  vrrEnabled : Bool
  deriving DecidableEq

def OutputSignature.of (scanout : Scanout) : OutputSignature where
  mode := scanout.output.mode
  transform := scanout.output.transform
  sourceRect := scanout.sourceRect
  connector := scanout.output.connector
  crtc := scanout.output.crtc
  vrrEnabled := scanout.output.vrrEnabled

def refreshInterval (scanout : Scanout) : Nat :=
  let refreshMillihz := if 0 < scanout.output.mode.refresh then scanout.output.mode.refresh.toNat else 60000
  1000000000000 / refreshMillihz

def timelineSource (scanout : Scanout) : TimelineSource where
  output := scanout.output.id
  interval := refreshInterval scanout
  vrrEnabled := scanout.output.vrrEnabled

def poweredSources (scanouts : List Scanout) : List TimelineSource :=
  (scanouts.filter (·.powered)).map timelineSource

/-! ## Timelines -/

structure OutputTimelines where
  timelines : List OutputTimeline
  ticks : List FrameTick
  flutterOutput : Option OutputId

namespace OutputTimelines

/-- The order of the keys `(interval, output)`. -/
def sourceKeyLt (a b : TimelineSource) : Bool :=
  a.interval < b.interval || (a.interval == b.interval && a.output < b.output)

/-- `min_by_key(|source| (source.interval, source.output))`: the first of the least. -/
def minSource : List TimelineSource → Option TimelineSource
  | [] => none
  | first :: rest => some (rest.foldl (fun best source => if sourceKeyLt source best then source else best) first)

def electFlutterOutput (timelines : List OutputTimeline) : Option OutputId :=
  (minSource (timelines.map (·.source))).map (·.output)

def replace (sources : List TimelineSource) (now : Int) : OutputTimelines :=
  let timelines := sources.map fun source => OutputTimeline.new source now
  { timelines := timelines, ticks := [], flutterOutput := electFlutterOutput timelines }

def new (scanouts : List Scanout) (now : Int) : OutputTimelines :=
  replace (poweredSources scanouts) now

def reconfigure (t : OutputTimelines) (sources : List TimelineSource) (now : Int) : OutputTimelines :=
  let sourcesMatch := t.timelines.length = sources.length ∧
    ∀ source ∈ sources, ∃ timeline ∈ t.timelines, timeline.source = source
  if sourcesMatch then t
  else
    let surviving := t.timelines.filter fun timeline => timeline.source ∈ sources
    let timelines := sources.foldl (fun timelines source =>
      if timelines.any fun timeline => timeline.source = source then timelines
      else timelines ++ [OutputTimeline.new source now]) surviving
    { timelines := timelines, ticks := [], flutterOutput := electFlutterOutput timelines }

def advance (t : OutputTimelines) (now : Int) : OutputTimelines :=
  { t with
    timelines := t.timelines.map fun timeline => (timeline.takeTick now).1
    ticks := t.timelines.filterMap fun timeline => (timeline.takeTick now).2 }

def flutterTick (t : OutputTimelines) : Option FrameTick :=
  t.flutterOutput.bind fun output => t.ticks.find? fun tick => tick.output = output

def isParked (t : OutputTimelines) : Bool := t.timelines.isEmpty

/-- `iter_mut().find(..)`: the timeline of an output, changed in place. -/
def observePresentation (t : OutputTimelines) (output : OutputId) (presentationTarget presentedAt : Int) :
    OutputTimelines :=
  { t with
    timelines := modifyFirst (fun timeline => timeline.source.output = output)
      (fun timeline => timeline.observePresentation presentationTarget presentedAt) t.timelines }

end OutputTimelines

/-! ## The scheduler -/

/-- The last field is a ghost: the number of the mark the serial is of. -/
structure DirtyOutput where
  serial : UInt64
  textureIds : Finset Int
  mark : Nat

/-- Ghost: one call that marked an output, with its number among all marks and the textures it named. -/
structure DirtyMark where
  number : Nat
  output : OutputId
  textureIds : Finset Int

inductive FrameAction where
  | skip
  | render (flutterOutput : Option OutputId)

/-- The last two fields are ghosts, which no function reads: the number of marks made, and the marks of
the outputs that have stayed configured, newest first. -/
structure FrameScheduler where
  outputs : OutputTimelines
  configuredOutputs : List OutputId
  outputSignatures : OutputId → Option OutputSignature
  dirtyOutputs : OutputId → Option DirtyOutput
  renderRequests : List OutputFrameRequest
  renderTextureIds : Finset Int
  availableOutputs : List OutputId
  nextDirtySerial : UInt64
  flutterRequestLatched : Bool
  flutterOutputsDirty : Bool
  flutterTick : Option FrameTick
  lastFlutterTarget : Option Int
  markCount : Nat
  marks : List DirtyMark

namespace FrameScheduler

def allocateDirtySerial (s : FrameScheduler) : FrameScheduler :=
  { s with nextDirtySerial := bump s.nextDirtySerial, markCount := s.markCount + 1 }

/-- `dirty_outputs.entry(output).or_default()` given the next serial and more textures. -/
def setDirty (s : FrameScheduler) (output : OutputId) (textureIds : Finset Int) : FrameScheduler :=
  let s := s.allocateDirtySerial
  let dirty := (s.dirtyOutputs output).getD ⟨0, ∅, 0⟩
  { s with
    dirtyOutputs := Function.update s.dirtyOutputs output
      (some { serial := s.nextDirtySerial, textureIds := dirty.textureIds ∪ textureIds, mark := s.markCount })
    marks := ⟨s.markCount, output, textureIds⟩ :: s.marks }

def markAppDirty (s : FrameScheduler) (output : OutputId) (textureIds : Finset Int) : FrameScheduler :=
  if output ∈ s.configuredOutputs then s.setDirty output textureIds else s

def markOutputDirty (s : FrameScheduler) (output : OutputId) : FrameScheduler :=
  s.markAppDirty output ∅

def markAllDirty (s : FrameScheduler) : FrameScheduler :=
  s.outputs.timelines.foldl (fun s timeline => s.setDirty timeline.source.output ∅) s

def new (scanouts : List Scanout) (now : Int) : FrameScheduler :=
  markAllDirty
    { outputs := OutputTimelines.new scanouts now
      configuredOutputs := scanouts.map (·.output.id)
      -- a map collected from pairs keeps the last of a key
      outputSignatures := fun output =>
        (scanouts.reverse.find? fun scanout => scanout.output.id = output).map OutputSignature.of
      dirtyOutputs := fun _ => none
      renderRequests := []
      renderTextureIds := ∅
      availableOutputs := []
      nextDirtySerial := 0
      flutterRequestLatched := false
      flutterOutputsDirty := false
      flutterTick := none
      lastFlutterTarget := none
      markCount := 0
      marks := [] }

/-- `dirty_outputs.retain(..)` for a new set of configured outputs. -/
def retainConfigured (s : FrameScheduler) (configuredOutputs : List OutputId) : FrameScheduler :=
  { s with
    configuredOutputs := configuredOutputs
    dirtyOutputs := fun output => if output ∈ configuredOutputs then s.dirtyOutputs output else none
    marks := s.marks.filter fun mark => mark.output ∈ configuredOutputs }

def reconfigureSources (s : FrameScheduler) (configuredOutputs : List OutputId)
    (sources : List TimelineSource) (now : Int) : FrameScheduler :=
  let restartedOutputs := (sources.filter fun source =>
    match s.outputs.timelines.find? fun timeline => timeline.source.output = source.output with
    | none => true
    | some timeline => timeline.source ≠ source).map (·.output)
  let s := { s.retainConfigured configuredOutputs with outputs := s.outputs.reconfigure sources now }
  let s := restartedOutputs.foldl markOutputDirty s
  if s.outputs.isParked then
    { s with flutterRequestLatched := false, flutterOutputsDirty := false, flutterTick := none }
  else s

/-- The body of `reconfigure`'s loop over the scanouts. -/
def refreshSignature (s : FrameScheduler) (scanout : Scanout) : FrameScheduler :=
  let changed := s.outputSignatures scanout.output.id ≠ some (OutputSignature.of scanout)
  let s := { s with
    outputSignatures := Function.update s.outputSignatures scanout.output.id (some (OutputSignature.of scanout)) }
  if changed ∧ scanout.powered then s.markOutputDirty scanout.output.id else s

def reconfigure (s : FrameScheduler) (scanouts : List Scanout) (now : Int) : FrameScheduler :=
  let s := s.reconfigureSources (scanouts.map (·.output.id)) (poweredSources scanouts) now
  let s := { s with
    outputSignatures := fun output => if output ∈ s.configuredOutputs then s.outputSignatures output else none }
  scanouts.foldl refreshSignature s

def completeRender (s : FrameScheduler) (output : OutputId) (dirtySerial : UInt64) : FrameScheduler :=
  if (s.dirtyOutputs output).any fun dirty => dirty.serial = dirtySerial then
    { s with dirtyOutputs := Function.update s.dirtyOutputs output none }
  else s

def observePresentation (s : FrameScheduler) (output : OutputId) (presentationTarget presentedAt : Int) :
    FrameScheduler :=
  { s with outputs := s.outputs.observePresentation output presentationTarget presentedAt }

def flutterFrameDispatched (s : FrameScheduler) : Option FrameScheduler :=
  s.flutterTick.map fun tick =>
    { s with
      flutterTick := none
      lastFlutterTarget := some tick.presentationTarget
      flutterRequestLatched := false
      flutterOutputsDirty := false }

/-- The start of a step: timelines advanced to now, and the due outputs that can take a frame. -/
def advance (s : FrameScheduler) (now : Int) (flutterRequested : Bool) (outputAvailable : OutputId → Bool) :
    FrameScheduler :=
  let outputs := s.outputs.advance now
  { s with
    flutterRequestLatched := s.flutterRequestLatched || flutterRequested
    outputs := outputs
    renderRequests := []
    renderTextureIds := ∅
    availableOutputs := (outputs.ticks.map (·.output)).filter outputAvailable
    flutterTick := none }

def dueFlutterTick (s : FrameScheduler) : Option FrameTick :=
  s.outputs.flutterTick.filter fun tick =>
    s.flutterRequestLatched && tick.output ∈ s.availableOutputs &&
      !(s.lastFlutterTarget.any fun target => tick.presentationTarget ≤ target)

def dueDirty (s : FrameScheduler) : List (FrameTick × DirtyOutput) :=
  s.outputs.ticks.filterMap fun tick =>
    if tick.output ∈ s.availableOutputs then (s.dirtyOutputs tick.output).map (tick, ·) else none

/-- The loop of a step over the due ticks. -/
def authorizeDue (s : FrameScheduler) : FrameScheduler :=
  { s with
    renderRequests := s.renderRequests ++ s.dueDirty.map fun due => ⟨due.1, due.2.serial, due.2.mark⟩
    renderTextureIds := s.dueDirty.foldl (fun textureIds due => textureIds ∪ due.2.textureIds) s.renderTextureIds }

def stepWithOutputAvailability (s : FrameScheduler) (now : Int) (flutterRequested : Bool)
    (outputAvailable : OutputId → Bool) : FrameScheduler × FrameAction :=
  let s := s.advance now flutterRequested outputAvailable
  let flutterTick := s.dueFlutterTick
  let s :=
    if flutterTick.isSome ∧ !s.flutterOutputsDirty then { s.markAllDirty with flutterOutputsDirty := true } else s
  let s := s.authorizeDue
  if s.renderRequests = [] then (s, .skip)
  else
    let flutterTick := flutterTick.filter fun tick =>
      s.renderRequests.any fun request => request.tick.output = tick.output
    ({ s with flutterTick := flutterTick }, .render (flutterTick.map (·.output)))

end FrameScheduler

end Deniald.Frame
