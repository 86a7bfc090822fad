/-
What one output's pipeline is made of (output_scheduler.rs): frames on their way to the display, the
pipeline's ready and in-flight frames, the render fences of an output's buffers, and the modeset that
wakes an output with a fresh frame.
-/
import Deniald.Output.Broker
import Deniald.Lib.Fallible

namespace Deniald.Output

open Deniald.Lib Deniald.Damage
open Deniald.Topology (OutputId PixelSize)
open Deniald.Frame (OutputFrameRequest)

/-! ## Plane damage -/

/-- `[x1, y1, x2, y2]`, the lower right exclusive. -/
structure KmsClip where
  x1 : Int
  y1 : Int
  x2 : Int
  y2 : Int

/-- `kms_clips`: the rectangles of a region rounded outwards; the cast to `i32` saturates. -/
def kmsClips (d : DamageRegion) : List KmsClip :=
  d.rects.map fun rect => ⟨satI32 ⌊rect.left⌋, satI32 ⌊rect.top⌋, satI32 ⌈rect.right⌉, satI32 ⌈rect.bottom⌉⟩

/-- `MAX_PLANE_DAMAGE_CLIPS`. -/
def maxPlaneDamageClips : Nat := 32

def boundingClip (a b : KmsClip) : KmsClip := ⟨min a.x1 b.x1, min a.y1 b.y1, max a.x2 b.x2, max a.y2 b.y2⟩

structure PlaneDamage where
  clips : List KmsClip

/-- Degenerate clips are dropped, and more than the limit collapse to their bounding rectangle. -/
def PlaneDamage.new (clips : List KmsClip) : PlaneDamage :=
  let clips := clips.filter fun clip => clip.x1 < clip.x2 && clip.y1 < clip.y2
  match clips.drop maxPlaneDamageClips with
  | [] => ⟨clips⟩
  | clip :: rest => ⟨[rest.foldl boundingClip ((clips.take maxPlaneDamageClips).foldl boundingClip clip)]⟩

/-! ## Frames -/

structure OutputFrame where
  index : Nat
  screenshotRequestId : Option Nat
  request : OutputFrameRequest
  submittedAt : Int
  damage : PlaneDamage
  feedback : List SurfaceFeedback

/-- The frame a pipeline presents for a published one. -/
def ReadyOutputFrame.outputFrame (output : ReadyOutputFrame) (now : Int) : OutputFrame where
  index := output.index
  screenshotRequestId := output.screenshotRequestId
  request := output.request
  submittedAt := now
  damage := .new (kmsClips output.damage)
  feedback := output.feedback

/-- `ELAPSED_READY_TARGET_TOLERANCE`, 1 ms. -/
def elapsedReadyTargetTolerance : Nat := 1000000

/-- `ready_target_elapsed`. -/
def OutputFrame.targetElapsed (frame : OutputFrame) (presentedAt : Int) : Bool :=
  if frame.screenshotRequestId.isSome then false
  else
    let tolerance := min elapsedReadyTargetTolerance (frame.request.tick.interval / 4)
    saturatingDurationSince frame.request.tick.presentationTarget presentedAt ≤ tolerance

structure CommitId where
  stream : Nat
  frame : Nat
  deriving DecidableEq

inductive InFlightFrame where
  | scheduled (commit : CommitId) (frame : OutputFrame)
  | submitted (frame : OutputFrame)

def InFlightFrame.frame : InFlightFrame → OutputFrame
  | .scheduled _ frame => frame
  | .submitted frame => frame

inductive CompletionRetirement where
  | retired (frame : OutputFrame)
  | deferred
  | stale

structure OutputPipelineFrames where
  ready : Option OutputFrame
  inFlight : Option InFlightFrame

namespace OutputPipelineFrames

def default : OutputPipelineFrames := ⟨none, none⟩

def renderAvailable (frames : OutputPipelineFrames) : Bool := frames.ready.isNone

def installReady (frames : OutputPipelineFrames) (frame : OutputFrame) : Except String OutputPipelineFrames :=
  if frames.ready.isSome then .error "an output successor is already ready"
  else .ok { frames with ready := some frame }

def scheduleReady (frames : OutputPipelineFrames) (commit : CommitId) : Except String OutputPipelineFrames :=
  if frames.inFlight.isSome then .error "an output generation is already in Volition or KMS"
  else
    match frames.ready with
    | none => .error "an output successor is not ready"
    | some frame => .ok { ready := none, inFlight := some (.scheduled commit frame) }

def scheduledCommit (frames : OutputPipelineFrames) : Option CommitId :=
  match frames.inFlight with
  | some (.scheduled commit _) => some commit
  | _ => none

def acknowledgeSubmission (frames : OutputPipelineFrames) (commit : CommitId) (submittedAt : Int) :
    Except String (OutputPipelineFrames × Nat) :=
  match frames.inFlight with
  | some (.scheduled commit' frame) =>
    if commit' = commit then
      .ok ({ frames with inFlight := some (.submitted { frame with submittedAt := submittedAt }) }, frame.index)
    else .error "Volition submission does not match the scheduled output generation"
  | _ => .error "Volition submission does not match the scheduled output generation"

def retireCompletion (frames : OutputPipelineFrames) : OutputPipelineFrames × CompletionRetirement :=
  match frames.inFlight with
  | some (.scheduled _ _) => (frames, .deferred)
  | some (.submitted frame) => ({ frames with inFlight := none }, .retired frame)
  | none => (frames, .stale)

end OutputPipelineFrames

/-! ## Render fences -/

structure ReadyFenceSlot where
  fence : Option Fence
  users : Nat
  token : UInt64
  signaled : Bool
  discardUsersOnSignal : Nat

structure ReadyFenceSignal where
  output : OutputId
  index : Nat
  token : UInt64

namespace ReadyFenceSlot

def default : ReadyFenceSlot := ⟨none, 0, 0, false, 0⟩

def isAvailable (slot : ReadyFenceSlot) : Bool :=
  slot.users = 0 && slot.fence.isNone && slot.token = 0 && !slot.signaled && slot.discardUsersOnSignal = 0

def claim (slot : ReadyFenceSlot) (fence : Option Fence) (users : Nat) (token : UInt64) :
    Except String ReadyFenceSlot :=
  if users = 0 ∨ token = 0 ∨ !slot.isAvailable then .error "Flutter fence slot is already claimed or has no users"
  else .ok { slot with signaled := fence.isNone, fence := fence, users := users, token := token }

def markSignaled (slot : ReadyFenceSlot) (token : UInt64) : ReadyFenceSlot × Bool :=
  if token = 0 ∨ token ≠ slot.token ∨ slot.users = 0 then (slot, false)
  else ({ slot with signaled := true }, true)

def discardUserWhenSignaled (slot : ReadyFenceSlot) : Except String ReadyFenceSlot :=
  if slot.signaled ∨ slot.users ≤ slot.discardUsersOnSignal then
    .error "Flutter fence discard does not reference a pending GPU user"
  else .ok { slot with discardUsersOnSignal := slot.discardUsersOnSignal + 1 }

def releaseUser (slot : ReadyFenceSlot) : Except String ReadyFenceSlot :=
  if slot.users = 0 then .error "Flutter frame has no pending fence user"
  else if slot.users = 1 then .ok default
  else .ok { slot with users := slot.users - 1 }

end ReadyFenceSlot

/-! ## Waking modesets -/

/-- `DPMS_WAKE_RETRY_INTERVAL`, 16 ms. -/
def dpmsWakeRetryInterval : Nat := 16000000
/-- `DPMS_WAKE_RECOVERY_TIMEOUT`, 5 s. -/
def dpmsWakeRecoveryTimeout : Nat := 5000000000

structure WakeModeset where
  retryAt : Int
  failureStartedAt : Option Int

namespace WakeModeset

def new (now : Int) : WakeModeset := ⟨now, none⟩

/-- The modeset after a failure, and whether KMS has to be recovered. -/
def recordFailure (wake : WakeModeset) (now : Int) : WakeModeset × Bool :=
  let failedSince := wake.failureStartedAt.getD now
  (⟨now + dpmsWakeRetryInterval, some failedSince⟩, dpmsWakeRecoveryTimeout ≤ saturatingDurationSince now failedSince)

end WakeModeset

/-! ## What the operations do -/

namespace OutputPipelineFrames

variable {frames frames' : OutputPipelineFrames}

theorem installReady_ok {frame : OutputFrame} (h : frames.installReady frame = .ok frames') :
    frames.ready = none ∧ frames' = ⟨some frame, frames.inFlight⟩ := by
  unfold installReady at h; split at h
  · cases h
  · rename_i hr
    exact ⟨by simpa using hr, (Except.ok.inj h).symm⟩

theorem scheduleReady_ok {commit : CommitId} (h : frames.scheduleReady commit = .ok frames') :
    ∃ frame, frames = ⟨some frame, none⟩ ∧ frames' = ⟨none, some (.scheduled commit frame)⟩ := by
  obtain ⟨ready, ifl⟩ := frames; unfold scheduleReady at h
  cases ifl with
  | some ifl => cases h
  | none =>
    cases ready with
    | none => cases h
    | some frame => exact ⟨frame, rfl, (Except.ok.inj h).symm⟩

theorem scheduledCommit_eq_some {commit : CommitId} :
    frames.scheduledCommit = some commit ↔ ∃ frame, frames.inFlight = some (.scheduled commit frame) := by
  unfold scheduledCommit
  constructor
  · intro h
    cases hf : frames.inFlight with
    | none => rw [hf] at h; cases h
    | some ifl =>
      rw [hf] at h
      cases ifl with
      | scheduled c' frame => obtain rfl := Option.some.inj h; exact ⟨frame, rfl⟩
      | submitted frame => cases h
  · rintro ⟨frame, h⟩; rw [h]

theorem acknowledgeSubmission_ok {commit : CommitId} {submittedAt : Int} {index : Nat}
    (h : frames.acknowledgeSubmission commit submittedAt = .ok (frames', index)) :
    ∃ frame, frames.inFlight = some (.scheduled commit frame) ∧ index = frame.index ∧
      frames' = ⟨frames.ready, some (.submitted { frame with submittedAt := submittedAt })⟩ := by
  unfold acknowledgeSubmission at h; split at h
  · rename_i c' frame hf; split at h
    · rename_i hm; subst hm
      obtain ⟨rfl, rfl⟩ := Prod.mk.inj (Except.ok.inj h); exact ⟨frame, hf, rfl, rfl⟩
    · cases h
  · cases h

end OutputPipelineFrames

namespace ReadyFenceSlot

variable {slot slot' : ReadyFenceSlot}

theorem claim_ok {f : Option Fence} {users : Nat} {token : UInt64} (h : slot.claim f users token = .ok slot') :
    slot.users = 0 ∧ slot.discardUsersOnSignal = 0 ∧ slot' = ⟨f, users, token, f.isNone, 0⟩ := by
  unfold claim at h; split at h
  · cases h
  rename_i hr
  have hv : slot.isAvailable = true := by simpa using (not_or.1 (not_or.1 hr).2).2
  unfold isAvailable at hv
  simp only [Bool.and_eq_true, decide_eq_true_eq] at hv
  refine ⟨hv.1.1.1.1, hv.2, ?_⟩; rw [← Except.ok.inj h, ← hv.2]

theorem releaseUser_ok (h : slot.releaseUser = .ok slot') (hd : slot.discardUsersOnSignal = 0) :
    slot.users = slot'.users + 1 ∧ slot'.discardUsersOnSignal = 0 := by
  unfold releaseUser at h; split at h
  · cases h
  rename_i hu; split at h
  · rename_i ho; rw [← Except.ok.inj h]; exact ⟨ho, rfl⟩
  · rw [← Except.ok.inj h]
    refine ⟨?_, hd⟩
    show slot.users = slot.users - 1 + 1; omega

theorem releaseUser_of_pos (h : 0 < slot.users) : ∃ slot', slot.releaseUser = .ok slot' := by
  unfold releaseUser; rw [if_neg h.ne']
  split <;> exact ⟨_, rfl⟩

theorem discardUserWhenSignaled_ok (h : slot.discardUserWhenSignaled = .ok slot') :
    slot.signaled = false ∧ slot' = { slot with discardUsersOnSignal := slot.discardUsersOnSignal + 1 } := by
  unfold discardUserWhenSignaled at h; split at h
  · cases h
  · rename_i hr
    exact ⟨by simpa using (not_or.1 hr).1, (Except.ok.inj h).symm⟩

theorem discardUserWhenSignaled_of_lt (hs : slot.signaled = false) (h : slot.discardUsersOnSignal < slot.users) :
    ∃ slot', slot.discardUserWhenSignaled = .ok slot' := by
  unfold discardUserWhenSignaled; rw [if_neg]
  · exact ⟨_, rfl⟩
  · rw [hs, not_or]; exact ⟨Bool.false_ne_true, not_le.2 h⟩

end ReadyFenceSlot

end Deniald.Output
