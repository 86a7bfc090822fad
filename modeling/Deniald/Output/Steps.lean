/-
What one operation of the KMS output scheduler does, when it succeeds: a lemma or an inductive
relation for each, with its guards. The invariants of the scheduler are derived from these.
-/
import Deniald.Output.Kms

namespace Deniald.Output.Kms

open Deniald.Lib Deniald.Damage
open Deniald.Topology (OutputId)
open Deniald.Frame (Scanout)
open OutputPipelineFrames

variable {k k' : Kms}

/-! ## Changes of a pipeline -/

def installs (pipeline : OutputPipeline) (frame : OutputFrame) : OutputPipeline :=
  { pipeline with frames := ⟨some frame, pipeline.frames.inFlight⟩ }

def unready (pipeline : OutputPipeline) : OutputPipeline :=
  { pipeline with frames := ⟨none, pipeline.frames.inFlight⟩ }

def queues (index : Nat) (pipeline : OutputPipeline) (frame : OutputFrame) : OutputPipeline :=
  { pipeline with
    frames := ⟨none, some (.scheduled ⟨index, frame.index⟩ frame)⟩
    scheduled := pipeline.scheduled ++ [frame] }

def wakes (pipeline : OutputPipeline) (frame : OutputFrame) (now : Int) : OutputPipeline :=
  { pipeline with
    frames := ⟨none, some (.submitted { frame with submittedAt := now })⟩
    wakeModeset := none
    scheduled := pipeline.scheduled ++ [frame] }

def acknowledged (pipeline : OutputPipeline) (frame : OutputFrame) (submittedAt : Int) : OutputPipeline :=
  { pipeline with frames := ⟨pipeline.frames.ready, some (.submitted { frame with submittedAt := submittedAt })⟩ }

/-- A pipeline whose submitted frame is on the display. -/
def shows (pipeline : OutputPipeline) (frame : OutputFrame) : OutputPipeline :=
  { pipeline with
    frames := ⟨pipeline.frames.ready, none⟩
    scanning := frame.index
    scanningScreenshotRequestId := frame.screenshotRequestId
    retired := pipeline.retired ++ [frame] }

/-! ## Publication -/

variable {output : OutputId} {index : Nat} {slot : ReadyFenceSlot} {frame : OutputFrame} {now : Int}
  {pipeline : OutputPipeline}

theorem fenceSlot_eq {pool : OutputReadyFences} (hpo : k.fencePool output = some pool)
    (hs : pool.slots[index]? = some slot) : k.fenceSlot output index = some slot := by
  unfold fenceSlot
  rw [hpo]; exact hs

theorem releaseOutput_ok (h : k.releaseOutput output index = .ok k') :
    ∃ broker, k.broker.releaseOutput output index = .ok broker ∧ k' = { k with broker := broker } := by
  obtain ⟨broker, hbroker, h⟩ := bind_ok.1 h; exact ⟨broker, hbroker, (Except.ok.inj h).symm⟩

theorem releaseFrame_ok (h : k.releaseFrame output index slot = .ok k') :
    ∃ broker slot', k.broker.releaseOutput output index = .ok broker ∧ slot.releaseUser = .ok slot' ∧
      k' = { k with broker := broker }.setFenceSlot output index slot' := by
  obtain ⟨k₁, hr, h⟩ := bind_ok.1 h
  obtain ⟨broker, hbroker, rfl⟩ := releaseOutput_ok hr
  obtain ⟨slot', hs, h⟩ := bind_ok.1 h
  exact ⟨broker, slot', hbroker, hs, (Except.ok.inj h).symm⟩

def OnlyBuffers (k k' : Kms) : Prop := ∃ broker fences, k' = { k with broker := broker, readyFences := fences }

theorem OnlyBuffers.refl (k : Kms) : k.OnlyBuffers k := ⟨k.broker, k.readyFences, rfl⟩

theorem OnlyBuffers.trans {k'' : Kms} (h : k.OnlyBuffers k') (h' : k'.OnlyBuffers k'') : k.OnlyBuffers k'' := by
  obtain ⟨brk, fences, rfl⟩ := h
  obtain ⟨brk', fences', rfl⟩ := h'; exact ⟨brk', fences', rfl⟩

theorem setFenceSlot_buffers (k : Kms) (output : OutputId) (index : Nat) (slot : ReadyFenceSlot) :
    k.OnlyBuffers (k.setFenceSlot output index slot) :=
  ⟨k.broker, _, rfl⟩

theorem releaseFrame_buffers (h : k.releaseFrame output index slot = .ok k') : k.OnlyBuffers k' := by
  obtain ⟨brk, slot', -, -, rfl⟩ := releaseFrame_ok h; exact ⟨brk, _, rfl⟩

theorem discardUser_buffers (h : k.discardUser output index slot = .ok k') : k.OnlyBuffers k' := by
  unfold discardUser at h; split at h
  · exact releaseFrame_buffers h
  · obtain ⟨slot', -, h⟩ := bind_ok.1 h
    cases h; exact setFenceSlot_buffers k output index slot'

theorem discardReadyFrame_ok {lost : String} (h : k.discardReadyFrame output frame lost = .ok k') :
    ∃ slot, k.fenceSlot output frame.index = some slot ∧ k.discardUser output frame.index slot = .ok k' := by
  unfold discardReadyFrame at h
  cases hpo : k.fencePool output with
  | none => rw [hpo] at h; cases h
  | some pool =>
    simp only [hpo] at h
    cases hs : pool.slots[frame.index]? with
    | none => rw [hs] at h; cases h
    | some slot =>
      simp only [hs] at h; exact ⟨slot, fenceSlot_eq hpo hs, h⟩

theorem discardReadyFrame_buffers {lost : String} (h : k.discardReadyFrame output frame lost = .ok k') :
    k.OnlyBuffers k' := by
  obtain ⟨slot, -, h⟩ := discardReadyFrame_ok h; exact discardUser_buffers h

theorem publishReady_ok {output : ReadyOutputFrame} {s : Option ReadyFenceSignal}
    (h : k.publishReady output now = .ok (k', s)) :
    ∃ pool slot broker token nextToken, k.fencePool output.outputId = some pool ∧ metadataMismatch pool output = false ∧
      pool.slots[output.index]? = some slot ∧ slot.users = 0 ∧ slot.discardUsersOnSignal = 0 ∧
      k.broker.publish output = .ok broker ∧
      ({ k with broker := broker, nextReadyFenceToken := nextToken }.setFenceSlot output.outputId output.index
        ⟨output.fence, 1, token, output.fence.isNone, 0⟩).handOff output
        ⟨output.fence, 1, token, output.fence.isNone, 0⟩ now =
          .ok k' := by
  unfold publishReady at h
  cases hpo : k.fencePool output.outputId with
  | none => rw [hpo] at h; cases h
  | some pool =>
    simp only [hpo] at h; split at h
    · cases h
    rename_i hmi; split at h
    · cases h
    generalize takeReadyFenceToken k.nextReadyFenceToken = tokens at h
    obtain ⟨token, nextToken⟩ := tokens
    obtain ⟨broker, hbroker, h⟩ := bind_ok.1 h
    obtain ⟨slot', hm, h⟩ := bind_ok.1 h
    obtain ⟨k₁, hh, h⟩ := bind_ok.1 h
    obtain ⟨rfl, -⟩ := Prod.mk.inj (Except.ok.inj h)
    -- the metadata check sees to it that the claimed slot is there
    cases hs : pool.slots[output.index]? with
    | none => exact absurd (by simp [metadataMismatch, hs]) hmi
    | some slot =>
      rw [hs] at hm
      obtain ⟨hu, hd, rfl⟩ := ReadyFenceSlot.claim_ok hm
      exact ⟨pool, slot, broker, token, nextToken, rfl, by simpa using hmi, hs, hu, hd,
        hbroker, hh⟩

theorem handOff_ok {output : ReadyOutputFrame} (h : k.handOff output slot now = .ok k') :
    (∃ index pipeline, k.pipelines[index]? = some pipeline ∧ pipeline.outputId = output.outputId ∧
      pipeline.poweringOff = false ∧ pipeline.frames.ready = none ∧
      k' = k.setPipeline index (installs pipeline (output.outputFrame now))) ∨
      ((∀ p ∈ k.pipelines, p.outputId = output.outputId → p.poweringOff = true) ∧
        k.discardUser output.outputId output.index slot = .ok k') := by
  unfold handOff at h
  cases hfind : findEntry (fun pipeline : OutputPipeline => pipeline.outputId = output.outputId &&
    !pipeline.poweringOff)
      k.pipelines with
  | some f =>
    obtain ⟨index, pipeline⟩ := f
    simp only [hfind] at h
    obtain ⟨fs, hf, h⟩ := bind_ok.1 h
    obtain ⟨hready, rfl⟩ := installReady_ok hf
    obtain ⟨hget, hp⟩ := findEntry_some hfind
    simp only [Bool.and_eq_true, decide_eq_true_eq, Bool.not_eq_true'] at hp
    exact .inl ⟨index, pipeline, hget, hp.1, hp.2, hready, (Except.ok.inj h).symm⟩
  | none =>
    simp only [hfind] at h
    refine .inr ⟨fun p hp houtput => ?_, h⟩
    obtain ⟨index, hget⟩ := List.getElem?_of_mem hp; have := findEntry_none hfind hget
    simpa [houtput] using this

inductive Published (output : ReadyOutputFrame) (now : Int) (k : Kms) : List OutputPipeline → Prop where
  | installed (index : Nat) (pipeline : OutputPipeline) (hget : k.pipelines[index]? = some pipeline)
      (houtput : pipeline.outputId = output.outputId) (hpower : pipeline.poweringOff = false)
      (hready : pipeline.frames.ready = none) :
      Published output now k (k.pipelines.set index (installs pipeline (output.outputFrame now)))
  | discarded (hpower : ∀ p ∈ k.pipelines, p.outputId = output.outputId → p.poweringOff = true) :
      Published output now k k.pipelines

theorem publishReady_published {output : ReadyOutputFrame} {s : Option ReadyFenceSignal}
    (h : k.publishReady output now = .ok (k', s)) :
    ∃ pipelines broker fences token, Published output now k pipelines ∧
      k' = { k with
        pipelines := pipelines, broker := broker, readyFences := fences, nextReadyFenceToken := token } := by
  obtain ⟨pool, slot, broker, token, nextToken, -, -, -, -, -, -, h⟩ := publishReady_ok h
  rcases handOff_ok h with ⟨index, pipeline, hget, houtput, hpower, hready, rfl⟩ | ⟨hpower, h⟩
  · exact ⟨_, _, _, _, .installed index pipeline hget houtput hpower hready, rfl⟩
  · obtain ⟨brk', fences, rfl⟩ := discardUser_buffers h; exact ⟨_, _, _, _, .discarded hpower, rfl⟩

theorem publishNext_ok (h : k.publishNext now = .ok k') :
    k' = k ∨ ∃ index frame signal, k.readyFrames[index]? = some frame ∧ k.readyHandoffAvailable frame.outputId = true ∧
      publishReady { k with readyFrames := k.readyFrames.eraseIdx index } frame now = .ok (k', signal) := by
  unfold publishNext at h
  cases hfind : findEntry (fun frame : ReadyOutputFrame => k.readyHandoffAvailable frame.outputId) k.readyFrames with
  | none =>
    rw [hfind] at h; exact .inl (Except.ok.inj h).symm
  | some f =>
    obtain ⟨index, frame⟩ := f
    simp only [hfind] at h
    obtain ⟨⟨k₁, signal⟩, hpu, h⟩ := bind_ok.1 h; cases h
    obtain ⟨hget, hv⟩ := findEntry_some hfind
    exact .inr ⟨index, frame, signal, hget, hv, hpu⟩

/-! ## Fences -/

theorem releaseDiscarded_buffers : ∀ {us : Nat} {k k' : Kms},
    releaseDiscarded output index us k = .ok k' → k.OnlyBuffers k'
  | 0, k, _, h => by
    cases h; exact .refl k
  | us + 1, k, k', h => by
    unfold releaseDiscarded at h
    cases hs : k.fenceSlot output index with
    | none =>
      rw [hs] at h
      cases h; exact .refl k
    | some slot =>
      simp only [hs] at h
      obtain ⟨k₁, hr, h⟩ := bind_ok.1 h
      exact (releaseFrame_buffers hr).trans (releaseDiscarded_buffers h)

theorem acknowledgeReadyFence_ok {s : ReadyFenceSignal} (h : k.acknowledgeReadyFence s = .ok k') :
    k' = k ∨ ∃ slot, k.fenceSlot s.output s.index = some slot ∧
      releaseDiscarded s.output s.index slot.discardUsersOnSignal
        (k.setFenceSlot s.output s.index { slot with signaled := true, discardUsersOnSignal := 0 }) =
          .ok k' := by
  unfold acknowledgeReadyFence at h
  cases hs : k.fenceSlot s.output s.index with
  | none =>
    rw [hs] at h; exact .inl (Except.ok.inj h).symm
  | some slot =>
    simp only [hs] at h; unfold ReadyFenceSlot.markSignaled at h
    split at h
    · rename_i hm; split at hm
      · exact .inl (Except.ok.inj h).symm
      · cases (Prod.mk.inj hm).2
    rename_i hm; split at hm
    · cases (Prod.mk.inj hm).2
    · obtain ⟨rfl, -⟩ := Prod.mk.inj hm; exact .inr ⟨slot, rfl, h⟩

theorem acknowledgeReadyFences_buffers {ss : List ReadyFenceSignal} (h : k.acknowledgeReadyFences ss = .ok k') :
    k.OnlyBuffers k' := by
  refine foldlM_rel OnlyBuffers.refl (fun _ _ _ => OnlyBuffers.trans) (fun k s k' h => ?_) h
  rcases acknowledgeReadyFence_ok h with rfl | ⟨slot, -, h⟩
  · exact .refl _
  · exact (setFenceSlot_buffers ..).trans (releaseDiscarded_buffers h)

/-! ## Submission -/

/-- A pipeline whose ready frame is submitted: it stays, nothing of it is in flight, and the frame's
fence is signaled. -/
structure Submittable (k : Kms) (index : Nat) (pipeline : OutputPipeline) (frame : OutputFrame)
    (fence : ReadyFenceSlot) :
    Prop where
  get : k.pipelines[index]? = some pipeline
  power : pipeline.poweringOff = false
  frames : pipeline.frames = ⟨some frame, none⟩
  slot : k.fenceSlot pipeline.outputId frame.index = some fence
  signaled : fence.signaled = true

def queuedJob (index : Nat) (pipeline : OutputPipeline) (frame : OutputFrame) (framebuffer : Nat) (now : Int) :
    CommitJob where
  commit := ⟨index, frame.index⟩
  framebuffer := framebuffer
  damage := some frame.damage
  notBefore := lookaheadNotBefore frame.request.tick.presentationTarget now
  owner := pipeline.outputId

/-- What submission does with one pipeline. -/
inductive Submits (now : Int) (k : Kms) (index : Nat) : Kms → Prop where
  | skipped : Submits now k index k
  | refused (pipeline : OutputPipeline) (wake : WakeModeset) (recoveryRequested : Bool)
      (hget : k.pipelines[index]? = some pipeline) :
      Submits now k index
        { k.setPipeline index { pipeline with wakeModeset := some wake } with recoveryRequested := recoveryRequested }
  | woken (pipeline : OutputPipeline) (frame : OutputFrame) (fence fence' : ReadyFenceSlot) (wake : WakeModeset)
      (hsubmit : k.Submittable index pipeline frame fence) (hwake : pipeline.wakeModeset = some wake)
      (hfence : fence.releaseUser = .ok fence') :
      Submits now k index
        ((k.setPipeline index (wakes pipeline frame now)).setFenceSlot pipeline.outputId frame.index fence')
  | queued (pipeline : OutputPipeline) (frame : OutputFrame) (fence fence' : ReadyFenceSlot) (framebuffer : Nat)
      (hsubmit : k.Submittable index pipeline frame fence) (hwake : pipeline.wakeModeset = none)
      (hframebuffer : k.framebuffer pipeline.outputId frame.index = some framebuffer)
      (hcapacity : k.volition.jobs.length < k.volition.capacity) (hfence : fence.releaseUser = .ok fence') :
      Submits now k index (({ k with volition := { k.volition with
        jobs := k.volition.jobs ++ [queuedJob index pipeline frame framebuffer now] } }.setPipeline index
          (queues index pipeline frame)).setFenceSlot pipeline.outputId frame.index fence')

theorem submitWake_submits {accepts : Bool} {f : ReadyFenceSlot} {wake : WakeModeset}
    (hsubmit : k.Submittable index pipeline frame f) (hwake : pipeline.wakeModeset = some wake)
    (h : k.submitWake now accepts index pipeline frame f wake = .ok k') : k.Submits now index k' := by
  unfold submitWake at h; split at h
  · cases h; exact .skipped
  split at h
  · cases h
  · cases h
  split at h
  · obtain ⟨fs₁, hs, h⟩ := bind_ok.1 h
    obtain ⟨⟨fs₂, acknowledged⟩, hk, h⟩ := bind_ok.1 h
    obtain ⟨f', hfence, h⟩ := bind_ok.1 h; cases h
    obtain ⟨f₁, hf, rfl⟩ := OutputPipelineFrames.scheduleReady_ok hs
    obtain ⟨f₂, hflight, -, rfl⟩ := OutputPipelineFrames.acknowledgeSubmission_ok hk
    obtain ⟨-, rfl⟩ := InFlightFrame.scheduled.inj (Option.some.inj hflight); rw [hsubmit.frames] at hf
    obtain rfl := Option.some.inj (OutputPipelineFrames.mk.inj hf).1
    exact .woken pipeline frame f f' wake hsubmit hwake hfence
  · cases h; exact .refused pipeline _ _ hsubmit.get

theorem submitQueued_submits {f : ReadyFenceSlot} {framebuffer : Nat}
    (hsubmit : k.Submittable index pipeline frame f) (hwake : pipeline.wakeModeset = none)
    (hframebuffer : k.framebuffer pipeline.outputId frame.index = some framebuffer)
    (h : k.submitQueued now index pipeline frame f framebuffer = .ok k') : k.Submits now index k' := by
  unfold submitQueued Volition.submitForTarget at h
  by_cases hf : k.volition.capacity ≤ k.volition.jobs.length
  · simp only [if_pos hf] at h
    cases h; exact .skipped
  simp only [if_neg hf] at h
  obtain ⟨fs', hs, h⟩ := bind_ok.1 h
  obtain ⟨f', hfence, h⟩ := bind_ok.1 h; cases h
  obtain ⟨fr', hr, rfl⟩ := OutputPipelineFrames.scheduleReady_ok hs
  rw [hsubmit.frames] at hr
  obtain rfl := Option.some.inj (OutputPipelineFrames.mk.inj hr).1
  exact .queued pipeline frame f f' framebuffer hsubmit hwake hframebuffer (not_le.1 hf) hfence

theorem submitPipeline_submits {accepts : OutputId → Bool} (h : submitPipeline now accepts k index = .ok k') :
    k.Submits now index k' := by
  unfold submitPipeline at h
  cases hget : k.pipelines[index]? with
  | none =>
    rw [hget] at h
    cases h; exact .skipped
  | some pipeline =>
    simp only [hget] at h; split at h
    · cases h; exact .skipped
    rename_i hd; split at h
    · cases h; exact .skipped
    rename_i frame hready; split at h
    · cases h
    rename_i pool hpo; split at h
    · cases h
    rename_i fence hs; split at h
    · cases h; exact .skipped
    rename_i hsi; split at h
    · cases h
    rename_i framebuffer hframebuffer
    have hsubmit : k.Submittable index pipeline frame fence := by
      obtain ⟨hpower, hflight⟩ := not_or.1 hd
      refine ⟨hget, by simpa using hpower, ?_, fenceSlot_eq hpo hs, by simpa using hsi⟩
      rw [← hready, ← Option.not_isSome_iff_eq_none.1 hflight]
    split at h
    · rename_i wake hwake; exact submitWake_submits hsubmit hwake h
    · rename_i hwake
      exact submitQueued_submits hsubmit hwake hframebuffer h

/-! ## Acknowledgements -/

/-- What acknowledging the oldest report does. -/
inductive Acknowledges (k : Kms) : Kms → Prop where
  | idle (hevents : k.volition.events = []) : Acknowledges k k
  | foreign (event : VolitionEvent) (events : List VolitionEvent) (hevents : k.volition.events = event :: events)
      (hforeign : event.instance' ≠ k.volition.instance') :
      Acknowledges k { k with volition := { k.volition with events := events } }
  | submitted (commit : CommitId) (submittedAt : Int) (owner : OutputId) (events : List VolitionEvent) (index : Nat)
      (pipeline : OutputPipeline) (frame : OutputFrame)
      (hevents : k.volition.events = .submitted k.volition.instance' commit submittedAt owner :: events)
      (hfind : findEntry (fun p : OutputPipeline => p.frames.scheduledCommit = some commit) k.pipelines =
        some (index, pipeline))
      (hflight : pipeline.frames.inFlight = some (.scheduled commit frame)) :
      Acknowledges k ({ k with volition := { k.volition with events := events } }.setPipeline index
        (acknowledged pipeline frame submittedAt))
  | stalled (failure : Failure) (owner : OutputId) (events : List VolitionEvent)
      (hevents : k.volition.events = .stalled failure owner :: events)
      (hown : failure.instance' = k.volition.instance') :
      Acknowledges k { k with
        volition := { k.volition with events := events }, stalled := k.stalled.or (some failure) }

theorem acknowledgeOldest_acknowledges (h : k.acknowledgeOldest = .ok k') : k.Acknowledges k' := by
  unfold acknowledgeOldest at h; split at h
  · rename_i hevents; cases h; exact .idle hevents
  rename_i event evs hevents; unfold acknowledgeVolitionEvent at h; split at h
  · rename_i hforeign; cases h; exact .foreign event evs hevents hforeign
  rename_i hown
  have hown : event.instance' = k.volition.instance' := not_not.1 hown
  cases event with
  | submitted instance' commit sa owner =>
    obtain rfl : instance' = k.volition.instance' := hown
    simp only [acknowledgeSubmitted] at h; split at h
    · cases h
    rename_i index pipeline hfind
    obtain ⟨⟨fs, acknowledged⟩, hk, h⟩ := bind_ok.1 h
    obtain ⟨frame, hflight, -, rfl⟩ := acknowledgeSubmission_ok hk; split at h
    · cases h
    · cases h
      exact .submitted commit sa owner evs index pipeline frame hevents hfind hflight
  | stalled f owner =>
    cases h; exact .stalled f owner evs hevents hown
  | failed f owner => cases h

theorem acknowledgeLoop_induct {P : Kms → Prop} (hstep : ∀ {k k' : Kms}, P k → k.Acknowledges k' → P k') :
    ∀ {rs : Nat} {k k' : Kms}, P k → acknowledgeLoop rs k = .ok k' → P k'
  | 0, k, _, hk, h => by
    cases h; exact hk
  | rs + 1, k, k', hk, h => by
    obtain ⟨k₁, ho, h⟩ := bind_ok.1 h
    exact acknowledgeLoop_induct hstep (hstep hk (acknowledgeOldest_acknowledges ho)) h

/-! ## Completions -/

theorem dropElapsed_ok {oa : Int} (h : k.dropElapsed index oa = .ok k') :
    k' = k ∨ ∃ pipeline ready, k.pipelines[index]? = some pipeline ∧ pipeline.frames.ready = some ready ∧
      ready.targetElapsed oa = true ∧ ∃ lost,
        (k.setPipeline index (unready pipeline)).discardReadyFrame pipeline.outputId ready lost = .ok k' := by
  unfold dropElapsed at h; split at h
  · exact .inl (Except.ok.inj h).symm
  rename_i pipeline hget; split at h
  · exact .inl (Except.ok.inj h).symm
  rename_i ready hready; split at h
  · rename_i he
    exact .inr ⟨pipeline, ready, hget, hready, he, _, h⟩
  · exact .inl (Except.ok.inj h).symm

/-- The native pools once a buffer of an output is on the display. -/
def presentedPools (k : Kms) (output : OutputId) (index : Nat) : List OutputSwapchain :=
  modifyFirst (fun pool => pool.outputId = output) (fun pool => { pool with current := index }) k.swapchains

theorem present_ok (h : k.present output index = .ok k') :
    k' = { k with swapchains := k.presentedPools output index } := by
  unfold present at h; split at h
  · cases h
  split at h
  · cases h
  · exact (Except.ok.inj h).symm

/-- What handling the oldest page flip does. -/
inductive Completes (k : Kms) : Kms → Prop where
  | idle (hflips : k.completedPageFlips = []) : Completes k k
  | unknown (completion : PageFlipCompletion) (rest : List PageFlipCompletion)
      (hflips : k.completedPageFlips = completion :: rest)
      (hnone : ∀ p ∈ k.pipelines, k.scanoutCrtc p.scanoutIndex ≠ some completion.crtc) :
      Completes k { k with completedPageFlips := rest }
  | retired (completion : PageFlipCompletion) (rest : List PageFlipCompletion) (index : Nat) (pipeline : OutputPipeline)
      (frame : OutputFrame) (broker : OutputBufferBroker) (k₁ : Kms) (presented : List PresentedOutput)
      (hflips : k.completedPageFlips = completion :: rest)
      (hget : k.pipelines[index]? = some pipeline) (hcrtc : k.scanoutCrtc pipeline.scanoutIndex = some completion.crtc)
      (hflight : pipeline.frames.inFlight = some (.submitted frame))
      (hbroker : k.broker.releaseOutput pipeline.outputId pipeline.scanning = .ok broker)
      (hdrop : dropElapsed { k.setPipeline index (shows pipeline frame) with
        completedPageFlips := rest
        broker := broker
        swapchains := k.presentedPools pipeline.outputId frame.index } index completion.observedAt = .ok k₁) :
      Completes k { k₁ with presentedOutputs := presented }
  | deferred (completion : PageFlipCompletion) (rest : List PageFlipCompletion) (index : Nat)
      (pipeline : OutputPipeline)
      (commit : CommitId) (frame : OutputFrame) (hflips : k.completedPageFlips = completion :: rest)
      (hget : k.pipelines[index]? = some pipeline) (hcrtc : k.scanoutCrtc pipeline.scanoutIndex = some completion.crtc)
      (hflight : pipeline.frames.inFlight = some (.scheduled commit frame)) :
      Completes k { k with completedPageFlips := rest ++ [completion] }
  | stale (completion : PageFlipCompletion) (rest : List PageFlipCompletion) (index : Nat) (pipeline : OutputPipeline)
      (hflips : k.completedPageFlips = completion :: rest) (hget : k.pipelines[index]? = some pipeline)
      (hcrtc : k.scanoutCrtc pipeline.scanoutIndex = some completion.crtc) (hflight : pipeline.frames.inFlight = none) :
      Completes k { k with completedPageFlips := rest }

theorem handleCompletion_completes (h : k.handleCompletion = .ok k') : k.Completes k' := by
  unfold handleCompletion at h; split at h
  · rename_i hflips; cases h; exact .idle hflips
  rename_i completion rest hflips; dsimp only at h; split at h
  · rename_i hfind; cases h
    refine .unknown completion rest hflips fun p hp => ?_
    obtain ⟨index, hget⟩ := List.getElem?_of_mem hp
    exact of_decide_eq_false (findEntry_none hfind hget)
  rename_i index pipeline hfind
  obtain ⟨hget, hcrtc⟩ := findEntry_some hfind
  have hcrtc : k.scanoutCrtc pipeline.scanoutIndex = some completion.crtc := of_decide_eq_true hcrtc
  unfold retireCompletion at h
  cases hflight : pipeline.frames.inFlight with
  | none =>
    simp only [hflight] at h; cases h
    exact .stale completion rest index pipeline hflips hget hcrtc hflight
  | some f =>
    cases f with
    | scheduled commit frame =>
      simp only [hflight] at h; cases h
      exact .deferred completion rest index pipeline commit frame hflips hget hcrtc hflight
    | submitted frame =>
      simp only [hflight] at h
      obtain ⟨k₁, hre, h⟩ := bind_ok.1 h
      obtain ⟨brk, hbroker, rfl⟩ := releaseOutput_ok hre
      obtain ⟨k₂, hr, h⟩ := bind_ok.1 h
      obtain rfl := present_ok hr
      obtain ⟨k₃, hdrop, h⟩ := bind_ok.1 h; cases h
      exact .retired completion rest index pipeline frame brk k₃ _ hflips hget hcrtc hflight hbroker hdrop

theorem handleCompletionsLoop_induct {P : Kms → Prop} (hstep : ∀ {k k' : Kms}, P k → k.Completes k' → P k') :
    ∀ {queued : Nat} {k k' : Kms}, P k → handleCompletionsLoop queued k = .ok k' → P k'
  | 0, k, _, hk, h => by
    cases h; exact hk
  | queued + 1, k, k', hk, h => by
    obtain ⟨k₁, ho, h⟩ := bind_ok.1 h
    exact handleCompletionsLoop_induct hstep (hstep hk (handleCompletion_completes ho)) h

/-! ## Screencopies and power -/

theorem retainScreencopy_ok (h : k.retainScreencopy output = .ok k') :
    k' = k ∨ ∃ index broker, k.broker.retainOutput output index = .ok broker ∧
      k' = { k with broker := broker, leases := (output, index) :: k.leases } := by
  unfold retainScreencopy at h; split at h
  · exact .inl (Except.ok.inj h).symm
  rename_i index _
  obtain ⟨broker, hbroker, h⟩ := bind_ok.1 h
  exact .inr ⟨index, broker, hbroker, (Except.ok.inj h).symm⟩

theorem releaseScreencopy_ok {ls : Nat} (h : k.releaseScreencopy ls = .ok k') :
    k' = k ∨ ∃ output index broker, k.leases[ls]? = some (output, index) ∧
      k.broker.releaseOutput output index = .ok broker ∧
      k' = { k with broker := broker, leases := k.leases.eraseIdx ls } := by
  unfold releaseScreencopy at h; split at h
  · exact .inl (Except.ok.inj h).symm
  rename_i output index hs
  obtain ⟨broker, hbroker, h⟩ := bind_ok.1 h
  exact .inr ⟨output, index, broker, hs, hbroker, (Except.ok.inj h).symm⟩

theorem pipelineOf_some (h : k.pipelineOf output = some (index, pipeline)) :
    k.pipelines[index]? = some pipeline ∧ k.scanoutOutput pipeline.scanoutIndex = some output := by
  obtain ⟨hget, hp⟩ := findEntry_some h; exact ⟨hget, of_decide_eq_true hp⟩

theorem beginPowerOff_ok {waits : Bool} (h : k.beginPowerOff output = .ok (k', waits)) :
    (k.pipelineOf output = none ∧ k' = k) ∨ ∃ index pipeline, k.pipelineOf output = some (index, pipeline) ∧
      ((pipeline.frames.ready = none ∧ k' = k.setPipeline index { unready pipeline with poweringOff := true }) ∨
        ∃ ready lost, pipeline.frames.ready = some ready ∧
          (k.setPipeline index { unready pipeline with poweringOff := true }).discardReadyFrame output ready lost =
            .ok k') := by
  unfold beginPowerOff at h; split at h
  · rename_i hnone
    exact .inl ⟨hnone, (Prod.mk.inj (Except.ok.inj h)).1.symm⟩
  rename_i index pipeline hfind
  refine .inr ⟨index, pipeline, hfind, ?_⟩; split at h
  · rename_i hready
    exact .inl ⟨hready, (Prod.mk.inj (Except.ok.inj h)).1.symm⟩
  rename_i ready hready
  obtain ⟨k₁, hd, h⟩ := bind_ok.1 h
  obtain ⟨rfl, -⟩ := Prod.mk.inj (Except.ok.inj h); exact .inr ⟨ready, _, hready, hd⟩

theorem cancelPowerOff_eq (k : Kms) (output : OutputId) :
    k.cancelPowerOff output = k ∨ ∃ index pipeline, k.pipelineOf output = some (index, pipeline) ∧
      k.cancelPowerOff output = k.setPipeline index { pipeline with poweringOff := false } := by
  unfold cancelPowerOff; split
  · exact .inl rfl
  · rename_i index pipeline hfind; exact .inr ⟨index, pipeline, hfind, rfl⟩

theorem powerOffOutput_ok (h : k.powerOffOutput output = .ok k') :
    ∃ index pipeline k₁, k.pipelineOf output = some (index, pipeline) ∧ pipeline.frames.inFlight = none ∧
      ((pipeline.frames.ready = none ∧ k₁ = { k with pipelines := k.pipelines.eraseIdx index }) ∨
        ∃ ready lost, pipeline.frames.ready = some ready ∧
          discardReadyFrame { k with pipelines := k.pipelines.eraseIdx index } output ready lost = .ok k₁) ∧
      k' = { k₁ with parked := k₁.parked ++ [(output, pipeline.scanning)] }.setPowered output false := by
  unfold powerOffOutput at h; split at h
  · cases h
  rename_i hs
  obtain ⟨k₂, ho, h⟩ := bind_ok.1 h; cases h
  unfold powerOff at ho; split at ho
  · rename_i hnone; rw [hnone] at hs; exact absurd rfl hs
  rename_i index pipeline hfind; split at ho
  · cases ho
  rename_i hflight
  have hflight : pipeline.frames.inFlight = none := Option.not_isSome_iff_eq_none.1 hflight
  cases hready : pipeline.frames.ready with
  | none =>
    simp only [hready] at ho; cases ho
    exact ⟨index, pipeline, _, hfind, hflight, .inl ⟨hready, rfl⟩, rfl⟩
  | some ready =>
    simp only [hready] at ho
    obtain ⟨k₁, hd, ho⟩ := bind_ok.1 ho; cases ho
    exact ⟨index, pipeline, k₁, hfind, hflight, .inr ⟨ready, _, hready, hd⟩, rfl⟩

theorem powerOn_ok {si idx : Nat} (h : k.powerOn si idx now = .ok k') :
    (∃ p ∈ k.pipelines, p.scanoutIndex = si ∧ k' = k) ∨ ∃ scan, k.scanouts[si]? = some scan ∧
      (∀ p ∈ k.pipelines, p.scanoutIndex ≠ si) ∧ (scan.output.id, idx) ∈ k.parked ∧
      k' = { k with
        parked := k.parked.erase (scan.output.id, idx)
        pipelines := k.pipelines ++ [wakingPipeline scan.output.id si idx now] } := by
  unfold powerOn at h; split at h
  · cases h
  rename_i scan hs; split at h
  · rename_i hn
    obtain ⟨p, hp, heq⟩ := List.any_eq_true.1 hn
    exact .inl ⟨p, hp, of_decide_eq_true heq, (Except.ok.inj h).symm⟩
  rename_i hnone; split at h
  · cases h
  rename_i hr; split at h
  · cases h
  split at h
  · cases h
  · refine .inr ⟨scan, hs, fun p hp heq => hnone ?_, not_not.1 hr, (Except.ok.inj h).symm⟩
    exact List.any_eq_true.2 ⟨p, hp, decide_eq_true heq⟩

theorem powerOnOutput_ok {idx : Nat} (h : k.powerOnOutput idx now = .ok k') :
    k' = k ∨ ∃ scan index k₁, k.scanouts[idx]? = some scan ∧ scan.powered = false ∧
      k.powerOn idx index now = .ok k₁ ∧ k' = k₁.setPowered scan.output.id true := by
  unfold powerOnOutput at h; split at h
  · exact .inl (Except.ok.inj h).symm
  rename_i scan hs; split at h
  · exact .inl (Except.ok.inj h).symm
  rename_i hw; split at h
  · cases h
  · rename_i index hn
    obtain ⟨k₁, hon, h⟩ := bind_ok.1 h
    exact .inr ⟨scan, index, k₁, hs, by simpa using hw, hon, (Except.ok.inj h).symm⟩

end Deniald.Output.Kms
