/-
Page flips and Volition's reports in any order. The kernel reports the flip of a commit on its own, so it can be seen
before the worker's report that the commit was submitted; it waits then. Each commit is retired once, by the flip of
its display, and what is in flight and scanned in the end is what reports that come before their flips leave.
-/
import Deniald.Output.Commits
import Deniald.Output.Completions

namespace Deniald.Output

open Deniald.Lib Deniald.Damage
open Deniald.Topology (OutputId)
open Deniald.Frame (Scanout)
open OutputFrame

/-! ## One output, in order -/

/-- A frame but for the time it was submitted, which its acknowledgement stamps. -/
def OutputFrame.unstamped (frame : OutputFrame) : OutputFrame := { frame with submittedAt := 0 }

/-- A frame is scheduled, acknowledged and only then completed: the pipeline's frames and its scanned buffer. -/
def submittedThenFlip (state : OutputPipelineFrames × Nat) (frame : OutputFrame) :
    Except String (OutputPipelineFrames × Nat) := do
  let commit : CommitId := ⟨0, frame.index⟩
  let frames ← state.1.installReady frame
  let frames ← frames.scheduleReady commit
  let (frames, _) ← frames.acknowledgeSubmission commit frame.submittedAt
  match frames.retireCompletion with
  | (frames, .retired presented) => pure (frames, presented.index)
  | (frames, _) => pure (frames, state.2)

theorem submittedThenFlip_foldlM : ∀ (fs : List OutputFrame) (s : Nat),
    fs.foldlM submittedThenFlip (.default, s) =
      .ok (.default, (fs.getLast?.map (·.index)).getD s)
  | [], _ => rfl
  | frame :: fs, s => by
    have hf : submittedThenFlip (.default, s) frame = .ok (.default, frame.index) := by
      simp [submittedThenFlip, OutputPipelineFrames.default, OutputPipelineFrames.installReady,
        OutputPipelineFrames.scheduleReady, OutputPipelineFrames.acknowledgeSubmission,
        OutputPipelineFrames.retireCompletion,
        bind, Except.bind, pure, Except.pure]
    rw [List.foldlM_cons]
    refine bind_ok.2 ⟨_, hf, ?_⟩
    rw [submittedThenFlip_foldlM fs frame.index, List.getLast?_cons]
    cases fs.getLast? <;> rfl

structure OutputPipeline.Ordered (p : OutputPipeline) : Prop where
  frames : (p.retired ++ (p.frames.inFlight.map InFlightFrame.frame).toList).map OutputFrame.unstamped =
    p.scheduled.map OutputFrame.unstamped
  scanning : p.scanning = (p.retired.getLast?.map (·.index)).getD p.initialScanning

/-- Two pipelines alike but for the ready frame, the power and the modeset. -/
structure SameFlight (p p' : OutputPipeline) : Prop where
  outputId : p'.outputId = p.outputId
  scanoutIndex : p'.scanoutIndex = p.scanoutIndex
  initialScanning : p'.initialScanning = p.initialScanning
  scanning : p'.scanning = p.scanning
  inFlight : p'.frames.inFlight = p.frames.inFlight
  scheduled : p'.scheduled = p.scheduled
  retired : p'.retired = p.retired

theorem SameFlight.refl (p : OutputPipeline) : SameFlight p p := ⟨rfl, rfl, rfl, rfl, rfl, rfl, rfl⟩

theorem SameFlight.ordered {p p' : OutputPipeline} (h : SameFlight p p') (hp : p.Ordered) : p'.Ordered := by
  refine ⟨?_, ?_⟩
  · rw [h.inFlight, h.scheduled, h.retired]; exact hp.frames
  · rw [h.scanning, h.retired, h.initialScanning]; exact hp.scanning

theorem SameFlight.scheduledCommit {p p' : OutputPipeline} (h : SameFlight p p') :
    p'.frames.scheduledCommit = p.frames.scheduledCommit := by
  unfold OutputPipelineFrames.scheduledCommit; rw [h.inFlight]

namespace OutputPipeline

variable {p : OutputPipeline}

theorem Ordered.length (h : p.Ordered) :
    p.retired.length + (if p.frames.inFlight.isSome then 1 else 0) = p.scheduled.length := by
  have hlen := congrArg List.length h.frames
  simp only [List.length_map, List.length_append] at hlen; rw [← hlen]
  cases p.frames.inFlight <;> rfl

theorem Ordered.queues (h : p.Ordered) (hfl : p.frames.inFlight = none) (index : Nat) (frame : OutputFrame) :
    (Kms.queues index p frame).Ordered := by
  have hf := h.frames; rw [hfl] at hf
  refine ⟨?_, h.scanning⟩
  show (p.retired ++ [frame]).map unstamped = (p.scheduled ++ [frame]).map unstamped
  rw [List.map_append, List.map_append, ← hf]; simp

theorem Ordered.wakes (h : p.Ordered) (hfl : p.frames.inFlight = none) (frame : OutputFrame) (now : Int) :
    (Kms.wakes p frame now).Ordered := by
  have hf := h.frames; rw [hfl] at hf
  refine ⟨?_, h.scanning⟩
  show (p.retired ++ [{ frame with submittedAt := now }]).map unstamped =
    (p.scheduled ++ [frame]).map unstamped
  rw [List.map_append, List.map_append, ← hf]; simp [unstamped]

theorem Ordered.acknowledged (h : p.Ordered) {commit : CommitId} {frame : OutputFrame}
    (hfl : p.frames.inFlight = some (.scheduled commit frame)) (submittedAt : Int) :
    (Kms.acknowledged p frame submittedAt).Ordered := by
  have hf := h.frames; rw [hfl] at hf
  refine ⟨?_, h.scanning⟩
  show (p.retired ++ [{ frame with submittedAt := submittedAt }]).map unstamped =
    p.scheduled.map unstamped
  rw [← hf]
  simp [unstamped, InFlightFrame.frame]

theorem Ordered.shows (h : p.Ordered) {frame : OutputFrame} (hfl : p.frames.inFlight = some (.submitted frame)) :
    (Kms.shows p frame).Ordered := by
  have hf := h.frames; rw [hfl] at hf
  refine ⟨?_, ?_⟩
  · show (p.retired ++ [frame] ++ []).map unstamped = p.scheduled.map unstamped
    rw [← hf]; simp [InFlightFrame.frame]
  · show frame.index = ((p.retired ++ [frame]).getLast?.map (·.index)).getD p.initialScanning
    rw [List.getLast?_append]; rfl

end OutputPipeline

/-! ## Page flips and commits -/

namespace Volition

theorem instance'_report (v : Volition) (job : Nat) (outcome : SubmissionOutcome) :
    (v.report job outcome).instance' = v.instance' := by
  unfold report
  split <;> rfl

theorem mem_report {v : Volition} {job : Nat} {outcome : SubmissionOutcome} {ev : VolitionEvent}
    (h : ev ∈ (v.report job outcome).events) : ev ∈ v.events ∨ ∃ j, ev = v.eventOf j outcome := by
  unfold report at h; split at h
  · exact .inl h
  rename_i j hj
  rcases List.mem_append.1 h with h | h
  · exact .inl h
  · exact .inr ⟨j, List.mem_singleton.1 h⟩

end Volition

namespace Kms

def queuedFlips (k : Kms) (crtc : UInt32) : Nat := (k.completedPageFlips.filter fun flip => flip.crtc = crtc).length

def scheduledCommits (k : Kms) : List CommitId := k.pipelines.filterMap (·.frames.scheduledCommit)

/-- A scanout has one pipeline, and a CRTC one scanout. Each page flip delivered is queued, or retired a frame of its
CRTC's pipeline, and there are no more of them than frames scheduled. Volition has a report to make on every commit
scheduled, and the ones made are of submissions. -/
structure Flows (k : Kms) (delivered : List UInt32) : Prop where
  crtcs : (k.scanouts.map (·.output.crtc)).Nodup
  places : (k.pipelines.map (·.scanoutIndex)).Nodup
  ordered : ∀ p ∈ k.pipelines, p.Ordered
  accounted : ∀ p ∈ k.pipelines, ∀ crtc, k.scanoutCrtc p.scanoutIndex = some crtc →
    p.retired.length + k.queuedFlips crtc = delivered.count crtc ∧ delivered.count crtc ≤ p.scheduled.length
  queued : ∀ flip ∈ k.completedPageFlips, ∃ p ∈ k.pipelines, k.scanoutCrtc p.scanoutIndex = some flip.crtc
  outstanding : (k.volition.outstanding.map (·.2)).Perm k.scheduledCommits
  submitted : ∀ event ∈ k.volition.events, event.instance' = k.volition.instance' →
    ∃ commit submittedAt owner, event = .submitted k.volition.instance' commit submittedAt owner

variable {k k' : Kms} {delivered : List UInt32} {index : Nat}

theorem scanout_unique (hcr : (k.scanouts.map (·.output.crtc)).Nodup) {i j : Nat} {crtc : UInt32}
    (hi : k.scanoutCrtc i = some crtc) (hj : k.scanoutCrtc j = some crtc) : i = j := by
  obtain ⟨scan, hs, hr⟩ := Option.map_eq_some_iff.1 hi
  obtain ⟨other, ho, hc'⟩ := Option.map_eq_some_iff.1 hj
  obtain ⟨hlt, -⟩ := List.getElem?_eq_some_iff.1 hs
  have hlt' : i < (k.scanouts.map (·.output.crtc)).length := by rwa [List.length_map]
  refine (List.getElem?_inj hlt' hcr).1 ?_
  rw [List.getElem?_map, List.getElem?_map, hs, ho]; exact congrArg some (hr.trans hc'.symm)

variable {p p' : OutputPipeline} {now : Int} {flip : PageFlipCompletion}

theorem Flows.unique (h : k.Flows delivered) {q : OutputPipeline} {crtc : UInt32} (hp : p ∈ k.pipelines)
    (hq : q ∈ k.pipelines) (hpc : k.scanoutCrtc p.scanoutIndex = some crtc)
    (hqc : k.scanoutCrtc q.scanoutIndex = some crtc) : p = q :=
  List.inj_on_of_nodup_map h.places hp hq (scanout_unique h.crtcs hpc hqc)

/-! ### Steps that leave the flights alone -/

/-- Nothing in flight, scheduled or retired changes, nor what Volition and the kernel have reported. -/
structure SameFlights (k k' : Kms) : Prop where
  pipelines : List.Forall₂ SameFlight k.pipelines k'.pipelines
  volition : k'.volition = k.volition
  flips : k'.completedPageFlips = k.completedPageFlips
  crtcs : k'.scanouts.map (·.output.crtc) = k.scanouts.map (·.output.crtc)

theorem scanoutCrtc_of_crtcs (h : k'.scanouts.map (·.output.crtc) = k.scanouts.map (·.output.crtc))
    (scanoutIndex : Nat) : k'.scanoutCrtc scanoutIndex = k.scanoutCrtc scanoutIndex := by
  unfold scanoutCrtc
  rw [← List.getElem?_map, ← List.getElem?_map, h]

theorem Flows.same (hk : k.Flows delivered) (h : k.SameFlights k') : k'.Flows delivered := by
  have hr := scanoutCrtc_of_crtcs h.crtcs
  have hd : k'.queuedFlips = k.queuedFlips := by
    funext crtc; unfold queuedFlips
    rw [h.flips]
  have hh : k'.scheduledCommits = k.scheduledCommits := by
    have hm : k'.pipelines.map (·.frames.scheduledCommit) = k.pipelines.map (·.frames.scheduledCommit) :=
      map_eq_of_forall₂ (fun _ _ hp => hp.scheduledCommit) h.pipelines
    have hse : ∀ l : List OutputPipeline,
        l.filterMap (·.frames.scheduledCommit) = (l.map (·.frames.scheduledCommit)).filterMap id := by
      intro l
      rw [List.filterMap_map]; rfl
    unfold scheduledCommits; rw [hse, hse, hm]
  refine ⟨by rw [h.crtcs]; exact hk.crtcs, ?_, fun p hp => ?_, fun p hp crtc hpc => ?_, fun flip hf => ?_, ?_, ?_⟩
  · rw [map_eq_of_forall₂ (fun _ _ hp => hp.scanoutIndex) h.pipelines]; exact hk.places
  · obtain ⟨q, hq, hs⟩ := forall₂_mem_right h.pipelines p hp; exact hs.ordered (hk.ordered q hq)
  · obtain ⟨q, hq, hs⟩ := forall₂_mem_right h.pipelines p hp; rw [hr, hs.scanoutIndex] at hpc
    rw [hd, hs.retired, hs.scheduled]; exact hk.accounted q hq crtc hpc
  · rw [h.flips] at hf
    obtain ⟨q, hq, hqc⟩ := hk.queued flip hf
    obtain ⟨p, hp, hs⟩ := forall₂_mem_left h.pipelines q hq
    exact ⟨p, hp, by rw [hr, hs.scanoutIndex]; exact hqc⟩
  · rw [h.volition, hh]; exact hk.outstanding
  · rw [h.volition]; exact hk.submitted

theorem SameFlights.refl (k : Kms) : k.SameFlights k := ⟨List.forall₂_same.2 fun p _ => .refl p, rfl, rfl, rfl⟩

theorem sameFlights_of_eq (hpi : k'.pipelines = k.pipelines) (hv : k'.volition = k.volition)
    (hf : k'.completedPageFlips = k.completedPageFlips) (hs : k'.scanouts = k.scanouts) : k.SameFlights k' := by
  refine ⟨?_, hv, hf, by rw [hs]⟩
  rw [hpi]; exact List.forall₂_same.2 fun p _ => .refl p

theorem sameFlights_of_buffers (h : k.OnlyBuffers k') : k.SameFlights k' := by
  obtain ⟨brk, fences, rfl⟩ := h; exact sameFlights_of_eq rfl rfl rfl rfl

theorem sameFlights_setPipeline (hge : k.pipelines[index]? = some p) (p' : OutputPipeline) (h : SameFlight p p') :
    k.SameFlights (k.setPipeline index p') :=
  ⟨forall₂_set (fun q _ => .refl q) hge h, rfl, rfl, rfl⟩

theorem sameFlights_published {out : ReadyOutputFrame} {pipelines : List OutputPipeline}
    (h : Published out now k pipelines) : k.SameFlights { k with pipelines := pipelines } := by
  cases h with
  | installed index pipe hge ho hw hr =>
    exact sameFlights_setPipeline hge _ ⟨rfl, rfl, rfl, rfl, rfl, rfl, rfl⟩
  | discarded hw => exact .refl k

/-! ### Steps of one flight -/

theorem Flows.set (hk : k.Flows delivered) (hge : k.pipelines[index]? = some p)
    (hpi : k'.pipelines = k.pipelines.set index p')
    (hcr : k'.scanouts.map (·.output.crtc) = k.scanouts.map (·.output.crtc))
    (hs : p'.scanoutIndex = p.scanoutIndex) (ho : p'.Ordered)
    (hsc : p.scheduled.length ≤ p'.scheduled.length) (hw : ∀ crtc, k.scanoutCrtc p.scanoutIndex = some crtc →
      p'.retired.length + k'.queuedFlips crtc = p.retired.length + k.queuedFlips crtc)
    (hh : ∀ crtc, k.scanoutCrtc p.scanoutIndex ≠ some crtc → k'.queuedFlips crtc = k.queuedFlips crtc)
    (hf : ∀ flip ∈ k'.completedPageFlips, flip ∈ k.completedPageFlips)
    (hou : (k'.volition.outstanding.map (·.2)).Perm k'.scheduledCommits)
    (hsu : ∀ event ∈ k'.volition.events, event.instance' = k'.volition.instance' →
      ∃ commit sa owner, event = .submitted k'.volition.instance' commit sa owner) : k'.Flows delivered := by
  have hmem := List.mem_of_getElem? hge
  have hr := scanoutCrtc_of_crtcs hcr
  refine ⟨by rw [hcr]; exact hk.crtcs, ?_, fun q hq => ?_, fun q hq crtc hqc => ?_, fun flip hfl => ?_,
    hou, hsu⟩
  · rw [hpi, map_set_of_eq hge hs]; exact hk.places
  · rw [hpi] at hq
    rcases List.mem_or_eq_of_mem_set hq with hq | rfl
    · exact hk.ordered q hq
    · exact ho
  · rw [hpi] at hq; rw [hr] at hqc
    rcases mem_set_key hk.places hge hq with rfl | ⟨hq, hpl⟩
    · rw [hs] at hqc
      obtain ⟨hn, hle⟩ := hk.accounted p hmem crtc hqc
      exact ⟨(hw crtc hqc).trans hn, hle.trans hsc⟩
    · rw [hh crtc fun hpc => hpl (congrArg (·.scanoutIndex) (hk.unique hq hmem hqc hpc))]
      exact hk.accounted q hq crtc hqc
  · obtain ⟨q, hq, hqc⟩ := hk.queued flip (hf flip hfl)
    have hse := forall₂_set (R := fun q q' : OutputPipeline => q'.scanoutIndex = q.scanoutIndex)
      (fun _ _ => rfl) hge hs
    obtain ⟨q', hq', hm⟩ := forall₂_mem_left hse q hq
    exact ⟨q', hpi ▸ hq', by rw [hr, hm]; exact hqc⟩

theorem scheduledCommits_set (hge : k.pipelines[index]? = some p) (k' : Kms)
    (hpi : k'.pipelines = k.pipelines.set index p') : (p.frames.scheduledCommit.toList ++ k'.scheduledCommits).Perm
    (p'.frames.scheduledCommit.toList ++ k.scheduledCommits) := by
  have hbe := filterMap_perm_eraseIdx (fun q : OutputPipeline => q.frames.scheduledCommit) hge
  have hf := filterMap_set_perm (fun q : OutputPipeline => q.frames.scheduledCommit) hge p'
  unfold scheduledCommits; rw [hpi]
  refine (hf.append_left _).trans (List.Perm.trans ?_ (hbe.symm.append_left _))
  rw [← List.append_assoc, ← List.append_assoc]; exact List.perm_append_comm.append_right _

theorem flows_submits (hk : k.Flows delivered) (h : k.Submits now index k') : k'.Flows delivered := by
  cases h with
  | skipped => exact hk
  | refused pipe wake rr hge =>
    have hse := hk.same (sameFlights_setPipeline hge { pipe with wakeModeset := some wake }
      ⟨rfl, rfl, rfl, rfl, rfl, rfl, rfl⟩)
    exact hse.same (sameFlights_of_eq rfl rfl rfl rfl)
  | woken pipe frame f f' wake hs hw hfe =>
    have hf : pipe.frames.inFlight = none := by rw [hs.frames]
    have hn : pipe.frames.scheduledCommit = none := by rw [hs.frames]; rfl
    have ho := (hk.ordered pipe (List.mem_of_getElem? hs.get)).wakes hf frame now
    have hm := scheduledCommits_set hs.get (k.setPipeline index (wakes pipe frame now)) rfl
    have hse : (k.setPipeline index (wakes pipe frame now)).Flows delivered := by
      refine hk.set hs.get rfl rfl rfl ho ?_ (fun _ _ => rfl) (fun _ _ => rfl)
        (fun _ hfl => hfl) ?_ hk.submitted
      · show pipe.scheduled.length ≤ (pipe.scheduled ++ [frame]).length; simp
      · rw [hn] at hm; exact hk.outstanding.trans hm.symm
    exact hse.same (sameFlights_of_buffers (setFenceSlot_buffers ..))
  | queued pipe frame f f' framebuffer hs hw hr hca hfe =>
    have hf : pipe.frames.inFlight = none := by rw [hs.frames]
    have hn : pipe.frames.scheduledCommit = none := by rw [hs.frames]; rfl
    have ho := (hk.ordered pipe (List.mem_of_getElem? hs.get)).queues hf index frame
    have hqu := (k.volition.outstanding_queue (queuedJob index pipe frame framebuffer now)).map (·.2)
    have hm := scheduledCommits_set hs.get (k.setPipeline index (queues index pipe frame)) rfl
    rw [hn] at hm
    refine Flows.same ?_ (sameFlights_of_buffers (setFenceSlot_buffers ..))
    refine hk.set hs.get rfl rfl rfl ho ?_ (fun _ _ => rfl) (fun _ _ => rfl)
      (fun _ hfl => hfl) ?_ hk.submitted
    · show pipe.scheduled.length ≤ (pipe.scheduled ++ [frame]).length; simp
    · exact hqu.trans ((hk.outstanding.cons _).trans hm.symm)

theorem flows_submitReady (hk : k.Flows delivered) {accepts : OutputId → Bool}
    (h : k.submitReady now accepts = .ok k') : k'.Flows delivered :=
  foldlM_range_invariant (I := fun _ k => k.Flows delivered)
    (fun _ _ _ hk h => flows_submits hk (submitPipeline_submits h)) hk h

theorem flows_acknowledges (hk : k.Flows delivered) (h : k.Acknowledges k') : k'.Flows delivered := by
  cases h with
  | idle he => exact hk
  | foreign event evs he hr =>
    refine ⟨hk.crtcs, hk.places, hk.ordered, hk.accounted, hk.queued, ?_, fun other hh => hk.submitted other ?_⟩
    · rw [Volition.outstanding_foreign he hr]; exact hk.outstanding
    · rw [he]; exact List.mem_cons_of_mem _ hh
  | submitted commit sa owner evs index pipe frame he hn hf =>
    obtain ⟨hge, hm⟩ := findEntry_some hn
    have hm : pipe.frames.scheduledCommit = some commit := of_decide_eq_true hm
    have ho := (hk.ordered pipe (List.mem_of_getElem? hge)).acknowledged hf sa
    have hco := scheduledCommits_set hge (k.setPipeline index (acknowledged pipe frame sa)) rfl
    rw [hm] at hco
    have hpo := (Volition.outstanding_own he rfl).map (·.2)
    refine hk.set hge rfl rfl rfl ho le_rfl (fun _ _ => rfl) (fun _ _ => rfl) (fun _ hfl => hfl) ?_
      fun event hv => hk.submitted event (he ▸ List.mem_cons_of_mem _ hv)
    exact (List.perm_cons commit).1 (hpo.symm.trans (hk.outstanding.trans hco.symm))
  | stalled f owner evs he hw =>
    have hmem : VolitionEvent.stalled f owner ∈ k.volition.events := he ▸ List.mem_cons_self ..
    obtain ⟨_, _, _, hs⟩ := hk.submitted _ hmem hw; cases hs

theorem sameFlights_dropElapsed {oa : Int} (h : k.dropElapsed index oa = .ok k') :
    ∃ k₁, k.SameFlights k₁ ∧ k₁.SameFlights k' := by
  rcases dropElapsed_ok h with rfl | ⟨pipe, ready, hge, hr, -, lost, h⟩
  · exact ⟨k', .refl k', .refl k'⟩
  · exact ⟨_, sameFlights_setPipeline hge (unready pipe) ⟨rfl, rfl, rfl, rfl, rfl, rfl, rfl⟩,
      sameFlights_of_buffers (discardReadyFrame_buffers h)⟩

theorem queuedFlips_cons (k' : Kms) (h : k.completedPageFlips = flip :: k'.completedPageFlips) (crtc : UInt32) :
    k.queuedFlips crtc = k'.queuedFlips crtc + if flip.crtc = crtc then 1 else 0 := by
  unfold queuedFlips
  by_cases hr : flip.crtc = crtc
  · rw [h, List.filter_cons, if_pos (decide_eq_true hr), if_pos hr, List.length_cons]
  · rw [h, List.filter_cons, if_neg (by simpa using hr), if_neg hr, add_zero]

/-- No page flip is without a pipeline, and none is of a pipeline with nothing in flight. -/
theorem flows_completes (hk : k.Flows delivered) (h : k.Completes k') : k'.Flows delivered := by
  cases h with
  | idle hf => exact hk
  | unknown completion rest hf hn =>
    obtain ⟨p, hp, hr⟩ := hk.queued completion (hf ▸ List.mem_cons_self ..)
    exact absurd hr (hn p hp)
  | stale completion rest index pipe hf hge hr hfl =>
    have hmem := List.mem_of_getElem? hge
    obtain ⟨hco, hle⟩ := hk.accounted pipe hmem _ hr
    have hlen := (hk.ordered pipe hmem).length
    have hd := queuedFlips_cons { k with completedPageFlips := rest } hf completion.crtc
    rw [if_pos rfl] at hd
    rw [hfl, Option.isSome_none, if_neg Bool.false_ne_true] at hlen; omega
  | deferred completion rest index pipe commit frame hf hge hr hfl =>
    have hd : queuedFlips { k with completedPageFlips := rest ++ [completion] } = k.queuedFlips := by
      funext crtc; unfold queuedFlips
      rw [hf]
      exact (((List.perm_append_singleton completion rest).filter _).length_eq)
    refine ⟨hk.crtcs, hk.places, hk.ordered, fun p hp crtc hpc => ?_, fun flip hfi => hk.queued flip ?_,
      hk.outstanding,
      hk.submitted⟩
    · rw [hd]; exact hk.accounted p hp crtc hpc
    · rw [hf]
      exact (List.perm_append_singleton completion rest).subset hfi
  | retired completion rest index pipe frame broker k₁ presented hf hge hr hfl hbr hdr =>
    have ho := (hk.ordered pipe (List.mem_of_getElem? hge)).shows hfl
    have hn : pipe.frames.scheduledCommit = none := by
      unfold OutputPipelineFrames.scheduledCommit; rw [hfl]
    have hm := scheduledCommits_set hge (k.setPipeline index (shows pipe frame)) rfl
    rw [hn] at hm
    have hs : Flows { k.setPipeline index (shows pipe frame) with
        completedPageFlips := rest
        broker := broker
        swapchains := k.presentedPools pipe.outputId frame.index } delivered := by
      have hd := queuedFlips_cons { k.setPipeline index (shows pipe frame) with
        completedPageFlips := rest
        broker := broker
        swapchains := k.presentedPools pipe.outputId frame.index } hf
      refine hk.set hge rfl rfl rfl ho le_rfl (fun crtc hpc => ?_) (fun crtc hpc => ?_)
        (fun flip hfi => hf ▸ List.mem_cons_of_mem _ hfi) (hk.outstanding.trans hm.symm) hk.submitted
      · have hlen : (shows pipe frame).retired.length = pipe.retired.length + 1 := List.length_append
        rw [hd crtc, if_pos (Option.some.inj (hr.symm.trans hpc)), hlen]; omega
      · rw [hd crtc, if_neg (fun heq : completion.crtc = crtc => hpc (heq ▸ hr)), add_zero]
    obtain ⟨k₂, hfr, hse⟩ := sameFlights_dropElapsed hdr
    exact ((hs.same hfr).same hse).same (sameFlights_of_eq rfl rfl rfl rfl)

/-! ### Power -/

theorem crtcs_setPowered (k : Kms) (out : OutputId) (powered : Bool) :
    (k.setPowered out powered).scanouts.map (·.output.crtc) = k.scanouts.map (·.output.crtc) := by
  unfold setPowered; rw [List.map_map]
  refine List.map_congr_left fun scan _ => ?_
  simp only [Function.comp_apply]
  split <;> rfl

theorem sameFlights_setPowered (k : Kms) (out : OutputId) (powered : Bool) : k.SameFlights (k.setPowered out powered) :=
  ⟨List.forall₂_same.2 fun p _ => .refl p, rfl, rfl, crtcs_setPowered k out powered⟩

theorem flows_beginPowerOff (hk : k.Flows delivered) {out : OutputId} {waits : Bool}
    (h : k.beginPowerOff out = .ok (k', waits)) : k'.Flows delivered := by
  rcases beginPowerOff_ok h with ⟨-, rfl⟩ | ⟨index, pipeline, hf, h⟩
  · exact hk
  have hs := hk.same (sameFlights_setPipeline (pipelineOf_some hf).1 { unready pipeline with poweringOff := true }
    ⟨rfl, rfl, rfl, rfl, rfl, rfl, rfl⟩)
  rcases h with ⟨-, rfl⟩ | ⟨ready, lost, -, h⟩
  · exact hs
  · exact hs.same (sameFlights_of_buffers (discardReadyFrame_buffers h))

theorem flows_cancelPowerOff (hk : k.Flows delivered) (out : OutputId) : (k.cancelPowerOff out).Flows delivered := by
  rcases cancelPowerOff_eq k out with h | ⟨index, pipeline, hf, h⟩
  · rw [h]; exact hk
  · rw [h]
    exact hk.same (sameFlights_setPipeline (pipelineOf_some hf).1 _ ⟨rfl, rfl, rfl, rfl, rfl, rfl, rfl⟩)

theorem flows_eraseIdx (hk : k.Flows delivered) (hge : k.pipelines[index]? = some p)
    (hf : p.frames.inFlight = none) :
    Flows { k with pipelines := k.pipelines.eraseIdx index } delivered := by
  have hmem := List.mem_of_getElem? hge
  have hm := filterMap_perm_eraseIdx (fun q : OutputPipeline => q.frames.scheduledCommit) hge
  have hn : p.frames.scheduledCommit = none := by
    unfold OutputPipelineFrames.scheduledCommit; rw [hf]
  rw [hn] at hm
  refine ⟨hk.crtcs, hk.places.sublist ((List.eraseIdx_sublist ..).map _),
    fun q hq => hk.ordered q (List.mem_of_mem_eraseIdx hq),
    fun q hq => hk.accounted q (List.mem_of_mem_eraseIdx hq), fun flip hfl => ?_,
    hk.outstanding.trans hm, hk.submitted⟩
  obtain ⟨q, hq, hqc⟩ := hk.queued flip hfl
  have hne : q ≠ p := by
    rintro rfl
    obtain ⟨hco, hle⟩ := hk.accounted q hq _ hqc
    have hlen := (hk.ordered q hq).length
    rw [hf, Option.isSome_none, if_neg Bool.false_ne_true] at hlen
    have hpos : 0 < k.queuedFlips flip.crtc :=
      List.length_pos_of_mem (List.mem_filter.2 ⟨hfl, decide_eq_true rfl⟩)
    omega
  have hr := List.getElem_cons_eraseIdx_perm (List.getElem?_eq_some_iff.1 hge).1
  rw [(List.getElem?_eq_some_iff.1 hge).2] at hr
  exact ⟨q, (List.mem_cons.1 (hr.mem_iff.2 hq)).resolve_left hne, hqc⟩

theorem flows_powerOffOutput (hk : k.Flows delivered) {out : OutputId} (h : k.powerOffOutput out = .ok k') :
    k'.Flows delivered := by
  obtain ⟨index, pipeline, k₁, hn, hf, hk₁, rfl⟩ := powerOffOutput_ok h
  have he := flows_eraseIdx hk (pipelineOf_some hn).1 hf
  have hd : k₁.Flows delivered := by
    rcases hk₁ with ⟨-, rfl⟩ | ⟨ready, lost, -, hs⟩
    · exact he
    · exact he.same (sameFlights_of_buffers (discardReadyFrame_buffers hs))
  have hr : Flows { k₁ with parked := k₁.parked ++ [(out, pipeline.scanning)] } delivered :=
    hd.same (sameFlights_of_eq rfl rfl rfl rfl)
  exact hr.same (sameFlights_setPowered _ out false)

theorem flows_powerOn (hk : k.Flows delivered)
    (hs : ∀ crtc ∈ delivered, ∃ p ∈ k.pipelines, k.scanoutCrtc p.scanoutIndex = some crtc)
    {idx fi : Nat} (h : k.powerOn idx fi now = .ok k') : k'.Flows delivered := by
  rcases powerOn_ok h with ⟨-, -, -, rfl⟩ | ⟨scan, hsc, hfr, -, rfl⟩
  · exact hk
  have hn : ∀ crtc, k.scanoutCrtc idx = some crtc → ∀ p ∈ k.pipelines,
    k.scanoutCrtc p.scanoutIndex ≠ some crtc :=
    fun crtc hr p hp hpc => hfr p hp (scanout_unique hk.crtcs hpc hr)
  refine ⟨hk.crtcs, ?_, fun p hp => ?_, fun p hp crtc hpc => ?_, fun flip hf => ?_, ?_, hk.submitted⟩
  · rw [List.map_append]
    refine List.nodup_append'.2 ⟨hk.places, List.nodup_singleton _, fun place hmem hm' => ?_⟩
    obtain ⟨p, hp, rfl⟩ := List.mem_map.1 hmem; exact hfr p hp (List.mem_singleton.1 hm')
  · rcases List.mem_append.1 hp with hp | hp
    · exact hk.ordered p hp
    · obtain rfl := List.mem_singleton.1 hp; exact ⟨rfl, rfl⟩
  · rcases List.mem_append.1 hp with hp | hp
    · exact hk.accounted p hp crtc hpc
    obtain rfl := List.mem_singleton.1 hp
    have hd : k.queuedFlips crtc = 0 := by
      refine List.length_eq_zero_iff.2 (List.filter_eq_nil_iff.2 fun flip hf hr => ?_)
      obtain ⟨q, hq, hqc⟩ := hk.queued flip hf
      exact hn crtc hpc q hq (hqc.trans (congrArg some (of_decide_eq_true hr)))
    have hco : delivered.count crtc = 0 := by
      refine List.count_eq_zero.2 fun hmem => ?_
      obtain ⟨q, hq, hqc⟩ := hs crtc hmem; exact hn crtc hpc q hq hqc
    show 0 + k.queuedFlips crtc = delivered.count crtc ∧ delivered.count crtc ≤ 0
    rw [hd, hco]; exact ⟨rfl, le_rfl⟩
  · obtain ⟨q, hq, hqc⟩ := hk.queued flip hf; exact ⟨q, List.mem_append_left _ hq, hqc⟩
  · unfold scheduledCommits; rw [List.filterMap_append]
    exact hk.outstanding.trans (List.append_nil k.scheduledCommits ▸ List.Perm.refl _)

theorem flows_powerOnOutput (hk : k.Flows delivered)
    (hr : ∀ crtc ∈ delivered, ∃ p ∈ k.pipelines, k.scanoutCrtc p.scanoutIndex = some crtc) {idx : Nat}
    (h : k.powerOnOutput idx now = .ok k') : k'.Flows delivered := by
  rcases powerOnOutput_ok h with rfl | ⟨scan, index, k₁, -, -, hon, rfl⟩
  · exact hk
  · exact (flows_powerOn hk hr hon).same (sameFlights_setPowered k₁ _ true)

/-! ### Reports and page flips -/

theorem flows_report (hk : k.Flows delivered) (job : Nat) (submittedAt : Int) :
    Flows { k with volition := k.volition.report job (.submitted submittedAt) } delivered := by
  refine ⟨hk.crtcs, hk.places, hk.ordered, hk.accounted, hk.queued, ?_, fun event he ho => ?_⟩
  · exact ((k.volition.outstanding_report job _).map _).trans hk.outstanding
  · have hn := k.volition.instance'_report job (.submitted submittedAt)
    rw [hn] at ho ⊢
    rcases Volition.mem_report he with he | ⟨j, rfl⟩
    · exact hk.submitted event he ho
    · exact ⟨j.commit, submittedAt, j.owner, rfl⟩

theorem flows_foreignReport (hk : k.Flows delivered) (ev : VolitionEvent) : (k.foreignReport ev).Flows delivered := by
  unfold foreignReport; split
  · exact hk
  rename_i hf
  refine ⟨hk.crtcs, hk.places, hk.ordered, hk.accounted, hk.queued, ?_, fun other ho hw => ?_⟩
  · unfold Volition.outstanding
    rw [List.filter_append, List.filter_cons, if_neg (by simpa using hf), List.filter_nil, List.append_nil]
    exact hk.outstanding
  · rcases List.mem_append.1 ho with ho | ho
    · exact hk.submitted other ho hw
    · exact absurd (List.mem_singleton.1 ho ▸ hw) hf

theorem flows_pageFlip (hk : k.Flows delivered) (hp : p ∈ k.pipelines)
    (hpc : k.scanoutCrtc p.scanoutIndex = some flip.crtc) (hlt : delivered.count flip.crtc < p.scheduled.length) :
    Flows { k with completedPageFlips := k.completedPageFlips ++ [flip] } (flip.crtc :: delivered) := by
  refine ⟨hk.crtcs, hk.places, hk.ordered, fun q hq crtc hqc => ?_, fun other ho => ?_,
    hk.outstanding, hk.submitted⟩
  · have hd : queuedFlips { k with completedPageFlips := k.completedPageFlips ++ [flip] } crtc =
        k.queuedFlips crtc + if flip.crtc = crtc then 1 else 0 := by
      unfold queuedFlips; rw [List.filter_append, List.length_append]
      by_cases hr : flip.crtc = crtc
      · rw [List.filter_cons, if_pos (decide_eq_true hr), if_pos hr]; rfl
      · rw [List.filter_cons, if_neg (by simpa using hr), if_neg hr]; rfl
    have hn : (flip.crtc :: delivered).count crtc = delivered.count crtc + if flip.crtc = crtc then 1 else 0 := by
      rw [List.count_cons]
      by_cases hr : flip.crtc = crtc <;> simp [hr]
    obtain ⟨hac, hle⟩ := hk.accounted q hq crtc hqc; rw [hd, hn]
    by_cases hr : flip.crtc = crtc
    · subst hr
      obtain rfl := hk.unique hp hq hpc hqc
      rw [if_pos rfl]; omega
    · rw [if_neg hr]; omega
  · rcases List.mem_append.1 ho with ho | ho
    · exact hk.queued other ho
    · obtain rfl := List.mem_singleton.1 ho; exact ⟨p, hp, hpc⟩

/-! ### Passes over what has arrived -/

def schedules (k : Kms) : List (Option UInt32 × List OutputFrame) :=
  k.pipelines.map fun p => (k.scanoutCrtc p.scanoutIndex, p.scheduled)

theorem SameFlights.schedules (h : k.SameFlights k') : k'.schedules = k.schedules := by
  unfold Kms.schedules
  simp only [scanoutCrtc_of_crtcs h.crtcs]
  exact map_eq_of_forall₂ (fun p p' hp => by rw [hp.scanoutIndex, hp.scheduled]) h.pipelines

theorem schedules_set (hge : k.pipelines[index]? = some p) (hpi : k'.pipelines = k.pipelines.set index p')
    (hs : k'.scanouts = k.scanouts) (hn : p'.scanoutIndex = p.scanoutIndex) (hh : p'.scheduled = p.scheduled) :
    k'.schedules = k.schedules := by
  unfold schedules scanoutCrtc; rw [hpi, hs]
  exact map_set_of_eq hge (by rw [hn, hh])

theorem acknowledges_pops (h : k.Acknowledges k') :
    k'.volition.events = k.volition.events.tail ∧ k'.volition.jobs = k.volition.jobs ∧ k'.schedules = k.schedules := by
  cases h with
  | idle he => exact ⟨by rw [he]; rfl, rfl, rfl⟩
  | foreign event evs he hr => exact ⟨by rw [he]; rfl, rfl, rfl⟩
  | submitted commit sa owner evs index pipe frame he hf hfl =>
    exact ⟨by rw [he]; rfl, rfl, schedules_set (findEntry_some hf).1 rfl rfl rfl rfl⟩
  | stalled f owner evs he ho => exact ⟨by rw [he]; rfl, rfl, rfl⟩

theorem schedules_dropElapsed {oa : Int} (h : k.dropElapsed index oa = .ok k') :
    k'.volition = k.volition ∧ k'.completedPageFlips = k.completedPageFlips ∧ k'.schedules = k.schedules := by
  obtain ⟨k₁, hf, hs⟩ := sameFlights_dropElapsed h
  exact ⟨hs.volition.trans hf.volition, hs.flips.trans hf.flips,
    hs.schedules.trans hf.schedules⟩

theorem completes_pops (h : k.Completes k') : k'.volition = k.volition ∧ k'.schedules = k.schedules ∧
      (k.scheduledCommits = [] → k'.completedPageFlips = k.completedPageFlips.tail) := by
  cases h with
  | idle hf => exact ⟨rfl, rfl, fun _ => by rw [hf]; rfl⟩
  | unknown completion rest hf hn => exact ⟨rfl, rfl, fun _ => by rw [hf]; rfl⟩
  | stale completion rest index pipe hf hge hr hfl => exact ⟨rfl, rfl, fun _ => by rw [hf]; rfl⟩
  | deferred completion rest index pipe commit frame hf hge hr hfl =>
    refine ⟨rfl, rfl, fun hn => absurd ?_ (List.not_mem_nil (a := commit))⟩; rw [← hn]
    exact List.mem_filterMap.2 ⟨pipe, List.mem_of_getElem? hge,
      OutputPipelineFrames.scheduledCommit_eq_some.2 ⟨frame, hfl⟩⟩
  | retired completion rest index pipe frame brk k₁ presented hf hge hr hfl hk hd =>
    obtain ⟨hv, hqu, hs⟩ := schedules_dropElapsed hd
    refine ⟨hv, hs.trans (schedules_set hge rfl rfl rfl rfl), fun _ => ?_⟩
    show k₁.completedPageFlips = k.completedPageFlips.tail
    rw [hqu, hf]; rfl

theorem acknowledgeSubmitted_succeeds {commit : CommitId}
    (hf : findEntry (fun pipe : OutputPipeline => pipe.frames.scheduledCommit = some commit) k.pipelines =
      some (index, p)) (hpo : (k.fencePool p.outputId).isNone = false) (submittedAt : Int) :
    ∃ k', k.acknowledgeSubmitted commit submittedAt = .ok k' := by
  obtain ⟨frame, hfl⟩ := OutputPipelineFrames.scheduledCommit_eq_some.1 (of_decide_eq_true (findEntry_some hf).2)
  have hk : p.frames.acknowledgeSubmission commit submittedAt = .ok
      ({ p.frames with inFlight := some (.submitted { frame with submittedAt := submittedAt }) }, frame.index) := by
    unfold OutputPipelineFrames.acknowledgeSubmission
    rw [hfl]; exact if_pos rfl
  unfold acknowledgeSubmitted; rw [hf]
  dsimp only; rw [hk]
  simp only [hpo, Bool.false_eq_true, if_false, bind, Except.bind]; exact ⟨_, rfl⟩

/-- The commit of a report is scheduled, and its pipeline has a fence pool. -/
theorem acknowledgeOldest_succeeds (hk : k.Conserved) (hw : k.Flows delivered) :
    ∃ k', k.acknowledgeOldest = .ok k' := by
  unfold acknowledgeOldest; split
  · exact ⟨k, rfl⟩
  rename_i event events he; unfold acknowledgeVolitionEvent; split
  · exact ⟨_, rfl⟩
  rename_i ho
  have ho : event.instance' = k.volition.instance' := not_not.1 ho
  obtain ⟨commit, submittedAt, owner, rfl⟩ := hw.submitted event (he ▸ List.mem_cons_self ..) ho
  have hmem : commit ∈ k.scheduledCommits := by
    refine hw.outstanding.subset (List.mem_map.2 ⟨(owner, commit), ?_, rfl⟩)
    exact (Volition.outstanding_own he ho).mem_iff.2 (List.mem_cons_self ..)
  obtain ⟨p, hp, hm⟩ := List.mem_filterMap.1 hmem
  cases hf :
    findEntry (fun pipe : OutputPipeline => pipe.frames.scheduledCommit = some commit) k.pipelines with
  | none =>
    obtain ⟨index, hge⟩ := List.getElem?_of_mem hp
    exact absurd hm (of_decide_eq_false (findEntry_none hf hge))
  | some ent =>
    obtain ⟨index, pipe⟩ := ent
    have hs : pipe.scanning ∈ pipe.buffers := List.mem_cons_self ..
    obtain ⟨-, pool, slot, hpo, -⟩ := pools_of_refs hk.toSound (refs_of_holds hk (findEntry_some hf).1 hs)
    refine acknowledgeSubmitted_succeeds (k := { k with volition := { k.volition with events := events } })
      hf ?_ submittedAt
    show (k.fencePool pipe.outputId).isNone = false
    rw [hpo]; rfl

theorem acknowledgeLoop_succeeds : ∀ (reports : Nat) {k : Kms}, k.Conserved →
    k.Flows delivered →
    k.volition.events.length ≤ reports → ∃ k', acknowledgeLoop reports k = .ok k' ∧ k'.Conserved ∧ k'.Flows delivered ∧
      k'.volition.events = [] ∧ k'.volition.jobs = k.volition.jobs ∧ k'.schedules = k.schedules
  | 0, k, hk, hf, hlen => ⟨k, rfl, hk, hf, List.length_eq_zero_iff.1 (Nat.le_zero.1 hlen), rfl, rfl⟩
  | reports + 1, k, hk, hf, hlen => by
    obtain ⟨k₁, hr⟩ := acknowledgeOldest_succeeds hk hf
    have hstep := acknowledgeOldest_acknowledges hr
    obtain ⟨he, hj, hh⟩ := acknowledges_pops hstep
    have hk₁ := (acknowledges_keeps hstep hk.toSound).conserved hk
    have hl' : k₁.volition.events.length ≤ reports := by
      rw [he, List.length_tail]; omega
    obtain ⟨k', hs, hk', hf', hm, hj', hs'⟩ :=
      acknowledgeLoop_succeeds reports hk₁ (flows_acknowledges hf hstep) hl'
    exact ⟨k', bind_ok.2 ⟨k₁, hr, hs⟩, hk', hf', hm, hj'.trans hj, hs'.trans hh⟩

theorem handleCompletionsLoop_drains : ∀ {queued : Nat} {k k' : Kms}, k.Flows delivered →
    k.volition.outstanding = [] → k.completedPageFlips.length ≤ queued → handleCompletionsLoop queued k = .ok k' →
    k'.volition.outstanding = [] ∧ k'.schedules = k.schedules ∧ k'.completedPageFlips = []
  | 0, k, k', _, hn, hlen, h => by
    cases h
    exact ⟨hn, rfl, List.length_eq_zero_iff.1 (Nat.le_zero.1 hlen)⟩
  | queued + 1, k, k', hf, hn, hlen, h => by
    obtain ⟨k₁, hr, h⟩ := bind_ok.1 h
    have hstep := handleCompletion_completes hr
    obtain ⟨hv, hs, hpo⟩ := completes_pops hstep
    have hm : k.scheduledCommits = [] := by
      have ho := hf.outstanding
      rw [hn] at ho; exact ho.nil_eq.symm
    have hl' : k₁.completedPageFlips.length ≤ queued := by
      rw [hpo hm, List.length_tail]; omega
    obtain ⟨hn', hs', he⟩ :=
      handleCompletionsLoop_drains (flows_completes hf hstep) (by rw [hv]; exact hn) hl' h
    exact ⟨hn', hs'.trans hs, he⟩

end Kms

end Deniald.Output
