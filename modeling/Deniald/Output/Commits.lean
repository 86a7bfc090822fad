/-
Commit identity. A commit is named by the position of its pipeline and the index of its buffer; as
long as no submission reuses the name of a commit still scheduled, scheduled commits are distinct and
what Volition has outstanding is attributed to the pipeline that queued it. Powering an output off and
on moves positions, after which a name can be reused.
-/
import Deniald.Output.Exclusivity

namespace Deniald.Output

open Deniald.Lib Deniald.Damage
open Deniald.Topology (OutputId)
open Deniald.Frame (OutputFrameRequest Scanout)
open OutputPipeline Volition

/-! ## Scheduled and outstanding commits -/

def OutputPipeline.scheduledFor (p : OutputPipeline) : Option (OutputId × CommitId) :=
  p.frames.scheduledCommit.map fun commit => (p.outputId, commit)

/-- The commits queued with this scheduler's worker and those it reported on, each under the output it was
queued for. -/
def Volition.outstanding (v : Volition) : List (OutputId × CommitId) :=
  v.jobs.map (fun job => (job.owner, job.commit)) ++
    (v.events.filter fun event => event.instance' = v.instance').map fun event => (event.owner, event.commit)

theorem Volition.eventOf_spec (v : Volition) (job : CommitJob) (outcome : SubmissionOutcome) :
    (v.eventOf job outcome).instance' = v.instance' ∧ (v.eventOf job outcome).owner = job.owner ∧
      (v.eventOf job outcome).commit = job.commit := by
  cases outcome <;> exact ⟨rfl, rfl, rfl⟩

theorem Volition.outstanding_report (v : Volition) (job : Nat) (outcome : SubmissionOutcome) :
    (v.report job outcome).outstanding.Perm v.outstanding := by
  unfold report
  cases hj : v.jobs[job]? with
  | none => exact .refl _
  | some j =>
    obtain ⟨hn, ho, hm⟩ := v.eventOf_spec j outcome
    obtain ⟨hlt, rfl⟩ := List.getElem?_eq_some_iff.1 hj
    have he := (List.getElem_cons_eraseIdx_perm hlt).map fun job => (job.owner, job.commit)
    unfold outstanding
    simp only [List.filter_append, List.map_append, List.filter_cons, hn, decide_true, if_true, List.filter_nil,
      List.map_cons, List.map_nil, ho, hm]
    rw [← List.append_assoc]
    exact (List.perm_append_singleton _ _).trans (he.append_right _)

variable {events : List VolitionEvent}

theorem Volition.outstanding_foreign {v : Volition} {ev : VolitionEvent} (he : v.events = ev :: events)
    (hf : ev.instance' ≠ v.instance') :
    outstanding { v with events := events } = v.outstanding := by
  unfold outstanding
  rw [he, List.filter_cons, if_neg (by simpa using hf)]

theorem Volition.outstanding_own {v : Volition} {ev : VolitionEvent} (he : v.events = ev :: events)
    (ho : ev.instance' = v.instance') :
    v.outstanding.Perm ((ev.owner, ev.commit) :: outstanding { v with events := events }) := by
  unfold outstanding
  rw [he, List.filter_cons, if_pos (by simpa using ho), List.map_cons]; exact List.perm_middle

theorem Volition.outstanding_queue (v : Volition) (job : CommitJob) :
    (outstanding { v with jobs := v.jobs ++ [job] }).Perm ((job.owner, job.commit) :: v.outstanding) := by
  unfold outstanding
  rw [List.map_append, List.append_assoc]; exact List.perm_middle

namespace Kms

def scheduledBy (k : Kms) : List (OutputId × CommitId) := k.pipelines.filterMap OutputPipeline.scheduledFor

/-- The invariant: one pipeline for each output, of its scanout; a commit names its frame's buffer, no two
scheduled commits are the same, and what is outstanding with Volition is scheduled, once. -/
structure Attributed (k : Kms) : Prop where
  scanouts : (k.scanouts.map fun scanout => scanout.output.id).Nodup
  wired : ∀ p ∈ k.pipelines, k.scanoutOutput p.scanoutIndex = some p.outputId
  outputs : (k.pipelines.map (·.outputId)).Nodup
  buffers : ∀ p ∈ k.pipelines, ∀ commit frame, p.frames.inFlight = some (.scheduled commit frame) →
    frame.index = commit.frame
  commits : (k.scheduledBy.map (·.2)).Nodup
  outstanding : k.volition.outstanding.Subperm k.scheduledBy

variable {p : OutputPipeline} {frame : OutputFrame} {commit : CommitId} {k k' : Kms} {index : Nat} {now : Int}

theorem scheduledFor_eq_some {ent : OutputId × CommitId} :
    p.scheduledFor = some ent ↔ p.outputId = ent.1 ∧ p.frames.scheduledCommit = some ent.2 := by
  unfold scheduledFor; rw [Option.map_eq_some_iff]
  constructor
  · rintro ⟨commit, hm, rfl⟩; exact ⟨rfl, hm⟩
  · rintro ⟨ho, hm⟩; exact ⟨ent.2, hm, by rw [ho]⟩

theorem scheduledFor_of_none (h : p.frames.inFlight = none) : p.scheduledFor = none := by
  unfold scheduledFor OutputPipelineFrames.scheduledCommit
  rw [h]; rfl

theorem scheduledFor_of_submitted (h : p.frames.inFlight = some (.submitted frame)) : p.scheduledFor = none := by
  unfold scheduledFor OutputPipelineFrames.scheduledCommit
  rw [h]; rfl

theorem scheduledFor_of_scheduled (h : p.frames.inFlight = some (.scheduled commit frame)) :
    p.scheduledFor = some (p.outputId, commit) := by
  unfold scheduledFor OutputPipelineFrames.scheduledCommit
  rw [h]; rfl

theorem Attributed.commit_unique (hk : k.Attributed) {x y : OutputId × CommitId} (hx : x ∈ k.scheduledBy)
    (hy : y ∈ k.scheduledBy) (h : x.2 = y.2) : x = y :=
  List.inj_on_of_nodup_map hk.commits hx hy h

/-! ## Steps -/

theorem attributed_same (hk : k.Attributed) (k' : Kms) (hs : k'.scanouts = k.scanouts)
    (hpi : k'.pipelines = k.pipelines) (hv : k'.volition = k.volition) : k'.Attributed := by
  have hh : k'.scheduledBy = k.scheduledBy := by
    unfold scheduledBy; rw [hpi]
  refine ⟨by rw [hs]; exact hk.scanouts, fun p hp => ?_, by rw [hpi]; exact hk.outputs, fun p hp => ?_,
    by rw [hh]; exact hk.commits, by rw [hv, hh]; exact hk.outstanding⟩
  · rw [hpi] at hp; unfold scanoutOutput
    rw [hs]; exact hk.wired p hp
  · rw [hpi] at hp; exact hk.buffers p hp

theorem attributed_of_buffers (hk : k.Attributed) (h : k.OnlyBuffers k') : k'.Attributed := by
  obtain ⟨brk, fences, rfl⟩ := h; exact attributed_same hk _ rfl rfl rfl

variable {volition : Volition}

theorem attributed_set (hk : k.Attributed) (hge : k.pipelines[index]? = some p) (p' : OutputPipeline)
    (ho : p'.outputId = p.outputId) (hs : p'.scanoutIndex = p.scanoutIndex)
    (hf : ∀ commit frame, p'.frames.inFlight = some (.scheduled commit frame) → frame.index = commit.frame)
    (hm : ((setPipeline { k with volition := volition } index p').scheduledBy.map Prod.snd).Nodup)
    (hd : volition.outstanding.Subperm (setPipeline { k with volition := volition } index p').scheduledBy) :
    (setPipeline { k with volition := volition } index p').Attributed := by
  refine ⟨hk.scanouts, fun q hq => ?_, ?_, fun q hq => ?_, hm, hd⟩
  · rcases List.mem_or_eq_of_mem_set hq with hq | rfl
    · exact hk.wired q hq
    · rw [ho, hs]; exact hk.wired p (List.mem_of_getElem? hge)
  · show ((k.pipelines.set index p').map (·.outputId)).Nodup
    rw [map_set_of_eq hge ho]; exact hk.outputs
  · rcases List.mem_or_eq_of_mem_set hq with hq | rfl
    · exact hk.buffers q hq
    · exact hf

theorem attributed_setPipeline (hk : k.Attributed) (hge : k.pipelines[index]? = some p) (p' : OutputPipeline)
    (ho : p'.outputId = p.outputId) (hs : p'.scanoutIndex = p.scanoutIndex) (hh : p'.scheduledFor = p.scheduledFor)
    (hf : ∀ commit frame, p'.frames.inFlight = some (.scheduled commit frame) → frame.index = commit.frame) :
    (k.setPipeline index p').Attributed := by
  have hr : (k.setPipeline index p').scheduledBy.Perm k.scheduledBy := by
    refine (filterMap_set_perm scheduledFor hge p').trans ?_; rw [hh]
    exact (filterMap_perm_eraseIdx scheduledFor hge).symm
  exact attributed_set hk hge p' ho hs hf ((hr.map _).nodup_iff.2 hk.commits)
    (hk.outstanding.trans hr.symm.subperm)

theorem attributed_schedule (hk : k.Attributed) (hge : k.pipelines[index]? = some p) (p' : OutputPipeline)
    (ho : p'.outputId = p.outputId) (hn : p'.scanoutIndex = p.scanoutIndex) (hno : p.scheduledFor = none)
    (hf : p'.frames.inFlight = some (.scheduled commit frame)) (hbu : frame.index = commit.frame)
    (hs : ∀ other ∈ k.pipelines, other.frames.scheduledCommit ≠ some commit)
    (hd : volition.outstanding.Perm ((p.outputId, commit) :: k.volition.outstanding)) :
    (setPipeline { k with volition := volition } index p').Attributed := by
  have hpe : (setPipeline { k with volition := volition } index p').scheduledBy.Perm
      ((p.outputId, commit) :: k.scheduledBy) := by
    refine (filterMap_set_perm scheduledFor hge p').trans ?_
    rw [scheduledFor_of_scheduled hf, ho]
    refine List.Perm.cons _ ?_
    have := filterMap_perm_eraseIdx scheduledFor hge
    rw [hno] at this; exact this.symm
  refine attributed_set hk hge p' ho hn (fun c' f' hf' => ?_) ?_ ?_
  · rw [hf] at hf'
    obtain ⟨rfl, rfl⟩ := InFlightFrame.scheduled.inj (Option.some.inj hf'); exact hbu
  · refine (hpe.map _).nodup_iff.2 (List.nodup_cons.2 ⟨fun hmem => ?_, hk.commits⟩)
    obtain ⟨ent, he, heq⟩ := List.mem_map.1 hmem
    obtain ⟨other, hh, hr⟩ := List.mem_filterMap.1 he
    have hm : ent.2 = commit := heq
    rw [scheduledFor_eq_some, hm] at hr; exact hs other hh hr.2
  · exact (hd.subperm.trans ((List.subperm_cons _).2 hk.outstanding)).trans hpe.symm.subperm

theorem Attributed.owner_eq (hk : k.Attributed) {owner : OutputId} (hmem : (owner, commit) ∈ k.volition.outstanding)
    (hp : p ∈ k.pipelines) (hm : p.frames.scheduledCommit = some commit) : p.outputId = owner := by
  have he : (p.outputId, commit) ∈ k.scheduledBy :=
    List.mem_filterMap.2 ⟨p, hp, scheduledFor_eq_some.2 ⟨rfl, hm⟩⟩
  exact (Prod.mk.inj (hk.commit_unique he (hk.outstanding.subset hmem) rfl)).1

theorem attributed_acknowledge (hk : k.Attributed) {owner : OutputId} (hge : k.pipelines[index]? = some p)
    (p' : OutputPipeline) (ho : p'.outputId = p.outputId) (hs : p'.scanoutIndex = p.scanoutIndex)
    (hm : p.frames.scheduledCommit = some commit) (hn : ∃ frame, p'.frames.inFlight = some (.submitted frame))
    (hpo : k.volition.outstanding.Perm ((owner, commit) :: volition.outstanding)) :
    (setPipeline { k with volition := volition } index p').Attributed := by
  have hmem := List.mem_of_getElem? hge
  obtain ⟨frame, hf⟩ := hn
  obtain rfl : p.outputId = owner := hk.owner_eq (hpo.mem_iff.2 (List.mem_cons_self ..)) hmem hm
  have hr : k.scheduledBy.Perm
      ((p.outputId, commit) :: (setPipeline { k with volition := volition } index p').scheduledBy) := by
    have hbe := filterMap_perm_eraseIdx scheduledFor hge
    have haf := filterMap_set_perm scheduledFor hge p'
    have hfo : p.scheduledFor = some (p.outputId, commit) := scheduledFor_eq_some.2 ⟨rfl, hm⟩
    rw [hfo] at hbe
    rw [scheduledFor_of_submitted hf] at haf; exact hbe.trans (haf.symm.cons _)
  refine attributed_set hk hge p' ho hs (fun c' f' hf' => ?_) ?_ ?_
  · rw [hf] at hf'
    cases Option.some.inj hf'
  · have := (hr.map (·.2)).nodup_iff.1 hk.commits
    exact (List.nodup_cons.1 this).2
  · have := (hpo.symm.subperm.trans hk.outstanding).trans hr.subperm
    exact (List.subperm_cons _).1 this

theorem attributed_setVolition (hk : k.Attributed) (volition : Volition)
    (h : volition.outstanding.Subperm k.volition.outstanding) : Attributed { k with volition := volition } :=
  ⟨hk.scanouts, hk.wired, hk.outputs, hk.buffers, hk.commits, h.trans hk.outstanding⟩

/-! ## Operations -/

theorem attributed_published (hk : k.Attributed) {out : ReadyOutputFrame} {pipelines : List OutputPipeline}
    (h : Published out now k pipelines) :
    Attributed { k with pipelines := pipelines } := by
  cases h with
  | installed index pipe hge ho hw hr =>
    exact attributed_setPipeline hk hge
      (installs pipe (out.outputFrame now)) rfl rfl rfl
      (hk.buffers pipe (List.mem_of_getElem? hge))
  | discarded hw => exact hk

theorem attributed_publishNext (hk : k.Attributed) (h : k.publishNext now = .ok k') : k'.Attributed := by
  rcases publishNext_ok h with rfl | ⟨index, frame, signal, -, -, h⟩
  · exact hk
  obtain ⟨ps, broker, fences, token, hpu, rfl⟩ := publishReady_published h
  have hr : Attributed { k with readyFrames := k.readyFrames.eraseIdx index } := attributed_same hk _ rfl rfl rfl
  exact attributed_same (attributed_published hr hpu) _ rfl rfl rfl

theorem attributed_submits (hk : k.Attributed) (h : k.Submits now index k')
    (hr : ∀ pipe frame f, k.Submittable index pipe frame f → pipe.wakeModeset = none →
      ∀ other ∈ k.pipelines, other.frames.scheduledCommit ≠ some ⟨index, frame.index⟩) : k'.Attributed := by
  cases h with
  | skipped => exact hk
  | refused pipe wake rr hge =>
    exact attributed_same (attributed_setPipeline hk hge { pipe with wakeModeset := some wake } rfl rfl rfl
      (hk.buffers pipe (List.mem_of_getElem? hge))) _ rfl rfl rfl
  | woken pipe frame f f' wake hs hw hn =>
    refine attributed_of_buffers (attributed_setPipeline hk hs.get (wakes pipe frame now) rfl rfl ?_ ?_)
      (setFenceSlot_buffers ..)
    · rw [scheduledFor_of_none (p := pipe) (by rw [hs.frames])]; rfl
    · intro commit fr' hf
      cases Option.some.inj hf
  | queued pipe frame f f' framebuffer hs hw hm hca hn =>
    have hno : pipe.scheduledFor = none := scheduledFor_of_none (by rw [hs.frames])
    exact attributed_of_buffers (attributed_schedule hk hs.get (queues index pipe frame) rfl rfl hno rfl rfl
      (hr pipe frame f hs hw) (outstanding_queue ..)) (setFenceSlot_buffers ..)

theorem attributed_acknowledges (hk : k.Attributed) (h : k.Acknowledges k') : k'.Attributed := by
  cases h with
  | idle he => exact hk
  | foreign event events he hr =>
    refine attributed_setVolition hk { k.volition with events := events } ?_
    rw [outstanding_foreign he hr]
  | submitted commit sa owner events index pipe frame he hf hfl =>
    obtain ⟨hge, hm⟩ := findEntry_some hf
    exact attributed_acknowledge hk hge (acknowledged pipe frame sa) rfl rfl (of_decide_eq_true hm)
      ⟨_, rfl⟩ (outstanding_own he rfl)
  | stalled f owner events he ho =>
    refine attributed_same (attributed_setVolition hk { k.volition with events := events } ?_) _ rfl rfl rfl
    exact (List.Subperm.cons_self.trans (outstanding_own he ho).symm.subperm)

theorem attributed_dropElapsed (hk : k.Attributed) {oa : Int} (h : k.dropElapsed index oa = .ok k') :
    k'.Attributed := by
  rcases dropElapsed_ok h with rfl | ⟨pipe, ready, hge, hr, -, lost, h⟩
  · exact hk
  · exact attributed_of_buffers (attributed_setPipeline hk hge (unready pipe) rfl rfl rfl
      (hk.buffers pipe (List.mem_of_getElem? hge))) (discardReadyFrame_buffers h)

theorem attributed_completes (hk : k.Attributed) (h : k.Completes k') : k'.Attributed := by
  cases h with
  | idle hf => exact hk
  | unknown completion rest hf hn => exact attributed_same hk _ rfl rfl rfl
  | deferred completion rest index pipe commit frame => exact attributed_same hk _ rfl rfl rfl
  | stale completion rest index pipe => exact attributed_same hk _ rfl rfl rfl
  | retired completion rest index pipe frame broker k₁ presented hf hge hcr hfl hbr hd =>
    have hs : (k.setPipeline index (shows pipe frame)).Attributed := by
      refine attributed_setPipeline hk hge (shows pipe frame) rfl rfl ?_ fun commit f' hf' => ?_
      · rw [scheduledFor_of_submitted hfl]; rfl
      · cases hf'
    have hr := attributed_same hs { k.setPipeline index (shows pipe frame) with
      completedPageFlips := rest, broker := broker, swapchains := k.presentedPools pipe.outputId frame.index }
      rfl rfl rfl
    exact attributed_same (attributed_dropElapsed hr hd) _ rfl rfl rfl

theorem attributed_setPowered (hk : k.Attributed) (out : OutputId) (powered : Bool) :
    (k.setPowered out powered).Attributed := by
  refine ⟨?_, fun p hp => by rw [scanoutOutput_setPowered]; exact hk.wired p hp, hk.outputs, hk.buffers, hk.commits,
    hk.outstanding⟩
  have hd : ((k.setPowered out powered).scanouts.map fun scan => scan.output.id) =
      k.scanouts.map fun scan => scan.output.id := by
    unfold setPowered; rw [List.map_map]
    refine List.map_congr_left fun scan _ => ?_
    simp only [Function.comp_apply]
    split <;> rfl
  rw [hd]; exact hk.scanouts

theorem attributed_beginPowerOff (hk : k.Attributed) {out : OutputId} {waits : Bool}
    (h : k.beginPowerOff out = .ok (k', waits)) : k'.Attributed := by
  rcases beginPowerOff_ok h with ⟨-, rfl⟩ | ⟨index, pipeline, hf, h⟩
  · exact hk
  have hge := (pipelineOf_some hf).1
  have hs := attributed_setPipeline hk hge { unready pipeline with poweringOff := true } rfl rfl rfl
    (hk.buffers pipeline (List.mem_of_getElem? hge))
  rcases h with ⟨-, rfl⟩ | ⟨ready, lost, -, h⟩
  · exact hs
  · exact attributed_of_buffers hs (discardReadyFrame_buffers h)

theorem attributed_cancelPowerOff (hk : k.Attributed) (out : OutputId) : (k.cancelPowerOff out).Attributed := by
  rcases cancelPowerOff_eq k out with h | ⟨index, pipeline, hf, h⟩
  · rw [h]; exact hk
  rw [h]
  have hge := (pipelineOf_some hf).1
  exact attributed_setPipeline hk hge { pipeline with poweringOff := false } rfl rfl rfl
    (hk.buffers pipeline (List.mem_of_getElem? hge))

theorem attributed_eraseIdx (hk : k.Attributed) (hge : k.pipelines[index]? = some p)
    (hf : p.frames.inFlight = none) :
    Attributed { k with pipelines := k.pipelines.eraseIdx index } := by
  have hr : k.scheduledBy.Perm (scheduledBy { k with pipelines := k.pipelines.eraseIdx index }) := by
    have := filterMap_perm_eraseIdx scheduledFor hge
    rw [scheduledFor_of_none hf] at this; exact this
  exact ⟨hk.scanouts, fun q hq => hk.wired q (List.mem_of_mem_eraseIdx hq),
    hk.outputs.sublist ((List.eraseIdx_sublist ..).map _), fun q hq => hk.buffers q (List.mem_of_mem_eraseIdx hq),
    (hr.map _).nodup_iff.1 hk.commits, hk.outstanding.trans hr.subperm⟩

theorem attributed_powerOffOutput (hk : k.Attributed) {out : OutputId} (h : k.powerOffOutput out = .ok k') :
    k'.Attributed := by
  obtain ⟨index, pipeline, k₁, hn, hf, hk₁, rfl⟩ := powerOffOutput_ok h
  have he := attributed_eraseIdx hk (pipelineOf_some hn).1 hf
  have hd : k₁.Attributed := by
    rcases hk₁ with ⟨-, rfl⟩ | ⟨ready, lost, -, hs⟩
    · exact he
    · exact attributed_of_buffers he (discardReadyFrame_buffers hs)
  have hr := attributed_same hd { k₁ with parked := k₁.parked ++ [(out, pipeline.scanning)] }
    rfl rfl rfl
  exact attributed_setPowered hr out false

theorem attributed_powerOn (hk : k.Attributed) {si idx : Nat} (h : k.powerOn si idx now = .ok k') : k'.Attributed := by
  rcases powerOn_ok h with ⟨-, -, -, rfl⟩ | ⟨scan, hs, hr, -, rfl⟩
  · exact hk
  have hh : (k.pipelines ++ [wakingPipeline scan.output.id si idx now]).filterMap
      scheduledFor = k.scheduledBy := by
    rw [List.filterMap_append]; exact List.append_nil _
  refine ⟨hk.scanouts, fun p hp => ?_, ?_, fun p hp => ?_, ?_, ?_⟩
  · rcases List.mem_append.1 hp with hp | hp
    · exact hk.wired p hp
    obtain rfl := List.mem_singleton.1 hp
    show (k.scanouts[si]?).map _ = _
    rw [hs]; rfl
  · rw [List.map_append]
    refine List.nodup_append'.2 ⟨hk.outputs, List.nodup_singleton _, fun out hmem hm' => ?_⟩
    obtain ⟨p, hp, rfl⟩ := List.mem_map.1 hmem
    have hou : p.outputId = scan.output.id := List.mem_singleton.1 hm'
    refine hr p hp ?_
    have hw := hk.wired p hp
    obtain ⟨other, ho, hid⟩ := Option.map_eq_some_iff.1 hw
    obtain ⟨hlt, -⟩ := List.getElem?_eq_some_iff.1 ho
    have hlt'' : p.scanoutIndex < (k.scanouts.map fun scan => scan.output.id).length := by
      rwa [List.length_map]
    refine (List.getElem?_inj hlt'' hk.scanouts).1 ?_
    rw [List.getElem?_map, List.getElem?_map, ho, hs]; exact congrArg some (hid.trans hou)
  · rcases List.mem_append.1 hp with hp | hp
    · exact hk.buffers p hp
    · obtain rfl := List.mem_singleton.1 hp
      intro commit frame hf; cases hf
  · unfold scheduledBy
    rw [hh]; exact hk.commits
  · unfold scheduledBy
    rw [hh]; exact hk.outstanding

theorem attributed_powerOnOutput (hk : k.Attributed) {idx : Nat}
    (h : k.powerOnOutput idx now = .ok k') : k'.Attributed := by
  rcases powerOnOutput_ok h with rfl | ⟨scan, index, k₁, -, -, hon, rfl⟩
  · exact hk
  · exact attributed_setPowered (attributed_powerOn hk hon) _ true

/-! ## Passes of submission -/

/-- No pipeline from a position on would queue a commit that another one has scheduled. -/
def FreshFrom (start : Nat) (k : Kms) : Prop :=
  ∀ index pipeline frame fence, start ≤ index → k.Submittable index pipeline frame fence → pipeline.wakeModeset = none →
    ∀ other ∈ k.pipelines, other.frames.scheduledCommit ≠ some ⟨index, frame.index⟩

theorem submits_later (hk : k.Attributed) {n : Nat} (h : k.Submits now n k') (hn : n < index)
    {pipeline : OutputPipeline} {fence : ReadyFenceSlot} (hs : k'.Submittable index pipeline frame fence) :
    k.Submittable index pipeline frame fence := by
  have hne : n ≠ index := hn.ne
  -- the fence of another pipeline is of another output
  have ho : ∀ (p p' : OutputPipeline) (volition : Volition) (i : Nat) (slot : ReadyFenceSlot),
    k.pipelines[n]? = some p →
      (setFenceSlot (setPipeline { k with volition := volition } n p') p.outputId i slot).Submittable index
      pipeline frame fence →
        k.Submittable index pipeline frame fence := by
    intro p p' volition i slot hp hs
    have hge : k.pipelines[index]? = some pipeline := by
      have := hs.get
      rwa [show (setFenceSlot (setPipeline { k with volition := volition } n p') p.outputId i slot).pipelines =
        k.pipelines.set n p' from rfl, List.getElem?_set_ne hne] at this
    have hou : pipeline.outputId ≠ p.outputId := by
      intro heq
      obtain ⟨hlt, -⟩ := List.getElem?_eq_some_iff.1 hge
      have hlt' : index < (k.pipelines.map (·.outputId)).length := by rwa [List.length_map]
      refine hne ((List.getElem?_inj hlt' hk.outputs).1 ?_).symm
      rw [List.getElem?_map, List.getElem?_map, hge, hp]; exact congrArg some heq
    refine ⟨hge, hs.power, hs.frames, ?_, hs.signaled⟩; have := hs.slot
    unfold fenceSlot at this ⊢
    rw [fencePool_setFenceSlot, if_neg hou] at this; exact this
  cases h with
  | skipped => exact hs
  | refused p wake rr hge =>
    refine ⟨?_, hs.power, hs.frames, hs.slot, hs.signaled⟩; have := hs.get
    rwa [show (setPipeline k n { p with wakeModeset := some wake }).pipelines = k.pipelines.set n _ from rfl,
      List.getElem?_set_ne hne] at this
  | woken p f' fn' f'' wake hp hw hf =>
    exact ho p (wakes p f' now) k.volition f'.index f'' hp.get hs
  | queued p f' fn' f'' framebuffer hp hw hr hca hf =>
    exact ho p (queues n p f') _ f'.index f'' hp.get hs

/-- A pass that would queue no commit scheduled elsewhere keeps it so to its end. -/
theorem attributed_submitReady (hk : k.Attributed) (hf : FreshFrom 0 k) {accepts : OutputId → Bool}
    (h : k.submitReady now accepts = .ok k') : k'.Attributed := by
  refine (foldlM_range_invariant (I := fun n k => k.Attributed ∧ FreshFrom n k) (fun n k k' hv h => ?_)
    ⟨hk, hf⟩ h).1
  obtain ⟨hk, hf⟩ := hv
  have hs := submitPipeline_submits h
  refine ⟨attributed_submits hk hs fun pipe frame f => hf n pipe frame f le_rfl, ?_⟩
  intro index pipe frame f hn hm hw other ho
  have hbe := hf index pipe frame f (Nat.le_of_succ_le hn)
    (submits_later hk hs hn hm) hw
  cases hs with
  | skipped => exact hbe other ho
  | refused p wake rr hge =>
    rcases List.mem_or_eq_of_mem_set ho with ho | rfl
    · exact hbe other ho
    · exact hbe p (List.mem_of_getElem? hge)
  | woken p fr' f' f'' wake hp hw' hfe =>
    rcases List.mem_or_eq_of_mem_set ho with ho | rfl
    · exact hbe other ho
    · exact nofun
  | queued p fr' f' f'' framebuffer hp hw' hr hca hfe =>
    rcases List.mem_or_eq_of_mem_set ho with ho | rfl
    · exact hbe other ho
    · intro heq
      obtain ⟨hst, -⟩ := CommitId.mk.inj (Option.some.inj heq); omega

/-! ## Runs -/

/-- Commits are told apart: no two pipelines have one scheduled, and every report of the scheduler's worker is
on the commit its own pipeline has scheduled, for the frame of that buffer. -/
def Unambiguous (k : Kms) : Prop :=
  (∀ (i j : Nat) (p q : OutputPipeline) (commit : CommitId), k.pipelines[i]? = some p → k.pipelines[j]? = some q →
    p.frames.scheduledCommit = some commit → q.frames.scheduledCommit = some commit → i = j) ∧
  (k.volition.outstanding.map (·.1)).Nodup ∧
  ∀ event ∈ k.volition.events, event.instance' = k.volition.instance' →
    ∃ index pipeline frame,
      findEntry (fun p : OutputPipeline => p.frames.scheduledCommit = some event.commit) k.pipelines =
        some (index, pipeline) ∧
        pipeline.outputId = event.owner ∧ pipeline.frames.inFlight = some (.scheduled event.commit frame) ∧
        frame.index = event.commit.frame

theorem unambiguous_of_attributed (hk : k.Attributed) : k.Unambiguous := by
  have he : ∀ {p : OutputPipeline} {commit : CommitId}, p ∈ k.pipelines → p.frames.scheduledCommit = some commit →
      (p.outputId, commit) ∈ k.scheduledBy := fun hp hm =>
    List.mem_filterMap.2 ⟨_, hp, scheduledFor_eq_some.2 ⟨rfl, hm⟩⟩
  refine ⟨fun i j p q commit hp hq hpc hqc => ?_, ?_, fun event hv hw => ?_⟩
  · -- one commit is one output's, and an output has one pipeline
    have hpm := List.mem_of_getElem? hp
    have hqm := List.mem_of_getElem? hq
    have ho := (Prod.mk.inj (hk.commit_unique (he hpm hpc) (he hqm hqc) rfl)).1
    obtain ⟨hlt, -⟩ := List.getElem?_eq_some_iff.1 hp
    have hlt' : i < (k.pipelines.map (·.outputId)).length := by rwa [List.length_map]
    refine (List.getElem?_inj hlt' hk.outputs).1 ?_
    rw [List.getElem?_map, List.getElem?_map, hp, hq]; exact congrArg some ho
  · have hs : k.scheduledBy.map (·.1) =
        (k.pipelines.filter fun p => p.frames.scheduledCommit.isSome).map (·.outputId) := by
      unfold scheduledBy
      induction k.pipelines with
      | nil => rfl
      | cons p ps ih =>
        rw [List.filterMap_cons, List.filter_cons]; unfold scheduledFor
        cases p.frames.scheduledCommit with
        | none => exact ih
        | some commit => exact congrArg (p.outputId :: ·) ih
    have hd : (k.scheduledBy.map (·.1)).Nodup := by
      rw [hs]
      exact hk.outputs.sublist (List.filter_sublist.map _)
    obtain ⟨l, hpe, hsu⟩ := hk.outstanding
    exact (hpe.map _).nodup_iff.1 (hd.sublist (hsu.map _))
  · have hmem : (event.owner, event.commit) ∈ k.volition.outstanding :=
      List.mem_append_right _ (List.mem_map_of_mem (List.mem_filter.2 ⟨hv, decide_eq_true hw⟩))
    obtain ⟨p, hp, hr⟩ := List.mem_filterMap.1 (hk.outstanding.subset hmem)
    obtain ⟨ho, hm⟩ := scheduledFor_eq_some.1 hr
    cases hn : findEntry (fun p : OutputPipeline => p.frames.scheduledCommit = some event.commit) k.pipelines with
    | none =>
      obtain ⟨index, hge⟩ := List.getElem?_of_mem hp
      exact absurd hm (of_decide_eq_false (findEntry_none hn hge))
    | some f =>
      obtain ⟨index, q⟩ := f
      obtain ⟨hge, hqc⟩ := findEntry_some hn
      have hq := List.mem_of_getElem? hge
      have hqc : q.frames.scheduledCommit = some event.commit := of_decide_eq_true hqc
      obtain ⟨frame, hf⟩ := OutputPipelineFrames.scheduledCommit_eq_some.1 hqc
      exact ⟨index, q, frame, rfl, hk.owner_eq hmem hq hqc, hf, hk.buffers q hq _ _ hf⟩

/-- A submission pass queues no commit whose name another pipeline still has scheduled. -/
def NamesFresh (k : Kms) : KmsEvent → Prop
  | .submitReady _ _ => k.FreshFrom 0
  | _ => True

theorem attributed_next (r : Rounding) (hk : k.Attributed) {e : KmsEvent} (hf : k.NamesFresh e) :
    (k.next r e).Attributed := by
  refine attempt_invariant hk fun k' h => ?_
  cases e with
  | render event =>
    cases h; exact attributed_same hk _ rfl rfl rfl
  | publishReady now => exact attributed_publishNext hk h
  | acknowledgeReadyFences ss => exact attributed_of_buffers hk (acknowledgeReadyFences_buffers h)
  | submitReady now accepts =>
    exact attributed_submitReady hk hf h
  | volitionReport job outcome =>
    cases h
    exact attributed_setVolition hk _ (k.volition.outstanding_report job outcome).subperm
  | foreignReport event =>
    cases h; unfold foreignReport
    split
    · exact hk
    rename_i hfo
    refine attributed_setVolition hk { k.volition with events := k.volition.events ++ [event] } ?_
    unfold outstanding
    rw [List.filter_append, List.filter_cons, if_neg (by simpa using hfo), List.filter_nil, List.append_nil]
  | acknowledgeVolition =>
    have hr : Attributed { k with stalled := none } := attributed_same hk _ rfl rfl rfl
    exact acknowledgeLoop_induct attributed_acknowledges hr h
  | pageFlip completion =>
    cases h; exact attributed_same hk _ rfl rfl rfl
  | handleCompletions =>
    have hr : Attributed { k with presentedOutputs := [] } := attributed_same hk _ rfl rfl rfl
    exact handleCompletionsLoop_induct attributed_completes hr h
  | retainScreencopy out =>
    rcases retainScreencopy_ok h with rfl | ⟨index, broker, -, rfl⟩
    · exact hk
    · exact attributed_same hk _ rfl rfl rfl
  | releaseScreencopy lease =>
    rcases releaseScreencopy_ok h with rfl | ⟨out, index, broker, -, -, rfl⟩
    · exact hk
    · exact attributed_same hk _ rfl rfl rfl
  | beginPowerOff out =>
    obtain ⟨⟨k', waits⟩, hbe, rfl⟩ := map_ok.1 h; exact attributed_beginPowerOff hk hbe
  | cancelPowerOff out =>
    cases h; exact attributed_cancelPowerOff hk out
  | powerOff out => exact attributed_powerOffOutput hk h
  | powerOn idx now => exact attributed_powerOnOutput hk h

theorem attributed_start {scs : List Scanout} {ss : List OutputSwapchain}
    {tgt : OutputId → Nat → UInt32} (h : Started scs ss tgt k) : k.Attributed := by
  have hr : ∀ p ∈ k.pipelines, p.frames.inFlight = none := by
    intro p hp
    obtain ⟨ent, -, hn⟩ := forall₂_mem_right h.pipelines p hp
    rw [(newPipeline_ok hn).2.2.1]; rfl
  have hno : k.scheduledBy = [] := List.filterMap_eq_nil_iff.2 fun p hp => scheduledFor_of_none (hr p hp)
  refine ⟨by rw [h.scanouts]; exact h.distinct.outputs, (conserved_start h).wired, ?_,
    fun p hp commit frame hf => ?_,
    by rw [hno]; exact List.nodup_nil, ?_⟩
  · have ho : ∀ (ent : Scanout × Nat) (p : OutputPipeline), newPipeline ss ent.2 ent.1 = .ok p →
        p.outputId = ent.1.output.id := fun ent p hn => (newPipeline_ok hn).1
    rw [map_eq_map_of_forall₂ ho h.pipelines,
      map_zipIdx_filter (fun scan : Scanout => scan.powered) (fun scan => scan.output.id)]
    exact h.distinct.outputs.sublist (List.filter_sublist.map _)
  · rw [hr p hp] at hf; cases hf
  · unfold outstanding
    rw [h.volition.1, h.volition.2]; exact List.nil_subperm

/-- In every run whose submission passes queue no commit named as one still scheduled, commits are told apart
in every state reached. -/
theorem commits_unambiguous (r : Rounding) (scanouts : List Scanout) (swapchains : List OutputSwapchain)
    (target : OutputId → Nat → UInt32) (instance' : Nat) (nextReadyFenceToken : UInt64) (k₀ : Kms)
    (hstart : start scanouts swapchains target instance' nextReadyFenceToken = .ok k₀) (es : List KmsEvent)
    (hes : Along (Kms.next r) NamesFresh k₀ es) : (exec (Kms.next r) k₀ es).Unambiguous :=
  unambiguous_of_attributed
    (exec_invariant_along (I := Attributed) (fun _ _ hk hfres => attributed_next r hk hfres)
    (attributed_start (start_ok hstart))
      hes)

/-! ## A name used again -/

/-- A second display beside `panel`. -/
def sidePanel : Scanout where
  output := { id := 2, connector := 2, crtc := 42, mode := ⟨0, 60000⟩, transform := .normal, vrrEnabled := false }
  plane := 32
  sourceRect := ⟨0, 0, 4, 4⟩
  powered := true

def sidePool : OutputSwapchain where
  outputId := 2
  renderViewId := 8
  configurationGeneration := 1
  size := ⟨4, 4⟩
  buffers := [201, 202, 203]
  current := 0

def pairTarget (output : OutputId) (index : Nat) : UInt32 := UInt32.ofNat (10 * output + index)

def firstFrame (output : OutputId) : OutputFrameRequest where
  tick := { output := output, sequence := 1, renderDeadline := 0, presentationTarget := 16, interval := 16 }
  dirtySerial := 1
  mark := 1

def presents (output : OutputId) (renderViewId : Int) (index : Nat) : List KmsEvent :=
  [.render (.authorize (firstFrame output) 0), .render (.acquire renderViewId ⟨4, 4⟩),
    .render (.markReady renderViewId (pairTarget output index) [] [] none none []), .render .finishTransaction,
    .publishReady 0, .submitReady 0 fun _ => true]

theorem freshFrom_of_idle (h : ∀ p ∈ k.pipelines, p.frames.scheduledCommit = none) (n : Nat) : k.FreshFrom n := by
  intro index pipe frame f _ _ _ other ho
  rw [h other ho]; exact nofun

/-- The side display's first frame is scheduled under its own name. -/
theorem commits_unambiguous_pair :
    ∃ k₀, start [panel, sidePanel] [panelPool, sidePool] pairTarget 1 1 = .ok k₀ ∧
      (exec (Kms.next .exact) k₀ (presents 2 8 1)).Unambiguous := by
  refine ⟨_, rfl, commits_unambiguous .exact [panel, sidePanel] [panelPool, sidePool] pairTarget 1 1 _ rfl _
    ⟨trivial, trivial, trivial, trivial, trivial, ?_, trivial⟩⟩
  exact freshFrom_of_idle (by decide) 0

/-- The side display has buffer 1 scheduled while the panel is powered off and on, wakes and presents a frame;
now the panel is in the place the side display had, and its next frame takes buffer 1. -/
def reuse : List KmsEvent :=
  presents 2 8 1 ++ [.beginPowerOff 1, .powerOff 1, .powerOn 0 0] ++ presents 1 7 0 ++
    [.pageFlip ⟨41, 0, none, none⟩, .handleCompletions] ++ presents 1 7 1

theorem name_reused :
    ∃ k₀, start [panel, sidePanel] [{ panelPool with current := 1 }, sidePool] pairTarget 1 1 = .ok k₀ ∧
      ¬(exec (Kms.next .exact) k₀ reuse).Unambiguous := by
  refine ⟨_, rfl, fun h => ?_⟩
  have hsam := h.1 0 1 _ _ ⟨1, 1⟩ rfl rfl rfl rfl; exact absurd hsam (by decide)

end Kms

end Deniald.Output
