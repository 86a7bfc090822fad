/-
Sessions in which every commit gets one report and one page flip. The kernel delivers a flip for a frame scheduled on
its CRTC, Volition reports submissions, and both come in any order, with everything else the scheduler does between
them. Whatever the order, the flips retire the frames in the order they were scheduled, and once all came, what is in
flight and scanned is what reports that come before their flips leave.
-/
import Deniald.Output.Flips

namespace Deniald.Output

open Deniald.Lib Deniald.Damage
open Deniald.Topology (OutputId)
open Deniald.Frame (Scanout)

/-- The scheduler, and the CRTCs of the page flips delivered for the pipelines it has. -/
structure FlipSession where
  kms : Kms
  delivered : List UInt32

namespace Kms

def drives (k : Kms) (crtc : UInt32) : Bool := k.pipelines.any fun p => k.scanoutCrtc p.scanoutIndex = some crtc

theorem drives_iff {k : Kms} {crtc : UInt32} :
    k.drives crtc = true ↔ ∃ p ∈ k.pipelines, k.scanoutCrtc p.scanoutIndex = some crtc := by
  unfold drives; rw [List.any_eq_true]
  simp

end Kms

namespace FlipSession

def start (k : Kms) : FlipSession := ⟨k, []⟩

/-- The page flips after an event: those of a pipeline go with it. -/
def deliver (s : FlipSession) : KmsEvent → List UInt32
  | .pageFlip completion => completion.crtc :: s.delivered
  | _ => s.delivered

def next (r : Rounding) (s : FlipSession) (e : KmsEvent) : FlipSession :=
  let kms := s.kms.next r e
  ⟨kms, (s.deliver e).filter kms.drives⟩

/-- Volition's worker submits what it is given, and a CRTC gets a page flip for a frame scheduled on it that has none
yet. -/
def Presents (s : FlipSession) : KmsEvent → Prop
  | .volitionReport _ outcome => ∃ submittedAt, outcome = .submitted submittedAt
  | .pageFlip completion => ∃ p ∈ s.kms.pipelines, s.kms.scanoutCrtc p.scanoutIndex = some completion.crtc ∧
      s.delivered.count completion.crtc < p.scheduled.length
  | _ => True

instance (s : FlipSession) : ∀ e, Decidable (s.Presents e)
  | .volitionReport _ (.submitted submittedAt) => isTrue ⟨submittedAt, rfl⟩
  | .volitionReport _ (.stalled _) => isFalse nofun
  | .volitionReport _ (.failed _) => isFalse nofun
  | .pageFlip completion => inferInstanceAs (Decidable (∃ p ∈ s.kms.pipelines,
      s.kms.scanoutCrtc p.scanoutIndex = some completion.crtc ∧ s.delivered.count completion.crtc < p.scheduled.length))
  | .render _ | .publishReady _ | .acknowledgeReadyFences _ | .submitReady _ _ | .foreignReport _ | .acknowledgeVolition
  | .handleCompletions | .retainScreencopy _ | .releaseScreencopy _ | .beginPowerOff _ | .cancelPowerOff _ | .powerOff _
  | .powerOn _ _ => isTrue trivial

/-- Every commit is reported, and every frame scheduled has its page flip. -/
def Complete (s : FlipSession) : Prop :=
  s.kms.volition.jobs = [] ∧ ∀ p ∈ s.kms.pipelines, ∀ crtc ∈ s.kms.scanoutCrtc p.scanoutIndex,
    s.delivered.count crtc = p.scheduled.length

instance (s : FlipSession) : Decidable s.Complete :=
  have (p : OutputPipeline) : Decidable (∀ crtc ∈ s.kms.scanoutCrtc p.scanoutIndex,
    s.delivered.count crtc = p.scheduled.length) :=
    Option.decidableForallMem _
  inferInstanceAs (Decidable (_ ∧ _))

/-- The invariant. -/
structure Sound (s : FlipSession) : Prop where
  conserved : s.kms.Conserved
  flows : s.kms.Flows s.delivered
  driven : ∀ crtc ∈ s.delivered, s.kms.drives crtc = true

end FlipSession

namespace Kms

variable {delivered : List UInt32} {swapchains : List OutputSwapchain}

theorem Flows.filter {k : Kms} (hk : k.Flows delivered) : k.Flows (delivered.filter k.drives) :=
  ⟨hk.crtcs, hk.places, hk.ordered, fun p hp crtc hpc => by
    rw [List.count_filter (drives_iff.2 ⟨p, hp, hpc⟩)]
    exact hk.accounted p hp crtc hpc, hk.queued, hk.outstanding, hk.submitted⟩

theorem flows_publishNext {k k' : Kms} (hk : k.Flows delivered) {now : Int} (h : k.publishNext now = .ok k') :
    k'.Flows delivered := by
  rcases publishNext_ok h with rfl | ⟨index, frame, signal, -, -, h⟩
  · exact hk
  obtain ⟨ps, broker, fences, token, hpu, rfl⟩ := publishReady_published h
  have hr : Flows { k with readyFrames := k.readyFrames.eraseIdx index } delivered :=
    hk.same (sameFlights_of_eq rfl rfl rfl rfl)
  exact (hr.same (sameFlights_published hpu)).same (sameFlights_of_eq rfl rfl rfl rfl)

theorem flows_handle (r : Rounding) {s : FlipSession} (hs : s.Sound) {e : KmsEvent} (hpr : s.Presents e) {k' : Kms}
    (h : s.kms.handle r e = .ok k') : k'.Flows (s.deliver e) := by
  have hk := hs.flows
  cases e with
  | render event =>
    cases h; exact hk.same (sameFlights_of_eq rfl rfl rfl rfl)
  | publishReady now => exact flows_publishNext hk h
  | acknowledgeReadyFences ss => exact hk.same (sameFlights_of_buffers (acknowledgeReadyFences_buffers h))
  | submitReady now accepts => exact flows_submitReady hk h
  | volitionReport job outcome =>
    cases h
    obtain ⟨sa, rfl⟩ := hpr; exact flows_report hk job sa
  | foreignReport event =>
    cases h; exact flows_foreignReport hk event
  | acknowledgeVolition =>
    have hr : Flows { s.kms with stalled := none } s.delivered := hk.same (sameFlights_of_eq rfl rfl rfl rfl)
    exact acknowledgeLoop_induct flows_acknowledges hr h
  | pageFlip completion =>
    cases h
    obtain ⟨p, hp, hpc, hlt⟩ := hpr; exact flows_pageFlip hk hp hpc hlt
  | handleCompletions =>
    have hr : Flows { s.kms with presentedOutputs := [] } s.delivered := hk.same (sameFlights_of_eq rfl rfl rfl rfl)
    exact handleCompletionsLoop_induct flows_completes hr h
  | retainScreencopy out =>
    rcases retainScreencopy_ok h with rfl | ⟨index, broker, -, rfl⟩
    · exact hk
    · exact hk.same (sameFlights_of_eq rfl rfl rfl rfl)
  | releaseScreencopy lease =>
    rcases releaseScreencopy_ok h with rfl | ⟨out, index, broker, -, -, rfl⟩
    · exact hk
    · exact hk.same (sameFlights_of_eq rfl rfl rfl rfl)
  | beginPowerOff out =>
    obtain ⟨⟨k', waits⟩, hbe, rfl⟩ := map_ok.1 h; exact flows_beginPowerOff hk hbe
  | cancelPowerOff out =>
    cases h; exact flows_cancelPowerOff hk out
  | powerOff out => exact flows_powerOffOutput hk h
  | powerOn idx now =>
    exact flows_powerOnOutput hk (fun crtc hcr => drives_iff.1 (hs.driven crtc hcr)) h

theorem newPipeline_ordered {idx : Nat} {scan : Scanout} {p : OutputPipeline}
    (h : newPipeline swapchains idx scan = .ok p) : p.Ordered := by
  unfold newPipeline at h; split at h
  · cases h
  · cases h; exact ⟨rfl, rfl⟩

theorem flows_start {ss : List Scanout} {tgt : OutputId → Nat → UInt32} {k : Kms}
    (h : Started ss swapchains tgt k) : k.Flows [] := by
  have hd : ∀ crtc, k.queuedFlips crtc = 0 := fun crtc => by
    unfold queuedFlips
    rw [h.completedPageFlips]; rfl
  refine ⟨by rw [h.scanouts]; exact h.distinct.crtcs, ?_, fun p hp => ?_, fun p hp crtc hpc => ?_,
    fun flip hf => ?_, ?_,
    fun event he => ?_⟩
  · have hpl : ∀ (ent : Scanout × Nat) (p : OutputPipeline), newPipeline swapchains ent.2 ent.1 = .ok p →
        p.scanoutIndex = ent.2 := fun ent p hn => (newPipeline_ok hn).2.1
    rw [map_eq_map_of_forall₂ hpl h.pipelines]
    refine List.Nodup.sublist (List.filter_sublist.map _) ?_
    show ((ss.zipIdx).map Prod.snd).Nodup
    rw [List.zipIdx_map_snd]; exact List.nodup_range'
  · obtain ⟨ent, -, hn⟩ := forall₂_mem_right h.pipelines p hp; exact newPipeline_ordered hn
  · obtain ⟨ent, -, hn⟩ := forall₂_mem_right h.pipelines p hp
    obtain ⟨-, -, -, -, hs, hr, -⟩ := newPipeline_ok hn
    rw [hs, hr, hd]; exact ⟨rfl, le_rfl⟩
  · rw [h.completedPageFlips] at hf; cases hf
  · have hno : k.scheduledCommits = [] := by
      refine List.filterMap_eq_nil_iff.2 fun p hp => ?_
      obtain ⟨ent, -, hn⟩ := forall₂_mem_right h.pipelines p hp
      rw [(newPipeline_ok hn).2.2.1]; rfl
    unfold Volition.outstanding
    rw [h.volition.1, h.volition.2, hno]; exact .refl _
  · rw [h.volition.2] at he; cases he

end Kms

namespace FlipSession

theorem sound_start {ss : List Scanout} {swapchains : List OutputSwapchain} {tgt : OutputId → Nat → UInt32}
    {k : Kms} (h : Kms.Started ss swapchains tgt k) : (start k).Sound :=
  ⟨Kms.conserved_start h, Kms.flows_start h, fun _ hr => nomatch hr⟩

variable {s : FlipSession}

theorem deliver_of_error {r : Rounding} {e : KmsEvent} {message : String} (h : s.kms.handle r e = .error message) :
    s.deliver e = s.delivered := by
  cases e with
  | pageFlip completion => cases h
  | _ => rfl

theorem sound_next (r : Rounding) (hs : s.Sound) {e : KmsEvent} (hr : s.Presents e) : (s.next r e).Sound := by
  have hf : (s.kms.next r e).Flows (s.deliver e) := by
    unfold Kms.next
    cases h : s.kms.handle r e with
    | ok k' => exact Kms.flows_handle r hs hr h
    | error message =>
      rw [deliver_of_error h]; exact hs.flows
  exact ⟨Kms.conserved_next r hs.conserved e, hf.filter, fun crtc hcr => (List.mem_filter.1 hcr).2⟩

/-! ## Runs -/

theorem passes_succeed (hs : s.Sound) :
    ∃ k₁ k₂, s.kms.acknowledgeVolitionEvents = .ok k₁ ∧ k₁.handleCompletions = .ok k₂ ∧ k₁.Flows s.delivered ∧
      k₁.volition.events = [] ∧ k₁.volition.jobs = s.kms.volition.jobs ∧ k₁.schedules = s.kms.schedules := by
  have hn : Kms.Conserved { s.kms with stalled := none } :=
    Kms.conserved_same hs.conserved _ rfl rfl rfl rfl rfl rfl rfl
  have hf : Kms.Flows { s.kms with stalled := none } s.delivered :=
    hs.flows.same (Kms.sameFlights_of_eq rfl rfl rfl rfl)
  obtain ⟨k₁, hr, hk₁, hf₁, he, hj, hh⟩ :=
    Kms.acknowledgeLoop_succeeds s.kms.volition.events.length hn hf le_rfl
  obtain ⟨k₂, hse⟩ := Kms.handleCompletions_succeeds hk₁
  exact ⟨k₁, k₂, hr, hse, hf₁, he, hj, hh⟩

theorem settled_of_length {p : OutputPipeline} (h : p.Ordered) (hlen : p.retired.length = p.scheduled.length) :
    p.frames.inFlight = none ∧ p.retired.map OutputFrame.unstamped = p.scheduled.map OutputFrame.unstamped ∧
      p.scheduled.foldlM submittedThenFlip (.default, p.initialScanning) = .ok (.default, p.scanning) := by
  have ho := h.length
  have hf : p.frames.inFlight = none := by
    cases hf : p.frames.inFlight with
    | none => rfl
    | some f =>
      rw [hf, Option.isSome_some, if_pos rfl] at ho; omega
  have hr := h.frames
  rw [hf, Option.map_none, Option.toList_none, List.append_nil] at hr
  have hn : p.retired.map (·.index) = p.scheduled.map (·.index) := by
    have hm := congrArg (List.map OutputFrame.index) hr
    rwa [List.map_map, List.map_map] at hm
  refine ⟨hf, hr, ?_⟩
  rw [submittedThenFlip_foldlM, h.scanning, ← List.getLast?_map, ← List.getLast?_map, hn]

/-- Once every commit is reported and every frame flipped, the passes over them leave nothing in flight. -/
theorem settles (hs : s.Sound) (hm : s.Complete) {k₁ k₂ : Kms} (hf : k₁.Flows s.delivered)
    (hse : k₁.handleCompletions = .ok k₂) (hv : k₁.volition.events = [])
    (hj : k₁.volition.jobs = s.kms.volition.jobs) (hh : k₁.schedules = s.kms.schedules) :
    k₂.completedPageFlips = [] ∧ ∀ p ∈ k₂.pipelines, p.frames.inFlight = none ∧
      p.retired.map OutputFrame.unstamped = p.scheduled.map OutputFrame.unstamped ∧
      p.scheduled.foldlM submittedThenFlip (.default, p.initialScanning) = .ok (.default, p.scanning) := by
  have hno : k₁.volition.outstanding = [] := by
    unfold Volition.outstanding
    rw [hv, hj, hm.1]; rfl
  have hr : Kms.Flows { k₁ with presentedOutputs := [] } s.delivered :=
    hf.same (Kms.sameFlights_of_eq rfl rfl rfl rfl)
  have hf₂ := Kms.handleCompletionsLoop_induct Kms.flows_completes hr hse
  obtain ⟨-, hs₂, he⟩ := Kms.handleCompletionsLoop_drains hr hno le_rfl hse
  have hs₂ : k₂.schedules = s.kms.schedules := hs₂.trans hh
  refine ⟨he, fun p hp => settled_of_length (hf₂.ordered p hp) ?_⟩
  have hmem : (k₂.scanoutCrtc p.scanoutIndex, p.scheduled) ∈ s.kms.schedules :=
    hs₂ ▸ List.mem_map.2 ⟨p, hp, rfl⟩
  obtain ⟨q, hq, hsa⟩ := List.mem_map.1 hmem
  obtain ⟨hqp, hsh⟩ := Prod.mk.inj hsa
  obtain ⟨scan, hsc, -⟩ := Option.map_eq_some_iff.1 (hs.conserved.wired q hq)
  have hqc : s.kms.scanoutCrtc q.scanoutIndex = some scan.output.crtc :=
    Option.map_eq_some_iff.2 ⟨scan, hsc, rfl⟩
  obtain ⟨hn, -⟩ := hf₂.accounted p hp _ (hqp.symm.trans hqc)
  have hd : k₂.queuedFlips scan.output.crtc = 0 := by
    unfold Kms.queuedFlips
    rw [he]; rfl
  rw [← hsh, ← hm.2 q hq _ hqc, ← hn, hd, add_zero]

/-- In every run whose commits are submitted and get one page flip each, in any order: the passes over reports and
page flips end without an error, each output's frames are retired once, in the order they were scheduled, each page
flip delivered is queued or retired a frame of its own CRTC, and once all came, acknowledging the reports and handling
the page flips leaves nothing in flight and the buffer scanned that reports before their flips leave. -/
theorem flips_commute (r : Rounding) (scanouts : List Scanout) (swapchains : List OutputSwapchain)
    (target : OutputId → Nat → UInt32) (instance' : Nat) (nextReadyFenceToken : UInt64) (k₀ : Kms)
    (hstart : Kms.start scanouts swapchains target instance' nextReadyFenceToken = .ok k₀) (es : List KmsEvent)
    (hes : Along (FlipSession.next r) Presents (start k₀) es) :
    let s := exec (FlipSession.next r) (start k₀) es
    (∃ k₁ k₂, s.kms.acknowledgeVolitionEvents = .ok k₁ ∧ k₁.handleCompletions = .ok k₂) ∧
      (∀ p ∈ s.kms.pipelines, p.Ordered ∧ ∀ crtc, s.kms.scanoutCrtc p.scanoutIndex = some crtc →
        p.retired.length + s.kms.queuedFlips crtc = s.delivered.count crtc) ∧
      (∀ flip ∈ s.kms.completedPageFlips, ∃ p ∈ s.kms.pipelines, s.kms.scanoutCrtc p.scanoutIndex = some flip.crtc) ∧
      (s.Complete →
        let k := (exec (FlipSession.next r) s [.acknowledgeVolition, .handleCompletions]).kms
        k.completedPageFlips = [] ∧ ∀ p ∈ k.pipelines, p.frames.inFlight = none ∧
          p.retired.map OutputFrame.unstamped = p.scheduled.map OutputFrame.unstamped ∧
          p.scheduled.foldlM submittedThenFlip (.default, p.initialScanning) = .ok (.default, p.scanning)) := by
  intro s
  have hs : s.Sound :=
    exec_invariant_along (I := Sound) (fun _ _ hs hpres => sound_next r hs hpres)
    (sound_start (Kms.start_ok hstart)) hes
  obtain ⟨k₁, k₂, hfir, hsec, hflow, heven, hjob, hsch⟩ := passes_succeed hs
  refine ⟨⟨k₁, k₂, hfir, hsec⟩,
    fun p hp => ⟨hs.flows.ordered p hp, fun crtc hpc => (hs.flows.accounted p hp crtc hpc).1⟩,
    hs.flows.queued, fun hcom => ?_⟩
  have hack : (s.next r .acknowledgeVolition).kms = k₁ := attempt_ok hfir
  have hhan : (exec (FlipSession.next r) s [.acknowledgeVolition, .handleCompletions]).kms = k₂ := by
    show attempt (s.next r .acknowledgeVolition).kms (s.next r .acknowledgeVolition).kms.handleCompletions = k₂
    rw [hack]; exact attempt_ok hsec
  show Kms.completedPageFlips (FlipSession.kms _) = [] ∧ _; rw [hhan]
  exact settles hs hcom hflow hsec heven hjob hsch

/-- Two displays present a frame each; both page flips come before Volition's reports, and one is seen too early. -/
def flipsFirst : List KmsEvent :=
  Kms.presents 1 7 1 ++ Kms.presents 2 8 1 ++
    [.pageFlip ⟨42, 0, none, none⟩, .handleCompletions, .pageFlip ⟨41, 0, none, none⟩, .volitionReport 1 (.submitted 5),
      .volitionReport 0 (.submitted 6)]

theorem flips_commute_pair :
    ∃ k₀, Kms.start [Kms.panel, Kms.sidePanel] [Kms.panelPool, Kms.sidePool] Kms.pairTarget 1 1 = .ok k₀ ∧
      let s := exec (FlipSession.next .exact) (start k₀) flipsFirst
      s.kms.completedPageFlips.length = 2 ∧
        let k := (exec (FlipSession.next .exact) s [.acknowledgeVolition, .handleCompletions]).kms
        k.completedPageFlips = [] ∧ ∀ p ∈ k.pipelines, p.frames.inFlight = none := by
  refine ⟨_, rfl, by decide +kernel, ?_⟩
  have hes := (flips_commute .exact [Kms.panel, Kms.sidePanel] [Kms.panelPool, Kms.sidePool] Kms.pairTarget 1 1 _ rfl
    flipsFirst (by decide +kernel)).2.2.2
  have hset := hes (by decide +kernel)
  exact hset.imp_right fun hpip p hp => (hpip p hp).1

end FlipSession

end Deniald.Output
