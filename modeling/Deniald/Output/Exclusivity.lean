/-
A run of the KMS scheduler and its broker from a fresh session: references are conserved from the
first state on, so a buffer that is scanned out, queued or leased is never handed to Flutter.
-/
import Deniald.Output.Holders

namespace Deniald.Output

open Deniald.Lib Deniald.Damage
open Deniald.Topology (OutputId PixelSize)
open Deniald.Frame (OutputFrameRequest Scanout)

/-! ## Steps -/

theorem OutputBufferBroker.render_renders (r : Rounding) {b : OutputBufferBroker} (hb : b.OK) (e : RenderEvent) :
    b.Renders (b.render r e).1 := by
  cases e with
  | authorize request now => exact (b.authorize_quiet request now).renders
  | cancelAuthorizations rid => exact (b.cancelAuthorizations_quiet rid).renders
  | expireAuthorizations now => exact (b.expireAuthorizations_quiet now).renders
  | acquire rvi size => exact (b.acquire_quiet rvi size).renders
  | beginTransaction => exact b.beginTransaction_renders
  | markReady rvi framebuffer fd dmg f ra feedback =>
    exact b.markReadyWithFeedback_renders r rvi framebuffer fd dmg f ra feedback
  | finishTransaction => exact (finishTransaction_quiet hb).renders
  | tagNextFrameForScreenshot out requestId =>
    show b.Renders (attempt b (b.tagNextFrameForScreenshot out requestId))
    refine attempt_invariant (I := fun b' => b.Renders b') (Quiet.refl b).renders fun b' h => ?_
    unfold tagNextFrameForScreenshot at h; split at h
    · cases h
    · cases h; exact (Quiet.refl b).renders
  | cancelScreenshotFrame requestId => exact (b.cancelScreenshotFrame_quiet requestId).renders

namespace Kms

theorem handle_keeps (r : Rounding) {k k' : Kms} {e : KmsEvent} (h : k.handle r e = .ok k') : k.Keeps k' := by
  cases e with
  | render event =>
    cases h
    exact fun hk => moves_render hk (OutputBufferBroker.render_renders r hk.ok event) _
  | publishReady now => exact publishNext_keeps h
  | acknowledgeReadyFences ss => exact acknowledgeReadyFences_keeps h
  | submitReady now accepts => exact submitReady_keeps h
  | volitionReport job outcome =>
    cases h
    exact fun hk => hk.moves_same _ rfl rfl rfl rfl rfl rfl rfl
  | foreignReport event =>
    cases h; unfold foreignReport
    split
    · exact .refl _
    · exact fun hk => hk.moves_same _ rfl rfl rfl rfl rfl rfl rfl
  | acknowledgeVolition =>
    have hr : k.Keeps { k with stalled := none } := fun hk => hk.moves_same _ rfl rfl rfl rfl rfl rfl rfl
    exact acknowledgeLoop_induct (fun h hstep => h.trans (acknowledges_keeps hstep)) hr h
  | pageFlip completion =>
    cases h
    exact fun hk => hk.moves_same _ rfl rfl rfl rfl rfl rfl rfl
  | handleCompletions =>
    have hr : k.Keeps { k with presentedOutputs := [] } := fun hk => hk.moves_same _ rfl rfl rfl rfl rfl rfl rfl
    exact handleCompletionsLoop_induct (fun h hstep => h.trans (completes_keeps hstep)) hr h
  | retainScreencopy out => exact retainScreencopy_keeps h
  | releaseScreencopy lease => exact releaseScreencopy_keeps h
  | beginPowerOff out =>
    obtain ⟨⟨k', waits⟩, hbe, rfl⟩ := map_ok.1 h; exact beginPowerOff_keeps hbe
  | cancelPowerOff out =>
    cases h; exact cancelPowerOff_keeps k out
  | powerOff out => exact powerOffOutput_keeps h
  | powerOn idx now => exact powerOnOutput_keeps h

theorem conserved_next (r : Rounding) {k : Kms} (hk : k.Conserved) (e : KmsEvent) : (k.next r e).Conserved :=
  attempt_invariant hk fun _ h => (handle_keeps r h hk.toSound).conserved hk

/-! ## Fresh sessions -/

/-- Scanouts that differ from one another, and from some scanouts before them, in output and CRTC. -/
structure Distinct (scanouts before : List Scanout) : Prop where
  outputs : (scanouts.map (·.output.id)).Nodup
  crtcs : (scanouts.map (·.output.crtc)).Nodup
  before : ∀ scanout ∈ scanouts, ∀ other ∈ before,
    other.output.id ≠ scanout.output.id ∧ other.output.crtc ≠ scanout.output.crtc

theorem validateScanoutIdentities_ok : ∀ {scanouts before : List Scanout},
    validateScanoutIdentities scanouts before = .ok () → Distinct scanouts before
  | [], _, _ => ⟨List.nodup_nil, List.nodup_nil, by simp⟩
  | scanout :: rest, before, h => by
    unfold validateScanoutIdentities at h; split at h
    · cases h
    split at h
    · cases h
    split at h
    · cases h
    split at h
    · cases h
    split at h
    · cases h
    rename_i hou; split at h
    · cases h
    split at h
    · cases h
    rename_i hr; split at h
    · cases h
    split at h
    · cases h
    have ih := validateScanoutIdentities_ok h
    simp only [List.any_eq_true, decide_eq_true_eq, not_exists, not_and] at hou hr
    have hf : ∀ other ∈ rest, scanout.output.id ≠ other.output.id ∧ scanout.output.crtc ≠ other.output.crtc :=
      fun other ho => ih.before other ho scanout (List.mem_cons_self ..)
    refine ⟨List.nodup_cons.2 ⟨fun hmem => ?_, ih.outputs⟩, List.nodup_cons.2 ⟨fun hmem => ?_, ih.crtcs⟩,
      List.forall_mem_cons.2 ⟨fun other ho => ⟨hou other ho, hr other ho⟩, fun s hs other ho =>
        ih.before s hs other (List.mem_cons_of_mem _ ho)⟩⟩
    · obtain ⟨other, ho, heq⟩ := List.mem_map.1 hmem; exact (hf other ho).1 heq.symm
    · obtain ⟨other, ho, heq⟩ := List.mem_map.1 hmem; exact (hf other ho).2 heq.symm

/-- What the start of a session has checked and built. -/
structure Started (scanouts : List Scanout) (swapchains : List OutputSwapchain)
    (target : OutputId → Nat → UInt32) (k : Kms) :
    Prop where
  distinct : Distinct scanouts []
  matched : ∀ pool ∈ swapchains, ∃ scanout ∈ scanouts, scanout.output.id = pool.outputId
  broker : OutputBufferBroker.new (swapchains.map (poolDescriptor target)) = .ok k.broker
  pipelines : List.Forall₂ (fun entry p => newPipeline swapchains entry.2 entry.1 = .ok p)
    (scanouts.zipIdx.filter fun entry => entry.1.powered) k.pipelines
  parked : List.Forall₂ (fun scanout buffer => newParked swapchains scanout = .ok buffer)
    (scanouts.filter fun scanout => !scanout.powered) k.parked
  scanouts : k.scanouts = scanouts
  pools : k.swapchains = swapchains
  fencePools : (k.readyFences.map fun pool => (pool.outputId, pool.slots.length)) =
    swapchains.map fun pool => (pool.outputId, pool.buffers.length)
  fences : ∀ pool ∈ k.readyFences, ∀ slot ∈ pool.slots, slot = .default
  readyFrames : k.readyFrames = []
  volition : k.volition.jobs = [] ∧ k.volition.events = []
  completedPageFlips : k.completedPageFlips = []
  leases : k.leases = []

variable {scanouts : List Scanout} {swapchains : List OutputSwapchain} {target : OutputId → Nat → UInt32}

theorem start_ok {instance' : Nat} {nrft : UInt64} {k : Kms}
    (h : start scanouts swapchains target instance' nrft = .ok k) : Started scanouts swapchains target k := by
  obtain ⟨⟨⟩, hv, h⟩ := bind_ok.1 h; split at h
  · cases h
  split at h
  · cases h
  rename_i hm
  obtain ⟨brk, hr, h⟩ := bind_ok.1 h
  obtain ⟨ps, hpi, h⟩ := bind_ok.1 h
  obtain ⟨p, hpa, h⟩ := bind_ok.1 h; cases h
  refine ⟨validateScanoutIdentities_ok hv, fun pool hpo => ?_, hr, mapM_ok hpi,
    mapM_ok hpa, rfl, rfl, ?_,
    ?_, rfl, ⟨rfl, rfl⟩, rfl, rfl⟩
  · by_contra hn
    refine hm (List.any_eq_true.2 ⟨pool, hpo, ?_⟩)
    simpa using hn
  · rw [List.map_map]
    refine List.map_congr_left fun pool _ => ?_
    simp
  · intro pool hpo slot hs
    obtain ⟨s, -, rfl⟩ := List.mem_map.1 hpo
    obtain ⟨_, -, rfl⟩ := List.mem_map.1 hs; rfl

/-- The buffer a scanout starts with, counted for one buffer. -/
def startsWith (swapchains : List OutputSwapchain) (o : OutputId) (i : Nat) (scanout : Scanout) : Nat :=
  if scanout.output.id = o ∧
      ((swapchains.find? fun pool => pool.outputId = scanout.output.id).map (·.current)) = some i then 1
  else 0

theorem newPipeline_ok {idx : Nat} {scanout : Scanout} {p : OutputPipeline}
    (h : newPipeline swapchains idx scanout = .ok p) :
    p.outputId = scanout.output.id ∧ p.scanoutIndex = idx ∧ p.frames = .default ∧ p.poweringOff = false ∧
      p.scheduled = [] ∧ p.retired = [] ∧ ∀ o i, p.holds o i = startsWith swapchains o i scanout := by
  unfold newPipeline at h; split at h
  · cases h
  rename_i pool hpo; cases h
  refine ⟨rfl, rfl, rfl, rfl, rfl, rfl, fun o i => ?_⟩; unfold startsWith
  rw [hpo]
  simp [OutputPipeline.holds, OutputPipeline.buffers, OutputPipelineFrames.default, List.count_singleton, ite_and]

theorem newParked_ok {scanout : Scanout} {buf : OutputId × Nat} (h : newParked swapchains scanout = .ok buf)
    (o : OutputId) (i : Nat) : (if buf == (o, i) then 1 else 0) = startsWith swapchains o i scanout := by
  unfold newParked at h; split at h
  · cases h
  rename_i pool hpo; cases h; unfold startsWith
  rw [hpo]
  simp

theorem map_zipIdx_filter {α β : Type} (p : α → Bool) (f : α → β) (l : List α) (n : Nat) :
    ((l.zipIdx n).filter fun ent => p ent.1).map (fun ent => f ent.1) = (l.filter p).map f := by
  induction l generalizing n with
  | nil => rfl
  | cons a l ih =>
    rw [List.zipIdx_cons, List.filter_cons, List.filter_cons]
    cases p a with
    | true => simp [ih]
    | false => simp [ih]

theorem pool_of_new {b : OutputBufferBroker}
    (h : OutputBufferBroker.new (swapchains.map (poolDescriptor target)) = .ok b) (o : OutputId) :
    b.pool o = (swapchains.find? fun pool => pool.outputId = o).map fun pool =>
      OutputBufferBroker.newPool (poolDescriptor target pool) := by
  obtain ⟨hr, -⟩ := OutputBufferBroker.new_ok h
  have hok := OutputBufferBroker.ok_of_new h
  cases hf : swapchains.find? fun pool => pool.outputId = o with
  | none =>
    refine List.find?_eq_none.2 fun p hp => ?_
    obtain ⟨d, hd, rfl⟩ := List.mem_map.1 (hr.mem_iff.1 hp)
    obtain ⟨s, hs, rfl⟩ := List.mem_map.1 hd; exact List.find?_eq_none.1 hf s hs
  | some s =>
    have hs := List.mem_of_find?_eq_some hf
    obtain rfl : s.outputId = o := by simpa using List.find?_some hf
    have hmem : OutputBufferBroker.newPool (poolDescriptor target s) ∈ b.pools :=
      hr.mem_iff.2 (List.mem_map_of_mem (List.mem_map_of_mem hs))
    exact find?_of_mem hok.outputs hmem

theorem refs_of_new {b : OutputBufferBroker}
    (h : OutputBufferBroker.new (swapchains.map (poolDescriptor target)) = .ok b) (o : OutputId) (i : Nat) :
    b.refs o i = if ((swapchains.find? fun pool => pool.outputId = o).map (·.current)) = some i then 1 else 0 := by
  obtain ⟨-, hf⟩ := OutputBufferBroker.new_ok h
  unfold OutputBufferBroker.refs OutputBufferBroker.slot; rw [pool_of_new h]
  cases hn : swapchains.find? fun pool => pool.outputId = o with
  | none => rfl
  | some s =>
    have hd := List.mem_map_of_mem (f := poolDescriptor target) (List.mem_of_find?_eq_some hn)
    have hr : s.current < s.buffers.length := by simpa [poolDescriptor] using hf.initial _ hd
    simp only [Option.bind_some, OutputBufferBroker.newPool, poolDescriptor, List.getElem?_mapIdx, List.getElem?_map,
      Option.map_map, Option.map_some, Option.some.injEq]
    by_cases hi : i < s.buffers.length
    · rw [List.getElem?_range hi]
      by_cases hc : s.current = i
      · subst hc; simp
      · simp [hc, Ne.symm hc]
    · rw [List.getElem?_eq_none (by simpa using hi), if_neg (by omega)]; rfl

theorem fresh_fenceSlot {k : Kms} (h : Started scanouts swapchains target k) {o : OutputId} {i : Nat}
    {slot : ReadyFenceSlot} (hs : k.fenceSlot o i = some slot) : slot = .default := by
  obtain ⟨pool, hpo, hge⟩ := Option.bind_eq_some_iff.1 hs
  exact h.fences pool (List.mem_of_find?_eq_some hpo) slot (List.mem_of_getElem? hge)

/-- In a fresh session each buffer scanned out or parked has its one reference. -/
theorem conserved_start {k : Kms} (h : Started scanouts swapchains target k) : k.Conserved where
  ok := OutputBufferBroker.ok_of_new h.broker
  fences output index slot hsl hsi := by
    rw [fresh_fenceSlot h hsl] at hsi; cases hsi
  wired p hp := by
    obtain ⟨⟨scanout, index⟩, he, hw⟩ := forall₂_mem_right h.pipelines p hp
    obtain ⟨hou, hs, -⟩ := newPipeline_ok hw
    have hge : scanouts[index]? = some scanout := List.mem_zipIdx_iff_getElem?.1 (List.mem_filter.1 he).1
    unfold scanoutOutput
    rw [h.scanouts, hs, hge, hou]; rfl
  sized o := by
    unfold forOutput
    rw [h.pools, pool_of_new h.broker, Option.map_map]
    refine congrArg (fun f => Option.map f _) (funext fun pool => ?_)
    simp [OutputBufferBroker.newPool, poolDescriptor]
  fenced o := by
    unfold forOutput fencePool
    rw [h.pools]; exact find?_map_of_map_eq h.fencePools o
  users o i := by
    have hr : ∀ p ∈ k.pipelines, p.readies o i = 0 := fun p hp => by
      obtain ⟨ent, -, hw⟩ := forall₂_mem_right h.pipelines p hp
      obtain ⟨-, -, hf, -⟩ := newPipeline_ok hw; unfold OutputPipeline.readies
      rw [hf]; simp [OutputPipelineFrames.default]
    rw [List.sum_eq_zero (by simpa using hr)]
    unfold fenceUsers discarding
    cases hsl : k.fenceSlot o i with
    | none => rfl
    | some slot => rw [fresh_fenceSlot h hsl]; rfl
  conserved o i := by
    have hpp : ∀ (ent : Scanout × Nat) (p : OutputPipeline), newPipeline swapchains ent.2 ent.1 = .ok p →
        p.holds o i = startsWith swapchains o i ent.1 := fun ent p hw => (newPipeline_ok hw).2.2.2.2.2.2 o i
    have hpi : (k.pipelines.map fun p => p.holds o i) =
        (scanouts.filter fun scanout => scanout.powered).map (startsWith swapchains o i) := by
      rw [← map_zipIdx_filter (fun scanout => scanout.powered) (startsWith swapchains o i) scanouts 0]
      exact map_eq_map_of_forall₂ hpp h.pipelines
    have hbu : ∀ (scanout : Scanout) (buf : OutputId × Nat), newParked swapchains scanout = .ok buf →
        (if buf == (o, i) then 1 else 0) = startsWith swapchains o i scanout := fun _ _ hw => newParked_ok hw o i
    have hpa : k.parked.count (o, i) =
        ((scanouts.filter fun scanout => !scanout.powered).map (startsWith swapchains o i)).sum := by
      rw [count_eq_sum_map]
      exact congrArg List.sum (map_eq_map_of_forall₂ hbu h.parked)
    have hd : k.discarding o i = 0 := by
      unfold discarding
      cases hsl : k.fenceSlot o i with
      | none => rfl
      | some slot => rw [fresh_fenceSlot h hsl]; rfl
    rw [refs_of_new h.broker]; unfold holders
    rw [hpi, hpa, hd, h.leases, List.count_nil, add_zero, add_zero,
      sum_map_filter_add (startsWith swapchains o i) (fun scanout => scanout.powered)]
    by_cases hmem : ∃ scanout ∈ scanouts, scanout.output.id = o
    · obtain ⟨scanout, hs, rfl⟩ := hmem
      have ho : ∀ other : Scanout, other.output.id ≠ scanout.output.id →
          startsWith swapchains scanout.output.id i other = 0 := fun other hh => if_neg fun h => hh h.1
      rw [sum_map_eq_single ho h.distinct.outputs hs]; unfold startsWith
      simp
    · -- an output without a scanout has no pool
      have hno : (swapchains.find? fun pool => pool.outputId = o) = none := by
        refine List.find?_eq_none.2 fun pool hpo heq => hmem ?_
        obtain ⟨scanout, hs, hid⟩ := h.matched pool hpo
        exact ⟨scanout, hs, hid.trans (of_decide_eq_true heq)⟩
      rw [hno, List.sum_eq_zero]
      · rfl
      · intro n hn
        obtain ⟨scanout, hs, rfl⟩ := List.mem_map.1 hn
        exact if_neg fun h => hmem ⟨scanout, hs, h.1⟩

/-! ## Runs -/

/-- In every reachable state of a session each buffer has as many output references as holders, at most one
buffer of a pool is away from the Free state and it has no reference; so a buffer that is scanned out,
queued or leased is never acquired for rendering. -/
theorem buffer_references_conserved (r : Rounding) (scanouts : List Scanout) (swapchains : List OutputSwapchain)
    (target : OutputId → Nat → UInt32) (instance' : Nat) (nextReadyFenceToken : UInt64) (k₀ : Kms)
    (hstart : start scanouts swapchains target instance' nextReadyFenceToken = .ok k₀) (es : List KmsEvent) :
    let k := exec (Kms.next r) k₀ es
    (∀ output index, k.broker.refs output index = k.holders output index) ∧
      (∀ pool ∈ k.broker.pools,
        (∀ (i j : Nat) (s t : OutputBufferSlot), pool.slots[i]? = some s → pool.slots[j]? = some t → s.state ≠ .free →
          t.state ≠ .free → i = j) ∧
        ∀ slot ∈ pool.slots, slot.state ≠ .free → slot.outputRefs = 0) ∧
      ∀ (renderViewId : Int) (size : PixelSize) (framebuffer : UInt32) (b : OutputBufferBroker),
        k.broker.acquire renderViewId size = (b, .ok framebuffer) →
          ∀ output index slot, k.broker.slot output index = some slot → slot.framebuffer = framebuffer →
            k.holders output index = 0 := by
  intro k
  have hk : k.Conserved :=
    exec_invariant (I := Conserved) (fun _ e h => conserved_next r h e) es (conserved_start (start_ok hstart))
  refine ⟨hk.conserved, fun pool hpool => ⟨(hk.ok.pools pool hpool).exclusive, fun slot hslot =>
    ((hk.ok.pools pool hpool).slots slot hslot).unreferenced⟩,
    fun renderViewId size framebuffer b hacq output index slot
      hslot hfram => ?_⟩
  obtain ⟨p, hp, -, -, s, hs, hfb, href⟩ := acquire_slot hacq
  obtain ⟨q, hq, hget⟩ := Option.bind_eq_some_iff.1 hslot
  -- the slot is the acquired one, which has no reference
  have hsam : slot = s := hk.ok.slot_unique
    (List.mem_flatMap.2 ⟨q, List.mem_of_find?_eq_some hq, List.mem_of_getElem? hget⟩) (List.mem_flatMap.2 ⟨p, hp, hs⟩)
    (hfram.trans hfb.symm)
  rw [← hk.conserved output index]; unfold OutputBufferBroker.refs
  rw [hslot, hsam]; exact href

/-- A display with three buffers, the first of them scanned out. -/
def panel : Scanout where
  output := { id := 1, connector := 1, crtc := 41, mode := ⟨0, 60000⟩, transform := .normal, vrrEnabled := false }
  plane := 31
  sourceRect := ⟨0, 0, 4, 4⟩
  powered := true

def panelPool : OutputSwapchain where
  outputId := 1
  renderViewId := 7
  configurationGeneration := 1
  size := ⟨4, 4⟩
  buffers := [101, 102, 103]
  current := 0

def panelTarget (_ : OutputId) (index : Nat) : UInt32 := 11 + index.toUInt32

def panelRequest : OutputFrameRequest where
  tick := { output := 1, sequence := 1, renderDeadline := 0, presentationTarget := 16, interval := 16 }
  dirtySerial := 1
  mark := 1

/-- Rendering its first frame, the display scans one buffer out and hands another one to Flutter. -/
theorem buffer_references_conserved_panel :
    ∃ k₀, start [panel] [panelPool] panelTarget 1 1 = .ok k₀ ∧
      (exec (Kms.next .exact) k₀ [.render (.authorize panelRequest 0)]).broker.refs 1 0 =
        (exec (Kms.next .exact) k₀ [.render (.authorize panelRequest 0)]).holders 1 0 ∧
      (exec (Kms.next .exact) k₀ [.render (.authorize panelRequest 0)]).holders 1 1 = 0 :=
  have h := buffer_references_conserved .exact [panel] [panelPool] panelTarget 1 1 _ rfl
    [.render (.authorize panelRequest 0)]
  ⟨_, rfl, h.1 1 0, h.2.2 7 ⟨4, 4⟩ 12 _ rfl 1 1 _ rfl rfl⟩

end Kms

end Deniald.Output
