/-
Buffer references are conserved: in every reachable state of the KMS scheduler and its broker each
buffer has exactly as many output references as it has holders. Operations are followed by what they
add to the gap between the two, piece by piece; whole operations add nothing.
-/
import Deniald.Output.Pool
import Deniald.Output.Steps

namespace Deniald.Output

open Deniald.Lib Deniald.Damage
open Deniald.Topology (OutputId PixelSize)
open Deniald.Frame (OutputFrameRequest Scanout)
open OutputBufferBroker OutputPipeline

/-! ## Holders -/

/-- The output references of a buffer, zero where there is none. -/
def OutputBufferBroker.refs (b : OutputBufferBroker) (output : OutputId) (index : Nat) : Nat :=
  ((b.slot output index).map (·.outputRefs)).getD 0

def OutputPipeline.buffers (p : OutputPipeline) : List Nat :=
  p.scanning :: ((p.frames.inFlight.map (·.frame.index)).toList ++ (p.frames.ready.map (·.index)).toList)

def OutputPipeline.holds (p : OutputPipeline) (output : OutputId) (index : Nat) : Nat :=
  if p.outputId = output then p.buffers.count index else 0

def OutputPipeline.readies (p : OutputPipeline) (output : OutputId) (index : Nat) : Nat :=
  if p.outputId = output ∧ p.frames.ready.map (·.index) = some index then 1 else 0

namespace Kms

/-- The users of a buffer's fence, zero where there is none. -/
def fenceUsers (k : Kms) (output : OutputId) (index : Nat) : Nat := ((k.fenceSlot output index).map (·.users)).getD 0

/-- The discarded frames in a buffer that wait for its fence. -/
def discarding (k : Kms) (output : OutputId) (index : Nat) : Nat :=
  ((k.fenceSlot output index).map (·.discardUsersOnSignal)).getD 0

/-- The holders of a buffer: its output's pipeline, with scanned, in-flight and ready frame, the discarded
frames whose fence is not signaled, the parked buffers and the leases. -/
def holders (k : Kms) (output : OutputId) (index : Nat) : Nat :=
  (k.pipelines.map fun p => p.holds output index).sum + k.discarding output index + k.parked.count (output, index) +
    k.leases.count (output, index)

/-- The references of a buffer beyond its holders. -/
def gap (k : Kms) (output : OutputId) (index : Nat) : Int := k.broker.refs output index - k.holders output index

/-- The users of a buffer's fence beyond the ready frame in the buffer and the discarded ones. -/
def fenceGap (k : Kms) (output : OutputId) (index : Nat) : Int :=
  k.fenceUsers output index - (k.discarding output index + (k.pipelines.map fun p => p.readies output index).sum : Nat)

/-- Fences: a signaled fence has no discard pending. Pipelines: each is of its scanout's output. Pools: the
broker, the scheduler and the fences have as many buffers for an output. -/
structure Sound (k : Kms) : Prop where
  ok : k.broker.OK
  fences : ∀ output index slot, k.fenceSlot output index = some slot → slot.signaled → slot.discardUsersOnSignal = 0
  wired : ∀ p ∈ k.pipelines, k.scanoutOutput p.scanoutIndex = some p.outputId
  sized : ∀ output, (k.broker.pool output).map (·.slots.length) = (k.forOutput output).map (·.buffers.length)
  fenced : ∀ output, (k.fencePool output).map (·.slots.length) = (k.forOutput output).map (·.buffers.length)

structure Conserved (k : Kms) : Prop extends Sound k where
  conserved : ∀ output index, k.broker.refs output index = k.holders output index
  users : ∀ output index, k.fenceUsers output index =
    k.discarding output index + (k.pipelines.map fun p => p.readies output index).sum

structure Moves (change fenceChange : OutputId → Nat → Int) (k k' : Kms) : Prop where
  sound : k'.Sound
  gap : ∀ output index, k'.gap output index = k.gap output index + change output index
  fenceGap : ∀ output index, k'.fenceGap output index = k.fenceGap output index + fenceChange output index

variable {k k' : Kms} {output : OutputId} {index : Nat} {slot : ReadyFenceSlot} {now : Int}

theorem Moves.trans {c c' d d' : OutputId → Nat → Int} {k'' : Kms} (h : Moves c d k k') (h' : Moves c' d' k' k'') :
    Moves (fun o i => c o i + c' o i) (fun o i => d o i + d' o i) k k'' :=
  ⟨h'.sound, fun o i => by rw [h'.gap, h.gap]; omega, fun o i => by rw [h'.fenceGap, h.fenceGap]; omega⟩

theorem Moves.congr {c c' d d' : OutputId → Nat → Int} (h : Moves c d k k') (hc : ∀ o i, c o i = c' o i)
    (hd : ∀ o i, d o i = d' o i) : Moves c' d' k k' :=
  ⟨h.sound, fun o i => by rw [h.gap, hc], fun o i => by rw [h.fenceGap, hd]⟩

theorem Moves.conserved (h : Moves (fun _ _ => 0) (fun _ _ => 0) k k') (hk : k.Conserved) : k'.Conserved where
  toSound := h.sound
  conserved o i := by
    have hga := h.gap o i
    have hf := hk.conserved o i
    unfold Kms.gap at hga; omega
  users o i := by
    have hga := h.fenceGap o i
    have hf := hk.users o i
    unfold Kms.fenceGap at hga; omega

/-- One of a buffer. -/
def unit (output : OutputId) (index : Nat) (o : OutputId) (i : Nat) : Int := if o = output ∧ i = index then 1 else 0

/-! ## Changes of the broker -/

theorem pool_length_of_step {b b' : OutputBufferBroker} (h : b.Step b') (o : OutputId) :
    (b'.pool o).map (·.slots.length) = (b.pool o).map (·.slots.length) := by
  unfold pool
  rcases forall₂_find?_key (fun _ _ h => h.outputId) o h with ⟨hn, hn'⟩ | ⟨p, p', hp, hp', hstep⟩
  · rw [hn, hn']
  rw [hp, hp']; have := congrArg List.length hstep.framebuffers
  simp only [List.length_map] at this; exact congrArg some this

variable {broker : OutputBufferBroker}

theorem Sound.setBroker (hk : k.Sound) (h : k.broker.Step broker) :
    Sound { k with broker := broker } :=
  ⟨ok_of_step h hk.ok, hk.fences, hk.wired,
    fun o => (pool_length_of_step h o).trans (hk.sized o), hk.fenced⟩

theorem refs_of_renders {b b' : OutputBufferBroker} (h : b.Renders b') (o : OutputId) (i : Nat) :
    b'.refs o i = b.refs o i := by
  unfold refs slot pool
  rcases forall₂_find?_key (fun _ _ h => h.outputId) o h with ⟨hn, hn'⟩ | ⟨p, p', hp, hp', hstep⟩
  · rw [hn, hn']
  rw [hp, hp']; have := congrArg (·[i]?) hstep.refs
  simp only [List.getElem?_map] at this
  simp only [Option.bind_some]; rw [this]

theorem moves_render (hk : k.Sound) (h : k.broker.Renders broker) (fs : List ReadyOutputFrame) :
    Moves (fun _ _ => 0) (fun _ _ => 0) k { k with broker := broker, readyFrames := fs } where
  sound := by
    have := hk.setBroker h.step
    exact ⟨this.ok, this.fences, this.wired, this.sized, this.fenced⟩
  gap o i := by
    show (broker.refs o i : Int) - k.holders o i = k.broker.refs o i - k.holders o i + 0
    rw [refs_of_renders h]; omega
  fenceGap o i := (add_zero _).symm

/-- An operation on one slot that changes its references by `change`. -/
theorem moves_updateSlot (change : Int) (hk : k.Sound) {m : String}
    {f : OutputBufferSlot → Except String OutputBufferSlot}
    (hf : ∀ s s', f s = .ok s' → SlotStep s s' ∧ s'.damage = s.damage)
    (hr : ∀ s s', f s = .ok s' → (s'.outputRefs : Int) = s.outputRefs + change)
    (h : k.broker.updateSlot output index m f = .ok broker) :
    Moves (fun o i => change * unit output index o i) (fun _ _ => 0) k { k with broker := broker } := by
  obtain ⟨hstep, s, s', hsl, hs, hlo⟩ := updateSlot_spec hf h
  refine ⟨hk.setBroker (hstep.imp fun _ _ h => h.toPoolStep), fun o i => ?_, fun o i => (add_zero _).symm⟩
  show (broker.refs o i : Int) - k.holders o i = k.broker.refs o i - k.holders o i + change * unit output index o i
  unfold refs unit; rw [hlo]
  by_cases ho : o = output ∧ i = index
  · obtain ⟨rfl, rfl⟩ := ho; rw [hsl]
    have := hr s s' hs
    simp only [and_self, if_true, Option.map_some, Option.getD_some]; omega
  · simp only [if_neg ho]; omega

theorem moves_publish (hk : k.Sound) {output : ReadyOutputFrame} (h : k.broker.publish output = .ok broker) :
    Moves (unit output.outputId output.index) (fun _ _ => 0) k { k with broker := broker } := by
  refine (moves_updateSlot 1 hk (fun s s' hs => ⟨s.publish_step hs, s.publish_damage hs⟩) (fun s s' hs => ?_) h).congr
    (fun o i => one_mul _) fun _ _ => rfl
  unfold OutputBufferSlot.publish at hs; split at hs
  · cases hs
  rename_i hr; cases hs
  have : s.outputRefs = 0 := not_not.1 (not_or.1 hr).2
  simp [this]

theorem moves_release (hk : k.Sound) (h : k.broker.releaseOutput output index = .ok broker) :
    Moves (fun o i => -unit output index o i) (fun _ _ => 0) k { k with broker := broker } := by
  refine (moves_updateSlot (-1) hk (fun s s' hs => ⟨s.release_step hs, s.release_damage hs⟩)
    (fun s s' hs => ?_) h).congr
    (fun o i => neg_one_mul _) fun _ _ => rfl
  unfold OutputBufferSlot.release at hs; split at hs
  · cases hs
  · cases hs
    show ((s.outputRefs - 1 : Nat) : Int) = _; omega

theorem moves_retain (hk : k.Sound) (h : k.broker.retainOutput output index = .ok broker) :
    Moves (unit output index) (fun _ _ => 0) k { k with broker := broker } := by
  refine (moves_updateSlot 1 hk (fun s s' hs => ⟨s.retain_step hs, s.retain_damage hs⟩) (fun s s' hs => ?_) h).congr
    (fun o i => one_mul _) fun _ _ => rfl
  unfold OutputBufferSlot.retain at hs; split at hs
  · cases hs
  split at hs
  · cases hs
  · cases hs
    show ((s.outputRefs + 1 : Nat) : Int) = _; omega

/-! ## Changes of the holders -/

theorem holds_eq (p : OutputPipeline) (o : OutputId) (i : Nat) : (p.holds o i : Int) = unit p.outputId p.scanning o i +
      ((p.frames.inFlight.map fun f => unit p.outputId f.frame.index o i).getD 0 +
        (p.frames.ready.map fun ready => unit p.outputId ready.index o i).getD 0) := by
  unfold holds buffers unit
  by_cases ho : p.outputId = o
  · subst ho
    cases p.frames.inFlight <;> cases p.frames.ready <;>
      simp [List.count_cons, eq_comm (b := i)] <;> omega
  have hne : ∀ j, ¬(o = p.outputId ∧ i = j) := fun j h => ho h.1.symm
  simp only [if_neg ho, hne, if_false]
  cases p.frames.inFlight <;> cases p.frames.ready <;> rfl

theorem readies_eq (p : OutputPipeline) (o : OutputId) (i : Nat) :
    (p.readies o i : Int) = (p.frames.ready.map fun ready => unit p.outputId ready.index o i).getD 0 := by
  unfold readies unit
  cases p.frames.ready with
  | none => simp
  | some ready =>
    simp only [Option.map_some, Option.getD_some, Option.some.injEq, eq_comm (b := o), eq_comm (b := i)]
    split <;> rfl

theorem moves_holders (hk : k.Sound) (pipelines : List OutputPipeline) (parked leases : List (OutputId × Nat))
    (hw : ∀ p ∈ pipelines, k.scanoutOutput p.scanoutIndex = some p.outputId) :
    Moves (fun o i => (k.pipelines.map fun p => p.holds o i).sum - (pipelines.map fun p => p.holds o i).sum +
        (k.parked.count (o, i) - parked.count (o, i)) + (k.leases.count (o, i) - leases.count (o, i)))
      (fun o i => (k.pipelines.map fun p => p.readies o i).sum - (pipelines.map fun p => p.readies o i).sum) k
      { k with pipelines := pipelines, parked := parked, leases := leases } where
  sound := ⟨hk.ok, hk.fences, hw, hk.sized, hk.fenced⟩
  gap o i := by
    show (k.broker.refs o i : Int) - ((pipelines.map fun p => p.holds o i).sum + k.discarding o i +
      parked.count (o, i) + leases.count (o, i) : Nat) =
        k.broker.refs o i - ((k.pipelines.map fun p => p.holds o i).sum +
        k.discarding o i + k.parked.count (o, i) + k.leases.count (o, i) : Nat) + _
    omega
  fenceGap o i := by
    show (k.fenceUsers o i : Int) - (k.discarding o i + (pipelines.map fun p => p.readies o i).sum : Nat) =
      k.fenceUsers o i - (k.discarding o i + (k.pipelines.map fun p => p.readies o i).sum : Nat) + _
    omega

theorem moves_setPipeline (hk : k.Sound) {p : OutputPipeline} (hge : k.pipelines[index]? = some p)
    (p' : OutputPipeline) (ho : p'.outputId = p.outputId) (hs : p'.scanoutIndex = p.scanoutIndex) :
    Moves (fun o i => p.holds o i - p'.holds o i) (fun o i => p.readies o i - p'.readies o i) k
    (k.setPipeline index p') := by
  refine (moves_holders hk (k.pipelines.set index p') k.parked k.leases fun q hq => ?_).congr (fun o i => ?_) fun o i => ?_
  · rcases List.mem_or_eq_of_mem_set hq with hq | rfl
    · exact hk.wired q hq
    · rw [ho, hs]; exact hk.wired p (List.mem_of_getElem? hge)
  · have := sum_map_set (fun p => holds p o i) (b := p') hge
    omega
  · have := sum_map_set (fun p => readies p o i) (b := p') hge
    omega

theorem fencePool_setFenceSlot (k : Kms) (output : OutputId) (index : Nat) (slot : ReadyFenceSlot) (o : OutputId) :
    (k.setFenceSlot output index slot).fencePool o =
      if o = output then (k.fencePool output).map fun pool => { pool with slots := pool.slots.set index slot }
      else k.fencePool o := by
  have hk : ∀ pool : OutputReadyFences,
      OutputReadyFences.outputId { pool with slots := pool.slots.set index slot } = pool.outputId := fun _ => rfl
  exact find?_modifyFirst_key hk output o k.readyFences

theorem fenceSlot_setFenceSlot (hge : k.fenceSlot output index = some slot) (slot' : ReadyFenceSlot) (o : OutputId)
    (i : Nat) : (k.setFenceSlot output index slot').fenceSlot o i =
      if o = output ∧ i = index then some slot' else k.fenceSlot o i := by
  obtain ⟨pool, hpo, hs⟩ := Option.bind_eq_some_iff.1 hge; unfold fenceSlot
  rw [fencePool_setFenceSlot]
  by_cases ho : o = output
  · subst ho
    obtain ⟨hlt, -⟩ := List.getElem?_eq_some_iff.1 hs
    simp only [if_true, hpo, Option.map_some, Option.bind_some, true_and]
    by_cases hi : i = index
    · subst hi; rw [if_pos rfl, List.getElem?_set_self hlt]
    · rw [if_neg hi, List.getElem?_set_ne (Ne.symm hi)]
  · rw [if_neg ho, if_neg fun h => ho h.1]

theorem moves_setFenceSlot (hk : k.Sound) (hge : k.fenceSlot output index = some slot) (slot' : ReadyFenceSlot)
    (hn : slot'.signaled → slot'.discardUsersOnSignal = 0) :
    Moves (fun o i => (slot.discardUsersOnSignal - slot'.discardUsersOnSignal) * unit output index o i) (fun o i =>
        (slot'.users - slot.users + (slot.discardUsersOnSignal - slot'.discardUsersOnSignal)) * unit output index o i)
      k (k.setFenceSlot output index slot') where
  sound := by
    refine ⟨hk.ok, fun o i s hs => ?_, hk.wired, hk.sized, fun o => ?_⟩
    · rw [fenceSlot_setFenceSlot hge slot'] at hs; split at hs
      · obtain rfl := Option.some.inj hs; exact hn
      · exact hk.fences o i s hs
    · refine Eq.trans ?_ (hk.fenced o); rw [fencePool_setFenceSlot]
      split
      · rename_i ho; subst ho; rw [Option.map_map]
        exact congrArg (fun f => Option.map f _) (funext fun pool => List.length_set)
      · rfl
  gap o i := by
    show (k.broker.refs o i : Int) - ((k.pipelines.map fun p => p.holds o i).sum +
      (k.setFenceSlot output index slot').discarding o i + k.parked.count (o, i) + k.leases.count (o, i) : Nat) =
        k.broker.refs o i - ((k.pipelines.map fun p => p.holds o i).sum + k.discarding o i + k.parked.count (o, i) +
          k.leases.count (o, i) : Nat) + _
    unfold discarding unit; rw [fenceSlot_setFenceSlot hge slot']
    by_cases ho : o = output ∧ i = index
    · obtain ⟨rfl, rfl⟩ := ho; rw [hge]
      simp only [and_self, if_true, Option.map_some, Option.getD_some]; omega
    · simp only [if_neg ho]; omega
  fenceGap o i := by
    show ((k.setFenceSlot output index slot').fenceUsers o i : Int) -
      ((k.setFenceSlot output index slot').discarding o i +
      (k.pipelines.map fun p => p.readies o i).sum : Nat) =
        k.fenceUsers o i - (k.discarding o i + (k.pipelines.map fun p => p.readies o i).sum : Nat) + _
    unfold fenceUsers discarding unit; rw [fenceSlot_setFenceSlot hge slot']
    by_cases ho : o = output ∧ i = index
    · obtain ⟨rfl, rfl⟩ := ho; rw [hge]
      simp only [and_self, if_true, Option.map_some, Option.getD_some]; omega
    · simp only [if_neg ho]; omega

theorem Sound.moves_same (hk : k.Sound) (k' : Kms) (hr : k'.broker = k.broker)
    (hpi : k'.pipelines = k.pipelines) (hf : k'.readyFences = k.readyFences)
    (hpa : k'.parked = k.parked) (hle : k'.leases = k.leases) (hn : k'.scanouts = k.scanouts)
    (hw : k'.swapchains = k.swapchains) : Moves (fun _ _ => 0) (fun _ _ => 0) k k' where
  sound := by
    refine ⟨by rw [hr]; exact hk.ok, fun o i slot hs => hk.fences o i slot ?_, fun p hp => ?_,
      fun o => ?_, fun o => ?_⟩
    · unfold fenceSlot fencePool at hs ⊢
      rwa [hf] at hs
    · rw [hpi] at hp; unfold scanoutOutput
      rw [hn]; exact hk.wired p hp
    · unfold forOutput
      rw [hr, hw]; exact hk.sized o
    · unfold forOutput fencePool
      rw [hf, hw]; exact hk.fenced o
  gap o i := by
    unfold gap holders discarding fenceSlot fencePool
    rw [hr, hpi, hf, hpa, hle, add_zero]
  fenceGap o i := by
    unfold fenceGap fenceUsers discarding fenceSlot fencePool; rw [hpi, hf, add_zero]

theorem forOutput_presentedPools (k : Kms) (output : OutputId) (index : Nat) (o : OutputId) :
    (forOutput { k with swapchains := k.presentedPools output index } o).map (·.buffers.length) =
      (k.forOutput o).map (·.buffers.length) := by
  have hk : ∀ pool : OutputSwapchain, OutputSwapchain.outputId { pool with current := index } = pool.outputId :=
    fun _ => rfl
  have hf := find?_modifyFirst_key hk output o k.swapchains
  unfold forOutput presentedPools; rw [hf]
  split
  · rename_i ho; subst ho
    rw [Option.map_map]; rfl
  · rfl

theorem moves_presentedPools (hk : k.Sound) (output : OutputId) (index : Nat) :
    Moves (fun _ _ => 0) (fun _ _ => 0) k { k with swapchains := k.presentedPools output index } where
  sound := ⟨hk.ok, hk.fences, hk.wired, fun o => (hk.sized o).trans (forOutput_presentedPools k output index o).symm,
    fun o => (hk.fenced o).trans (forOutput_presentedPools k output index o).symm⟩
  gap _ _ := (add_zero _).symm
  fenceGap _ _ := (add_zero _).symm

/-- A change that keeps the gaps. -/
def Keeps (k k' : Kms) : Prop := k.Sound → Moves (fun _ _ => 0) (fun _ _ => 0) k k'

theorem Keeps.refl (k : Kms) : k.Keeps k := fun hk => hk.moves_same _ rfl rfl rfl rfl rfl rfl rfl

theorem Keeps.trans {k'' : Kms} (h : k.Keeps k') (h' : k'.Keeps k'') : k.Keeps k'' := fun hk =>
  ((h hk).trans (h' (h hk).sound)).congr (fun _ _ => add_zero 0) fun _ _ => add_zero 0

/-! ## Users of buffers -/

theorem releaseFrame_moves (hk : k.Sound) (hge : k.fenceSlot output index = some slot)
    (hd : slot.discardUsersOnSignal = 0) (h : k.releaseFrame output index slot = .ok k') :
    Moves (fun o i => -unit output index o i) (fun o i => -unit output index o i) k k' ∧
      ∃ slot', k'.fenceSlot output index = some slot' ∧ slot'.discardUsersOnSignal = 0 := by
  obtain ⟨broker, slot', hbr, hs', rfl⟩ := releaseFrame_ok h
  obtain ⟨hu, hd'⟩ := ReadyFenceSlot.releaseUser_ok hs' hd
  have hr := moves_release hk hbr
  have hg' : fenceSlot { k with broker := broker } output index = some slot := hge
  have hs := moves_setFenceSlot hr.sound hg' slot' fun _ => hd'
  refine ⟨(hr.trans hs).congr (fun o i => ?_) fun o i => ?_, slot', ?_, hd'⟩
  · simp [hd, hd']
  · rw [hu, hd, hd']
    push_cast; ring
  · rw [fenceSlot_setFenceSlot hg' slot', if_pos ⟨rfl, rfl⟩]

theorem discardUser_moves (hk : k.Sound) (hge : k.fenceSlot output index = some slot)
    (h : k.discardUser output index slot = .ok k') :
    Moves (fun o i => -unit output index o i) (fun o i => -unit output index o i) k k' := by
  unfold discardUser at h; split at h
  · rename_i hs
    exact (releaseFrame_moves hk hge (hk.fences _ _ _ hge hs) h).1
  obtain ⟨slot', hs', h⟩ := bind_ok.1 h; cases h
  obtain ⟨hs, rfl⟩ := ReadyFenceSlot.discardUserWhenSignaled_ok hs'
  refine (moves_setFenceSlot hk hge _ fun h => ?_).congr (fun o i => ?_) fun o i => ?_
  · rw [hs] at h; cases h
  · push_cast; ring
  · push_cast; ring

theorem discardReadyFrame_moves (hk : k.Sound) {frame : OutputFrame} {lost : String}
    (h : k.discardReadyFrame output frame lost = .ok k') :
    Moves (fun o i => -unit output frame.index o i) (fun o i => -unit output frame.index o i) k k' := by
  obtain ⟨slot, hs, h⟩ := discardReadyFrame_ok h; exact discardUser_moves hk hs h

theorem unready_moves (hk : k.Sound) {p : OutputPipeline} {r : OutputFrame} {lost : String}
    (hge : k.pipelines[index]? = some p) (hr : p.frames.ready = some r) (p' : OutputPipeline)
    (ho : p'.outputId = p.outputId) (hn : p'.scanoutIndex = p.scanoutIndex)
    (hs : p'.scanning = p.scanning) (hf : p'.frames = ⟨none, p.frames.inFlight⟩)
    (h : (k.setPipeline index p').discardReadyFrame p.outputId r lost = .ok k') :
    Moves (fun _ _ => 0) (fun _ _ => 0) k k' := by
  have hse := moves_setPipeline hk hge p' ho hn
  refine (hse.trans (discardReadyFrame_moves hse.sound h)).congr (fun o i => ?_) fun o i => ?_
  · rw [holds_eq, holds_eq, ho, hs, hf, hr]
    simp only [Option.map_some, Option.map_none, Option.getD_some, Option.getD_none]; omega
  · rw [readies_eq, readies_eq, ho, hf, hr]
    simp only [Option.map_some, Option.map_none, Option.getD_some, Option.getD_none]; omega

/-! ## Publication and fences -/

theorem publishReady_keeps {output : ReadyOutputFrame} {s : Option ReadyFenceSignal}
    (h : k.publishReady output now = .ok (k', s)) : k.Keeps k' := by
  intro hk
  obtain ⟨pool, slot, broker, token, nextToken, hpo, -, hs, hu, hd, hbr, h⟩ := publishReady_ok h
  have hpu := moves_publish hk hbr
  have hto := hpu.sound.moves_same { k with broker := broker, nextReadyFenceToken := nextToken }
    rfl rfl rfl rfl rfl rfl rfl
  have hge : fenceSlot { k with broker := broker, nextReadyFenceToken := nextToken }
    output.outputId output.index = some slot :=
    fenceSlot_eq hpo hs
  have hcl := moves_setFenceSlot hto.sound hge ⟨output.fence, 1, token, output.fence.isNone, 0⟩ fun _ => rfl
  have hm := (hpu.trans hto).trans hcl
  rcases handOff_ok h with ⟨index, pipeline, hpi, ho, -, hr, rfl⟩ | ⟨-, h⟩
  · refine (hm.trans (moves_setPipeline hm.sound hpi
      (installs pipeline (output.outputFrame now)) rfl rfl)).congr (fun o i => ?_) fun o i => ?_
    · rw [holds_eq, holds_eq, hr, ← ho, hd]
      simp [installs, ReadyOutputFrame.outputFrame]
    · rw [readies_eq, readies_eq, hr, ← ho, hd, hu]
      simp [installs, ReadyOutputFrame.outputFrame]
  · have hg' := fenceSlot_setFenceSlot hge ⟨output.fence, 1, token, output.fence.isNone, 0⟩
      output.outputId output.index
    rw [if_pos ⟨rfl, rfl⟩] at hg'
    refine (hm.trans (discardUser_moves hm.sound hg' h)).congr (fun o i => ?_) fun o i => ?_
    · simp [hd]
    · simp [hd, hu]

theorem publishNext_keeps (h : k.publishNext now = .ok k') : k.Keeps k' := by
  rcases publishNext_ok h with rfl | ⟨index, frame, signal, -, -, h⟩
  · exact .refl _
  · refine Keeps.trans (fun hk => hk.moves_same _ ?_ ?_ ?_ ?_ ?_ ?_ ?_) (publishReady_keeps h) <;> rfl

theorem releaseDiscarded_moves : ∀ {us : Nat} {k k' : Kms} {slot : ReadyFenceSlot},
    k.Sound → k.fenceSlot output index = some slot → slot.discardUsersOnSignal = 0 →
      releaseDiscarded output index us k = .ok k' →
        Moves (fun o i => -(us * unit output index o i)) (fun o i => -(us * unit output index o i)) k k'
  | 0, k, _, _, hk, _, _, h => by
    cases h
    refine (Keeps.refl k hk).congr (fun o i => ?_) fun o i => ?_ <;> simp
  | us + 1, k, k', slot, hk, hge, hd, h => by
    unfold releaseDiscarded at h
    simp only [hge] at h
    obtain ⟨k₁, hr, h⟩ := bind_ok.1 h
    obtain ⟨hm, slot', hg', hd'⟩ := releaseFrame_moves hk hge hd hr
    refine (hm.trans (releaseDiscarded_moves hm.sound hg' hd' h)).congr
      (fun o i => ?_) fun o i => ?_ <;>
      · push_cast; ring

theorem acknowledgeReadyFence_keeps {s : ReadyFenceSignal} (h : k.acknowledgeReadyFence s = .ok k') : k.Keeps k' := by
  rcases acknowledgeReadyFence_ok h with rfl | ⟨slot, hge, h⟩
  · exact .refl _
  intro hk
  have hs := moves_setFenceSlot hk hge { slot with signaled := true, discardUsersOnSignal := 0 } fun _ => rfl
  have hg' := fenceSlot_setFenceSlot hge { slot with signaled := true, discardUsersOnSignal := 0 }
    s.output s.index
  rw [if_pos ⟨rfl, rfl⟩] at hg'
  refine (hs.trans (releaseDiscarded_moves hs.sound hg' rfl h)).congr (fun o i => ?_) fun o i => ?_ <;>
    · push_cast; ring

theorem acknowledgeReadyFences_keeps {ss : List ReadyFenceSignal} (h : k.acknowledgeReadyFences ss = .ok k') :
    k.Keeps k' :=
  foldlM_rel Keeps.refl (fun _ _ _ => Keeps.trans) (fun _ _ _ => acknowledgeReadyFence_keeps) h

/-! ## Submission, acknowledgements and completions -/

/-- A submitted frame holds its buffer as the ready frame did. -/
theorem submits_keeps (h : k.Submits now index k') : k.Keeps k' := by
  intro hk
  cases h with
  | skipped => exact Keeps.refl k hk
  | refused pipe wake recoveryRequested hge =>
    have hse := moves_setPipeline hk hge { pipe with wakeModeset := some wake } rfl rfl
    refine (hse.trans (hse.sound.moves_same
      { k.setPipeline index { pipe with wakeModeset := some wake } with recoveryRequested := recoveryRequested }
      rfl rfl rfl rfl rfl rfl rfl)).congr (fun o i => ?_) fun o i => ?_
    · rw [holds_eq, holds_eq]; simp
    · rw [readies_eq, readies_eq]; simp
  | woken pipe frame f f' wake hs hw hf =>
    have hd := hk.fences _ _ _ hs.slot hs.signaled
    obtain ⟨hu, hd'⟩ := ReadyFenceSlot.releaseUser_ok hf hd
    have hse := moves_setPipeline hk hs.get (wakes pipe frame now) rfl rfl
    refine (hse.trans (moves_setFenceSlot hse.sound hs.slot f' fun _ => hd')).congr
      (fun o i => ?_) fun o i => ?_
    · rw [holds_eq, holds_eq, hs.frames, hd, hd']; simp [wakes, InFlightFrame.frame]
    · rw [readies_eq, readies_eq, hs.frames, hu, hd, hd']; simp [wakes]
  | queued pipe frame f f' framebuffer hs hw hr hca hf =>
    have hd := hk.fences _ _ _ hs.slot hs.signaled
    obtain ⟨hu, hd'⟩ := ReadyFenceSlot.releaseUser_ok hf hd
    have hqu := hk.moves_same ({ k with volition := { k.volition with
      jobs := k.volition.jobs ++ [queuedJob index pipe frame framebuffer now] } }) rfl rfl rfl rfl rfl rfl rfl
    have hse := moves_setPipeline hqu.sound hs.get (queues index pipe frame) rfl rfl
    refine ((hqu.trans hse).trans (moves_setFenceSlot hse.sound hs.slot f' fun _ => hd')).congr
      (fun o i => ?_) fun o i => ?_
    · rw [holds_eq, holds_eq, hs.frames, hd, hd']; simp [queues, InFlightFrame.frame]
    · rw [readies_eq, readies_eq, hs.frames, hu, hd, hd']; simp [queues]

theorem submitReady_keeps {accepts : OutputId → Bool} (h : k.submitReady now accepts = .ok k') : k.Keeps k' :=
  foldlM_rel Keeps.refl (fun _ _ _ => Keeps.trans) (fun _ _ _ h => submits_keeps (submitPipeline_submits h)) h

theorem acknowledges_keeps (h : k.Acknowledges k') : k.Keeps k' := by
  intro hk
  cases h with
  | idle => exact Keeps.refl k hk
  | foreign event events he hr => exact hk.moves_same _ rfl rfl rfl rfl rfl rfl rfl
  | submitted commit sa owner events index pipe frame he hn hf =>
    have hqu := hk.moves_same ({ k with volition := { k.volition with events := events } }) rfl rfl rfl
      rfl rfl rfl rfl
    refine (hqu.trans (moves_setPipeline hqu.sound (findEntry_some hn).1
      (acknowledged pipe frame sa) rfl rfl)).congr (fun o i => ?_) fun o i => ?_
    · rw [holds_eq, holds_eq, hf]
      simp [acknowledged, InFlightFrame.frame]
    · rw [readies_eq, readies_eq]; simp [acknowledged]
  | stalled f owner events he ho => exact hk.moves_same _ rfl rfl rfl rfl rfl rfl rfl

theorem dropElapsed_keeps {oa : Int} (h : k.dropElapsed index oa = .ok k') : k.Keeps k' := by
  rcases dropElapsed_ok h with rfl | ⟨pipe, ready, hge, hr, -, lost, h⟩
  · exact .refl _
  · exact fun hk => unready_moves hk hge hr (unready pipe) rfl rfl rfl rfl h

theorem shows_moves (hk : k.Sound) {pipe : OutputPipeline} {frame : OutputFrame}
    (hge : k.pipelines[index]? = some pipe) (hf : pipe.frames.inFlight = some (.submitted frame))
    (hbr : k.broker.releaseOutput pipe.outputId pipe.scanning = .ok broker)
    (rest : List PageFlipCompletion) :
    Moves (fun _ _ => 0) (fun _ _ => 0) k { k.setPipeline index (shows pipe frame) with
      completedPageFlips := rest
      broker := broker
      swapchains := k.presentedPools pipe.outputId frame.index } := by
  have hs := moves_setPipeline hk hge (shows pipe frame) rfl rfl
  have hr := moves_release hs.sound hbr
  have hpo := moves_presentedPools hr.sound pipe.outputId frame.index
  have hre := hpo.sound.moves_same ({ k.setPipeline index (shows pipe frame) with
    completedPageFlips := rest
    broker := broker
    swapchains := k.presentedPools pipe.outputId frame.index }) rfl rfl rfl rfl rfl rfl rfl
  refine (((hs.trans hr).trans hpo).trans hre).congr (fun o i => ?_) fun o i => ?_
  · rw [holds_eq, holds_eq]
    simp only [shows, hf, InFlightFrame.frame, Option.map_some, Option.map_none, Option.getD_some,
      Option.getD_none]
    omega
  · rw [readies_eq, readies_eq]; simp [shows]

theorem completes_keeps (h : k.Completes k') : k.Keeps k' := by
  intro hk
  cases h with
  | idle => exact Keeps.refl k hk
  | unknown completion rest hfl hn => exact hk.moves_same _ rfl rfl rfl rfl rfl rfl rfl
  | deferred completion rest index pipe commit frame => exact hk.moves_same _ rfl rfl rfl rfl rfl rfl rfl
  | stale completion rest index pipe => exact hk.moves_same _ rfl rfl rfl rfl rfl rfl rfl
  | retired completion rest index pipe frame broker k₁ presented hfl hge hcr hf hr hdr =>
    have hs := shows_moves hk hge hf hr rest
    have hd := dropElapsed_keeps hdr hs.sound
    have hpr := hd.sound.moves_same ({ k₁ with presentedOutputs := presented }) rfl rfl rfl rfl rfl rfl rfl
    exact ((hs.trans hd).trans hpr).congr (fun _ _ => rfl) fun _ _ => rfl

/-! ## Screencopies and power -/

theorem count_cons_unit (output : OutputId) (index : Nat) (l : List (OutputId × Nat)) (o : OutputId) (i : Nat) :
    (((output, index) :: l).count (o, i) : Int) = l.count (o, i) + unit output index o i := by
  unfold unit; rw [List.count_cons]
  by_cases h : o = output ∧ i = index
  · obtain ⟨rfl, rfl⟩ := h; simp
  have hne : ¬((output, index) == (o, i)) = true := fun heq => by
    obtain ⟨rfl, rfl⟩ := Prod.mk.inj (eq_of_beq heq); exact h ⟨rfl, rfl⟩
  rw [if_neg hne, if_neg h]; rfl

theorem moves_leases (hk : k.Sound) (leases : List (OutputId × Nat)) :
    Moves (fun o i => k.leases.count (o, i) - leases.count (o, i)) (fun _ _ => 0) k { k with leases := leases } :=
  (moves_holders hk k.pipelines k.parked leases hk.wired).congr (fun o i => by omega) fun o i => by omega

theorem moves_parked (hk : k.Sound) (parked : List (OutputId × Nat)) :
    Moves (fun o i => k.parked.count (o, i) - parked.count (o, i)) (fun _ _ => 0) k { k with parked := parked } :=
  (moves_holders hk k.pipelines parked k.leases hk.wired).congr (fun o i => by omega) fun o i => by omega

theorem moves_pipelines (hk : k.Sound) (pipelines : List OutputPipeline)
    (hw : ∀ p ∈ pipelines, k.scanoutOutput p.scanoutIndex = some p.outputId) :
    Moves (fun o i => (k.pipelines.map fun p => p.holds o i).sum - (pipelines.map fun p => p.holds o i).sum)
      (fun o i => (k.pipelines.map fun p => p.readies o i).sum - (pipelines.map fun p => p.readies o i).sum) k
      { k with pipelines := pipelines } :=
  (moves_holders hk pipelines k.parked k.leases hw).congr (fun o i => by omega) fun _ _ => rfl

theorem retainScreencopy_keeps (h : k.retainScreencopy output = .ok k') : k.Keeps k' := by
  rcases retainScreencopy_ok h with rfl | ⟨index, broker, hbr, rfl⟩
  · exact .refl _
  intro hk
  have hr := moves_retain hk hbr
  refine (hr.trans (moves_leases hr.sound ((output, index) :: k.leases))).congr
    (fun o i => ?_) fun _ _ => add_zero 0
  rw [count_cons_unit]
  show _ + ((k.leases.count (o, i) : Int) - _) = 0; omega

theorem releaseScreencopy_keeps {ls : Nat} (h : k.releaseScreencopy ls = .ok k') : k.Keeps k' := by
  rcases releaseScreencopy_ok h with rfl | ⟨output, index, broker, hs, hbr, rfl⟩
  · exact .refl _
  intro hk
  have hr := moves_release hk hbr
  refine (hr.trans (moves_leases hr.sound (k.leases.eraseIdx ls))).congr (fun o i => ?_)
    fun _ _ => add_zero 0
  obtain ⟨hlt, hge⟩ := List.getElem?_eq_some_iff.1 hs
  have hn : k.leases.count (o, i) = ((output, index) :: k.leases.eraseIdx ls).count (o, i) :=
    (hge ▸ List.getElem_cons_eraseIdx_perm hlt).symm.count_eq (o, i)
  have := count_cons_unit output index (k.leases.eraseIdx ls) o i
  show -_ + ((k.leases.count (o, i) : Int) - _) = 0; omega

theorem scanoutOutput_setPowered (k : Kms) (output : OutputId) (powered : Bool) (scanoutIndex : Nat) :
    (k.setPowered output powered).scanoutOutput scanoutIndex = k.scanoutOutput scanoutIndex := by
  unfold scanoutOutput setPowered; rw [List.getElem?_map, Option.map_map]
  cases k.scanouts[scanoutIndex]? with
  | none => rfl
  | some scan =>
    simp only [Option.map_some, Function.comp_apply, Option.some.injEq]
    split <;> rfl

theorem setPowered_keeps (k : Kms) (output : OutputId) (powered : Bool) :
    k.Keeps (k.setPowered output powered) := fun hk =>
  ⟨⟨hk.ok, hk.fences, fun p hp => by rw [scanoutOutput_setPowered]; exact hk.wired p hp, hk.sized, hk.fenced⟩,
    fun _ _ => (add_zero _).symm, fun _ _ => (add_zero _).symm⟩

theorem beginPowerOff_keeps {waits : Bool} (h : k.beginPowerOff output = .ok (k', waits)) : k.Keeps k' := by
  rcases beginPowerOff_ok h with ⟨-, rfl⟩ | ⟨index, pipeline, hf, ⟨hr, rfl⟩ | ⟨ready, lost, hr, h⟩⟩
  · exact .refl _
  · intro hk
    refine (moves_setPipeline hk (pipelineOf_some hf).1 { unready pipeline with poweringOff := true } rfl rfl).congr
      (fun o i => ?_) fun o i => ?_
    · rw [holds_eq, holds_eq]; simp [unready, hr]
    · rw [readies_eq, readies_eq]; simp [unready, hr]
  · intro hk
    obtain ⟨hge, ho⟩ := pipelineOf_some hf
    -- the pipeline is of its scanout's output
    obtain rfl : pipeline.outputId = output :=
      Option.some.inj ((hk.wired pipeline (List.mem_of_getElem? hge)).symm.trans ho)
    exact unready_moves hk hge hr { unready pipeline with poweringOff := true } rfl rfl rfl rfl h

theorem cancelPowerOff_keeps (k : Kms) (output : OutputId) : k.Keeps (k.cancelPowerOff output) := by
  rcases cancelPowerOff_eq k output with h | ⟨index, pipeline, hf, h⟩
  · rw [h]; exact .refl k
  rw [h]; intro hk
  exact (moves_setPipeline hk (pipelineOf_some hf).1 { pipeline with poweringOff := false } rfl rfl).congr
    (fun o i => Int.sub_self _) fun o i => Int.sub_self _

theorem powerOffOutput_keeps (h : k.powerOffOutput output = .ok k') : k.Keeps k' := by
  obtain ⟨index, pipeline, k₁, hn, hf, hk₁, rfl⟩ := powerOffOutput_ok h
  obtain ⟨hge, ho⟩ := pipelineOf_some hn
  refine Keeps.trans (fun hk => ?_) (setPowered_keeps _ output false)
  obtain rfl : pipeline.outputId = output :=
    Option.some.inj ((hk.wired pipeline (List.mem_of_getElem? hge)).symm.trans ho)
  have he := moves_pipelines hk (k.pipelines.eraseIdx index) fun p hp => hk.wired p (List.mem_of_mem_eraseIdx hp)
  have hh (o : OutputId) (i : Nat) := sum_map_eraseIdx (fun p => holds p o i) hge
  have hre (o : OutputId) (i : Nat) := sum_map_eraseIdx (fun p => readies p o i) hge
  have hd : Moves (fun o i => unit pipeline.outputId pipeline.scanning o i) (fun _ _ => 0) k k₁ := by
    rcases hk₁ with ⟨hr, rfl⟩ | ⟨ready, lost, hr, hs⟩
    · refine he.congr (fun o i => ?_) fun o i => ?_
      · have hpi := holds_eq pipeline o i
        simp only [hf, hr, Option.map_none, Option.getD_none] at hpi; have := hh o i
        omega
      · have hpi := readies_eq pipeline o i
        simp only [hr, Option.map_none, Option.getD_none] at hpi; have := hre o i
        omega
    · refine (he.trans (discardReadyFrame_moves he.sound hs)).congr (fun o i => ?_) fun o i => ?_
      · have hpi := holds_eq pipeline o i
        simp only [hf, hr, Option.map_none, Option.map_some, Option.getD_none, Option.getD_some] at hpi
        have := hh o i
        omega
      · have hpi := readies_eq pipeline o i
        simp only [hr, Option.map_some, Option.getD_some] at hpi; have := hre o i
        omega
  refine (hd.trans (moves_parked hd.sound
    (k₁.parked ++ [(pipeline.outputId, pipeline.scanning)]))).congr
    (fun o i => ?_) fun _ _ => add_zero 0
  have := count_cons_unit pipeline.outputId pipeline.scanning [] o i
  rw [List.count_append]
  push_cast; rw [this, List.count_nil]
  push_cast; omega

/-- The parked buffer of an output powered on is the scanned one of its pipeline. -/
theorem powerOn_keeps {si idx : Nat} (h : k.powerOn si idx now = .ok k') : k.Keeps k' := by
  rcases powerOn_ok h with ⟨-, -, -, rfl⟩ | ⟨scan, hs, -, hpa, rfl⟩
  · exact .refl _
  intro hk
  have hu := moves_parked hk (k.parked.erase (scan.output.id, idx))
  refine (hu.trans (moves_pipelines hu.sound
    (k.pipelines ++ [wakingPipeline scan.output.id si idx now]) fun p hp => ?_)).congr
      (fun o i => ?_) fun o i => ?_
  · rcases List.mem_append.1 hp with hp | hp
    · exact hk.wired p hp
    obtain rfl := List.mem_singleton.1 hp
    show (k.scanouts[si]?).map _ = _
    rw [hs]; rfl
  · have hh := holds_eq (wakingPipeline scan.output.id si idx now) o i
    have hn : k.parked.count (o, i) = _ := (List.perm_cons_erase hpa).count_eq (o, i)
    have hun := count_cons_unit scan.output.id idx
      (k.parked.erase (scan.output.id, idx)) o i
    simp only [wakingPipeline, OutputPipelineFrames.default, Option.map_none, Option.getD_none] at hh
    rw [List.map_append, List.sum_append, List.map_singleton, List.sum_singleton]
    push_cast
    simp only [wakingPipeline]; rw [hn]
    simp only [OutputPipelineFrames.default] at *; omega
  · have hr := readies_eq (wakingPipeline scan.output.id si idx now) o i
    simp only [wakingPipeline, OutputPipelineFrames.default, Option.map_none, Option.getD_none] at hr
    rw [List.map_append, List.sum_append, List.map_singleton, List.sum_singleton]
    push_cast
    simp only [wakingPipeline, OutputPipelineFrames.default]; omega

theorem powerOnOutput_keeps {idx : Nat} (h : k.powerOnOutput idx now = .ok k') : k.Keeps k' := by
  rcases powerOnOutput_ok h with rfl | ⟨scan, index, k₁, -, -, hon, rfl⟩
  · exact .refl _
  · exact (powerOn_keeps hon).trans (setPowered_keeps k₁ _ true)

end Kms

end Deniald.Output
