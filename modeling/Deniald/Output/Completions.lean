/-
Handling the page flips of the KMS scheduler never fails: while references are conserved, each buffer a pipeline
holds has a reference to release, a native buffer and a fence.
-/
import Deniald.Output.Exclusivity

namespace Deniald.Output

open Deniald.Lib Deniald.Damage
open Deniald.Topology (OutputId)
open OutputPipeline

/-! ## Buffers with references -/

theorem OutputBufferBroker.releaseOutput_of_refs {b : OutputBufferBroker} {output : OutputId} {index : Nat}
    (h : 0 < b.refs output index) : ∃ b', b.releaseOutput output index = .ok b' := by
  unfold refs slot at h
  unfold releaseOutput updateSlot
  cases hs : (b.pool output).bind fun pool => pool.slots[index]? with
  | none =>
    rw [hs] at h; cases h
  | some slot =>
    rw [hs] at h
    have hr : slot.outputRefs ≠ 0 := Nat.pos_iff_ne_zero.1 h
    simp only [OutputBufferSlot.release, if_neg hr]; exact ⟨_, rfl⟩

namespace Kms

variable {k : Kms}

variable {output : OutputId} {index : Nat} {p : OutputPipeline}

theorem pools_of_refs (hk : k.Sound) (h : 0 < k.broker.refs output index) :
    (∃ pool, k.forOutput output = some pool ∧ index < pool.buffers.length) ∧
      ∃ pool slot, k.fencePool output = some pool ∧ pool.slots[index]? = some slot := by
  unfold OutputBufferBroker.refs OutputBufferBroker.slot at h
  cases hpo : k.broker.pool output with
  | none =>
    rw [hpo] at h; cases h
  | some pool =>
    have hd : index < pool.slots.length := by
      by_contra ho
      rw [hpo, Option.bind_some, List.getElem?_eq_none (not_lt.1 ho)] at h; cases h
    have hz := hk.sized output
    have hf := hk.fenced output
    rw [hpo, Option.map_some, eq_comm, Option.map_eq_some_iff] at hz
    obtain ⟨s, hs, hlen⟩ := hz
    rw [hs, Option.map_some, Option.map_eq_some_iff] at hf
    obtain ⟨fences, hn, hl'⟩ := hf
    exact ⟨⟨s, hs, by omega⟩, fences, _, hn, List.getElem?_eq_getElem (by omega)⟩

theorem refs_of_holds (hk : k.Conserved) (hge : k.pipelines[index]? = some p) {buffer : Nat}
    (hf : buffer ∈ p.buffers) : 0 < k.broker.refs p.outputId buffer := by
  have hs := sum_map_eraseIdx (fun q => holds q p.outputId buffer) hge
  have hho : 0 < p.holds p.outputId buffer := by
    unfold holds
    rw [if_pos rfl]; exact List.count_pos_iff.2 hf
  have hh := hk.conserved p.outputId buffer
  unfold holders at hh; omega

theorem users_of_ready (hk : k.Conserved) {r : OutputFrame} (hge : k.pipelines[index]? = some p)
    (hr : p.frames.ready = some r) : k.discarding p.outputId r.index < k.fenceUsers p.outputId r.index := by
  have hs := sum_map_eraseIdx (fun q => readies q p.outputId r.index) hge
  have hd : p.readies p.outputId r.index = 1 := by
    unfold readies
    rw [if_pos ⟨rfl, by rw [hr]; rfl⟩]
  have hu := hk.users p.outputId r.index; omega

/-! ## Steps that succeed -/

theorem discardReadyFrame_succeeds (hk : k.Sound) {frame : OutputFrame} (hr : 0 < k.broker.refs output frame.index)
    (hu : k.discarding output frame.index < k.fenceUsers output frame.index) (lost : String) :
    ∃ k', k.discardReadyFrame output frame lost = .ok k' := by
  obtain ⟨-, pool, slot, hpo, hs⟩ := pools_of_refs hk hr
  have hge := fenceSlot_eq hpo hs
  unfold discarding fenceUsers at hu; rw [hge] at hu
  unfold discardReadyFrame discardUser
  simp only [hpo, hs]
  cases hsi : slot.signaled with
  | true =>
    obtain ⟨broker, hbr⟩ := OutputBufferBroker.releaseOutput_of_refs hr
    obtain ⟨slot', hs'⟩ := ReadyFenceSlot.releaseUser_of_pos (Nat.zero_lt_of_lt hu); rw [if_pos rfl]
    refine ⟨_, bind_ok.2 ⟨{ k with broker := broker }, ?_, bind_ok.2 ⟨slot', hs', rfl⟩⟩⟩
    exact bind_ok.2 ⟨broker, hbr, rfl⟩
  | false =>
    obtain ⟨slot', hs'⟩ := ReadyFenceSlot.discardUserWhenSignaled_of_lt hsi hu
    rw [if_neg Bool.false_ne_true]; exact ⟨_, bind_ok.2 ⟨slot', hs', rfl⟩⟩

theorem dropElapsed_succeeds (hk : k.Conserved) (index : Nat) (oa : Int) : ∃ k', k.dropElapsed index oa = .ok k' := by
  unfold dropElapsed; split
  · exact ⟨k, rfl⟩
  rename_i p hge; split
  · exact ⟨k, rfl⟩
  rename_i ready hr; split
  · have hs := moves_setPipeline hk.toSound hge (unready p) rfl rfl
    have hf : ready.index ∈ p.buffers := by
      unfold buffers
      rw [hr]; simp
    exact discardReadyFrame_succeeds hs.sound (refs_of_holds hk hge hf) (users_of_ready hk hge hr) _
  · exact ⟨k, rfl⟩

theorem present_succeeds {pool : OutputSwapchain} (hpo : k.forOutput output = some pool)
    (hn : index < pool.buffers.length) :
    k.present output index = .ok { k with swapchains := k.presentedPools output index } := by
  unfold present; rw [hpo]
  simp only [if_neg (not_le.2 hn)]; rfl

theorem retire_succeeds (hk : k.Conserved) {frame : OutputFrame} (hge : k.pipelines[index]? = some p)
    (hf : p.frames.inFlight = some (.submitted frame)) (rest : List PageFlipCompletion)
    (comp : PageFlipCompletion) :
    ∃ k', retire { k with completedPageFlips := rest } index p { p.frames with inFlight := none } frame comp =
      .ok k' := by
  have hn : p.scanning ∈ p.buffers := List.mem_cons_self ..
  have hs : frame.index ∈ p.buffers := by
    unfold buffers
    rw [hf]; simp [InFlightFrame.frame]
  obtain ⟨brk, hr⟩ := OutputBufferBroker.releaseOutput_of_refs (refs_of_holds hk hge hn)
  obtain ⟨⟨pool, hpo, hd⟩, -⟩ := pools_of_refs hk.toSound (refs_of_holds hk hge hs)
  have hh := (shows_moves hk.toSound hge hf hr rest).conserved hk
  obtain ⟨k₁, hk₁⟩ := dropElapsed_succeeds hh index comp.observedAt; unfold retire
  exact ⟨_, bind_ok.2 ⟨_, bind_ok.2 ⟨brk, hr, rfl⟩, bind_ok.2 ⟨_, present_succeeds hpo hd,
    bind_ok.2 ⟨k₁, hk₁, rfl⟩⟩⟩⟩

theorem handleCompletion_succeeds (hk : k.Conserved) : ∃ k', k.handleCompletion = .ok k' := by
  unfold handleCompletion; split
  · exact ⟨k, rfl⟩
  rename_i completion rest hfl; dsimp only; split
  · exact ⟨_, rfl⟩
  rename_i index pipe hn; unfold OutputPipelineFrames.retireCompletion
  cases hf : pipe.frames.inFlight with
  | none => exact ⟨_, rfl⟩
  | some f =>
    cases f with
    | scheduled commit frame => exact ⟨_, rfl⟩
    | submitted frame => exact retire_succeeds hk (findEntry_some hn).1 hf rest completion

theorem handleCompletionsLoop_succeeds : ∀ (queued : Nat) {k : Kms}, k.Conserved →
    ∃ k', handleCompletionsLoop queued k = .ok k' ∧ k'.Conserved
  | 0, k, hk => ⟨k, rfl, hk⟩
  | queued + 1, k, hk => by
    obtain ⟨k₁, hf⟩ := handleCompletion_succeeds hk
    have hk₁ := (completes_keeps (handleCompletion_completes hf) hk.toSound).conserved hk
    obtain ⟨k', hr, hk'⟩ := handleCompletionsLoop_succeeds queued hk₁
    exact ⟨k', bind_ok.2 ⟨k₁, hf, hr⟩, hk'⟩

theorem conserved_same (hk : k.Conserved) (k' : Kms) (hr : k'.broker = k.broker) (hpi : k'.pipelines = k.pipelines)
    (hf : k'.readyFences = k.readyFences) (hpa : k'.parked = k.parked) (hs : k'.leases = k.leases)
    (hn : k'.scanouts = k.scanouts) (hw : k'.swapchains = k.swapchains) : k'.Conserved :=
  (hk.moves_same k' hr hpi hf hpa hs hn hw).conserved hk

theorem handleCompletions_succeeds (hk : k.Conserved) : ∃ k', k.handleCompletions = .ok k' := by
  have hr : Conserved { k with presentedOutputs := [] } := conserved_same hk _ rfl rfl rfl rfl rfl rfl rfl
  obtain ⟨k', h, -⟩ := handleCompletionsLoop_succeeds k.completedPageFlips.length hr; exact ⟨k', h⟩

end Kms

end Deniald.Output
