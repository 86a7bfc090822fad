/-
The invariant of the buffer pools: at most one buffer of a pool is away from the Free state, such a
buffer has no output reference, none is while a frame is authorized, and a Ready buffer has what its
publication needs. Outputs, views and framebuffers are distinct. Every operation of the broker keeps
this, whatever its arguments.
-/
import Deniald.Output.Broker
import Deniald.Lib.Lists

namespace Deniald.Output

open Deniald.Lib Deniald.Damage
open Deniald.Topology (OutputId PixelSize)
open Deniald.Frame (OutputFrameRequest)
open OutputBufferPool

/-! ## Invariants -/

structure OutputBufferSlot.OK (slot : OutputBufferSlot) : Prop where
  unreferenced : slot.state ≠ .free → slot.outputRefs = 0
  requested : slot.state = .rendering ∨ slot.state = .ready → slot.request.isSome
  damaged : slot.state = .ready → slot.readyDamage.isSome

structure OutputBufferPool.OK (pool : OutputBufferPool) : Prop where
  slots : ∀ slot ∈ pool.slots, slot.OK
  exclusive : ∀ (i j : Nat) (s t : OutputBufferSlot), pool.slots[i]? = some s → pool.slots[j]? = some t →
    s.state ≠ .free → t.state ≠ .free → i = j
  authorized : pool.authorizedRequest.isSome → ∀ slot ∈ pool.slots, slot.state = .free

structure OutputBufferBroker.OK (b : OutputBufferBroker) : Prop where
  pools : ∀ pool ∈ b.pools, pool.OK
  outputs : (b.pools.map (·.outputId)).Nodup
  views : (b.pools.map (·.renderViewId)).Nodup
  framebuffers : (b.pools.flatMap fun pool => pool.slots.map (·.framebuffer)).Nodup

/-! ## Steps of slots and pools -/

/-- What an operation may do to a slot: it stays well formed, and leaves the Free state only where the
operation says so. -/
structure SlotStep (s s' : OutputBufferSlot) : Prop where
  framebuffer : s'.framebuffer = s.framebuffer
  ok : s.OK → s'.OK
  free : s.state = .free → s'.state = .free

theorem SlotStep.refl (s : OutputBufferSlot) : SlotStep s s := ⟨rfl, id, id⟩

/-- What every operation does to a pool: its identity and framebuffers stay, and so does its invariant. -/
structure PoolStep (p p' : OutputBufferPool) : Prop where
  outputId : p'.outputId = p.outputId
  renderViewId : p'.renderViewId = p.renderViewId
  size : p'.size = p.size
  framebuffers : p'.slots.map (·.framebuffer) = p.slots.map (·.framebuffer)
  ok : p.OK → p'.OK

theorem PoolStep.refl (p : OutputBufferPool) : PoolStep p p := ⟨rfl, rfl, rfl, rfl, id⟩

/-- A step of rendering: it changes no output reference. -/
structure RenderStep (p p' : OutputBufferPool) : Prop extends PoolStep p p' where
  refs : p'.slots.map (·.outputRefs) = p.slots.map (·.outputRefs)

structure ScanoutStep (p p' : OutputBufferPool) : Prop extends PoolStep p p' where
  damages : p'.slots.map (·.damage) = p.slots.map (·.damage)

/-- A step that changes neither output references nor damage. -/
structure QuietStep (p p' : OutputBufferPool) : Prop extends RenderStep p p' where
  damages : p'.slots.map (·.damage) = p.slots.map (·.damage)

theorem QuietStep.refl (p : OutputBufferPool) : QuietStep p p := ⟨⟨.refl p, rfl⟩, rfl⟩

theorem poolStep_of_slots {p : OutputBufferPool} {slots : List OutputBufferSlot}
    {a : Option AuthorizedOutputRequest} (hsl : List.Forall₂ SlotStep p.slots slots)
    (hau : a.isSome → p.authorizedRequest.isSome) :
    PoolStep p { p with slots := slots, authorizedRequest := a } where
  outputId := rfl
  renderViewId := rfl
  size := rfl
  framebuffers := map_eq_of_forall₂ (fun _ _ h => h.framebuffer) hsl
  ok hp := by
    refine ⟨fun s' hs' => ?_, fun i j s' t' hi hj hs ht => ?_, fun hm s' hs' => ?_⟩
    · obtain ⟨s, hs, hstep⟩ := forall₂_mem_right hsl s' hs'; exact hstep.ok (hp.slots s hs)
    · obtain ⟨s, hsi, hss⟩ := forall₂_getElem? hsl hi
      obtain ⟨t, htj, hts⟩ := forall₂_getElem? hsl hj
      exact hp.exclusive i j s t hsi htj (fun h => hs (hss.free h)) fun h => ht (hts.free h)
    · obtain ⟨s, hs, hstep⟩ := forall₂_mem_right hsl s' hs'
      exact hstep.free (hp.authorized (hau hm) s hs)

namespace OutputBufferSlot

theorem beginTransaction_refs (s : OutputBufferSlot) : s.beginTransaction.outputRefs = s.outputRefs := by
  unfold beginTransaction; split <;> rfl

theorem cancelScreenshot_frame (req : Nat) (s : OutputBufferSlot) :
    (s.cancelScreenshot req).outputRefs = s.outputRefs ∧ (s.cancelScreenshot req).damage = s.damage := by
  unfold cancelScreenshot; split <;> exact ⟨rfl, rfl⟩

theorem beginTransaction_step (s : OutputBufferSlot) : SlotStep s s.beginTransaction := by
  unfold beginTransaction; split
  · exact ⟨rfl, fun _ => ⟨fun h => absurd rfl h, by simp [abandon], by simp [abandon]⟩, fun _ => rfl⟩
  · exact .refl s

variable {s s' : OutputBufferSlot}

theorem publish_step (h : s.publish = .ok s') : SlotStep s s' := by
  unfold publish at h; split at h
  · cases h
  · cases h
    exact ⟨rfl, fun _ => ⟨fun h => absurd rfl h, by simp, by simp⟩, fun _ => rfl⟩

theorem release_step (h : s.release = .ok s') : SlotStep s s' := by
  unfold release at h; split at h
  · cases h
  · rename_i hr; cases h
    exact ⟨rfl, fun hs => ⟨fun hf => absurd (hs.unreferenced hf) hr, hs.requested, hs.damaged⟩, id⟩

theorem retain_step (h : s.retain = .ok s') : SlotStep s s' := by
  unfold retain at h; split at h
  · cases h
  split at h
  · cases h
  rename_i hf _; cases h
  have hst : s.state = .free := not_not.1 (not_or.1 hf).1
  exact ⟨rfl, fun hs => ⟨fun h => absurd hst h, hs.requested, hs.damaged⟩, id⟩

theorem publish_damage (h : s.publish = .ok s') : s'.damage = s.damage := by
  unfold publish at h; split at h
  · cases h
  · obtain rfl := Except.ok.inj h; rfl

theorem release_damage (h : s.release = .ok s') : s'.damage = s.damage := by
  unfold release at h; split at h
  · cases h
  · obtain rfl := Except.ok.inj h; rfl

theorem retain_damage (h : s.retain = .ok s') : s'.damage = s.damage := by
  unfold retain at h; split at h
  · cases h
  split at h
  · cases h
  · obtain rfl := Except.ok.inj h; rfl

theorem cancelScreenshot_step (req : Nat) (s : OutputBufferSlot) : SlotStep s (s.cancelScreenshot req) := by
  unfold cancelScreenshot; split
  · exact ⟨rfl, fun hs => ⟨hs.unreferenced, hs.requested, hs.damaged⟩, id⟩
  · exact .refl s

end OutputBufferSlot

namespace OutputBufferPool

variable {p : OutputBufferPool}

variable {tag : Option (OutputId × Nat)}

theorem acquire_spec {p' : OutputBufferPool} {framebuffer : UInt32} (h : p.acquire tag = .ok (p', framebuffer)) :
    ∃ (index : Nat) (slot slot' : OutputBufferSlot), p.slots[index]? = some slot ∧ slot.state = .free ∧
      slot.outputRefs = 0 ∧ p.authorizedRequest.isSome ∧ slot.framebuffer = framebuffer ∧
      p' = { p with authorizedRequest := none, slots := p.slots.set index slot' } ∧
      slot'.framebuffer = slot.framebuffer ∧ slot'.outputRefs = slot.outputRefs ∧ slot'.damage = slot.damage ∧
      slot'.state = .rendering ∧ slot'.request.isSome := by
  unfold acquire at h
  cases hau : p.authorizedRequest with
  | none => rw [hau] at h; cases h
  | some a =>
    simp only [hau] at h; split at h
    · cases h
    cases hn : findEntry (fun slot : OutputBufferSlot => slot.state = .free && slot.outputRefs = 0) p.slots with
    | none => rw [hn] at h; cases h
    | some fn =>
      obtain ⟨index, slot⟩ := fn
      simp only [hn] at h
      obtain ⟨rfl, rfl⟩ := Prod.mk.inj (Except.ok.inj h)
      obtain ⟨hge, hf⟩ := findEntry_some hn
      simp only [Bool.and_eq_true, decide_eq_true_eq] at hf
      exact ⟨index, slot, _, hge, hf.1, hf.2, rfl, rfl, rfl, rfl, rfl, rfl, rfl, rfl⟩

theorem acquire_step {p' : OutputBufferPool} {framebuffer : UInt32} (h : p.acquire tag = .ok (p', framebuffer)) :
    QuietStep p p' := by
  obtain ⟨index, slot, slot', hge, -, hr, hau, -, rfl, hfb, hr', hd, hst, hre⟩ := acquire_spec h
  refine ⟨⟨⟨rfl, rfl, rfl, map_set_of_eq hge hfb, fun hp =>
    ⟨fun s hs => ?_, fun i j s t hi hj hs ht => ?_, fun h => by cases h⟩⟩, map_set_of_eq hge hr'⟩,
    map_set_of_eq hge hd⟩
  · rcases List.mem_or_eq_of_mem_set hs with hs | rfl
    · exact hp.slots s hs
    · exact ⟨fun _ => hr'.trans hr, fun _ => hre, fun h => by rw [hst] at h; cases h⟩
  · -- all slots were free, so only the acquired one is not
    have ho : ∀ (k : Nat) (u : OutputBufferSlot), (p.slots.set index slot')[k]? = some u →
      u.state ≠ .free → k = index := by
      intro k u hk hu
      by_contra hne; rw [List.getElem?_set_ne (Ne.symm hne)] at hk
      exact hu (hp.authorized hau u (List.mem_of_getElem? hk))
    rw [ho i s hi hs, ho j t hj ht]

section

variable (r : Rounding)

variable {bufferDamage frameDamage : List FlutterRect} {renderedAt : Option Int} {feedback : List SurfaceFeedback}

/-- What marking a slot ready does: it was being rendered, it is ready with nothing to repair, and the
others of the pool owe its frame's damage. -/
theorem markReady_spec {p p' : OutputBufferPool} {transaction : UInt64} {framebuffer : UInt32} {fence : Option Fence}
    (h : p.markReady r transaction framebuffer frameDamage bufferDamage fence renderedAt feedback = some p') :
    ∃ (index : Nat) (slot : OutputBufferSlot), p.slots[index]? = some slot ∧ slot.framebuffer = framebuffer ∧
      slot.state = .rendering ∧
      p' = { p with slots := p.slots.mapIdx fun idx other =>
        if idx = index then
          { other with
            damage := other.damage.clear
            readyDamage := some
              ((DamageRegion.empty p.size.width p.size.height).replaceFromFlutter r bufferDamage)
            state := .ready
            fence := fence
            renderedAt := renderedAt
            feedback := feedback
            readyTransaction := transaction }
        else
          { other with
            damage := other.damage.union r
              ((DamageRegion.empty p.size.width p.size.height).replaceFromFlutter r frameDamage) } } := by
  unfold markReady at h
  cases hf : findEntry (fun slot : OutputBufferSlot => slot.framebuffer = framebuffer) p.slots with
  | none => rw [hf] at h; cases h
  | some fn =>
    obtain ⟨index, slot⟩ := fn
    simp only [hf] at h; split at h
    · cases h
    rename_i hr
    obtain ⟨hge, hfb⟩ := findEntry_some hf
    refine ⟨index, slot, hge, of_decide_eq_true hfb, not_not.1 (not_or.1 hr).1, ?_⟩; cases h
    congr 1
    refine List.ext_getElem? fun j => ?_
    unfold propagateDamage
    rw [List.getElem?_modify, List.getElem?_mapIdx, List.getElem?_mapIdx]
    by_cases hj : index = j
    · subst hj; simp [hge]
    · cases p.slots[j]? <;> simp [hj, Ne.symm hj]

theorem markReady_step {p p' : OutputBufferPool} {transaction : UInt64} {framebuffer : UInt32} {fn : Option Fence}
    (h : p.markReady r transaction framebuffer frameDamage bufferDamage fn renderedAt feedback = some p') :
    RenderStep p p' := by
  obtain ⟨index, slot, hge, -, hst, rfl⟩ := markReady_spec r h
  refine ⟨poolStep_of_slots (forall₂_mapIdx fun j other ho => ?_) id, map_eq_of_forall₂
    (fun _ _ h => h) (forall₂_mapIdx fun j other _ => by split <;> rfl)⟩
  split
  · rename_i hj; subst hj; rw [hge] at ho
    cases ho
    refine ⟨rfl, fun hs => ⟨fun _ => hs.unreferenced (by rw [hst]; decide), fun _ => hs.requested (.inl hst),
      fun _ => rfl⟩, fun hf => ?_⟩
    rw [hst] at hf; cases hf
  · exact ⟨rfl, fun hs => ⟨hs.unreferenced, hs.requested, hs.damaged⟩, id⟩

end

/-- What finishing a transaction does to a well-formed pool: nothing, or the slot made ready in it
becomes pending and its frame is handed out. -/
theorem finishTransaction_spec (hp : p.OK) (transaction : UInt64) :
    p.finishTransaction transaction = (p, none) ∨
      ∃ (index : Nat) (slot slot' : OutputBufferSlot) (frame : ReadyOutputFrame), p.slots[index]? = some slot ∧
        slot.state = .ready ∧
        p.finishTransaction transaction = ({ p with slots := p.slots.set index slot' }, some frame) ∧
        slot'.framebuffer = slot.framebuffer ∧ slot'.outputRefs = slot.outputRefs ∧ slot'.damage = slot.damage ∧
        slot'.state = .pending ∧ frame.outputId = p.outputId ∧ frame.index = index ∧
        slot.request = some frame.request := by
  unfold finishTransaction
  cases hf : findEntry (fun slot : OutputBufferSlot => slot.state = .ready && slot.readyTransaction = transaction)
      p.slots with
  | none => exact .inl rfl
  | some fn =>
    right
    obtain ⟨index, slot⟩ := fn
    obtain ⟨hge, hr⟩ := findEntry_some hf
    simp only [Bool.and_eq_true, decide_eq_true_eq] at hr
    have hok := hp.slots slot (List.mem_of_getElem? hge)
    obtain ⟨request, hre⟩ := Option.isSome_iff_exists.1 (hok.requested (.inr hr.1))
    obtain ⟨damage, hd⟩ := Option.isSome_iff_exists.1 (hok.damaged hr.1)
    simp only [hre, hd]
    exact ⟨index, slot, _, _, hge, hr.1, rfl, rfl, rfl, rfl, rfl, rfl, rfl, hre⟩

theorem finishTransaction_step (hp : p.OK) (transaction : UInt64) :
    QuietStep p (p.finishTransaction transaction).1 := by
  rcases finishTransaction_spec hp transaction with
    h | ⟨index, slot, slot', frame, hge, hr, h, hfb, hre, hd, hst, -⟩
  · rw [h]; exact .refl p
  · rw [h]
    refine ⟨⟨poolStep_of_slots (forall₂_set (fun s _ => SlotStep.refl s) hge ⟨hfb, fun hs => ?_, fun hf => ?_⟩) id,
      map_set_of_eq hge hre⟩, map_set_of_eq hge hd⟩
    · refine ⟨fun _ => hre.trans (hs.unreferenced (by rw [hr]; decide)), ?_, ?_⟩
      · rw [hst]; rintro (h | h) <;> cases h
      · rw [hst]; intro h; cases h
    · rw [hr] at hf; cases hf

end OutputBufferPool

/-! ## Steps of the broker -/

namespace OutputBufferBroker

def slot (b : OutputBufferBroker) (output : OutputId) (index : Nat) : Option OutputBufferSlot :=
  (b.pool output).bind fun pool => pool.slots[index]?

def Step (b b' : OutputBufferBroker) : Prop := List.Forall₂ PoolStep b.pools b'.pools

def Renders (b b' : OutputBufferBroker) : Prop := List.Forall₂ RenderStep b.pools b'.pools

def Quiet (b b' : OutputBufferBroker) : Prop := List.Forall₂ QuietStep b.pools b'.pools

variable {b b' : OutputBufferBroker}

theorem Renders.step (h : b.Renders b') : b.Step b' := h.imp fun _ _ h => h.toPoolStep

theorem Quiet.renders (h : b.Quiet b') : b.Renders b' := h.imp fun _ _ h => h.toRenderStep

theorem Quiet.refl (b : OutputBufferBroker) : b.Quiet b := List.forall₂_same.2 fun p _ => .refl p

theorem ok_of_step (h : b.Step b') (hb : b.OK) : b'.OK where
  pools p' hp' := by
    obtain ⟨p, hp, hstep⟩ := forall₂_mem_right h p' hp'; exact hstep.ok (hb.pools p hp)
  outputs := by rw [map_eq_of_forall₂ (fun _ _ h => h.outputId) h]; exact hb.outputs
  views := by rw [map_eq_of_forall₂ (fun _ _ h => h.renderViewId) h]; exact hb.views
  framebuffers := by
    have := map_eq_of_forall₂ (g := fun pool : OutputBufferPool => pool.slots.map (·.framebuffer))
      (fun _ _ h => h.framebuffers) h
    rw [List.flatMap_def, this, ← List.flatMap_def]; exact hb.framebuffers

variable {f : OutputBufferPool → OutputBufferPool}

theorem quiet_map {transaction : UInt64} {ns : Option (OutputId × Nat)} (h : ∀ p ∈ b.pools, QuietStep p (f p)) :
    b.Quiet ⟨b.pools.map f, transaction, ns⟩ :=
  forall₂_map h

theorem beginTransaction_renders (b : OutputBufferBroker) : b.Renders b.beginTransaction :=
  forall₂_map fun p _ => ⟨poolStep_of_slots (forall₂_map fun s _ => s.beginTransaction_step) id, by
    rw [List.map_map]; exact List.map_congr_left fun s _ => s.beginTransaction_refs⟩

theorem cancelScreenshotFrame_quiet (b : OutputBufferBroker) (req : Nat) : b.Quiet (b.cancelScreenshotFrame req) :=
  quiet_map fun p _ => ⟨⟨poolStep_of_slots (forall₂_map fun s _ => s.cancelScreenshot_step req) id, by
    rw [List.map_map]; exact List.map_congr_left fun s _ => (s.cancelScreenshot_frame req).1⟩, by
    rw [List.map_map]; exact List.map_congr_left fun s _ => (s.cancelScreenshot_frame req).2⟩

theorem unauthorize_quiet (p : OutputBufferPool) : QuietStep p { p with authorizedRequest := none } :=
  ⟨⟨poolStep_of_slots (List.forall₂_same.2 fun s _ => .refl s) (by simp), rfl⟩, rfl⟩

theorem cancelAuthorizations_quiet (b : OutputBufferBroker) (rvi : List Int) : b.Quiet (b.cancelAuthorizations rvi) :=
  quiet_map fun p _ => by split; exact unauthorize_quiet p; exact .refl p

theorem expireAuthorizations_quiet (b : OutputBufferBroker) (now : Int) : b.Quiet (b.expireAuthorizations now).1 :=
  quiet_map fun p _ => by split; exact unauthorize_quiet p; exact .refl p

theorem authorize_quiet (b : OutputBufferBroker) (request : OutputFrameRequest) (now : Int) :
    b.Quiet (b.authorize request now).1 := by
  unfold authorize; split
  · exact .refl b
  rename_i hr
  cases hpo : b.pool request.tick.output with
  | none => exact .refl b
  | some pool =>
    refine forall₂_modifyFirst (fun p _ => .refl p) hpo
      ⟨⟨⟨rfl, rfl, rfl, rfl, fun hp => ⟨hp.slots, hp.exclusive, ?_⟩⟩, rfl⟩, rfl⟩
    intro _ s hs
    have hv : pool.targetAvailable = true := by
      have := (not_or.1 hr).2
      simpa [targetAvailable, hpo] using this
    simp only [OutputBufferPool.targetAvailable, Bool.and_eq_true, Bool.not_eq_true', List.any_eq_false,
      decide_eq_true_eq, not_not] at hv
    exact hv.1.2 s hs

theorem acquire_quiet (b : OutputBufferBroker) (rvi : Int) (size : PixelSize) : b.Quiet (b.acquire rvi size).1 := by
  unfold acquire
  cases hf : b.pools.find? fun pool => pool.renderViewId = rvi && pool.size = size with
  | none => exact .refl b
  | some pool =>
    simp only
    cases hac : pool.acquire b.nextScreenshot with
    | error e => exact .refl b
    | ok result =>
      obtain ⟨pool', framebuffer⟩ := result
      exact forall₂_modifyFirst (fun p _ => .refl p) hf (acquire_step hac)

theorem markReadyWithFeedback_spec (r : Rounding) (b : OutputBufferBroker) (rvi : Int) (framebuffer : UInt32)
    (frameDamage bufferDamage : List FlutterRect) (fn : Option Fence) (renderedAt : Option Int)
    (feedback : List SurfaceFeedback) :
    b.markReadyWithFeedback r rvi framebuffer frameDamage bufferDamage fn renderedAt feedback = (b, false) ∨
      ∃ pool pool', (b.pools.find? fun pool => pool.renderViewId = rvi) = some pool ∧
        pool.markReady r b.transaction framebuffer frameDamage bufferDamage fn renderedAt feedback = some pool' ∧
        b.markReadyWithFeedback r rvi framebuffer frameDamage bufferDamage fn renderedAt feedback =
          ({ b with pools := modifyFirst (fun pool => pool.renderViewId = rvi) (fun _ => pool') b.pools },
          true) := by
  unfold markReadyWithFeedback
  cases b.pools.find? fun pool => pool.renderViewId = rvi with
  | none => exact .inl rfl
  | some pool =>
    simp only
    cases hr : pool.markReady r b.transaction framebuffer frameDamage bufferDamage fn renderedAt feedback with
    | none => exact .inl rfl
    | some pool' => exact .inr ⟨pool, pool', rfl, hr, rfl⟩

theorem markReadyWithFeedback_renders (r : Rounding) (b : OutputBufferBroker) (rvi : Int) (framebuffer : UInt32)
    (frameDamage bufferDamage : List FlutterRect) (fn : Option Fence) (renderedAt : Option Int)
    (feedback : List SurfaceFeedback) :
    b.Renders (b.markReadyWithFeedback r rvi framebuffer frameDamage bufferDamage fn renderedAt feedback).1 := by
  rcases markReadyWithFeedback_spec r b rvi framebuffer frameDamage bufferDamage fn renderedAt feedback with
    h | ⟨pool, pool', hf, hr, h⟩
  · rw [h]; exact (Quiet.refl b).renders
  · rw [h]
    exact forall₂_modifyFirst (fun p _ => (QuietStep.refl p).toRenderStep) hf
      (markReady_step r hr)

theorem finishTransaction_quiet (hb : b.OK) : b.Quiet b.finishTransaction.1 := by
  have : b.finishTransaction.1.pools = b.pools.map fun p => (p.finishTransaction b.transaction).1 := by
    show List.map _ (List.map _ b.pools) = _; exact List.map_map
  unfold Quiet; rw [this]
  exact forall₂_map fun p hp => finishTransaction_step (hb.pools p hp) b.transaction

theorem pool_modifyPool {out : OutputId} (hf : ∀ p, (f p).outputId = p.outputId) (output' : OutputId) :
    (b.modifyPool out f).pool output' = if output' = out then (b.pool out).map f else b.pool output' :=
  find?_modifyFirst_key hf out output' b.pools

theorem updateSlot_spec {out : OutputId} {index : Nat} {m : String}
    {f : OutputBufferSlot → Except String OutputBufferSlot}
    (hf : ∀ s s', f s = .ok s' → SlotStep s s' ∧ s'.damage = s.damage) (h : b.updateSlot out index m f = .ok b') :
    List.Forall₂ ScanoutStep b.pools b'.pools ∧ ∃ s s', b.slot out index = some s ∧ f s = .ok s' ∧
      ∀ out' index', b'.slot out' index' = if out' = out ∧ index' = index then some s' else b.slot out' index' := by
  unfold updateSlot at h
  cases hs : (b.pool out).bind fun pool => pool.slots[index]? with
  | none => rw [hs] at h; cases h
  | some s =>
    simp only [hs] at h
    obtain ⟨pool, hpo, hge⟩ := Option.bind_eq_some_iff.1 hs
    cases hstep : f s with
    | error e => rw [hstep] at h; cases h
    | ok s' =>
      simp only [hstep] at h; cases h
      refine ⟨forall₂_modifyFirst (fun p _ => ⟨.refl p, rfl⟩) hpo
        ⟨poolStep_of_slots (forall₂_set (fun s _ => SlotStep.refl s) hge (hf s s' hstep).1) id,
          map_set_of_eq hge (hf s s' hstep).2⟩, s, s', hs, hstep, fun out' index' => ?_⟩
      unfold slot; rw [pool_modifyPool]
      · by_cases ho : out' = out
        · subst ho
          obtain ⟨hlt, -⟩ := List.getElem?_eq_some_iff.1 hge
          simp only [if_true, hpo, Option.map_some, Option.bind_some, true_and]
          by_cases hi : index' = index
          · subst hi; rw [if_pos rfl, List.getElem?_set_self hlt]
          · rw [if_neg hi, List.getElem?_set_ne (Ne.symm hi)]
        · rw [if_neg ho, if_neg (fun h => ho h.1)]
      · intro p; rfl

end OutputBufferBroker

namespace OutputBufferBroker.OK

theorem slot_unique {b : OutputBufferBroker} (hb : b.OK) {s t : OutputBufferSlot} (hs : s ∈ b.pools.flatMap (·.slots))
    (ht : t ∈ b.pools.flatMap (·.slots)) (h : s.framebuffer = t.framebuffer) : s = t := by
  have hn : ((b.pools.flatMap (·.slots)).map (·.framebuffer)).Nodup := by
    rw [List.map_flatMap]; exact hb.framebuffers
  exact List.inj_on_of_nodup_map hn hs ht h

end OutputBufferBroker.OK

theorem acquire_slot {b b' : OutputBufferBroker} {rvi : Int} {size : PixelSize} {framebuffer : UInt32}
    (h : b.acquire rvi size = (b', .ok framebuffer)) :
    ∃ p ∈ b.pools, p.renderViewId = rvi ∧ p.size = size ∧ ∃ s ∈ p.slots,
      s.framebuffer = framebuffer ∧ s.outputRefs = 0 := by
  unfold OutputBufferBroker.acquire at h
  cases hf : b.pools.find? fun pool => pool.renderViewId = rvi && pool.size = size with
  | none => rw [hf] at h; cases (Prod.mk.inj h).2
  | some p =>
    simp only [hf] at h
    cases hac : p.acquire b.nextScreenshot with
    | error e => rw [hac] at h; cases (Prod.mk.inj h).2
    | ok result =>
      obtain ⟨p', fb⟩ := result
      simp only [hac] at h
      obtain rfl := Except.ok.inj (Prod.mk.inj h).2
      obtain ⟨index, s, -, hge, -, hr, -, hfb, -⟩ := acquire_spec hac
      have hn := List.find?_some hf
      simp only [Bool.and_eq_true, decide_eq_true_eq] at hn
      exact ⟨p, List.mem_of_find?_eq_some hf, hn.1, hn.2, s, List.mem_of_getElem? hge, hfb, hr⟩

namespace OutputBufferBroker

/-! ## Fresh brokers -/

theorem takeFramebuffers_some : ∀ {fs taken taken' : List UInt32},
    takeFramebuffers fs taken = some taken' →
      fs.Nodup ∧ (∀ f ∈ fs, f ∉ taken) ∧ ∀ f, f ∈ taken' ↔ f ∈ fs ∨ f ∈ taken
  | [], taken, taken', h => by
    cases h; simp
  | f :: rest, taken, taken', h => by
    unfold takeFramebuffers at h; split at h
    · cases h
    rename_i hr
    obtain ⟨hn, hd, hmem⟩ := takeFramebuffers_some h
    refine ⟨List.nodup_cons.2 ⟨fun hf => hd f hf (List.mem_cons_self ..), hn⟩, ?_, ?_⟩
    · refine List.forall_mem_cons.2 ⟨(not_or.1 hr).2, fun g hg hg' => hd g hg (List.mem_cons_of_mem _ hg')⟩
    · intro g; rw [hmem]; simp only [List.mem_cons]; tauto

/-- The descriptors of a fresh broker: nothing they name is taken, or named twice. -/
structure FreshDescriptors (ds : List OutputPoolDescriptor) (outputIds : List OutputId) (renderViewIds : List Int)
    (framebuffers : List UInt32) : Prop where
  outputs : (ds.map (·.outputId)).Nodup ∧ ∀ d ∈ ds, d.outputId ∉ outputIds
  views : (ds.map (·.renderViewId)).Nodup ∧ ∀ d ∈ ds, d.renderViewId ∉ renderViewIds
  framebuffers : (ds.flatMap (·.framebuffers)).Nodup ∧ ∀ f ∈ ds.flatMap (·.framebuffers), f ∉ framebuffers
  initial : ∀ d ∈ ds, d.initialScanout < d.framebuffers.length

theorem newLoop_ok : ∀ {ds : List OutputPoolDescriptor} {outputIds : List OutputId} {renderViewIds : List Int}
    {framebuffers : List UInt32} {generation : Option Nat} {pools : List OutputBufferPool},
    newLoop ds outputIds renderViewIds framebuffers generation = .ok pools →
      pools = ds.map newPool ∧ FreshDescriptors ds outputIds renderViewIds framebuffers
  | [], _, _, _, _, _, h => by
    cases h; exact ⟨rfl, by simp, by simp, by simp, by simp⟩
  | d :: rest, outputIds, renderViewIds, framebuffers, generation, pools, h => by
    unfold newLoop at h
    cases hk : takeFramebuffers d.framebuffers framebuffers with
    | none => rw [hk] at h; cases h
    | some t =>
      simp only [hk] at h; split at h
      · cases h
      rename_i hgu
      simp only [not_or] at hgu
      obtain ⟨-, -, hid, hv, -, -, hn, -⟩ := hgu
      obtain ⟨hno, hs, hmem⟩ := takeFramebuffers_some hk
      cases hr : newLoop rest (d.outputId :: outputIds) (d.renderViewId :: renderViewIds) t
          (some d.configurationGeneration) with
      | error e => rw [hr] at h; cases h
      | ok rp =>
        rw [hr] at h; cases h
        obtain ⟨rfl, ih⟩ := newLoop_ok hr
        refine ⟨rfl, ⟨List.nodup_cons.2 ⟨fun hd => ?_, ih.outputs.1⟩, ?_⟩,
          ⟨List.nodup_cons.2 ⟨fun hd => ?_, ih.views.1⟩, ?_⟩,
          ⟨?_, ?_⟩, List.forall_mem_cons.2 ⟨not_le.1 hn, ih.initial⟩⟩
        · obtain ⟨e, he, heq⟩ := List.mem_map.1 hd
          exact ih.outputs.2 e he (by rw [heq]; exact List.mem_cons_self ..)
        · exact List.forall_mem_cons.2 ⟨hid, fun e he h => ih.outputs.2 e he (List.mem_cons_of_mem _ h)⟩
        · obtain ⟨e, he, heq⟩ := List.mem_map.1 hd
          exact ih.views.2 e he (by rw [heq]; exact List.mem_cons_self ..)
        · exact List.forall_mem_cons.2 ⟨hv, fun e he h => ih.views.2 e he (List.mem_cons_of_mem _ h)⟩
        · rw [List.flatMap_cons]
          refine List.nodup_append'.2 ⟨hno, ih.framebuffers.1, fun f hf hf' => ?_⟩
          exact ih.framebuffers.2 f hf' ((hmem f).2 (.inl hf))
        · intro f hf hf'; rw [List.flatMap_cons] at hf
          rcases List.mem_append.1 hf with hf | hf
          · exact hs f hf hf'
          · exact ih.framebuffers.2 f hf ((hmem f).2 (.inr hf'))

theorem newPool_ok (d : OutputPoolDescriptor) : (newPool d).OK := by
  have hf : ∀ slot ∈ (newPool d).slots, slot.state = .free := by
    intro slot hsl
    obtain ⟨i, hi, rfl⟩ := List.mem_mapIdx.1 hsl; rfl
  refine ⟨fun slot hsl => ?_, fun i j s t hi _ hs _ => ?_, fun _ => hf⟩
  · have := hf slot hsl
    exact ⟨fun h => absurd this h, by simp [this], by simp [this]⟩
  · exact absurd (hf s (List.mem_of_getElem? hi)) hs

theorem newPool_framebuffers (d : OutputPoolDescriptor) : (newPool d).slots.map (·.framebuffer) = d.framebuffers := by
  unfold newPool
  refine List.ext_getElem? fun i => ?_
  rw [List.getElem?_map, List.getElem?_mapIdx, Option.map_map]
  cases d.framebuffers[i]? <;> rfl

variable {ds : List OutputPoolDescriptor}

theorem new_ok {b : OutputBufferBroker} (h : new ds = .ok b) :
    b.pools.Perm (ds.map newPool) ∧ FreshDescriptors ds [] [] [] := by
  unfold new at h
  cases hlo : newLoop ds [] [] [] none with
  | error e => rw [hlo] at h; cases h
  | ok ps =>
    obtain ⟨rfl, hf⟩ := newLoop_ok hlo; rw [hlo] at h
    refine ⟨?_, hf⟩; split at h
    · cases h
    · cases h
    · rename_i heq; cases heq
      cases h; exact List.perm_insertionSort ..

theorem ok_of_new {b : OutputBufferBroker} (h : new ds = .ok b) : b.OK := by
  obtain ⟨hr, hf⟩ := new_ok h
  refine ⟨fun pool hpo => ?_, ?_, ?_, ?_⟩
  · obtain ⟨d, -, rfl⟩ := List.mem_map.1 (hr.mem_iff.1 hpo); exact newPool_ok d
  · rw [(hr.map _).nodup_iff, List.map_map]; exact hf.outputs.1
  · rw [(hr.map _).nodup_iff, List.map_map]; exact hf.views.1
  · rw [(hr.flatMap_right _).nodup_iff, List.flatMap_map]
    simp only [newPool_framebuffers]; exact hf.framebuffers.1

end OutputBufferBroker

end Deniald.Output
