/-
Repair damage over whole runs of the broker: what a buffer owes to the frames completed on the other
buffers of its pool since its own last completed frame is covered by the damage reported for it, and a
buffer that was never completed, or whose last rendering was abandoned, owes all of itself.
-/
import Deniald.Output.Pool

namespace Deniald.Output

open Deniald.Lib Deniald.Damage
open Deniald.Topology (OutputId PixelSize)
open Deniald.Frame (OutputFrameRequest)
open OutputBufferBroker

/-! ## Runs -/

inductive BrokerEvent where
  | authorize (request : OutputFrameRequest) (now : Int)
  | cancelAuthorizations (renderViewIds : List Int)
  | expireAuthorizations (now : Int)
  | acquire (renderViewId : Int) (size : PixelSize)
  | beginTransaction
  | markReady (renderViewId : Int) (framebuffer : UInt32) (frameDamage bufferDamage : List FlutterRect)
      (fence : Option Fence) (renderedAt : Option Int) (feedback : List SurfaceFeedback)
  | finishTransaction
  | publish (output : ReadyOutputFrame)
  | releaseOutput (output : OutputId) (index : Nat)
  | retainOutput (output : OutputId) (index : Nat)
  | tagNextFrameForScreenshot (output : OutputId) (requestId : Nat)
  | cancelScreenshotFrame (requestId : Nat)

/-- What happened to a buffer's contents. -/
inductive HistoryItem where
  | completed (renderViewId : Int) (framebuffer : UInt32) (frameDamage : List FlutterRect)
  | abandoned (framebuffer : UInt32)

/-- A broker with the history of its buffers, newest first; no operation reads the history. -/
structure BrokerRun where
  broker : OutputBufferBroker
  history : List HistoryItem

namespace BrokerRun

/-- The buffers whose rendering a new transaction gives up. -/
def abandonedBy (b : OutputBufferBroker) : List HistoryItem :=
  ((b.pools.flatMap (·.slots)).filter fun slot => slot.state = .rendering).map fun slot => .abandoned slot.framebuffer

def next (r : Rounding) (run : BrokerRun) : BrokerEvent → BrokerRun
  | .authorize request now => { run with broker := (run.broker.authorize request now).1 }
  | .cancelAuthorizations renderViewIds => { run with broker := run.broker.cancelAuthorizations renderViewIds }
  | .expireAuthorizations now => { run with broker := (run.broker.expireAuthorizations now).1 }
  | .acquire renderViewId size => { run with broker := (run.broker.acquire renderViewId size).1 }
  | .beginTransaction => ⟨run.broker.beginTransaction, abandonedBy run.broker ++ run.history⟩
  | .markReady renderViewId framebuffer frameDamage bufferDamage fence renderedAt feedback =>
    match run.broker.markReadyWithFeedback r renderViewId framebuffer frameDamage bufferDamage fence
      renderedAt feedback with
    | (broker, true) => ⟨broker, .completed renderViewId framebuffer frameDamage :: run.history⟩
    | (broker, false) => { run with broker := broker }
  | .finishTransaction => { run with broker := run.broker.finishTransaction.1 }
  | .publish output => { run with broker := (run.broker.publish output).toOption.getD run.broker }
  | .releaseOutput output index =>
    { run with broker := (run.broker.releaseOutput output index).toOption.getD run.broker }
  | .retainOutput output index => { run with broker := (run.broker.retainOutput output index).toOption.getD run.broker }
  | .tagNextFrameForScreenshot output requestId =>
    { run with broker := (run.broker.tagNextFrameForScreenshot output requestId).toOption.getD run.broker }
  | .cancelScreenshotFrame requestId => { run with broker := run.broker.cancelScreenshotFrame requestId }

end BrokerRun

/-- The points a buffer of a view owes: those of the frames completed on the view's other buffers since
its own last completed frame, and all points when it was never completed or abandoned since. -/
def Owed (renderViewId : Int) (framebuffer : UInt32) : List HistoryItem → ℚ × ℚ → Prop
  | [], _ => True
  | .abandoned fb :: older, p => fb = framebuffer ∨ Owed renderViewId framebuffer older p
  | .completed view fb frameDamage :: older, p =>
    fb ≠ framebuffer ∧ ((view = renderViewId ∧ ∃ a ∈ frameDamage, a.Mem p) ∨ Owed renderViewId framebuffer older p)

/-! ## The invariant -/

def bufferBounds (size : PixelSize) : DamageRect := ⟨0, 0, size.width, size.height⟩

structure OutputBufferPool.Repaired (history : List HistoryItem) (pool : OutputBufferPool) : Prop where
  bounds : ∀ slot ∈ pool.slots, slot.damage.bounds = bufferBounds pool.size
  covers : ∀ slot ∈ pool.slots, ∀ p, (bufferBounds pool.size).Mem p →
    Owed pool.renderViewId slot.framebuffer history p → slot.damage.Covers p

structure BrokerRun.Repaired (run : BrokerRun) : Prop where
  ok : run.broker.OK
  pools : ∀ pool ∈ run.broker.pools, pool.Repaired run.history

theorem mem_slots_of_maps {p p' : OutputBufferPool} (hfb : p'.slots.map (·.framebuffer) = p.slots.map (·.framebuffer))
    (hd : p'.slots.map (·.damage) = p.slots.map (·.damage)) {s' : OutputBufferSlot} (hs' : s' ∈ p'.slots) :
    ∃ s ∈ p.slots, s'.framebuffer = s.framebuffer ∧ s'.damage = s.damage := by
  obtain ⟨i, hi⟩ := List.mem_iff_getElem?.1 hs'
  have hfb := congrArg (·[i]?) hfb
  have hd := congrArg (·[i]?) hd
  simp only [List.getElem?_map, hi, Option.map_some] at hfb hd
  cases hs : p.slots[i]? with
  | none => rw [hs] at hfb; cases hfb
  | some s =>
    rw [hs] at hfb hd
    exact ⟨s, List.mem_of_getElem? hs, Option.some.inj hfb, Option.some.inj hd⟩

variable {run : BrokerRun} {b' : OutputBufferBroker}

theorem repaired_of_damages (h : run.Repaired) (hstep : List.Forall₂ ScanoutStep run.broker.pools b'.pools) :
    BrokerRun.Repaired ⟨b', run.history⟩ where
  ok := ok_of_step (hstep.imp fun _ _ h => h.toPoolStep) h.ok
  pools p' hp' := by
    obtain ⟨p, hp, hstep⟩ := forall₂_mem_right hstep p' hp'
    have hr := h.pools p hp
    refine ⟨fun s' hs' => ?_, fun s' hs' q hq ho => ?_⟩
    · obtain ⟨s, hs, -, hd⟩ := mem_slots_of_maps hstep.framebuffers hstep.damages hs'
      rw [hd, hr.bounds s hs, hstep.size]
    · obtain ⟨s, hs, hfb, hd⟩ := mem_slots_of_maps hstep.framebuffers hstep.damages hs'
      rw [hstep.size] at hq; rw [hstep.renderViewId, hfb] at ho
      rw [hd]; exact hr.covers s hs q hq ho

theorem scanoutSteps_of_quiet {b : OutputBufferBroker} (h : b.Quiet b') : List.Forall₂ ScanoutStep b.pools b'.pools :=
  h.imp fun _ _ h => ⟨h.toPoolStep, h.damages⟩

theorem repaired_of_quiet (h : run.Repaired) (hstep : run.broker.Quiet b') : BrokerRun.Repaired ⟨b', run.history⟩ :=
  repaired_of_damages h (scanoutSteps_of_quiet hstep)

theorem repaired_of_updateSlot (h : run.Repaired) {out : OutputId} {index : Nat} {m : String}
    {f : OutputBufferSlot → Except String OutputBufferSlot}
    (hf : ∀ s s', f s = .ok s' → SlotStep s s' ∧ s'.damage = s.damage) :
    BrokerRun.Repaired ⟨(run.broker.updateSlot out index m f).toOption.getD run.broker, run.history⟩ := by
  cases hu : run.broker.updateSlot out index m f with
  | error e => exact h
  | ok b' => exact repaired_of_damages h (updateSlot_spec hf hu).1

/-! ## Abandoned and completed buffers -/

theorem owed_abandoned {view : Int} {fb : UInt32} {history : List HistoryItem} {p : ℚ × ℚ} :
    ∀ slots : List OutputBufferSlot,
      Owed view fb ((slots.map fun slot => .abandoned slot.framebuffer) ++ history) p ↔
        (∃ s ∈ slots, s.framebuffer = fb) ∨ Owed view fb history p
  | [] => by simp
  | s :: slots => by
    rw [List.map_cons, List.cons_append, Owed, owed_abandoned slots]
    simp [or_assoc]

theorem beginTransaction_bounds (s : OutputBufferSlot) : s.beginTransaction.damage.bounds = s.damage.bounds := by
  unfold OutputBufferSlot.beginTransaction; split <;> rfl

theorem beginTransaction_framebuffer (s : OutputBufferSlot) : s.beginTransaction.framebuffer = s.framebuffer := by
  unfold OutputBufferSlot.beginTransaction; split <;> rfl

/-- A slot being rendered is given up and owes all of itself; the others keep what they owed. -/
theorem repaired_beginTransaction (h : run.Repaired) :
    BrokerRun.Repaired ⟨run.broker.beginTransaction, BrokerRun.abandonedBy run.broker ++ run.history⟩ where
  ok := ok_of_step run.broker.beginTransaction_renders.step h.ok
  pools p' hp' := by
    obtain ⟨p, hp, rfl⟩ := List.mem_map.1 hp'
    have hr := h.pools p hp
    refine ⟨fun s' hs' => ?_, fun s' hs' q hq ho => ?_⟩
    · obtain ⟨s, hs, rfl⟩ := List.mem_map.1 hs'
      rw [beginTransaction_bounds]; exact hr.bounds s hs
    · obtain ⟨s, hs, rfl⟩ := List.mem_map.1 hs'
      have hn : s.damage.bounds.Mem q := by rw [hr.bounds s hs]; exact hq
      by_cases hst : s.state = .rendering
      · have hf := ((h.ok.pools p hp).slots s hs).unreferenced (by rw [hst]; decide)
        unfold OutputBufferSlot.beginTransaction
        rw [if_pos ⟨hst, hf⟩]; exact DamageRegion.setFull_covers hn
      rw [beginTransaction_framebuffer] at ho; unfold OutputBufferSlot.beginTransaction
      rw [if_neg fun h => hst h.1]
      refine hr.covers s hs q hq ((owed_abandoned _).1 ho |>.resolve_left ?_)
      rintro ⟨t, ht, hfb⟩
      obtain ⟨ht, hre⟩ := List.mem_filter.1 ht
      obtain rfl := h.ok.slot_unique ht (List.mem_flatMap.2 ⟨p, hp, hs⟩) hfb
      exact hst (of_decide_eq_true hre)

section

variable (r : Rounding)

variable {bufferDamage frameDamage : List FlutterRect} {renderedAt : Option Int} {feedback : List SurfaceFeedback}

theorem repaired_markReady_pool {history : List HistoryItem} {p p' : OutputBufferPool} {transaction : UInt64}
    {framebuffer : UInt32} {f : Option Fence} (hp : p.Repaired history)
    (h : p.markReady r transaction framebuffer frameDamage bufferDamage f renderedAt feedback = some p') :
    p'.Repaired (.completed p.renderViewId framebuffer frameDamage :: history) := by
  obtain ⟨index, slot, hge, hfb, -, rfl⟩ := OutputBufferPool.markReady_spec r h
  refine ⟨fun s' hs' => ?_, fun s' hs' q hq ho => ?_⟩
  · obtain ⟨j, hj, rfl⟩ := List.mem_mapIdx.1 hs'; have := hp.bounds _ (List.getElem_mem hj)
    dsimp only; split
    · exact this
    · rw [DamageRegion.union_bounds]; exact this
  · obtain ⟨j, hj, rfl⟩ := List.mem_mapIdx.1 hs'
    have hmem := List.getElem_mem hj
    obtain ⟨hne, ho⟩ := ho
    dsimp only at hne ho hq ⊢; split at hne
    · -- the completed slot itself
      rename_i hn; subst hn; rw [List.getElem?_eq_getElem hj] at hge
      cases hge; exact absurd hfb.symm hne
    rename_i hn
    rw [if_neg hn] at ho ⊢
    refine DamageRegion.union_covers (by rw [hp.bounds _ hmem]; exact hq) ?_
    rcases ho with ⟨-, hd⟩ | ho
    · exact .inr (DamageRegion.replaceFromFlutter_covers hq hd)
    · exact .inl (hp.covers _ hmem q hq ho)

theorem repaired_markReady {run : BrokerRun} (h : run.Repaired) {renderViewId : Int} {framebuffer : UInt32}
    {f : Option Fence} :
    (run.next r (.markReady renderViewId framebuffer frameDamage bufferDamage f renderedAt feedback)).Repaired := by
  have hok := ok_of_step
    (run.broker.markReadyWithFeedback_renders r renderViewId framebuffer frameDamage bufferDamage f renderedAt
    feedback).step h.ok
  unfold BrokerRun.next
  rcases run.broker.markReadyWithFeedback_spec r renderViewId framebuffer frameDamage bufferDamage f
    renderedAt feedback with
    hm | ⟨pool, pool', hf, hd, hm⟩
  · simp only [hm]; exact h
  · simp only [hm] at hok ⊢
    obtain rfl : pool.renderViewId = renderViewId := by simpa using List.find?_some hf
    refine ⟨hok, fun p' hp' => ?_⟩; dsimp only at hp'
    rw [modifyFirst_eq_map _ h.ok.views] at hp'
    obtain ⟨p, hp, rfl⟩ := List.mem_map.1 hp'; split
    · exact repaired_markReady_pool r (h.pools pool (List.mem_of_find?_eq_some hf)) hd
    -- a pool of another view owes nothing more
    rename_i hv
    have hr := h.pools p hp
    refine ⟨hr.bounds, fun s hs q hq ho => hr.covers s hs q hq (ho.2.resolve_left ?_)⟩
    rintro ⟨hsa, -⟩; exact hv hsa.symm

/-! ## Runs of the broker -/

theorem repaired_next {run : BrokerRun} (h : run.Repaired) (e : BrokerEvent) : (run.next r e).Repaired := by
  cases e with
  | authorize request now => exact repaired_of_quiet h (run.broker.authorize_quiet request now)
  | cancelAuthorizations vs => exact repaired_of_quiet h (run.broker.cancelAuthorizations_quiet vs)
  | expireAuthorizations now => exact repaired_of_quiet h (run.broker.expireAuthorizations_quiet now)
  | acquire view size => exact repaired_of_quiet h (run.broker.acquire_quiet view size)
  | beginTransaction => exact repaired_beginTransaction h
  | markReady => exact repaired_markReady r h
  | finishTransaction => exact repaired_of_quiet h (finishTransaction_quiet h.ok)
  | publish out =>
    exact repaired_of_updateSlot h fun s s' hs => ⟨OutputBufferSlot.publish_step hs, OutputBufferSlot.publish_damage hs⟩
  | releaseOutput out index =>
    exact repaired_of_updateSlot h fun s s' hs => ⟨OutputBufferSlot.release_step hs, OutputBufferSlot.release_damage hs⟩
  | retainOutput out index =>
    exact repaired_of_updateSlot h fun s s' hs => ⟨OutputBufferSlot.retain_step hs, OutputBufferSlot.retain_damage hs⟩
  | tagNextFrameForScreenshot out requestId =>
    show BrokerRun.Repaired ⟨(run.broker.tagNextFrameForScreenshot out requestId).toOption.getD run.broker,
      run.history⟩
    unfold tagNextFrameForScreenshot; split
    · exact h
    · exact ⟨⟨h.ok.pools, h.ok.outputs, h.ok.views, h.ok.framebuffers⟩, h.pools⟩
  | cancelScreenshotFrame requestId => exact repaired_of_quiet h (run.broker.cancelScreenshotFrame_quiet requestId)

theorem repaired_of_new {dss : List OutputPoolDescriptor} {b : OutputBufferBroker}
    (h : new dss = .ok b) : BrokerRun.Repaired ⟨b, []⟩ where
  ok := ok_of_new h
  pools p hp := by
    obtain ⟨hr, -⟩ := new_ok h
    obtain ⟨d, -, rfl⟩ := List.mem_map.1 (hr.mem_iff.1 hp)
    have hf : ∀ s ∈ (newPool d).slots, s.damage = .full d.size.width d.size.height := by
      intro s hs
      obtain ⟨i, hi, rfl⟩ := List.mem_mapIdx.1 hs; rfl
    refine ⟨fun s hs => by rw [hf s hs]; rfl, fun s hs q hq _ => ?_⟩
    rw [hf s hs]; exact DamageRegion.setFull_covers hq

end

theorem populateExistingDamage_of_slot {b : OutputBufferBroker} (hb : b.OK) {s : OutputBufferSlot}
    (hs : s ∈ b.pools.flatMap (·.slots)) :
    b.populateExistingDamage s.framebuffer.toNat [] = (s.damage.writeFlutter, true) := by
  have hn : ((b.pools.flatMap (·.slots)).map (·.framebuffer.toNat)).Nodup := by
    refine List.Nodup.map_on (fun t ht u hu h => hb.slot_unique ht hu (UInt32.toNat_inj.1 h)) ?_
    refine List.Nodup.of_map (·.framebuffer) ?_
    rw [List.map_flatMap]; exact hb.framebuffers
  have hlt := s.framebuffer.toNat_lt
  unfold populateExistingDamage
  rw [if_neg (by omega), Int.toNat_natCast, find?_of_mem hn hs]; rfl

/-- Whatever is done with a broker, in any order: at every acquire the damage reported for the acquired
framebuffer covers, within the buffer, all that the buffer owes. -/
theorem repair_damage_complete (r : Rounding) (descriptors : List OutputPoolDescriptor) (b : OutputBufferBroker)
    (hnew : OutputBufferBroker.new descriptors = .ok b) (es : List BrokerEvent) (renderViewId : Int) (size : PixelSize)
    (framebuffer : UInt32) (b' : OutputBufferBroker)
    (hacquire : (exec (BrokerRun.next r) ⟨b, []⟩ es).broker.acquire renderViewId size = (b', .ok framebuffer)) :
    (b'.populateExistingDamage framebuffer.toNat []).2 = true ∧
      ∀ p, (bufferBounds size).Mem p →
        Owed renderViewId framebuffer (exec (BrokerRun.next r) ⟨b, []⟩ es).history p →
          ∃ a ∈ (b'.populateExistingDamage framebuffer.toNat []).1, a.Mem p := by
  have hrun : (exec (BrokerRun.next r) ⟨b, []⟩ es).Repaired :=
    exec_invariant (I := BrokerRun.Repaired) (fun _ e h => repaired_next r h e) es (repaired_of_new hnew)
  obtain ⟨p, hp, rfl, rfl, s, hs, rfl, -⟩ := acquire_slot hacquire
  have hquiet := (exec (BrokerRun.next r) ⟨b, []⟩ es).broker.acquire_quiet p.renderViewId p.size
  rw [hacquire] at hquiet
  have haft := repaired_of_quiet hrun hquiet
  -- the slot after the acquire, with the same framebuffer
  obtain ⟨p', hp', hstep⟩ := forall₂_mem_left hquiet p hp
  have hmem : s.framebuffer ∈ p'.slots.map (·.framebuffer) := by
    rw [hstep.framebuffers]; exact List.mem_map_of_mem hs
  obtain ⟨s', hs', hfb⟩ := List.mem_map.1 hmem
  rw [← hfb, populateExistingDamage_of_slot haft.ok (List.mem_flatMap.2 ⟨p', hp', hs'⟩)]
  refine ⟨rfl, fun q hq howed => DamageRegion.writeFlutter_covers.1 ?_⟩
  refine (haft.pools p' hp').covers s' hs' q ?_ ?_
  · rw [hstep.size]; exact hq
  · rw [hstep.renderViewId]; exact howed

/-- An output with three buffers, the first of them scanned out. -/
def tripleBuffered : OutputPoolDescriptor where
  outputId := 1
  renderViewId := 7
  configurationGeneration := 1
  size := ⟨4, 4⟩
  initialScanout := 0
  framebuffers := [11, 12, 13]

def firstRequest : OutputFrameRequest where
  tick := { output := 1, sequence := 1, renderDeadline := 0, presentationTarget := 16, interval := 16 }
  dirtySerial := 1
  mark := 1

/-- The first buffer acquired, never completed before, is reported damaged at its origin. -/
theorem repair_damage_complete_first_frame :
    ∃ a ∈ ((exec (BrokerRun.next .exact) ⟨⟨[OutputBufferBroker.newPool tripleBuffered], 0, none⟩, []⟩
        [.authorize firstRequest 0]).broker.acquire 7 ⟨4, 4⟩).1.populateExistingDamage 12 [] |>.1, a.Mem (0, 0) :=
  (repair_damage_complete .exact [tripleBuffered] _ rfl [.authorize firstRequest 0] 7 ⟨4, 4⟩ 12 _ rfl).2 (0, 0)
    (by simp [bufferBounds, DamageRect.Mem]) trivial

end Deniald.Output
