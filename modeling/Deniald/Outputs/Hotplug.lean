/-
Hotplug transactions (hotplug_transaction.rs): which live scanouts a new topology reuses, how their ownership is
handed over (kms_pipeline.rs, `reconcile_scanouts`), and the journal that says when hardware must be rolled back.
-/
import Deniald.Lib.Fallible
import Deniald.Lib.LinkedMap
import Deniald.Lib.Lists
import Deniald.Topology.Atlas

namespace Deniald.Outputs

open Deniald.Lib
open Deniald.Topology (PixelRect)

/-! ## The plan -/

structure ScanoutKey where
  output : UInt64
  crtc : UInt32
  deriving DecidableEq

inductive ScanoutOrigin where
  | reuse (index : Nat)
  | create
  deriving DecidableEq

inductive ReconcilePlanError where
  | invalidOutput
  | invalidCrtc
  | duplicateOutput (output : UInt64)
  | duplicateCrtc (crtc : UInt32)

def validateKey (key : ScanoutKey) : Except ReconcilePlanError Unit :=
  if key.output = 0 then .error .invalidOutput
  else if key.crtc = 0 then .error .invalidCrtc
  else .ok ()

/-- The outputs and CRTCs of a topology that were read so far. -/
structure Claimed where
  outputs : Finset UInt64 := ∅
  crtcs : Finset UInt32 := ∅

/-- What both loops of the planner check of an entry. -/
def Claimed.claim (claimed : Claimed) (key : ScanoutKey) : Except ReconcilePlanError Claimed :=
  match validateKey key with
  | .error e => .error e
  | .ok () =>
    if key.output ∈ claimed.outputs then .error (.duplicateOutput key.output)
    else if key.crtc ∈ claimed.crtcs then .error (.duplicateCrtc key.crtc)
    else .ok ⟨insert key.output claimed.outputs, insert key.crtc claimed.crtcs⟩

/-- The first loop: where each live scanout is. -/
def indexCurrent : List ScanoutKey → Nat → Claimed → LinkedMap ScanoutKey Nat →
    Except ReconcilePlanError (LinkedMap ScanoutKey Nat)
  | [], _, _, existing => .ok existing
  | key :: current, index, claimed, existing => do
    let claimed ← claimed.claim key
    indexCurrent current (index + 1) claimed (existing.set key index)

def originOf (existing : LinkedMap ScanoutKey Nat) (key : ScanoutKey) : ScanoutOrigin :=
  match existing.get? key with
  | some index => .reuse index
  | none => .create

/-- The second loop. -/
def planDesired (existing : LinkedMap ScanoutKey Nat) : List ScanoutKey → Claimed →
    Except ReconcilePlanError (List ScanoutOrigin)
  | [], _ => .ok []
  | key :: desired, claimed => do
    let claimed ← claimed.claim key
    let plan ← planDesired existing desired claimed
    .ok (originOf existing key :: plan)

def planReconcile (current desired : List ScanoutKey) : Except ReconcilePlanError (List ScanoutOrigin) := do
  let existing ← indexCurrent current 0 {} .empty
  planDesired existing desired {}

/-! ## Which topologies have a plan -/

/-- No output and no CRTC is zero or occurs twice. -/
structure Claimable (keys : List ScanoutKey) : Prop where
  nonzero : ∀ key ∈ keys, key.output ≠ 0 ∧ key.crtc ≠ 0
  outputs : (keys.map (·.output)).Nodup
  crtcs : (keys.map (·.crtc)).Nodup

/-- What an entry must be for the planner to take it after the ones it read. -/
structure Claimed.Free (claimed : Claimed) (key : ScanoutKey) : Prop where
  output : key.output ≠ 0 ∧ key.output ∉ claimed.outputs
  crtc : key.crtc ≠ 0 ∧ key.crtc ∉ claimed.crtcs

def Claimed.add (claimed : Claimed) (key : ScanoutKey) : Claimed :=
  ⟨insert key.output claimed.outputs, insert key.crtc claimed.crtcs⟩

variable {key : ScanoutKey}

theorem Claimed.claim_ok {c claimed' : Claimed} : c.claim key = .ok claimed' ↔ c.Free key ∧ c.add key = claimed' := by
  unfold Claimed.claim validateKey
  constructor
  · intro h; split at h
    · cases h
    rename_i hv; split at hv
    · cases hv
    · split at hv
      · cases hv
      split at h
      · cases h
      split at h
      · cases h
      · exact ⟨⟨⟨‹_›, ‹_›⟩, ⟨‹_›, ‹_›⟩⟩, Except.ok.inj h⟩
  · rintro ⟨hf, rfl⟩
    rw [if_neg hf.output.1, if_neg hf.crtc.1]
    simp only [if_neg hf.output.2, if_neg hf.crtc.2]; rfl

/-- What the rest of a topology must be after the entries the planner read. -/
structure ClaimableAfter (claimed : Claimed) (keys : List ScanoutKey) : Prop extends Claimable keys where
  fresh : ∀ key ∈ keys, key.output ∉ claimed.outputs ∧ key.crtc ∉ claimed.crtcs

variable {current desired keys : List ScanoutKey}

theorem claimableAfter_empty : ClaimableAfter {} keys ↔ Claimable keys :=
  ⟨fun h => h.toClaimable, fun h => ⟨h, fun _ _ => ⟨Finset.notMem_empty _, Finset.notMem_empty _⟩⟩⟩

theorem claimableAfter_nil {c : Claimed} : ClaimableAfter c [] where
  nonzero := by simp
  outputs := List.nodup_nil
  crtcs := List.nodup_nil
  fresh := by simp

theorem claimableAfter_cons {c : Claimed} :
    ClaimableAfter c (key :: keys) ↔ c.Free key ∧ ClaimableAfter (c.add key) keys := by
  constructor
  · rintro ⟨⟨hn, ho, hcr⟩, hf⟩
    rw [List.map_cons, List.nodup_cons] at ho hcr
    obtain ⟨hz, hs⟩ := List.forall_mem_cons.1 hn
    obtain ⟨hh, hf⟩ := List.forall_mem_cons.1 hf
    refine ⟨⟨⟨hz.1, hh.1⟩, hz.2, hh.2⟩, ⟨hs, ho.2, hcr.2⟩, fun k hk => ⟨?_, ?_⟩⟩
    · rw [Claimed.add, Finset.mem_insert, not_or]
      exact ⟨fun heq => ho.1 (heq ▸ List.mem_map_of_mem hk), (hf k hk).1⟩
    · rw [Claimed.add, Finset.mem_insert, not_or]
      exact ⟨fun heq => hcr.1 (heq ▸ List.mem_map_of_mem hk), (hf k hk).2⟩
  · rintro ⟨hr, ⟨hn, ho, hcr⟩, hf⟩
    simp only [Claimed.add, Finset.mem_insert, not_or] at hf
    refine ⟨⟨?_, ?_, ?_⟩, ?_⟩
    · exact List.forall_mem_cons.2 ⟨⟨hr.output.1, hr.crtc.1⟩, hn⟩
    · refine List.nodup_cons.2 ⟨fun hmem => ?_, ho⟩
      obtain ⟨k, hk, heq⟩ := List.mem_map.1 hmem; exact (hf k hk).1.1 heq
    · refine List.nodup_cons.2 ⟨fun hmem => ?_, hcr⟩
      obtain ⟨k, hk, heq⟩ := List.mem_map.1 hmem; exact (hf k hk).2.1 heq
    · exact List.forall_mem_cons.2 ⟨⟨hr.output.2, hr.crtc.2⟩, fun k hk => ⟨(hf k hk).1.2, (hf k hk).2.2⟩⟩

theorem indexCurrent_succeeds : ∀ {current : List ScanoutKey} (index : Nat) {claimed : Claimed}
    (existing : LinkedMap ScanoutKey Nat),
    (∃ existing', indexCurrent current index claimed existing = .ok existing') ↔ ClaimableAfter claimed current
  | [], _, _, existing => ⟨fun _ => claimableAfter_nil, fun _ => ⟨existing, rfl⟩⟩
  | key :: current, index, claimed, existing => by
    rw [claimableAfter_cons, ← indexCurrent_succeeds (index + 1) (existing.set key index)]
    simp only [indexCurrent, bind_ok, Claimed.claim_ok]
    constructor
    · rintro ⟨existing', claimed', ⟨hf, rfl⟩, h⟩; exact ⟨hf, existing', h⟩
    · rintro ⟨hf, existing', h⟩; exact ⟨existing', _, ⟨hf, rfl⟩, h⟩

theorem planDesired_succeeds (existing : LinkedMap ScanoutKey Nat) : ∀ {desired : List ScanoutKey} {c : Claimed},
    (∃ plan, planDesired existing desired c = .ok plan) ↔ ClaimableAfter c desired
  | [], _ => ⟨fun _ => claimableAfter_nil, fun _ => ⟨[], rfl⟩⟩
  | key :: desired, c => by
    rw [claimableAfter_cons, ← planDesired_succeeds existing]
    simp only [planDesired, bind_ok, Claimed.claim_ok]
    constructor
    · rintro ⟨_, claimed', ⟨hf, rfl⟩, plan, h, -⟩; exact ⟨hf, plan, h⟩
    · rintro ⟨hf, plan, h⟩; exact ⟨_, _, ⟨hf, rfl⟩, plan, h, rfl⟩

theorem planReconcile_succeeds :
    (∃ plan, planReconcile current desired = .ok plan) ↔ Claimable current ∧ Claimable desired := by
  rw [← claimableAfter_empty, ← claimableAfter_empty, ← indexCurrent_succeeds 0 .empty]
  simp only [planReconcile, bind_ok]
  constructor
  · rintro ⟨plan, existing, he, hn⟩
    exact ⟨⟨existing, he⟩, (planDesired_succeeds existing).1 ⟨plan, hn⟩⟩
  · rintro ⟨⟨existing, he⟩, hd⟩
    obtain ⟨plan, hn⟩ := (planDesired_succeeds existing).2 hd
    exact ⟨plan, existing, he, hn⟩

/-! ## What the plan says -/

def Indexed (keys : List ScanoutKey) (existing : LinkedMap ScanoutKey Nat) : Prop :=
  ∀ key index, existing.get? key = some index ↔ keys[index]? = some key

variable {existing : LinkedMap ScanoutKey Nat}

theorem Indexed.snoc (h : Indexed keys existing) (hf : key ∉ keys) :
    Indexed (keys ++ [key]) (existing.set key keys.length) := by
  intro k index
  have he : (keys ++ [key])[index]? = some k ↔ keys[index]? = some k ∨ index = keys.length ∧ key = k := by
    rw [List.getElem?_append]; split
    · rename_i hlt
      exact ⟨.inl, fun h => h.resolve_right fun h => absurd h.1 (Nat.ne_of_lt hlt)⟩
    rename_i hge
    rw [List.getElem?_singleton, List.getElem?_eq_none (Nat.le_of_not_lt hge)]
    constructor
    · intro h; split at h
      · exact .inr ⟨by omega, Option.some.inj h⟩
      · cases h
    · rintro (h | ⟨rfl, rfl⟩)
      · cases h
      · simp
  rw [he, LinkedMap.get?_set]; split
  · rename_i heq; subst heq
    constructor
    · intro h; exact .inr ⟨(Option.some.inj h).symm, rfl⟩
    · rintro (h | ⟨rfl, -⟩)
      · exact absurd (List.mem_of_getElem? h) hf
      · rfl
  · rename_i hne; rw [h k index]
    exact ⟨.inl, fun h => h.resolve_right fun h => hne h.2.symm⟩

theorem indexCurrent_indexed : ∀ {current : List ScanoutKey} (done : List ScanoutKey) {claimed : Claimed}
    {existing existing' : LinkedMap ScanoutKey Nat},
    indexCurrent current done.length claimed existing = .ok existing' → Indexed done existing →
    (done ++ current).Nodup → Indexed (done ++ current) existing'
  | [], done, _, existing, _, h, hd, _ => by
    cases h
    rwa [List.append_nil]
  | key :: current, done, claimed, existing, existing', h, hd, hn => by
    obtain ⟨c', -, h⟩ := bind_ok.1 h
    have hs : done ++ key :: current = (done ++ [key]) ++ current := by simp
    have hf : key ∉ done := fun hmem =>
      (List.nodup_append.1 hn).2.2 key hmem key (List.mem_cons_self ..) rfl
    rw [hs] at hn ⊢
    rw [show done.length + 1 = (done ++ [key]).length by simp] at h
    exact indexCurrent_indexed _ h (hd.snoc hf) hn

theorem planDesired_eq : ∀ {desired : List ScanoutKey} {claimed : Claimed}
    {plan : List ScanoutOrigin}, planDesired existing desired claimed = .ok plan → plan = desired.map (originOf existing)
  | [], _, _, h => (Except.ok.inj h).symm
  | key :: desired, claimed, plan, h => by
    obtain ⟨c', -, h⟩ := bind_ok.1 h
    obtain ⟨rest, hr, h⟩ := bind_ok.1 h
    rw [← Except.ok.inj h, planDesired_eq hr, List.map_cons]

theorem planReconcile_ok {plan : List ScanoutOrigin} (h : planReconcile current desired = .ok plan) :
    ∃ existing, Indexed current existing ∧ plan = desired.map (originOf existing) := by
  have hm := (planReconcile_succeeds.1 ⟨plan, h⟩).1
  obtain ⟨existing, he, h⟩ := bind_ok.1 h
  have hem : Indexed [] .empty := by
    intro key index; simp
  exact ⟨existing, indexCurrent_indexed [] he hem hm.outputs.of_map, planDesired_eq h⟩

theorem originOf_reuse (h : Indexed keys existing) {index : Nat} :
    originOf existing key = .reuse index ↔ keys[index]? = some key := by
  rw [← h key index, originOf]; split
  · rename_i idx' hge; rw [hge]
    exact ⟨fun h => by rw [ScanoutOrigin.reuse.inj h], fun h => by rw [Option.some.inj h]⟩
  · rename_i hge; rw [hge]
    exact ⟨fun h => (by cases h), fun h => (by cases h)⟩

theorem originOf_create (h : Indexed keys existing) : originOf existing key = .create ↔ key ∉ keys := by
  constructor
  · intro ho hmem
    obtain ⟨index, hn⟩ := List.mem_iff_getElem?.1 hmem
    rw [(originOf_reuse h).2 hn] at ho; cases ho
  · intro hmem
    cases ho : originOf existing key with
    | create => rfl
    | reuse index => exact absurd (List.mem_of_getElem? ((originOf_reuse h).1 ho)) hmem

/-- What a plan says of the entries of the two topologies: a partial injection of the desired into the live ones. -/
structure Matching (current desired : List ScanoutKey) (plan : List ScanoutOrigin) : Prop where
  length : plan.length = desired.length
  reuse : ∀ (n : Nat) (key : ScanoutKey), desired[n]? = some key →
    ∀ index, plan[n]? = some (.reuse index) ↔ current[index]? = some key
  create : ∀ (n : Nat) (key : ScanoutKey), desired[n]? = some key → (plan[n]? = some .create ↔ key ∉ current)
  once : ∀ n m index : Nat, plan[n]? = some (.reuse index) → plan[m]? = some (.reuse index) → n = m

theorem planReconcile_matching {plan : List ScanoutOrigin} (h : planReconcile current desired = .ok plan) :
    Matching current desired plan := by
  have hno := (planReconcile_succeeds.1 ⟨plan, h⟩).2.outputs.of_map
  obtain ⟨existing, hd, rfl⟩ := planReconcile_ok h
  refine ⟨List.length_map .., ?_, ?_, ?_⟩
  · intro n key hk index
    rw [List.getElem?_map, hk, Option.map_some, Option.some_inj]; exact originOf_reuse hd
  · intro n key hk
    rw [List.getElem?_map, hk, Option.map_some, Option.some_inj]; exact originOf_create hd
  · intro n m index hn hm
    rw [List.getElem?_map] at hn hm
    obtain ⟨key, hk, hn⟩ := Option.map_eq_some_iff.1 hn
    obtain ⟨key', hk', hm⟩ := Option.map_eq_some_iff.1 hm
    have heq := ((originOf_reuse hd).1 hn).symm.trans ((originOf_reuse hd).1 hm); cases heq
    exact (List.getElem?_inj (List.getElem?_eq_some_iff.1 hk).1 hno).1 (hk.trans hk'.symm)

/-! ## Ownership -/

structure OwnedScanout (O S : Type) where
  output : O
  sourceRect : PixelRect
  surface : S

inductive ReconciledScanoutOrigin (O : Type) where
  | reused (index : Nat) (output : O) (sourceRect : PixelRect)
  | created

structure ScanoutReconciliation (O S : Type) where
  candidate : List (OwnedScanout O S)
  retired : List (Option (OwnedScanout O S))
  origins : List (ReconciledScanoutOrigin O)

section Ownership

variable {O S : Type}

def takeOver (created : Option (OwnedScanout O S)) (output : O) (sourceRect : PixelRect)
    (r : ScanoutReconciliation O S) : ScanoutOrigin → Option (ScanoutReconciliation O S)
  | .reuse index => do
    let scanout ← r.retired[index]?.join
    some {
      candidate := r.candidate ++ [{ scanout with output, sourceRect }]
      retired := r.retired.set index none
      origins := r.origins ++ [.reused index scanout.output scanout.sourceRect] }
  | .create => do
    let scanout ← created
    some { r with candidate := r.candidate ++ [scanout], origins := r.origins ++ [.created] }

def transfer (created : Nat → Option (OwnedScanout O S)) : Nat → List (O × PixelRect) → List ScanoutOrigin →
    ScanoutReconciliation O S → Option (ScanoutReconciliation O S)
  | n, (output, sourceRect) :: desired, origin :: plan, r => do
    let r ← takeOver (created n) output sourceRect r origin
    transfer created (n + 1) desired plan r
  | _, _, _, r => some r

def createdFor (createSurface : O → S) (desired : List (O × PixelRect)) (plan : List ScanoutOrigin) (n : Nat) :
    Option (OwnedScanout O S) := do
  let target ← desired[n]?
  if plan[n]? = some .create then some ⟨target.1, target.2, createSurface target.1⟩ else none

/-- The transfer of ownership at the end of `reconcile_scanouts`, after everything that can fail. -/
def transferOwnership (createSurface : O → S) (scanouts : List (OwnedScanout O S)) (desired : List (O × PixelRect))
    (plan : List ScanoutOrigin) : Option (ScanoutReconciliation O S) :=
  transfer (createdFor createSurface desired plan) 0 desired plan ⟨[], scanouts.map some, []⟩

/-- The live scanouts a plan leaves to be retired. -/
def unused (plan : List ScanoutOrigin) (scanouts : List (OwnedScanout O S)) : List (Option (OwnedScanout O S)) :=
  scanouts.mapIdx fun index scanout => if .reuse index ∈ plan then none else some scanout

theorem takeOver_retired (c : Option (OwnedScanout O S)) (out : O) (sr : PixelRect)
    (r : ScanoutReconciliation O S) {org : ScanoutOrigin} (hr : org = .create → c.isSome)
    (hre : ∀ index, org = .reuse index → ∃ scan, r.retired[index]? = some (some scan)) :
    ∃ r', takeOver c out sr r org = some r' ∧ r'.candidate.length = r.candidate.length + 1 ∧
      ∀ index, r'.retired[index]? = if org = .reuse index then some none else r.retired[index]? := by
  cases org with
  | reuse index =>
    obtain ⟨scan, hs⟩ := hre index rfl
    refine ⟨_, by rw [takeOver, hs]; rfl, by simp, fun idx' => ?_⟩
    by_cases heq : index = idx'
    · subst heq
      simp [List.getElem?_set_self (List.getElem?_eq_some_iff.1 hs).1]
    · rw [if_neg fun h => heq (ScanoutOrigin.reuse.inj h), List.getElem?_set_ne heq]
  | create =>
    obtain ⟨scan, hs⟩ := Option.isSome_iff_exists.1 (hr rfl)
    refine ⟨_, by rw [takeOver, hs]; rfl, by simp, fun index => ?_⟩; rw [if_neg fun h => by cases h]

theorem transfer_retired {c : Nat → Option (OwnedScanout O S)} : ∀ (n : Nat) {desired : List (O × PixelRect)}
    {plan : List ScanoutOrigin} (r : ScanoutReconciliation O S), plan.length = desired.length →
    (∀ m : Nat, plan[m]? = some .create → (c (n + m)).isSome) →
    (∀ index, .reuse index ∈ plan → ∃ scan, r.retired[index]? = some (some scan)) →
    (plan.Pairwise fun a b => ∀ index, a = .reuse index → b ≠ .reuse index) →
    ∃ r', transfer c n desired plan r = some r' ∧ r'.candidate.length = r.candidate.length + desired.length ∧
      ∀ index, r'.retired[index]? = if .reuse index ∈ plan then some none else r.retired[index]?
  | n, [], [], r, _, _, _, _ => ⟨r, rfl, rfl, fun index => by rw [if_neg List.not_mem_nil]⟩
  | n, (output, sourceRect) :: desired, origin :: plan, r, hlen, hr, hs, ho => by
    obtain ⟨hh, ho⟩ := List.pairwise_cons.1 ho
    obtain ⟨r₁, hk, hc₁, hr₁⟩ := takeOver_retired (c n) output sourceRect r
      (fun h => hr 0 (congrArg some h))
      fun index h => hs index (h ▸ List.mem_cons_self ..)
    obtain ⟨r₂, hn, hc₂, hr₂⟩ := transfer_retired (n + 1) r₁
      (Nat.succ.inj hlen) (fun m hm => by rw [Nat.add_right_comm]; exact hr (m + 1) hm)
      (fun index hmem => by
        rw [hr₁, if_neg fun h => hh _ hmem index h rfl]
        exact hs index (List.mem_cons_of_mem _ hmem))
      ho
    refine ⟨r₂, ?_, ?_, fun index => ?_⟩
    · rw [transfer, hk]; exact hn
    · rw [hc₂, hc₁, List.length_cons]; omega
    · rw [hr₂, hr₁]
      by_cases hmem : .reuse index ∈ plan
      · rw [if_pos hmem, if_pos (List.mem_cons_of_mem _ hmem)]
      · rw [if_neg hmem]
        simp [hmem, eq_comm]

theorem transferOwnership_retires {key : O → ScanoutKey} {scanouts : List (OwnedScanout O S)}
    {desired : List (O × PixelRect)} {plan : List ScanoutOrigin}
    (h : Matching (scanouts.map fun s => key s.output) (desired.map fun d => key d.1) plan) (surf : O → S) :
    ∃ r, transferOwnership surf scanouts desired plan = some r ∧ r.candidate.length = desired.length ∧
      r.retired = unused plan scanouts := by
  have hlen : plan.length = desired.length := h.length.trans (List.length_map ..)
  have hr : ∀ m : Nat, plan[m]? = some .create → (createdFor surf desired plan (0 + m)).isSome := by
    intro m hm
    have hbo : m < desired.length := hlen ▸ (List.getElem?_eq_some_iff.1 hm).1
    simp [createdFor, hm, List.getElem?_eq_getElem hbo]
  have hv : ∀ index, .reuse index ∈ plan → ∃ scanout, scanouts[index]? = some scanout := by
    intro index hmem
    obtain ⟨n, hn⟩ := List.mem_iff_getElem?.1 hmem
    have hbo : n < desired.length := hlen ▸ (List.getElem?_eq_some_iff.1 hn).1
    have hk := (h.reuse n _ (by rw [List.getElem?_map, List.getElem?_eq_getElem hbo]; rfl) index).1 hn
    rw [List.getElem?_map] at hk
    obtain ⟨scanout, hs, -⟩ := Option.map_eq_some_iff.1 hk; exact ⟨scanout, hs⟩
  have ho : plan.Pairwise fun a b => ∀ index, a = .reuse index → b ≠ .reuse index := by
    rw [List.pairwise_iff_getElem]; intro n m hn hm hlt index ha hb
    refine Nat.ne_of_lt hlt (h.once n m index ?_ ?_)
    · rw [List.getElem?_eq_getElem hn, ha]
    · rw [List.getElem?_eq_getElem hm, hb]
  obtain ⟨r, htr, hca, hre⟩ := transfer_retired 0 ⟨[], scanouts.map some, []⟩ hlen hr
    (fun index hmem => by
      obtain ⟨scanout, hs⟩ := hv index hmem
      exact ⟨scanout, by rw [List.getElem?_map, hs]; rfl⟩) ho
  refine ⟨r, htr, by simpa using hca, List.ext_getElem? fun index => ?_⟩
  rw [hre, unused, List.getElem?_mapIdx, List.getElem?_map]
  by_cases hmem : .reuse index ∈ plan
  · obtain ⟨scanout, hs⟩ := hv index hmem
    rw [if_pos hmem, hs, Option.map_some, if_pos hmem]
  rw [if_neg hmem]
  cases scanouts[index]? with
  | none => rfl
  | some scanout => rw [Option.map_some, Option.map_some, if_neg hmem]

end Ownership

/-! ## The journal -/

inductive HotplugPhase where
  | staging
  | validated
  | committing
  | presented
  | finalized
  | rolledBack
  deriving DecidableEq

/-- `usize::MAX`. -/
def usizeMax : Nat := 2 ^ 64 - 1

structure HotplugProgress where
  phase : HotplugPhase := .staging
  committedOutputs : Nat := 0

inductive ProgressCall where
  | markValidated
  | recordCommit
  | markPresented
  | markFinalized
  | markRolledBack

namespace HotplugProgress

def rollbackRequired (p : HotplugProgress) : Bool :=
  p.committedOutputs != 0 && !(p.phase == .finalized || p.phase == .rolledBack)

/-- What a method asserts of the journal. -/
def asserts (p : HotplugProgress) : ProgressCall → Bool
  | .markValidated => p.phase == .staging
  | .recordCommit | .markPresented => p.phase == .validated || p.phase == .committing
  | .markFinalized => p.phase == .presented
  | .markRolledBack => p.rollbackRequired

/-- What it then writes. -/
def call (p : HotplugProgress) : ProgressCall → HotplugProgress
  | .markValidated => { p with phase := .validated }
  | .recordCommit => ⟨.committing, min (p.committedOutputs + 1) usizeMax⟩
  | .markPresented => { p with phase := .presented }
  | .markFinalized => { p with phase := .finalized }
  | .markRolledBack => { p with phase := .rolledBack }

end HotplugProgress

/-- The calls that end a transaction. -/
def ProgressCall.Resolves (c : ProgressCall) : Prop := c = .markFinalized ∨ c = .markRolledBack

/-- Some commit was recorded, and since then nothing was finalized or rolled back. -/
def Outstanding (calls : List ProgressCall) : Prop := Lasting (· = .recordCommit) ProgressCall.Resolves calls

/-- A run of the journal whose assertions hold. -/
def Asserted (calls : List ProgressCall) : Prop := Along HotplugProgress.call (fun p c => p.asserts c = true) {} calls

theorem rollbackRequired_call {p : HotplugProgress} {c : ProgressCall} (h : p.asserts c = true) :
    (p.call c).rollbackRequired = true ↔ c = .recordCommit ∨ p.rollbackRequired = true ∧ ¬c.Resolves := by
  obtain ⟨ph, committed⟩ := p
  cases c with
  | recordCommit =>
    have hpos : min (committed + 1) usizeMax ≠ 0 := by unfold usizeMax; omega
    simp [HotplugProgress.call, HotplugProgress.rollbackRequired, hpos]
  | markFinalized => simp [HotplugProgress.call, HotplugProgress.rollbackRequired, ProgressCall.Resolves]
  | markRolledBack => simp [HotplugProgress.call, HotplugProgress.rollbackRequired, ProgressCall.Resolves]
  | markValidated | markPresented =>
    cases ph <;>
      simp_all [HotplugProgress.call, HotplugProgress.asserts, HotplugProgress.rollbackRequired, ProgressCall.Resolves]

theorem rollbackRequired_iff {calls : List ProgressCall} (h : Asserted calls) :
    (exec HotplugProgress.call {} calls).rollbackRequired = true ↔ Outstanding calls := by
  refine exec_history (I := fun calls p => p.rollbackRequired = true ↔ Outstanding calls) ?_ ?_ h
  · exact ⟨fun h => (by cases h), fun h => absurd h not_lasting_nil⟩
  · intro calls c ih hc
    unfold Outstanding at ih ⊢
    rw [rollbackRequired_call hc, ih, lasting_snoc]

/-! ## The transaction -/

/-- The planner refuses exactly the topologies with a zero or a repeated output or CRTC, and otherwise matches the
desired entries with live scanouts of the same key, each at most once; the rest is retired. Over every run of the
journal a rollback is required exactly while a recorded commit is neither finalized nor rolled back. -/
theorem hotplug_plan_is_partial_injection :
    (∀ current desired : List ScanoutKey,
      ((∃ error, planReconcile current desired = .error error) ↔ ¬(Claimable current ∧ Claimable desired)) ∧
      ∀ plan, planReconcile current desired = .ok plan → Matching current desired plan ∧
        ∀ (O S : Type) (key : O → ScanoutKey) (createSurface : O → S) (scanouts : List (OwnedScanout O S))
          (outputs : List (O × PixelRect)), (scanouts.map fun s => key s.output) = current →
          (outputs.map fun d => key d.1) = desired →
          ∃ r, transferOwnership createSurface scanouts outputs plan = some r ∧ r.candidate.length = outputs.length ∧
            r.retired = unused plan scanouts) ∧
      ∀ calls, Asserted calls →
        ((exec HotplugProgress.call {} calls).rollbackRequired = true ↔ Outstanding calls) := by
  refine ⟨fun current desired => ⟨?_, fun plan hplan => ⟨planReconcile_matching hplan, ?_⟩⟩, fun calls hcal =>
    rollbackRequired_iff hcal⟩
  · rw [← planReconcile_succeeds]
    cases planReconcile current desired with
    | error error => exact ⟨fun _ h => (by obtain ⟨plan, h⟩ := h; cases h), fun _ => ⟨error, rfl⟩⟩
    | ok plan => exact ⟨fun h => (by obtain ⟨error, h⟩ := h; cases h), fun h => absurd ⟨plan, rfl⟩ h⟩
  · rintro O S key createSurface scanouts outputs rfl rfl
    exact transferOwnership_retires (planReconcile_matching hplan) createSurface

/-- Two live scanouts, of which one is reused while two are created; a commit that is then rolled back. -/
theorem hotplug_reuses_second :
    Matching [⟨1, 10⟩, ⟨2, 11⟩] [⟨2, 11⟩, ⟨1, 12⟩, ⟨3, 10⟩] [.reuse 1, .create, .create] ∧
      ((exec HotplugProgress.call {} [.markValidated, .recordCommit, .markPresented]).rollbackRequired = true ↔
        Outstanding [.markValidated, .recordCommit, .markPresented]) :=
  ⟨((hotplug_plan_is_partial_injection.1 [⟨1, 10⟩, ⟨2, 11⟩] [⟨2, 11⟩, ⟨1, 12⟩, ⟨3, 10⟩]).2 _ rfl).1,
    hotplug_plan_is_partial_injection.2 [.markValidated, .recordCommit, .markPresented] ⟨rfl, rfl, rfl, trivial⟩⟩

/-! ## Attempts -/

section Rollback

variable {O S : Type}

/-- The loop of `restore_ownership`, from the last candidate to the first; `clears` says whose CRTC can be cleared, the
others are kept. -/
def restoreOwnership (clears : OwnedScanout O S → Bool) : List (OwnedScanout O S) → List (ReconciledScanoutOrigin O) →
    List (Option (OwnedScanout O S)) → List (OwnedScanout O S) → List (Option (OwnedScanout O S)) × List (OwnedScanout O S)
  | scanout :: candidate, .reused index output sourceRect :: origins, retired, quarantined =>
    let scanout := { scanout with output, sourceRect }
    match retired[index]? with
    | some none => restoreOwnership clears candidate origins (retired.set index (some scanout)) quarantined
    | _ => restoreOwnership clears candidate origins retired
        (if clears scanout then quarantined else quarantined ++ [scanout])
  | scanout :: candidate, .created :: origins, retired, quarantined =>
    restoreOwnership clears candidate origins retired (if clears scanout then quarantined else quarantined ++ [scanout])
  | candidate, _, retired, quarantined => (retired, quarantined ++ candidate.reverse)

def ScanoutReconciliation.restore (clears : OwnedScanout O S → Bool) (r : ScanoutReconciliation O S) :=
  restoreOwnership clears r.candidate.reverse r.origins.reverse r.retired

/-- The scanouts after the rollback, and those whose old framebuffer is committed again. -/
def ScanoutReconciliation.rollback (clears powered : OwnedScanout O S → Bool) (hardware : Bool)
    (r : ScanoutReconciliation O S) : List (OwnedScanout O S) × List (OwnedScanout O S) :=
  let found := r.restore clears []
  let restored := found.1.filterMap id
  let destination := restored ++ found.2
  (destination, if hardware then (destination.take restored.length).filter powered else [])

/-- The created surfaces that cannot be cleared, the last first. -/
def uncleared (clears : OwnedScanout O S → Bool) (created : Nat → Option (OwnedScanout O S)) (n count : Nat) :
    List (OwnedScanout O S) :=
  ((List.range' n count).filterMap created).reverse.filter fun scanout => !clears scanout

variable {clears : OwnedScanout O S → Bool} {c : Nat → Option (OwnedScanout O S)} {r r' : ScanoutReconciliation O S}

theorem uncleared_succ (n count : Nat) :
    uncleared clears c n (count + 1) = uncleared clears c (n + 1) count ++ uncleared clears c n 1 := by
  simp only [uncleared, List.range'_succ, List.range'_zero, List.filterMap_cons, List.filterMap_nil]
  cases c n with
  | none => simp
  | some scan => simp only [List.reverse_cons, List.filter_append, List.reverse_nil, List.nil_append]

/-- The rollback takes back one step of the transfer. -/
theorem restore_takeOver {out : O} {sr : PixelRect} {org : ScanoutOrigin} {n : Nat}
    (hc : (c n).isSome ↔ org = .create) (h : takeOver (c n) out sr r org = some r') (q : List (OwnedScanout O S)) :
    r'.restore clears q = r.restore clears (q ++ uncleared clears c n 1) := by
  unfold ScanoutReconciliation.restore
  cases org with
  | reuse index =>
    have hn : c n = none := by simpa using mt hc.1
    obtain ⟨scan, hs, h⟩ := Option.bind_eq_some_iff.1 h
    obtain ⟨hlt, hs⟩ := List.getElem?_eq_some_iff.1 (Option.join_eq_some_iff.1 hs)
    cases h
    simp only [List.reverse_append, List.reverse_singleton, List.singleton_append, restoreOwnership,
      List.getElem?_set_self hlt, List.set_set]
    have hback : r.retired.set index (some scan) = r.retired := by rw [← hs, List.set_getElem_self]
    rw [hback]; simp [uncleared, hn]
  | create =>
    obtain ⟨scan, hs, h⟩ := Option.bind_eq_some_iff.1 h
    cases h
    simp only [List.reverse_append, List.reverse_singleton, List.singleton_append, restoreOwnership]
    cases hcl : clears scan <;> simp [uncleared, hs, hcl]

theorem restore_transfer : ∀ (n : Nat) {desired : List (O × PixelRect)} {plan : List ScanoutOrigin}
    {r r' : ScanoutReconciliation O S}, plan.length = desired.length →
    (∀ m, m < plan.length → ((c (n + m)).isSome ↔ plan[m]? = some .create)) → transfer c n desired plan r = some r' →
    ∀ q, r'.restore clears q = r.restore clears (q ++ uncleared clears c n desired.length)
  | n, [], [], r, r', _, _, h, q => by
    cases h; simp [uncleared]
  | n, (output, sourceRect) :: desired, origin :: plan, r, r', hlen, hc, h, q => by
    obtain ⟨r₁, hk, h⟩ := Option.bind_eq_some_iff.1 h
    rw [restore_transfer (n + 1) (Nat.succ.inj hlen) (fun m hm => by
      rw [Nat.add_right_comm]; exact hc (m + 1) (Nat.succ_lt_succ hm)) h,
      restore_takeOver (by simpa using hc 0 (Nat.succ_pos _)) hk, List.append_assoc, ← uncleared_succ,
      List.length_cons]

theorem rollback_transfer {key : O → ScanoutKey} {scanouts : List (OwnedScanout O S)} {desired : List (O × PixelRect)}
    {plan : List ScanoutOrigin} {surf : O → S}
    (hm : Matching (scanouts.map fun s => key s.output) (desired.map fun d => key d.1) plan)
    (h : transferOwnership surf scanouts desired plan = some r) (powered : OwnedScanout O S → Bool) (hardware : Bool) :
    r.rollback clears powered hardware = (scanouts ++ uncleared clears (createdFor surf desired plan) 0 desired.length,
        if hardware then scanouts.filter powered else []) := by
  have hlen : plan.length = desired.length := hm.length.trans (List.length_map ..)
  have hr := @restore_transfer _ _ clears _ 0 _ _ _ _ hlen (fun m hm => by
    rw [Nat.zero_add, createdFor, List.getElem?_eq_getElem (hlen ▸ hm)]; simp) h []
  simp only [ScanoutReconciliation.rollback, hr]
  simp [ScanoutReconciliation.restore, restoreOwnership]

end Rollback

/-- How the fallible parts of `apply_hotplug_topology` end once ownership is transferred: staging up to the TEST_ONLY
commits, the commit of each powered candidate, the wait for their flips, the old engine's shutdown and its
replacement. -/
structure HotplugAttempt where
  staged : Bool
  commits : List Bool
  flipped : Bool
  restarted : Bool
  replaced : Bool

namespace HotplugAttempt

/-- The commits made before the first that fails. -/
def committed (a : HotplugAttempt) : List Bool := a.commits.takeWhile id

/-- The calls up to the end or the first failure, and whether there was none. -/
def forward (a : HotplugAttempt) : List ProgressCall × Bool :=
  if ¬a.staged then ([], false)
  else
    let commits := .markValidated :: a.committed.map fun _ => .recordCommit
    if a.committed.length < a.commits.length ∨ ¬a.flipped then (commits, false)
    else if ¬a.restarted ∨ ¬a.replaced then (commits ++ [.markPresented], false)
    else (commits ++ [.markPresented, .markFinalized], true)

/-- `progress.rollback_required`, where the attempt fails. -/
def hardware (a : HotplugAttempt) : Bool := (exec HotplugProgress.call {} a.forward.1).rollbackRequired

/-- The calls of the transaction; a failure goes through `rollback_hotplug_scanouts`. -/
def calls (a : HotplugAttempt) : List ProgressCall :=
  if a.forward.2 then a.forward.1 else if a.hardware then a.forward.1 ++ [.markRolledBack] else a.forward.1

/-- The live scanouts after the transaction, and those whose old framebuffer is committed again. -/
def finish {O S : Type} (a : HotplugAttempt) (clears powered : OwnedScanout O S → Bool)
    (r : ScanoutReconciliation O S) : List (OwnedScanout O S) × List (OwnedScanout O S) :=
  if a.forward.2 then (r.candidate, []) else r.rollback clears powered a.hardware

theorem asserts_committing {p : HotplugProgress} (h : p.phase = .validated ∨ p.phase = .committing) :
    p.asserts .recordCommit = true ∧ p.asserts .markPresented = true := by
  rcases h with h | h <;> simp [HotplugProgress.asserts, h]

theorem asserted_commits : ∀ (done : List Bool) {p : HotplugProgress}, (p.phase = .validated ∨ p.phase = .committing) →
    Along HotplugProgress.call (fun p c => p.asserts c = true) p (done.map fun _ => .recordCommit) ∧
      ((exec HotplugProgress.call p (done.map fun _ => .recordCommit)).phase = .validated ∨
        (exec HotplugProgress.call p (done.map fun _ => .recordCommit)).phase = .committing)
  | [], _, h => ⟨trivial, h⟩
  | _ :: done, p, h => by
    obtain ⟨hr, hph⟩ := asserted_commits done (p := p.call .recordCommit) (.inr rfl)
    exact ⟨⟨(asserts_committing h).1, hr⟩, hph⟩

variable (a : HotplugAttempt)

theorem asserted_forward : Asserted a.forward.1 := by
  obtain ⟨hc, hph⟩ := asserted_commits a.committed (p := HotplugProgress.call {} .markValidated) (.inl rfl)
  have hv : Asserted (.markValidated :: a.committed.map fun _ => .recordCommit) := ⟨rfl, hc⟩
  have hp : (exec HotplugProgress.call {} (.markValidated :: a.committed.map fun _ => .recordCommit)).asserts
      .markPresented = true := (asserts_committing hph).2
  unfold forward; split
  · trivial
  dsimp only; split
  · exact hv
  split
  · exact along_append.2 ⟨hv, hp, trivial⟩
  · exact along_append.2 ⟨hv, hp, rfl, trivial⟩

theorem asserted_calls : Asserted a.calls ∧ ¬Outstanding a.calls := by
  have hf := asserted_forward a
  unfold calls; split_ifs with hd hr
  · refine ⟨hf, fun h => ?_⟩
    unfold forward at hd h; dsimp only at hd h; split_ifs at hd h
    -- the last call finalizes the commits
    rw [List.append_cons] at h
    rcases lasting_snoc.1 h with h | ⟨-, h⟩
    · cases h
    · exact h (.inl rfl)
  · refine ⟨along_append.2 ⟨hf, hr, trivial⟩, fun h => ?_⟩
    rcases lasting_snoc.1 h with h | ⟨-, h⟩
    · cases h
    · exact h (.inr rfl)
  · exact ⟨hf, fun h => hr ((rollbackRequired_iff hf).2 h)⟩

end HotplugAttempt

/-- Whatever part of a transaction fails, the live scanouts are restored in their order, each with its output and
source, before those created surfaces that could not be cleared; the old framebuffers are committed again exactly if
a commit was made. A journal's assertion never fails, and no commit is left open. -/
theorem failed_hotplug_restores {O S : Type} {key : O → ScanoutKey} {scanouts : List (OwnedScanout O S)}
    {outputs : List (O × PixelRect)} {plan : List ScanoutOrigin} (surf : O → S)
    (clears powered : OwnedScanout O S → Bool) (a : HotplugAttempt)
    (hp : planReconcile (scanouts.map fun s => key s.output) (outputs.map fun d => key d.1) = .ok plan) :
    Asserted a.calls ∧ ¬Outstanding a.calls ∧ ∃ r, transferOwnership surf scanouts outputs plan = some r ∧
      (a.forward.2 = true → a.finish clears powered r = (r.candidate, [])) ∧
      (a.forward.2 = false → ∃ recommitted, a.finish clears powered r =
          (scanouts ++ uncleared clears (createdFor surf outputs plan) 0 outputs.length, recommitted) ∧
        (Outstanding a.forward.1 → recommitted = scanouts.filter powered) ∧
        (¬Outstanding a.forward.1 → recommitted = [])) := by
  have hm := planReconcile_matching hp
  obtain ⟨r, hr, -⟩ := transferOwnership_retires hm surf
  refine ⟨a.asserted_calls.1, a.asserted_calls.2, r, hr, fun hd => by rw [HotplugAttempt.finish, if_pos hd], fun hd => ?_⟩
  have ho : a.hardware = true ↔ Outstanding a.forward.1 := rollbackRequired_iff a.asserted_forward
  refine ⟨_, by rw [HotplugAttempt.finish, if_neg (by simp [hd]), rollback_transfer hm hr], fun h => ?_, fun h => ?_⟩
  · rw [if_pos (ho.2 h)]
  · rw [if_neg (mt ho.1 h)]

/-- The second of two commits fails, and the created surface cannot be cleared. -/
theorem second_commit_fails :
    let scanouts : List (OwnedScanout ScanoutKey Nat) := [⟨⟨1, 10⟩, ⟨0, 0, 8, 8⟩, 4⟩, ⟨⟨2, 11⟩, ⟨8, 0, 8, 8⟩, 5⟩]
    ∃ r, transferOwnership (fun _ => 9) scanouts [(⟨2, 11⟩, ⟨0, 0, 8, 8⟩), (⟨3, 12⟩, ⟨8, 0, 8, 8⟩)] [.reuse 1, .create] =
        some r ∧ (HotplugAttempt.finish ⟨true, [true, false], true, true, true⟩ (fun _ => false) (fun _ => true) r).1 =
          scanouts ++ [⟨⟨3, 12⟩, ⟨8, 0, 8, 8⟩, 9⟩] := by
  intro scanouts
  obtain ⟨-, -, r, hr, -, hf⟩ := @failed_hotplug_restores _ _ id scanouts
    [(⟨2, 11⟩, ⟨0, 0, 8, 8⟩), (⟨3, 12⟩, ⟨8, 0, 8, 8⟩)] [.reuse 1, .create] (fun _ => 9) (fun _ => false) (fun _ => true)
    ⟨true, [true, false], true, true, true⟩ rfl
  obtain ⟨_, hf, -⟩ := hf rfl
  exact ⟨r, hr, congrArg Prod.fst hf⟩

end Deniald.Outputs
