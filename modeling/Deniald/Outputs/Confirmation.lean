/-
Confirming an output configuration: what the event loop does, replayed on a desk that holds the configuration in
force, the file and at most one configuration on trial.
-/
import Deniald.Outputs.EventLoop

namespace Deniald.Outputs

open Deniald.Lib Deniald.Topology

/-! ## Desks -/

/-- The file says of an output what the configuration does. -/
structure PersistedOutput.Describes (output : PersistedOutput) (configuration : RuntimeOutputConfiguration) : Prop where
  position : configuration.positions.get? output.name = some ⟨output.x, output.y⟩
  mode : configuration.modes.get? output.name = some ⟨some output.width, some output.height, some output.refreshMillihz⟩
  scale : configuration.scales120.get? output.name = some output.scale120
  transform : configuration.transforms.get? output.name = some output.transform
  adaptiveSync : output.name ∈ configuration.vrrOutputs ↔ output.adaptiveSync = true
  enabled : output.name ∈ configuration.disabledOutputs ↔ output.enabled = false

structure PersistedConfiguration.Describes (file : PersistedConfiguration) (connected : List String)
    (configuration : RuntimeOutputConfiguration) : Prop where
  primary : file.primaryOutput = configuration.primaryOutput
  outputs : ∀ output ∈ file.outputs, output.Describes configuration
  complete : ∀ name ∈ connected, ∃ output ∈ file.outputs, output.name = name

/-- A configuration on trial: what was in force before it, the power each output then had, and what a keep writes. -/
structure Trial where
  token : Nat
  before : RuntimeOutputConfiguration
  power : OutputId → Option Bool
  persists : Option PersistedConfiguration

structure Desk where
  inForce : RuntimeOutputConfiguration
  powered : OutputId → Option Bool
  requests : OutputId → Option Bool
  file : Option PersistedConfiguration
  trial : Option Trial

def RuntimeOutputConfiguration.rotated (configuration : RuntimeOutputConfiguration) (rotation : OutputTransform) :
    RuntimeOutputConfiguration :=
  { configuration with sensorRotation := rotation }

/-- An act that puts something into the file. -/
def Act.writes : Act → Bool
  | .wrote _ _ => true
  | .answered ⟨_, .keep⟩ (.ok ()) => true
  | _ => false

namespace Desk

/-- Every end of a trial but a keep. -/
def restore (desk : Desk) (trial : Trial) : Desk :=
  { desk with
    inForce := trial.before
    requests := fun output => (trial.power output).or (desk.requests output)
    trial := none }

inductive Step : Desk → Act → Desk → Prop where
  /-- The sensor turns what is in force and what it would go back to. -/
  | rotated {desk rotation} :
      Step desk (.rotated rotation)
        { desk with
          inForce := desk.inForce.rotated rotation
          trial := desk.trial.map fun trial => { trial with before := trial.before.rotated rotation } }
  | applied {desk configuration} : desk.trial = none →
      Step desk (.applied configuration) { desk with inForce := configuration }
  | began {desk token connected configuration persists} : desk.trial = none →
      (∀ file ∈ persists, file.Describes connected configuration) →
      Step desk (.began token connected configuration persists)
        { desk with
          inForce := configuration
          trial := some { token, before := desk.inForce, power := desk.powered, persists } }
  | wrote {desk connected file} : desk.trial = none → file.Describes connected desk.inForce →
      Step desk (.wrote connected file) { desk with file := some file }
  | stale {desk request} : (∀ trial ∈ desk.trial, trial.token ≠ request.token) →
      Step desk (.answered request (.error .staleConfirmation)) desk
  | kept {desk trial} : desk.trial = some trial →
      Step desk (.answered ⟨trial.token, .keep⟩ (.ok ()))
        { desk with file := trial.persists.or desk.file, trial := none }
  | notPersisted {desk trial} : desk.trial = some trial →
      Step desk (.answered ⟨trial.token, .keep⟩ (.error .persistenceFailed)) (desk.restore trial)
  | rolledBack {desk trial} : desk.trial = some trial →
      Step desk (.answered ⟨trial.token, .rollback⟩ (.ok ())) (desk.restore trial)
  | expired {desk trial} : desk.trial = some trial → Step desk .expired (desk.restore trial)
  | refused {desk code} : Step desk (.refused code) desk
  /-- The rest of the compositor powers the outputs and is asked to. -/
  | power {desk powered requests} :
      Step desk (.power powered requests) { desk with powered := powered.get?, requests := requests.get? }

inductive Replays : Desk → List Act → Desk → Prop where
  | nil {desk} : Replays desk [] desk
  | snoc {first desk last acts act} : Replays first acts desk → Step desk act last → Replays first (acts ++ [act]) last

theorem Replays.file {first last : Desk} {acts : List Act} (h : first.Replays acts last) :
    (∀ act ∈ acts, act.writes = false) → last.file = first.file := by
  induction h with
  | nil => exact fun _ => rfl
  | snoc _ hstep ih =>
    intro hs
    have hla := hs _ (List.mem_append_right _ (List.mem_singleton.2 rfl))
    rw [← ih fun act hac => hs act (List.mem_append_left _ hac)]
    cases hstep with
    | wrote => cases hla
    | kept => cases hla
    | _ => rfl

end Desk

def OutputLoop.desk (s : OutputLoop) : Desk where
  inForce := s.configuration
  powered := s.powers.get?
  requests := s.outputPowerRequests.get?
  file := s.outputConfig
  trial := s.activeOutputConfirmation.map fun pending =>
    { token := pending.token
      before := pending.rollbackConfiguration
      power := pending.rollbackPower.get?
      persists := pending.preparedPersistence }

/-! ## Staging -/

section

variable {names : ConnectorNames} {r : Rounding} {current : RuntimeOutputConfiguration}
  {requested : List RequestedOutput}

structure StagedFor (r : Rounding) (current configuration : RuntimeOutputConfiguration) (output : RequestedOutput) :
    Prop where
  position : configuration.positions.get? output.name = some ⟨output.x, output.y⟩
  mode : configuration.modes.get? output.name =
    some ⟨some output.modeWidth, some output.modeHeight, some output.modeRefreshMillihz⟩
  scale : ∃ scale, output.scale = .finite scale ∧
    configuration.scales120.get? output.name = some (requestedScale120 r scale)
  transform : configuration.transforms.get? output.name = some (current.baselineTransform output.name output.transform)
  adaptiveSync : output.name ∈ configuration.vrrOutputs ↔ output.adaptiveSync = true
  enabled : output.name ∈ configuration.disabledOutputs ↔ output.enabled = false

theorem stageOutput_spec {acc acc' : RuntimeOutputConfiguration × LinkedMap OutputId Bool}
    {conn : ConnectedConnector} (h : stageOutput names r current requested acc conn = .ok acc') :
    acc'.1.primaryOutput = acc.1.primaryOutput ∧
      (∀ output, requested.find? (fun output => output.name = names.name conn.handle) = some output →
        StagedFor r current acc'.1 output) ∧
      ∀ output, output.name ≠ names.name conn.handle → StagedFor r current acc.1 output →
        StagedFor r current acc'.1 output := by
  unfold stageOutput at h
  simp only at h
  split at h
  · cases h
  rename_i output hf
  have hn : output.name = names.name conn.handle := by simpa using List.find?_some hf
  split at h
  · cases h
  split at h
  · cases h
  · cases h
  rename_i sc hs; split at h
  · cases h
  · split at h
    · cases h
    cases h
    refine ⟨rfl, ?_, ?_⟩
    · intro out' hf'
      obtain rfl := Option.some.inj (hf.symm.trans hf')
      refine ⟨by simp [hn], by simp [hn], ⟨sc, hs, by simp [hn]⟩, by simp [hn], ?_, ?_⟩
      · cases hy : output.adaptiveSync <;> simp [hn]
      · cases he : output.enabled <;> simp [hn]
    · rintro other hne ⟨hpos, hm, hs, hr, hy, he⟩
      refine ⟨by simpa [hne] using hpos, by simpa [hne] using hm, ?_, by simpa [hne] using hr,
        ?_, ?_⟩
      · obtain ⟨value, hv, hge⟩ := hs; exact ⟨value, hv, by simpa [hne] using hge⟩
      · cases output.adaptiveSync <;> simpa [hne] using hy
      · cases output.enabled <;> simpa [hne] using he

theorem foldlM_stageOutput_spec : ∀ {cs : List ConnectedConnector}
    {acc acc' : RuntimeOutputConfiguration × LinkedMap OutputId Bool},
    cs.foldlM (stageOutput names r current requested) acc = .ok acc' →
    (cs.map fun conn => names.name conn.handle).Nodup →
    acc'.1.primaryOutput = acc.1.primaryOutput ∧
      (∀ out, requested.find? (fun other => other.name = out.name) = some out →
        out.name ∈ cs.map (fun conn => names.name conn.handle) → StagedFor r current acc'.1 out) ∧
      ∀ out, out.name ∉ cs.map (fun conn => names.name conn.handle) →
        StagedFor r current acc.1 out → StagedFor r current acc'.1 out
  | [], acc, acc', h, _ => by
    cases h
    exact ⟨rfl, fun _ _ h => absurd h List.not_mem_nil, fun _ _ h => h⟩
  | conn :: cs, acc, acc', h, hn => by
    rw [List.foldlM_cons] at h
    obtain ⟨mid, hd, hre⟩ := bind_ok.1 h
    obtain ⟨hr, hn⟩ := List.nodup_cons.1 hn
    obtain ⟨hm, hw, ho⟩ := stageOutput_spec hd
    obtain ⟨hp', hw', ho'⟩ := foldlM_stageOutput_spec hre hn
    refine ⟨hp'.trans hm, ?_, ?_⟩
    · intro out hf hmem
      rcases List.mem_cons.1 hmem with heq | hmem
      · replace heq : out.name = names.name conn.handle := heq
        rw [heq] at hf
        exact ho' out (heq ▸ hr) (hw out hf)
      · exact hw' out hf hmem
    · intro out hno hs
      obtain ⟨hne, hno⟩ := not_or.1 (List.mem_cons.not.1 hno)
      exact ho' out hno (ho out hne hs)

end

theorem configurationFromOutputRequest_spec {names : ConnectorNames} {r : Rounding}
    {request : ApplyOutputConfiguration} {cs : List ConnectedConnector} {outs : Nat}
    {current configuration : RuntimeOutputConfiguration} {a : Bool} {pw : LinkedMap OutputId Bool}
    (h : configurationFromOutputRequest names r request cs outs current a = .ok (configuration, pw)) :
    configuration.primaryOutput = request.primaryOutput ∧
      (∀ out ∈ request.outputs, StagedFor r current configuration out) ∧
      ∀ name ∈ cs.map (fun conn => names.name conn.handle), ∃ out ∈ request.outputs, out.name = name := by
  unfold configurationFromOutputRequest at h
  simp only at h
  split at h
  · cases h
  split at h
  · cases h
  split at h
  · cases h
  split at h
  · cases h
  split at h
  · cases h
  split at h
  · cases h
  split at h
  · cases h
  rename_i hlen hd hn _
  replace hlen := not_not.1 hlen
  replace hd := not_not.1 hd
  replace hn := not_not.1 hn
  have hmem : ∀ name, name ∈ cs.map (fun conn => names.name conn.handle) ↔
      name ∈ request.outputs.map (·.name) := fun name => by
    rw [← List.mem_toFinset, hn, List.mem_toFinset]
  -- as many connectors as distinct names, so no two connectors have one name
  have hdi : (cs.map fun conn => names.name conn.handle).Nodup := by
    rw [← Multiset.coe_nodup, ← Multiset.toFinset_card_eq_card_iff_nodup]
    have hr := congrArg Finset.card hn; rw [List.toFinset_card_of_nodup hd] at hr
    simpa [hlen] using hr
  obtain ⟨hpr, hs, -⟩ := foldlM_stageOutput_spec h hdi
  refine ⟨hpr, ?_, ?_⟩
  · intro out ho
    refine hs out ?_ ((hmem _).2 (List.mem_map_of_mem ho)); exact find?_of_mem hd ho
  · intro name hm
    obtain ⟨out, ho, rfl⟩ := List.mem_map.1 ((hmem name).1 hm); exact ⟨out, ho, rfl⟩

namespace OutputLoop

section

variable {F : Type} [PlacementArith F] {setup : Setup} {p : Pass} {s t : OutputLoop}

variable {request : ApplyOutputConfiguration} {staged : StagedApply}

theorem validate_persistence {cs : List ConnectedConnector} (h : s.validate F setup p request cs = .ok staged) :
    ∀ file ∈ staged.persistence, file.Describes staged.connected staged.configuration := by
  obtain ⟨⟨configuration, power⟩, hst, h⟩ := bind_ok.1 h
  obtain ⟨hm, hou, hna⟩ := configurationFromOutputRequest_spec hst
  simp only at h
  split at h
  swap
  · cases h
  split at h
  swap
  · cases h
  split at h
  · cases h
  cases h; intro file hf
  split at hf
  swap
  · cases hf
  cases hf
  refine ⟨hm.symm, ?_, ?_⟩
  · intro out ho
    obtain ⟨requested, hr, rfl⟩ := List.mem_map.1 ho
    obtain ⟨hpos, hd, ⟨sc, hs, hge⟩, htr, hy, he⟩ := hou requested hr
    refine ⟨hpos, hd, ?_, ?_, hy, he⟩
    · simpa [persistedOutput, hs] using hge
    · simp [persistedOutput, htr]
  · intro name hn
    obtain ⟨requested, hr, rfl⟩ := hna name hn; exact ⟨_, List.mem_map_of_mem hr, rfl⟩

/-! ## Phases -/

/-- The desk of the loop is where its acts have taken the first desk, and no request is ready during a trial. -/
structure Explained (first : Desk) (s : OutputLoop) : Prop where
  replays : first.Replays s.log s.desk
  exclusive : s.readyOutputApply ≠ none → s.desk.trial = none

variable {first : Desk}

theorem Explained.same (h : Explained first s) (hlo : t.log = s.log) (hd : t.desk = s.desk)
    (hr : t.readyOutputApply = s.readyOutputApply) : Explained first t :=
  ⟨by rw [hlo, hd]; exact h.replays, by rw [hr, hd]; exact h.exclusive⟩

theorem Explained.act {a : Act} (h : Explained first s) (hlo : t.log = s.log ++ [a])
    (hstep : Desk.Step s.desk a t.desk) (hr : t.readyOutputApply ≠ none → t.desk.trial = none) : Explained first t :=
  ⟨by rw [hlo]; exact .snoc h.replays hstep, hr⟩

theorem Explained.refused (h : Explained first s) (code : FailureCode) : Explained first (s.did (.refused code)) :=
  h.act rfl .refused h.exclusive

theorem Explained.notePower (h : Explained first s) (hlo : t.log = s.log) (hn : t.configuration = s.configuration)
    (hf : t.outputConfig = s.outputConfig) (hr : t.activeOutputConfirmation = s.activeOutputConfirmation)
    (hre : t.readyOutputApply = s.readyOutputApply) : Explained first t.notePower := by
  have hd : t.notePower.desk = { s.desk with powered := t.powers.get?, requests := t.outputPowerRequests.get? } := by
    simp [OutputLoop.notePower, did, desk, powers, hn, hf, hr]
  refine h.act (a := .power t.powers t.outputPowerRequests) ?_ ?_ ?_
  · simp [OutputLoop.notePower, did, hlo]
  · rw [hd]; exact .power
  · rw [hd]
    simp only [OutputLoop.notePower, did, hre]; exact h.exclusive

theorem Explained.applyOutputPowerRequests (h : Explained first s) : Explained first (s.applyOutputPowerRequests p) := by
  obtain ⟨t, ht, _, _, _, _, _, rfl, -, -⟩ := applyOutputPowerRequests_powers s p
  rw [ht]; exact h.notePower rfl rfl rfl rfl rfl

theorem Explained.receive (h : Explained first s) : Explained first (s.receive p) := h.same rfl rfl rfl

theorem Explained.serviceWakeDeadline (h : Explained first s) : Explained first (s.serviceWakeDeadline p) :=
  h.same rfl rfl rfl

theorem Explained.observeOrientation (h : Explained first s) : Explained first (s.observeOrientation p) := by
  unfold OutputLoop.observeOrientation; split
  · exact h.same rfl rfl rfl
  · exact h

theorem desk_applyResidentOutputGeometry {accepted : Bool} {outputs : List ConnectedOutput}
    {staged : RuntimeOutputConfiguration} (h : s.applyResidentOutputGeometry F accepted outputs staged = some t) :
    t.desk = { s.desk with inForce := staged } ∧ t.log = s.log ∧
      t.activeOutputConfirmation = s.activeOutputConfirmation ∧ t.readyOutputApply = s.readyOutputApply := by
  obtain ⟨topology, scanouts, rfl, -, hs⟩ := applyResidentOutputGeometry_spec h
  have hw : scanouts.map (fun scan => (scan.output.id, scan.powered)) =
      s.scanouts.map fun scan => (scan.output.id, scan.powered) := by
    refine map_eq_map_of_forall₂ (fun before after h => ?_) hs; rw [h.1, h.2.1]
  exact ⟨by simp [OutputLoop.desk, powers, hw], rfl, rfl, rfl⟩

theorem desk_rotateRollback (rt : OutputTransform) : (s.rotateRollback rt).desk =
    { s.desk with trial := s.desk.trial.map fun trial => { trial with before := trial.before.rotated rt } } := by
  simp only [OutputLoop.desk, rotateRollback, Option.map_map]; rfl

theorem Explained.rotate (h : Explained first s) : (s.rotate F p).Keeps (Explained first) (Explained first) := by
  unfold OutputLoop.rotate; split
  swap
  · exact h
  unfold applyAutomaticOrientation
  simp only
  split
  · exact Turn.keeps_leave
  rename_i applied hap
  obtain ⟨hd, hlo, hac, hr⟩ : applied.desk =
      { s.desk with inForce := s.configuration.rotated s.pendingSensorRotation } ∧ applied.log = s.log ∧
      applied.activeOutputConfirmation = s.activeOutputConfirmation ∧
      applied.readyOutputApply = s.readyOutputApply := by
    split at hap
    · cases hap; exact ⟨rfl, rfl, rfl, rfl⟩
    · exact desk_applyResidentOutputGeometry hap
  have hd' : (applied.rotateRollback s.pendingSensorRotation).desk =
      { s.desk with
        inForce := s.desk.inForce.rotated s.pendingSensorRotation
        trial := s.desk.trial.map fun trial => { trial with before := trial.before.rotated s.pendingSensorRotation } } := by
    rw [desk_rotateRollback, hd]; rfl
  refine h.act (a := .rotated s.pendingSensorRotation) (by simp [did, rotateRollback, hlo]) ?_ ?_
  · show Desk.Step _ _ (applied.rotateRollback s.pendingSensorRotation).desk
    rw [hd']; exact .rotated
  · intro hne
    have hn := h.exclusive (by rwa [← hr])
    show (applied.rotateRollback s.pendingSensorRotation).desk.trial = none; rw [hd']
    simp [hn]

theorem desk_rollBack (pending : ActiveOutputConfirmation) : (s.rollBack pending).desk =
    s.desk.restore ⟨pending.token, pending.rollbackConfiguration, pending.rollbackPower.get?,
      pending.preparedPersistence⟩ := by
  simp only [OutputLoop.desk, rollBack, Desk.restore, powers, Option.map_none, Desk.mk.injEq, true_and, and_true]
  funext output; exact LinkedMap.get?_extend _ _ output

theorem Explained.expireConfirmation (h : Explained first s) : Explained first (s.expireConfirmation p) := by
  unfold OutputLoop.expireConfirmation; split
  · exact h
  rename_i pending hn; split
  · refine h.act rfl ?_ fun _ => rfl
    show Desk.Step s.desk .expired (s.rollBack pending).desk; rw [desk_rollBack]
    exact .expired (by simp [OutputLoop.desk, hn])
  · exact h

theorem Explained.publish (h : Explained first s) : Explained first (s.publish p) := by
  unfold OutputLoop.publish; split
  · exact h.same rfl rfl rfl
  · exact h

theorem Explained.takeRebased (h : Explained first s) : Explained first s.takeRebased.1 := h.same rfl rfl rfl

theorem Explained.servicePower (h : Explained first s) (rb : Bool) : Explained first (s.servicePower p rb) := by
  have hn : Explained first (s.requestPower (.ofList p.powerRequests)).notePower := h.notePower rfl rfl rfl rfl rfl
  unfold OutputLoop.servicePower
  simp only
  split
  · exact hn.applyOutputPowerRequests
  · exact hn

theorem Explained.beforeAnswers (h : Explained first s) :
    (s.beforeAnswers F p).Keeps (Explained first) fun reached => Explained first reached.1 := by
  refine Turn.Keeps.bind h.receive.serviceWakeDeadline.observeOrientation.rotate fun rotated hr => ?_
  have hpu : Explained first ((rotated.expireConfirmation p).publish p) := hr.expireConfirmation.publish
  have hs := hpu.takeRebased.servicePower (p := p) ((rotated.expireConfirmation p).publish p).takeRebased.2
  simp only
  split <;> exact hs

/-! ### Answers -/

def keepsPersistent (s : OutputLoop) (requests : List PendingOutputConfirmation) : Bool :=
  s.activeOutputConfirmation.any fun pending =>
    pending.preparedPersistence.isSome &&
      (requests.find? fun request => request.token = pending.token).any fun request => request.action = .keep

theorem Explained.answer (h : Explained first s) {request : PendingOutputConfirmation}
    (hs : p.commit = .unsynced → s.keepsPersistent [request] = false) : Explained first (s.answer p request).1 := by
  unfold OutputLoop.answer; split
  · rename_i hno
    refine h.act rfl (.stale ?_) h.exclusive; intro trial hr
    simp [OutputLoop.desk, hno] at hr
  rename_i pending hn
  have hr : s.desk.trial = some ⟨pending.token, pending.rollbackConfiguration, pending.rollbackPower.get?,
      pending.preparedPersistence⟩ := by
    simp [OutputLoop.desk, hn]
  obtain ⟨tk, action⟩ := request; split
  · rename_i hne
    refine h.act rfl (.stale ?_) h.exclusive; intro trial hmem
    obtain rfl := Option.some.inj (hr.symm.trans hmem); exact fun heq => hne heq.symm
  rename_i heq
  obtain rfl : tk = pending.token := not_not.1 heq
  cases action with
  | rollback =>
    refine h.act rfl ?_ fun _ => rfl
    show Desk.Step s.desk _ (s.rollBack pending).desk
    rw [desk_rollBack]; exact .rolledBack hr
  | keep =>
    have hk : ∀ t : OutputLoop, t.log = s.log →
        t.kept.desk = { s.desk with file := pending.preparedPersistence.or s.desk.file, trial := none } →
        Explained first (t.kept.did (.answered ⟨pending.token, .keep⟩ (.ok ()))) := by
      intro t hlo hd
      refine h.act (a := .answered ⟨pending.token, .keep⟩ (.ok ())) (by simp [did, kept, hlo]) ?_ fun _ => rfl
      show Desk.Step s.desk _ t.kept.desk
      rw [hd]; exact .kept hr
    cases hpe : pending.preparedPersistence with
    | none => exact hk s rfl (by simp only [OutputLoop.desk, kept, hpe]; rfl)
    | some pr =>
      cases hm : p.commit with
      | replaced =>
        exact hk { s with outputConfig := some pr } rfl
          (by simp only [OutputLoop.desk, kept, hpe]; rfl)
      | refused =>
        refine h.act rfl ?_ fun _ => rfl
        show Desk.Step s.desk _ (s.rollBack pending).desk
        rw [desk_rollBack]; exact .notPersisted hr
      | unsynced =>
        have := hs hm
        simp [keepsPersistent, hn, hpe] at this

theorem answer_active (request : PendingOutputConfirmation) : (s.answer p request).1.activeOutputConfirmation = none ∨
      (s.answer p request).1.activeOutputConfirmation = s.activeOutputConfirmation ∧
        ∀ pending ∈ s.activeOutputConfirmation, request.token ≠ pending.token := by
  unfold OutputLoop.answer; split
  · rename_i hn; exact .inl hn
  rename_i pending hpe; split
  · rename_i hne
    refine .inr ⟨rfl, fun other ho => ?_⟩
    obtain rfl := Option.some.inj (hpe.symm.trans ho); exact hne
  · left
    split
    · rfl
    simp only
    split
    · rfl
    · split <;> rfl

theorem Explained.answers : ∀ (requests : List PendingOutputConfirmation) (acc : OutputLoop × Bool),
    Explained first acc.1 → (p.commit = .unsynced → acc.1.keepsPersistent requests = false) →
    Explained first (requests.foldl (fun (acc : OutputLoop × Bool) request => let (s, handled) := acc.1.answer p request
      (s, acc.2 || handled)) acc).1
  | [], _, h, _ => h
  | request :: requests, acc, h, hs => by
    rw [List.foldl_cons]
    refine Explained.answers requests _ (h.answer fun hm => ?_) fun hm => ?_
    · have := hs hm
      unfold keepsPersistent at this ⊢
      cases hac : acc.1.activeOutputConfirmation with
      | none => rfl
      | some pending =>
        rw [hac] at this
        simp only [Option.any_some, List.find?_cons, List.find?_nil] at this ⊢; split
        · rename_i hk
          simpa [hk] using this
        · simp
    · have := hs hm
      show (acc.1.answer p request).1.keepsPersistent requests = false
      rcases answer_active (s := acc.1) (p := p) request with he | ⟨hsa, hk⟩
      · simp [keepsPersistent, he]
      unfold keepsPersistent at this ⊢; rw [hsa]
      cases hac : acc.1.activeOutputConfirmation with
      | none => rfl
      | some pending =>
        rw [hac] at this
        simpa [List.find?_cons, hk pending (by rw [hac]; rfl)] using this

theorem Explained.answerConfirmations (h : Explained first s)
    (hs : p.commit = .unsynced → s.keepsPersistent s.pendingOutputConfirmations = false) :
    (s.answerConfirmations p).Keeps (Explained first) (Explained first) := by
  have hn := Explained.answers (p := p) s.pendingOutputConfirmations
    ({ s with pendingOutputConfirmations := [] }, false) (h.same rfl rfl rfl) hs
  unfold OutputLoop.answerConfirmations
  simp only
  split <;> exact hn

/-! ### Applies -/

theorem Explained.requeue (h : Explained first s) (rb : Bool) : Explained first (s.requeue rb) := by
  unfold OutputLoop.requeue; split
  · exact ⟨h.replays, fun hne => absurd rfl hne⟩
  · exact h

theorem Explained.stage (h : Explained first s) (rb : Bool) :
    (s.stage setup p rb).Keeps (Explained first) (Explained first) := by
  unfold OutputLoop.stage; split
  swap
  · exact h
  split
  · exact h
  rename_i request rest _
  have hpo : Explained first { s with pendingOutputApplies := rest } := h.same rfl rfl rfl
  simp only
  split
  · exact hpo.refused _
  rename_i hac; split
  · exact h
  split
  · exact Explained.refused (s := { s with pendingOutputApplies := rest, topologyDirty := true })
      (h.same rfl rfl rfl) _
  · refine ⟨h.replays, fun _ => ?_⟩
    simpa [OutputLoop.desk] using hac

theorem Explained.powered {u : OutputLoop} (h : Explained first u) (hlo : s.log = u.log)
    (hn : s.configuration = u.configuration) (hf : s.outputConfig = u.outputConfig)
    (hr : s.activeOutputConfirmation = u.activeOutputConfirmation)
    (hd : s.readyOutputApply = u.readyOutputApply) : Explained first (s.applyOutputPowerRequests p) := by
  obtain ⟨t, ht, _, _, _, _, _, rfl, -, -⟩ := applyOutputPowerRequests_powers s p; rw [ht]
  exact h.notePower hlo hn hf hr hd

section

variable (active : Option ActiveOutputConfirmation)

theorem powerOffOutputs_confirmation (outputs : List OutputId) :
    { s.powerOffOutputs p outputs with activeOutputConfirmation := active } =
      ({ s with activeOutputConfirmation := active } : OutputLoop).powerOffOutputs p outputs := by
  unfold powerOffOutputs; split
  · rfl
  · split <;> rfl

theorem powerOnOutputs_confirmation (outputs : List OutputId) :
    { s.powerOnOutputs p outputs with activeOutputConfirmation := active } =
      ({ s with activeOutputConfirmation := active } : OutputLoop).powerOnOutputs p outputs := by
  unfold powerOnOutputs
  split <;> rfl

theorem applyOutputPowerRequests_confirmation :
    { s.applyOutputPowerRequests p with activeOutputConfirmation := active } =
      ({ s with activeOutputConfirmation := active } : OutputLoop).applyOutputPowerRequests p := by
  unfold OutputLoop.applyOutputPowerRequests
  have hon := powerOnOutputs_confirmation (p := p) active (s.powerChanges true)
    (s := ({ s with outputPowerRequests := .empty } : OutputLoop).powerOffOutputs p (s.powerChanges false))
  rw [powerOffOutputs_confirmation] at hon; exact congrArg OutputLoop.notePower hon

end

theorem desk_applyOutputPowerRequests : (s.applyOutputPowerRequests p).desk.inForce = s.configuration ∧
    (s.applyOutputPowerRequests p).desk.trial = s.desk.trial := by
  obtain ⟨t, ht, _, _, _, _, _, rfl, -, -⟩ := applyOutputPowerRequests_powers s p
  rw [ht]; exact ⟨rfl, rfl⟩

theorem Explained.persistApplied (h : Explained first s) {c : List String} {pr : PersistedConfiguration}
    (hr : s.desk.trial = none) (hd : pr.Describes c s.desk.inForce) : Explained first (s.persistApplied p c pr) := by
  have hw : Explained first (({ s with outputControlDirty := true, outputConfig := some pr } : OutputLoop).did
      (.wrote c pr)) := h.act rfl (.wrote hr hd) h.exclusive
  unfold OutputLoop.persistApplied
  cases hm : p.commit with
  | replaced => exact hw
  | refused => exact Explained.refused (s := { s with outputControlDirty := true }) (h.same rfl rfl rfl) _
  | unsynced => exact hw.refused _

/-- The end of an apply, on whichever path the geometry has changed. -/
theorem Explained.finishApply {before : OutputLoop} (h : Explained first before)
    (hn : before.activeOutputConfirmation = none)
    (hpe : ∀ file ∈ staged.persistence, file.Describes staged.connected staged.configuration)
    (hlo : s.log = before.log) (hf : s.outputConfig = before.outputConfig)
    (hac : s.activeOutputConfirmation = before.activeOutputConfirmation) (hr : s.readyOutputApply = none) :
    Explained first (OutputLoop.finishApply p request staged before s) := by
  have htr : before.desk.trial = none := by simp [OutputLoop.desk, hn]
  have hap : Explained first
      { before with
        configuration := staged.configuration
        log := before.log ++ [.applied staged.configuration]
        readyOutputApply := none } :=
    h.act rfl (.applied htr) fun hne => absurd rfl hne
  unfold OutputLoop.finishApply
  simp only
  split
  · rename_i timeout _
    have hbe : Explained first
        { before with
          configuration := staged.configuration
          log := before.log ++ [.began (nextSerial s.serial) staged.connected staged.configuration staged.persistence]
          readyOutputApply := none
          activeOutputConfirmation := some
            { token := nextSerial s.serial
              deadline := p.begun + timeout
              rollbackConfiguration := before.configuration
              rollbackPower := before.powers
              preparedPersistence := staged.persistence } } :=
      h.act rfl (.began htr hpe) fun hne => absurd rfl hne
    rw [applyOutputPowerRequests_confirmation]
    exact hbe.powered (by simp [did, requestPower, hlo]) rfl hf rfl hr
  · exact hap.powered (by simp [did, requestPower, hlo]) rfl hf hac hr
  · rename_i pr _ hpr
    have hs := hpe pr hpr
    have hw : Explained first
        ((({ s with configuration := staged.configuration, outputControlDirty := true } : OutputLoop).did
          (.applied staged.configuration)).requestPower staged.desiredPower |>.applyOutputPowerRequests p) :=
      hap.powered (by simp [did, requestPower, hlo]) rfl hf hac hr
    have hd := desk_applyOutputPowerRequests (p := p)
      (s := (({ s with configuration := staged.configuration, outputControlDirty := true } : OutputLoop).did
        (.applied staged.configuration)).requestPower staged.desiredPower)
    refine hw.persistApplied (hd.2.trans ?_) ?_
    · show (s.activeOutputConfirmation.map _) = none
      rw [hac, hn]; rfl
    · rw [hd.1]; exact hs

theorem Explained.applyStaged (h : Explained first s) (hr : s.readyOutputApply = none)
    (hn : s.activeOutputConfirmation = none)
    (hpe : ∀ file ∈ staged.persistence, file.Describes staged.connected staged.configuration) :
    (s.applyStaged F p request staged).Keeps (Explained first) (Explained first) := by
  have hj : Explained first (({ s with outputControlDirty := true } : OutputLoop).did (.refused .applyFailed)) :=
    Explained.refused (s := { s with outputControlDirty := true }) (h.same rfl rfl rfl) _
  unfold OutputLoop.applyStaged
  simp only
  split
  · exact h.finishApply hn hpe rfl rfl rfl hr
  split
  · split
    · exact hj
    rename_i applied hap
    obtain ⟨topology, scanouts, rfl, -⟩ := applyResidentOutputGeometry_spec hap
    exact h.finishApply hn hpe rfl rfl rfl hr
  · split
    · rename_i applied _ hap
      obtain ⟨topology, scanouts, rfl, -⟩ := applyHotplugTopology_spec hap
      have hf : Explained first (OutputLoop.finishApply p request staged s
          { s with scanouts, topology, outputControlDirty := true }) :=
        h.finishApply hn hpe rfl rfl rfl hr
      exact hf.same rfl rfl rfl
    · exact Turn.keeps_leave
    · exact hj

theorem Explained.applyReady (h : Explained first s) (rb : Bool) :
    (s.applyReady F setup p rb).Keeps (Explained first) (Explained first) := by
  unfold OutputLoop.applyReady; split
  swap
  · exact h
  rename_i request cs hr
  have hn : s.activeOutputConfirmation = none := by
    have := h.exclusive (by rw [hr]; exact Option.some_ne_none _)
    simpa [OutputLoop.desk] using this
  have hpo : Explained first { s with readyOutputApply := none } := ⟨h.replays, fun hne => absurd rfl hne⟩
  simp only
  split
  · exact h
  split
  · exact Explained.refused (s := { s with readyOutputApply := none, topologyDirty := true })
      (hpo.same rfl rfl rfl) _
  split
  · exact hpo.refused _
  · rename_i staged hs
    exact hpo.applyStaged rfl hn (validate_persistence hs)

/-! ### Rescans -/

theorem Explained.reconfigure (h : Explained first s) (f : Rescan) :
    (s.reconfigure F p f).Keeps (Explained first) (Explained first) := by
  unfold OutputLoop.reconfigure
  simp only
  split
  · exact h.same rfl rfl rfl
  split
  · split
    · exact h.same rfl rfl rfl
    rename_i applied hap
    obtain ⟨hd, hlo, -, hr⟩ := desk_applyResidentOutputGeometry hap
    exact h.same hlo hd hr
  · split
    · rename_i applied _ hap
      obtain ⟨_, _, rfl, -⟩ := applyHotplugTopology_spec hap; exact h.notePower rfl rfl rfl rfl rfl
    · exact Turn.keeps_leave
    split
    · exact h.same rfl rfl rfl
    · exact Turn.keeps_leave

theorem Explained.scanned (h : Explained first s) (rb kms rs : Bool) (outputs : List ConnectedOutput) :
    (s.scanned F p rb kms rs outputs).Keeps (Explained first) (Explained first) := by
  unfold OutputLoop.scanned
  simp only
  split
  · exact h.same rfl rfl rfl
  have ho : ∀ dt deferred, Explained first (s.observeOutputs dt deferred) := by
    intro dt deferred; unfold observeOutputs
    split <;> exact h.same rfl rfl rfl
  split
  · exact (ho _ _).reconfigure _
  · exact ho _ _

theorem Explained.rescan (h : Explained first s) (rb : Bool) :
    (s.rescan F setup p rb).Keeps (Explained first) (Explained first) := by
  unfold OutputLoop.rescan
  simp only
  split
  swap
  · exact h
  split
  · exact Turn.keeps_leave
  · have hn : Explained first s.consume := h.same rfl rfl rfl
    exact hn.scanned rb _ _ _

/-! ## Runs -/

end

section

variable {F : Type} [PlacementArith F] {setup : Setup} {p : Pass} {s : OutputLoop} {first : Desk}

variable (F) in
/-- No commit of a configuration that is being kept replaces the file and then fails to sync its directory. -/
def KeepSynced (s : OutputLoop) (p : Pass) : Prop :=
  ∀ reached rebased, s.beforeAnswers F p = .ok (reached, rebased) → p.commit = .unsynced →
    reached.keepsPersistent reached.pendingOutputConfirmations = false

theorem Explained.beforeRescan (h : Explained first s) (hy : s.KeepSynced F p) :
    (s.beforeRescan F setup p).Keeps (Explained first) fun reached => Explained first reached.1 := by
  refine h.beforeAnswers.reached.bind ?_
  rintro ⟨reached, rb⟩ ⟨hr, hok⟩
  refine (hr.answerConfirmations (hy reached rb hok)).bind fun answered hn => ?_
  refine ((hn.requeue rb).stage rb).bind fun staged hs => ?_
  exact (hs.applyReady rb).bind fun _ hap => hap

theorem Explained.next (h : Explained first s) (hy : s.KeepSynced F p) : Explained first (s.next F setup p) := by
  unfold OutputLoop.next; split
  · exact h
  have hs : (s.pass F setup p).Keeps (Explained first) (Explained first) := by
    refine (h.beforeRescan hy).bind ?_
    rintro ⟨reached, rb⟩ hr; exact hr.rescan rb
  exact hs.finish (h.same rfl rfl rfl)

theorem start_fresh {configuration : RuntimeOutputConfiguration} {cs : ConnectorScan} {ser : Nat}
    (hs : start F setup configuration cs ser = some s) : s.log = [] ∧ s.readyOutputApply = none := by
  obtain ⟨outputs, -, hs⟩ := Option.bind_eq_some_iff.1 hs
  obtain ⟨ss, -, hs⟩ := Option.bind_eq_some_iff.1 hs; split at hs
  · cases hs; exact ⟨rfl, rfl⟩
  · cases hs

/-- Output confirmation is all or nothing, in every run whose keeps sync the directory of the file they replace: what
the loop did takes the desk it started with to the desk it has. -/
theorem confirmation_all_or_nothing {configuration : RuntimeOutputConfiguration} {connectors : ConnectorScan}
    {serial : Nat} (hstart : start F setup configuration connectors serial = some s) {passes : List Pass}
    (hsynced : Along (OutputLoop.next F setup) (KeepSynced F) s passes) :
    s.desk.Replays (exec (OutputLoop.next F setup) s passes).log (exec (OutputLoop.next F setup) s passes).desk := by
  have hfir : Explained s.desk s := by
    obtain ⟨hlog, hread⟩ := start_fresh hstart
    exact ⟨by rw [hlog]; exact .nil, fun hne => absurd hread hne⟩
  have hrun := exec_invariant_along (I := Explained s.desk) (fun s p h hsynced => h.next hsynced) hfir hsynced
  exact hrun.replays

end

/-- A move that is kept, with the file replaced. -/
theorem kept_move_replays : ∃ s, start Rat workbench {} oneMonitor 1 = some s ∧
    s.desk.Replays
      (exec (OutputLoop.next Rat workbench) s (tryMove ++ [{ now := 2, confirmations := [⟨2, .keep⟩] }])).log
      (exec (OutputLoop.next Rat workbench) s (tryMove ++ [{ now := 2, confirmations := [⟨2, .keep⟩] }])).desk := by
  obtain ⟨s, hs⟩ := Option.isSome_iff_exists.1
    (by decide +kernel : (start Rat workbench {} oneMonitor 1).isSome = true)
  have hcom : ∀ p ∈ tryMove ++ [{ now := 2, confirmations := [⟨2, .keep⟩] }], p.commit ≠ .unsynced := by decide
  exact ⟨s, hs, confirmation_all_or_nothing hs
    ((along_of_forall hcom).mono fun _ _ hcom _ _ _ huns => absurd huns hcom)⟩

/-- A move whose keep replaces the file but cannot sync its directory: it is rolled back, and stays in the file. -/
theorem unsynced_keep_rolled_back : ∃ s, start Rat workbench {} oneMonitor 1 = some s ∧
    let passes := tryMove ++ [{ now := 2, confirmations := [⟨2, .keep⟩], commit := .unsynced }]
    let s' := exec (OutputLoop.next Rat workbench) s passes
    ¬s.desk.Replays s'.log s'.desk ∧ s'.configuration = s.configuration ∧ s'.outputConfig.isSome = true := by
  cases hs : start Rat workbench {} oneMonitor 1 with
  | none =>
    have := (by decide +kernel : (start Rat workbench {} oneMonitor 1).isSome = true)
    rw [hs] at this; cases this
  | some s =>
    have hrun : ((start Rat workbench {} oneMonitor 1).map fun s =>
        let s' := exec (OutputLoop.next Rat workbench) s
          (tryMove ++ [{ now := 2, confirmations := [⟨2, .keep⟩], commit := .unsynced }])
        (s'.log.all fun act => !act.writes) && s.outputConfig.isNone && s'.configuration = s.configuration &&
          s'.outputConfig.isSome) = some true := by
      decide +kernel
    rw [hs] at hrun
    simp only [Option.map_some, Option.some.injEq, Bool.and_eq_true, decide_eq_true_eq, List.all_eq_true,
      Bool.not_eq_true', Option.isNone_iff_eq_none] at hrun
    obtain ⟨⟨⟨hlog, hfil⟩, hcon⟩, hper⟩ := hrun
    refine ⟨s, rfl, fun hrep => ?_, hcon, hper⟩
    have hsam : _ = s.outputConfig := hrep.file hlog
    simp only [desk] at hsam
    rw [hsam, hfil] at hper; cases hper

end OutputLoop

end Deniald.Outputs
