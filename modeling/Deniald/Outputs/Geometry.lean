/-
Configuration and displayed geometry: while nothing that would reapply the configuration is scheduled, the topology
is laid out as the configuration lays out the connected outputs. What is laid out otherwise is owed: a resident
reconfiguration is requested, or the scanouts have been rebased.
-/
import Deniald.Outputs.Placement

namespace Deniald.Outputs

open Deniald.Lib Deniald.Topology

variable {F : Type} [PlacementArith F] {setup : Setup}

/-! ## Layouts -/

variable (F) in
def LaidOut (configuration : RuntimeOutputConfiguration) (outputs : List ConnectedOutput) (topology : TopologyManager) :
    Prop :=
  ∃ specs, outputSpecs F outputs configuration = some specs ∧
    ∀ id : OutputId, topology.outputs[id]?.map geometry = (specs.find? fun spec => spec.id = id).map geometry

variable {configuration : RuntimeOutputConfiguration} {topology topology' : TopologyManager}

theorem laidOut_congr {outputs outs' : List ConnectedOutput} (h : LaidOut F configuration outputs topology)
    (hsa : List.Forall₂ SameImage outputs outs') : LaidOut F configuration outs' topology := by
  obtain ⟨ss, hsp, hs⟩ := h
  obtain ⟨ss', hs', hm⟩ := outputSpecs_congr hsa hsp
  refine ⟨ss', hs', fun id => ?_⟩; rw [hs id]
  have hr : ss'.map (fun spec => (spec.id, geometry spec)) = ss.map fun spec => (spec.id, geometry spec) :=
    map_eq_map_of_forall₂ (fun a b h => by rw [h.id, h.geometry]) hm
  exact (find?_map_of_map_eq hr id).symm

theorem laidOut_of_update {outputs : List ConnectedOutput} (hw : topology.WellFormed F)
    (hn : (outputs.map (·.id)).Nodup) (h : updateTopologyForOutputs F topology outputs configuration = some topology') :
    LaidOut F configuration outputs topology' := by
  obtain ⟨-, specs, hs, hge⟩ := updateTopologyForOutputs_spec hw hn h
  exact ⟨specs, hs, fun id => by rw [hge id]⟩

theorem transform_of_update {outputs : List ConnectedOutput} (hw : topology.WellFormed F)
    (hn : (outputs.map (·.id)).Nodup)
    (h : updateTopologyForOutputs F topology outputs configuration = some topology') {output : ConnectedOutput}
    (ho : output ∈ outputs) {spec : OutputSpec} (hs : topology'.outputs[output.id]? = some spec) :
    spec.transform = output.transform := by
  obtain ⟨-, specs, hsp, hge⟩ := updateTopologyForOutputs_spec hw hn h; rw [hge] at hs
  obtain ⟨out', ho', hid, hr⟩ := forall₂_mem_right (outputSpecs_each hsp) spec
    (List.mem_of_find?_eq_some hs)
  have hid' : spec.id = output.id := by simpa using List.find?_some hs
  obtain rfl : out' = output := List.inj_on_of_nodup_map hn ho' ho (hid.symm.trans hid')
  exact hr

namespace OutputLoop

def outputs (s : OutputLoop) : List ConnectedOutput := s.scanouts.map (·.output)

variable (F setup) in
/-- What always holds: the scanouts come in the order of their connectors' names and are shown in their transforms,
and a request that is ready was prepared against the connectors as they are, or a rescan is due. -/
structure Sound (s : OutputLoop) : Prop where
  wellFormed : s.topology.WellFormed F
  listed : Listed setup.names (s.outputs.map (·.id))
  named : ∀ output ∈ s.outputs, output.name = setup.names.name output.id
  transforms : ∀ output ∈ s.outputs, ∀ spec : OutputSpec, s.topology.outputs[output.id]? = some spec →
    spec.transform = output.transform
  ready : ∀ request connectors, s.readyOutputApply = some (request, connectors) →
    ∃ scan, connectors = currentConnectedConnectors setup.names scan ∧ (s.topologyDirty = true ∨ scan = s.connectors)

variable (F) in
structure Shown (s : OutputLoop) : Prop where
  transforms : ∀ output ∈ s.outputs, output.transform = s.configuration.effectiveTransform output.name
  laidOut : LaidOut F s.configuration s.outputs s.topology

/-- A rescan will be made without anything else. -/
def RescanScheduled (s : OutputLoop) : Prop := s.topologyDirty = true ∨ s.dpmsTopology.deferredRemoval = true

variable (setup) in
/-- A rescan would see no change. -/
def Settled (s : OutputLoop) : Prop :=
  ∃ outputs, s.connectedOutputs setup = some outputs ∧ hardwareChanged s.scanouts outputs = false

variable (F setup) in
/-- What holds while the scanouts are `rebased` or not: the configuration is shown, or it will be reapplied. -/
structure Kept (rebased : Bool) (s : OutputLoop) : Prop where
  sound : s.Sound F setup
  shown : s.Shown F ∨ s.residentGeometryReconfigureRequested = true ∨ rebased = true
  trial : s.activeOutputConfirmation ≠ none → s.Shown F
  settled : s.residentGeometryReconfigureRequested = true ∨ s.RescanScheduled ∨ s.Settled setup

/-- Nothing that would reapply the configuration is scheduled: no reconfiguration is requested, the scanouts are as the
scheduler has them, no rotation is pending, and no rescan that would see a change. -/
structure Quiet (setup : Setup) (s : OutputLoop) : Prop where
  resident : s.residentGeometryReconfigureRequested = false
  kms : s.kmsReconfigureRequested = false
  rebased : s.takeRebased.2 = false
  rotation : s.pendingSensorRotation = s.configuration.sensorRotation
  rescan : s.RescanScheduled → s.Settled setup

section

variable {s t : OutputLoop} {rebased rebased' : Bool} {p : Pass}

/-- What shows the same and has the same ahead of it. -/
structure Still (s t : OutputLoop) : Prop where
  outputs : t.outputs = s.outputs
  topology : t.topology = s.topology
  configuration : t.configuration = s.configuration
  connectors : t.connectors = s.connectors
  resident : t.residentGeometryReconfigureRequested = s.residentGeometryReconfigureRequested
  dirty : s.topologyDirty = true → t.topologyDirty = true
  scheduled : s.RescanScheduled → t.RescanScheduled
  ready : t.readyOutputApply = s.readyOutputApply ∨ t.readyOutputApply = none
  trial : t.activeOutputConfirmation ≠ none → s.activeOutputConfirmation ≠ none

theorem Settled.congr (h : s.Settled setup) (ho : t.outputs = s.outputs)
    (hn : t.configuration = s.configuration) (hco : t.connectors = s.connectors) : t.Settled setup := by
  obtain ⟨outputs, hcn, hu⟩ := h
  refine ⟨outputs, ?_, hardwareChanged_congr ho hu⟩; unfold connectedOutputs
  rw [hco, hn]; exact hcn

theorem Shown.still (h : s.Shown F) (hst : Still s t) : t.Shown F := by
  constructor
  · rw [hst.outputs, hst.configuration]; exact h.transforms
  · rw [hst.outputs, hst.configuration, hst.topology]; exact h.laidOut

theorem Sound.still (h : s.Sound F setup) (hst : Still s t) : t.Sound F setup := by
  refine ⟨hst.topology ▸ h.wellFormed, hst.outputs ▸ h.listed, hst.outputs ▸ h.named, ?_, ?_⟩
  · rw [hst.outputs, hst.topology]; exact h.transforms
  · intro request cs hr
    rcases hst.ready with hs | hno
    · obtain ⟨scan, hn, hcu⟩ := h.ready request cs (hs ▸ hr)
      exact ⟨scan, hn, hcu.imp hst.dirty fun heq => heq.trans hst.connectors.symm⟩
    · rw [hno] at hr; cases hr

theorem Kept.still (h : s.Kept F setup rebased) (hst : Still s t) (hre : rebased = true → rebased' = true) :
    t.Kept F setup rebased' where
  sound := h.sound.still hst
  shown := h.shown.imp (·.still hst) (Or.imp hst.resident.trans hre)
  trial hr := (h.trial (hst.trial hr)).still hst
  settled := h.settled.imp hst.resident.trans
    (Or.imp hst.scheduled fun hs => hs.congr hst.outputs hst.configuration hst.connectors)

theorem Still.refl : Still s s := ⟨rfl, rfl, rfl, rfl, rfl, id, id, .inl rfl, id⟩

theorem Kept.mono (h : s.Kept F setup rebased) (hr : rebased = true → rebased' = true) :
    s.Kept F setup rebased' := h.still .refl hr

theorem Powers.still (h : Powers s t) : Still s t := by
  obtain ⟨ss, guard, dirty, control, requests, rfl, ho, hr⟩ := h
  refine ⟨ho, rfl, rfl, rfl, rfl, fun hd => by simp [hd], ?_, .inl rfl, id⟩
  rintro (hd | hf)
  · exact .inl (by simp [hd])
  · exact .inr (hr.trans hf)

theorem Still.trans {u : OutputLoop} (hst : Still s t) (htu : Still t u) : Still s u where
  outputs := htu.outputs.trans hst.outputs
  topology := htu.topology.trans hst.topology
  configuration := htu.configuration.trans hst.configuration
  connectors := htu.connectors.trans hst.connectors
  resident := htu.resident.trans hst.resident
  dirty h := htu.dirty (hst.dirty h)
  scheduled h := htu.scheduled (hst.scheduled h)
  ready := by
    rcases htu.ready with h | h
    · rw [h]; exact hst.ready
    · exact .inr h
  trial h := hst.trial (htu.trial h)

theorem still_did (act : Act) : Still s (s.did act) := ⟨rfl, rfl, rfl, rfl, rfl, id, id, .inl rfl, id⟩

theorem still_applyOutputPowerRequests : Still s (s.applyOutputPowerRequests p) := by
  obtain ⟨t, ht, hw⟩ := applyOutputPowerRequests_powers s p
  rw [ht]; exact hw.still.trans (still_did _)

/-! ## Applications -/

theorem shown_of_update {outputs : List ConnectedOutput} {topology : TopologyManager} (hs : s.Sound F setup)
    (hm : Made setup.names t.configuration outputs)
    (hu : updateTopologyForOutputs F s.topology outputs t.configuration = some topology)
    (hto : t.topology = topology) (hou : t.outputs = outputs)
    (hr : ∀ request cs, t.readyOutputApply = some (request, cs) →
      ∃ scan, cs = currentConnectedConnectors setup.names scan ∧ (t.topologyDirty = true ∨ scan = t.connectors)) :
    t.Sound F setup ∧ t.Shown F := by
  subst hto hou
  refine ⟨⟨?_, hm.listed, hm.named, ?_, hr⟩, hm.transforms, ?_⟩
  · exact (updateTopologyForOutputs_spec hs.wellFormed hm.listed.nodup hu).1
  · intro out ho spec hsp
    exact transform_of_update hs.wellFormed hm.listed.nodup hu ho hsp
  · exact laidOut_of_update hs.wellFormed hm.listed.nodup hu

variable {staged : RuntimeOutputConfiguration}

theorem resident_shown {accepted : Bool} {outputs : List ConnectedOutput} (hs : s.Sound F setup)
    (hm : Made setup.names staged outputs) (hu : hardwareChanged s.scanouts outputs = false)
    (h : s.applyResidentOutputGeometry F accepted outputs staged = some t) :
    (t.Sound F setup ∧ t.Shown F) ∧ t.outputs = outputs := by
  obtain ⟨topology, scanouts, rfl, hup, hv⟩ := applyResidentOutputGeometry_spec h
  have his : s.outputs.map (·.id) = s.scanouts.map (·.output.id) := List.map_map
  have hma := matches_of_unchanged (his ▸ hs.listed) hm.listed hu
  have hd : scanouts.map (·.output) = outputs := by
    have hsi : (scanouts.map (·.output)).map (·.id) = outputs.map (·.id) := by
      rw [List.map_map]
      refine (map_eq_map_of_forall₂ (g := fun scan : Scanout => scan.output.id)
        (f := fun scan : Scanout => scan.output.id) (fun _ _ h => h.2.1) hv).trans ?_
      exact (map_eq_map_of_forall₂ (fun _ _ h => h.1) hma).symm
    have he : List.Forall₂ Eq outputs (scanouts.map (·.output)) := by
      refine forall₂_of_keys hsi hm.listed.nodup fun out ho => ?_
      obtain ⟨scan, hn, rfl⟩ := List.mem_map.1 ho
      obtain ⟨-, -, -, -, hmem⟩ := forall₂_mem_right hv scan hn; exact ⟨_, hmem, rfl, rfl⟩
    exact (List.forall₂_eq_eq_eq ▸ he : outputs = scanouts.map (·.output)).symm
  exact ⟨shown_of_update hs hm hup rfl hd hs.ready, hd⟩

theorem hotplug_shown {outputs : List ConnectedOutput} (hs : s.Sound F setup)
    (hm : Made setup.names staged outputs) (h : s.applyHotplugTopology F outputs staged = some t) :
    (({ t with configuration := staged } : OutputLoop).Sound F setup ∧
      ({ t with configuration := staged } : OutputLoop).Shown F) ∧ t.outputs = outputs := by
  obtain ⟨topology, scanouts, rfl, hu, hd⟩ := applyHotplugTopology_spec h
  exact ⟨shown_of_update hs hm hu rfl hd hs.ready, hd⟩

/-! ## Phases before the rescan -/

theorem Kept.receive (h : s.Kept F setup s.takeRebased.2) : (s.receive p).Kept F setup (s.receive p).takeRebased.2 where
  sound := by
    refine ⟨h.sound.wellFormed, h.sound.listed, h.sound.named, h.sound.transforms, fun request cs hra => ?_⟩
    obtain ⟨scan, hn, hcu⟩ := h.sound.ready request cs hra
    refine ⟨scan, hn, ?_⟩; unfold OutputLoop.receive
    cases p.connectors with
    | none => exact hcu.imp (fun hd => by simp [hd]) id
    | some f => exact .inl (by simp)
  shown := by
    refine h.shown.imp (fun hs => ⟨hs.transforms, hs.laidOut⟩) (Or.imp id fun hre => ?_)
    simp only [takeRebased, OutputLoop.receive, Bool.or_eq_true] at hre ⊢; exact hre.imp .inl id
  trial hr := ⟨(h.trial hr).transforms, (h.trial hr).laidOut⟩
  settled := by
    refine h.settled.imp id ?_
    rintro ((hd | hf) | hse)
    · exact .inl (.inl (by simp [OutputLoop.receive, hd]))
    · exact .inl (.inr hf)
    · cases hn : p.connectors with
      | none => exact .inr (hse.congr rfl rfl (by simp [OutputLoop.receive, hn]))
      | some f => exact .inl (.inl (by simp [OutputLoop.receive, hn]))

theorem still_serviceWakeDeadline : Still s (s.serviceWakeDeadline p) := by
  refine ⟨rfl, rfl, rfl, rfl, rfl, fun hd => by simp [serviceWakeDeadline, hd], ?_, .inl rfl, id⟩
  rintro (hd | hf)
  · exact .inl (by simp [serviceWakeDeadline, hd])
  · -- a deferral ends only with the rescan that it stood for
    have hs : (s.dpmsTopology.serviceDeadline p.now).2 = true ∨
        (s.dpmsTopology.serviceDeadline p.now).1.deferredRemoval = true := by
      unfold DpmsTopologyGuard.serviceDeadline; split
      · exact .inl hf
      · exact .inr hf
    exact hs.imp (fun hdu => Bool.or_eq_true_iff.2 (.inr hdu)) id

theorem still_observeOrientation : Still s (s.observeOrientation p) := by
  unfold observeOrientation; split
  · exact ⟨rfl, rfl, rfl, rfl, rfl, id, id, .inl rfl, id⟩
  · exact .refl

theorem Settled.rotated {r : OutputTransform} {f : ConnectedOutput → OutputTransform} (h : s.Settled setup)
    (ho : t.scanouts.map (·.output) = s.scanouts.map fun scan =>
      { scan.output with transform := f scan.output })
    (hn : t.configuration = { s.configuration with sensorRotation := r })
    (hco : t.connectors = s.connectors) : t.Settled setup := by
  obtain ⟨outputs, hcn, hu⟩ := h
  have hf := configuredOutputs_rotated r hcn
  refine ⟨_, Eq.trans ?_ hf, hardwareChanged_retransformed ho hu⟩; unfold connectedOutputs
  rw [hco, hn]

theorem Kept.applyAutomaticOrientation (h : s.Kept F setup s.takeRebased.2) :
    (s.applyAutomaticOrientation F p).Keeps (fun t => t.Kept F setup t.takeRebased.2) fun t =>
      t.Kept F setup t.takeRebased.2 := by
  have htr : ∀ {a : Option ActiveOutputConfirmation} {f : ActiveOutputConfirmation → ActiveOutputConfirmation},
      a.map f ≠ none → a ≠ none := by
    rintro a f hne rfl; exact hne rfl
  unfold OutputLoop.applyAutomaticOrientation
  simp only
  split
  · exact Turn.keeps_leave
  rename_i applied hap; split at hap
  · rename_i hm; cases hap
    have hs : s.Shown F → ((({ s with configuration :=
        { s.configuration with sensorRotation := s.pendingSensorRotation } } : OutputLoop).rotateRollback
          s.pendingSensorRotation).did (.rotated s.pendingSensorRotation)).Shown F := by
      intro hs
      refine ⟨fun out ho => ?_, hs.laidOut⟩
      obtain ⟨scan, hsc, rfl⟩ := List.mem_map.1 ho; rw [List.map_map] at hm
      exact (List.map_inj_left.1 hm scan hsc).symm
    refine ⟨⟨h.sound.wellFormed, h.sound.listed, h.sound.named, h.sound.transforms, h.sound.ready⟩,
      h.shown.imp hs id, fun hac => hs (h.trial (htr hac)), h.settled.imp id (Or.imp id ?_)⟩
    exact fun hse => hse.rotated (f := fun out => out.transform) rfl rfl rfl
  · have hma : Made setup.names { s.configuration with sensorRotation := s.pendingSensorRotation }
        (s.scanouts.map fun scan =>
          { scan.output with
            transform := ({ s.configuration with sensorRotation := s.pendingSensorRotation } :
              RuntimeOutputConfiguration).effectiveTransform scan.output.name }) := by
      refine ⟨?_, ?_, ?_⟩
      · rw [List.map_map]
        have hli := h.sound.listed; unfold outputs at hli
        rwa [List.map_map] at hli
      · intro out ho
        obtain ⟨scan, hsc, rfl⟩ := List.mem_map.1 ho
        exact h.sound.named scan.output (List.mem_map_of_mem hsc)
      · intro out ho
        obtain ⟨scan, hsc, rfl⟩ := List.mem_map.1 ho; rfl
    have hsl : hardwareChanged s.scanouts s.outputs = false := hardwareChanged_self rfl h.sound.listed.nodup
    have hu : hardwareChanged s.scanouts _ = false :=
      hardwareChanged_retransformed (f := fun out => out.transform)
        (g := fun out => ({ s.configuration with sensorRotation := s.pendingSensorRotation } :
          RuntimeOutputConfiguration).effectiveTransform out.name) rfl hsl
    rw [outputs, List.map_map] at hu
    obtain ⟨⟨hn, hs⟩, hd⟩ := resident_shown h.sound hma hu hap
    obtain ⟨topology, scanouts, rfl, -, -⟩ := applyResidentOutputGeometry_spec hap
    have hr : ((({ s with
          scanouts, topology, outputControlDirty := true
          configuration := { s.configuration with sensorRotation := s.pendingSensorRotation } } :
        OutputLoop).rotateRollback s.pendingSensorRotation).did (.rotated s.pendingSensorRotation)).Shown F :=
      ⟨hs.transforms, hs.laidOut⟩
    refine ⟨⟨hn.wellFormed, hn.listed, hn.named, hn.transforms, hn.ready⟩, .inl hr,
      fun _ => hr, h.settled.imp id (Or.imp id ?_)⟩
    exact fun hse => hse.rotated (f := fun out =>
      ({ s.configuration with sensorRotation := s.pendingSensorRotation } :
        RuntimeOutputConfiguration).effectiveTransform out.name) hd rfl rfl

theorem Kept.rotate (h : s.Kept F setup s.takeRebased.2) :
    (s.rotate F p).Keeps (fun t => t.Kept F setup t.takeRebased.2) fun t => t.Kept F setup t.takeRebased.2 := by
  unfold OutputLoop.rotate; split
  · exact h.applyAutomaticOrientation
  · exact h

theorem Kept.rollBack (h : s.Kept F setup rebased) (pending : ActiveOutputConfirmation) :
    (s.rollBack pending).Kept F setup rebased' where
  sound := ⟨h.sound.wellFormed, h.sound.listed, h.sound.named, h.sound.transforms, h.sound.ready⟩
  shown := .inr (.inl rfl)
  trial hr := absurd rfl hr
  settled := .inl rfl

theorem Kept.did (h : s.Kept F setup rebased) (act : Act) : (s.did act).Kept F setup rebased :=
  h.still (still_did act) id

theorem Kept.expireConfirmation (h : s.Kept F setup s.takeRebased.2) :
    (s.expireConfirmation p).Kept F setup (s.expireConfirmation p).takeRebased.2 := by
  unfold OutputLoop.expireConfirmation; split
  · exact h
  split
  · exact (h.rollBack _).did _
  · exact h

theorem publish_spec (s : OutputLoop) (p : Pass) : Still s (s.publish p) ∧ (s.publish p).takeRebased.2 = s.takeRebased.2 ∧
    (s.publish p).outputControlDirty = false := by
  unfold OutputLoop.publish; split
  · exact ⟨⟨rfl, rfl, rfl, rfl, rfl, id, id, .inl rfl, id⟩, rfl, rfl⟩
  · rename_i hn; exact ⟨.refl, rfl, by simpa using hn⟩

theorem servicePower_spec (s : OutputLoop) (p : Pass) (rebased : Bool) : Still s (s.servicePower p rebased) ∧
    (rebased = true → (s.servicePower p rebased).outputControlDirty = s.outputControlDirty) := by
  have hn : Still s (s.requestPower (.ofList p.powerRequests)).notePower :=
    ⟨rfl, rfl, rfl, rfl, rfl, id, id, .inl rfl, id⟩
  unfold OutputLoop.servicePower
  simp only
  split
  · rename_i hap
    refine ⟨hn.trans still_applyOutputPowerRequests, ?_⟩
    rintro rfl
    simp at hap
  · exact ⟨hn, fun _ => rfl⟩

theorem Kept.beforeAnswers (h : s.Kept F setup s.takeRebased.2) :
    (s.beforeAnswers F p).Keeps (fun t => t.Kept F setup t.takeRebased.2) fun reached =>
      reached.1.Kept F setup reached.2 := by
  have ho : (((s.receive p).serviceWakeDeadline p).observeOrientation p).Kept F setup
      (((s.receive p).serviceWakeDeadline p).observeOrientation p).takeRebased.2 := by
    have hs : Still (s.receive p) (((s.receive p).serviceWakeDeadline p).observeOrientation p) :=
      still_serviceWakeDeadline.trans still_observeOrientation
    refine h.receive.still hs fun hr => ?_; unfold observeOrientation
    split <;> exact hr
  refine ho.rotate.bind fun rotated hro => ?_
  obtain ⟨hs, hm, hn⟩ := publish_spec (rotated.expireConfirmation p) p
  have hta : ((rotated.expireConfirmation p).publish p).takeRebased.1.Kept F setup
      ((rotated.expireConfirmation p).publish p).takeRebased.2 :=
    hro.expireConfirmation.still (hs.trans ⟨rfl, rfl, rfl, rfl, rfl, id, id, .inl rfl, id⟩)
      fun hr => hm.trans hr
  obtain ⟨hse, hqu⟩ := servicePower_spec ((rotated.expireConfirmation p).publish p).takeRebased.1 p
    ((rotated.expireConfirmation p).publish p).takeRebased.2
  have hk := hta.still hse id
  simp only
  split
  · rename_i hd
    -- what was rebased has published nothing since, so it is not here
    refine hk.mono fun hr => ?_; rw [hqu hr] at hd
    exact absurd (hn.symm.trans hd) Bool.false_ne_true
  · exact hk

/-! ## Answers -/

theorem Kept.answer (h : s.Kept F setup rebased) (request : PendingOutputConfirmation) :
    ((s.answer p request).2 = false → (s.answer p request).1.Kept F setup rebased) ∧
      ((s.answer p request).2 = true → (s.answer p request).1.Kept F setup false) := by
  unfold OutputLoop.answer; split
  · exact ⟨fun _ => h.did _, (fun hh => by cases hh)⟩
  rename_i pending hpe; split
  · exact ⟨fun _ => h.did _, (fun hh => by cases hh)⟩
  split
  · exact ⟨(fun hh => by cases hh), fun _ => (h.rollBack pending).did _⟩
  -- a trial is shown, so that what is kept is
  have hk : ∀ {t : OutputLoop}, Still s t → ∀ act, (t.kept.did act).Kept F setup false := by
    intro t hst act
    have hs : t.kept.Shown F := (h.trial (by rw [hpe]; exact Option.some_ne_none _)).still
      (hst.trans ⟨rfl, rfl, rfl, rfl, rfl, id, id, .inl rfl, fun hne => absurd rfl hne⟩)
    have hn := h.sound.still (hst.trans (u := t.kept)
      ⟨rfl, rfl, rfl, rfl, rfl, id, id, .inl rfl, fun hne => absurd rfl hne⟩)
    have hsi : Kept F setup rebased t := h.still hst id
    exact Kept.did ⟨hn, .inl hs, fun _ => hs,
      hsi.settled.imp id (Or.imp id fun hse => hse.congr rfl rfl rfl)⟩ act
  cases pending.preparedPersistence with
  | none => exact ⟨(fun hh => by cases hh), fun _ => hk .refl _⟩
  | some pr =>
    unfold OutputLoop.commit
    cases p.commit with
    | replaced =>
      exact ⟨(fun hh => by cases hh),
        fun _ => hk (t := { s with outputConfig := some pr })
          ⟨rfl, rfl, rfl, rfl, rfl, id, id, .inl rfl, id⟩ _⟩
    | refused => exact ⟨(fun hh => by cases hh), fun _ => (h.rollBack pending).did _⟩
    | unsynced =>
      have hw : ({ s with outputConfig := some pr } : OutputLoop).Kept F setup rebased :=
        h.still ⟨rfl, rfl, rfl, rfl, rfl, id, id, .inl rfl, id⟩ id
      exact ⟨(fun hh => by cases hh), fun _ => (hw.rollBack pending).did _⟩

theorem Kept.answers : ∀ (requests : List PendingOutputConfirmation) (acc : OutputLoop × Bool),
    acc.1.Kept F setup rebased → (acc.2 = true → acc.1.Kept F setup false) →
    let answered := requests.foldl (fun (acc : OutputLoop × Bool) request =>
      let (s, handled) := acc.1.answer p request
      (s, acc.2 || handled)) acc
    answered.1.Kept F setup rebased ∧ (answered.2 = true → answered.1.Kept F setup false)
  | [], _, h, hh => ⟨h, hh⟩
  | request :: requests, acc, h, hh => by
    refine Kept.answers requests _ ?_ ?_
    · cases hn : (acc.1.answer p request).2 with
      | false => exact (h.answer request).1 hn
      | true => exact ((h.answer request).2 hn).mono fun hf => by cases hf
    · intro he
      cases hn : (acc.1.answer p request).2 with
      | true => exact (h.answer request).2 hn
      | false =>
        rw [Bool.or_eq_true] at he
        refine ((hh (he.resolve_right ?_)).answer request).1 hn
        rw [hn]; exact Bool.false_ne_true

theorem Kept.answerConfirmations (h : s.Kept F setup rebased) :
    (s.answerConfirmations p).Keeps (fun t => t.Kept F setup t.takeRebased.2) fun t => t.Kept F setup rebased := by
  have hs : ({ s with pendingOutputConfirmations := [] } : OutputLoop).Kept F setup rebased :=
    h.still ⟨rfl, rfl, rfl, rfl, rfl, id, id, .inl rfl, id⟩ id
  obtain ⟨hk, hh⟩ := Kept.answers (p := p) s.pendingOutputConfirmations
    ({ s with pendingOutputConfirmations := [] }, false) hs (fun hf => by cases hf)
  unfold OutputLoop.answerConfirmations
  simp only
  split
  · rename_i hr
    exact (hh hr).mono fun hf => by cases hf
  · exact hk

/-! ## Applies -/

theorem still_requeue (s : OutputLoop) (rebased : Bool) : Still s (s.requeue rebased) ∧
    (rebased = true → (s.requeue rebased).readyOutputApply = none) := by
  unfold requeue; split
  · exact ⟨⟨rfl, rfl, rfl, rfl, rfl, id, id, .inr rfl, id⟩, fun _ => rfl⟩
  rename_i ho
  refine ⟨.refl, ?_⟩
  rintro rfl
  cases hr : s.readyOutputApply with
  | none => rfl
  | some ready => exact absurd hr (ho ready.1 ready.2 rfl)

theorem Kept.stage (h : s.Kept F setup rebased) :
    (s.stage setup p rebased).Keeps (fun t => t.Kept F setup t.takeRebased.2) fun t =>
      t.Kept F setup rebased ∧ t.readyOutputApply = s.readyOutputApply := by
  unfold OutputLoop.stage; split
  swap
  · exact ⟨h, rfl⟩
  rename_i hf
  simp only [Bool.and_eq_true, Bool.not_eq_true'] at hf; split
  · exact ⟨h, rfl⟩
  rename_i request rest _
  have hs : ∀ {t : OutputLoop}, Still s t → t.Kept F setup t.takeRebased.2 := fun hst =>
    h.still hst fun hre => by rw [hf.1] at hre; cases hre
  have hpo : ∀ {t : OutputLoop} (act : Act), Still s t → (t.did act).Kept F setup (t.did act).takeRebased.2 :=
    fun act hst => hs (hst.trans (still_did act))
  simp only
  split
  · exact hpo _ ⟨rfl, rfl, rfl, rfl, rfl, id, id, .inl rfl, id⟩
  split
  · exact hs .refl
  split
  · exact hpo (t := { s with pendingOutputApplies := rest, topologyDirty := true }) _
      ⟨rfl, rfl, rfl, rfl, rfl, fun _ => rfl, fun _ => .inl rfl, .inl rfl, id⟩
  have hk := hs (t := { s with pendingOutputApplies := rest, outputControlDirty := true })
    ⟨rfl, rfl, rfl, rfl, rfl, id, id, .inl rfl, id⟩
  refine ⟨⟨hk.sound.wellFormed, hk.sound.listed, hk.sound.named, hk.sound.transforms, ?_⟩,
    hk.shown.imp (fun hh => ⟨hh.transforms, hh.laidOut⟩) id,
    fun hr => ⟨(hk.trial hr).transforms, (hk.trial hr).laidOut⟩, hk.settled⟩
  intro req' cs hd
  obtain ⟨-, rfl⟩ := Prod.mk.inj (Option.some.inj hd); exact ⟨s.connectors, rfl, .inr rfl⟩

end

end OutputLoop

end Deniald.Outputs
