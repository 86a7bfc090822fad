/-
Runs of the event loop in which configuration and displayed geometry agree: an apply shows what it stages, a rescan
shows the configuration or leaves it requested, unless it refuses a resident application or finds no output while all
scanouts are off, where what was requested is dropped.
-/
import Deniald.Outputs.Geometry

namespace Deniald.Outputs

open Deniald.Lib Deniald.Topology
open OutputLoop TopologyManager

variable {F : Type} [PlacementArith F] {setup : Setup}

namespace OutputLoop

variable {s t : OutputLoop} {rebased rebased' : Bool} {p : Pass}

/-! ## The end of an apply -/

theorem Still.withTrial (h : Still s t) (a : Option ActiveOutputConfirmation) :
    Still { s with activeOutputConfirmation := a } { t with activeOutputConfirmation := a } :=
  ⟨h.outputs, h.topology, h.configuration, h.connectors, h.resident, h.dirty, h.scheduled, h.ready, id⟩

theorem still_persistApplied (c : List String) (pr : PersistedConfiguration) : Still s (s.persistApplied p c pr) := by
  unfold persistApplied commit
  cases p.commit <;> exact ⟨rfl, rfl, rfl, rfl, rfl, id, id, .inl rfl, id⟩

theorem still_finishApply (request : ApplyOutputConfiguration) (staged : StagedApply) (before s : OutputLoop) :
    Still { s with
        configuration := staged.configuration
        activeOutputConfirmation := (finishApply p request staged before s).activeOutputConfirmation }
      (finishApply p request staged before s) := by
  have hw : ∀ act, Still { s with configuration := staged.configuration }
      ((({ s with configuration := staged.configuration, outputControlDirty := true } : OutputLoop).did act).requestPower
        staged.desiredPower |>.applyOutputPowerRequests p) := fun act =>
    .trans (t := (({ s with configuration := staged.configuration, outputControlDirty := true } : OutputLoop).did
      act).requestPower staged.desiredPower) ⟨rfl, rfl, rfl, rfl, rfl, id, id, .inl rfl, id⟩ still_applyOutputPowerRequests
  unfold finishApply
  simp only
  split
  · exact (hw _).withTrial _
  · exact (hw _).withTrial _
  · exact ((hw _).trans (still_persistApplied _ _)).withTrial _

/-! ## What is staged -/

theorem SameImage.symm {a b : ConnectedOutput} (h : SameImage a b) : SameImage b a :=
  ⟨h.id.symm, h.name.symm, h.mode.symm, h.transform.symm⟩

variable {configuration : RuntimeOutputConfiguration} {outputs : List ConnectedOutput}

/-- Outputs without a change of hardware look like those that the scanouts drive, where these have the transforms of the
configuration. -/
theorem sameImage_of_unchanged (hs : s.Sound F setup) (hm : Made setup.names configuration outputs)
    (hu : hardwareChanged s.scanouts outputs = false)
    (hr : ∀ out ∈ s.outputs, out.transform = configuration.effectiveTransform out.name) :
    List.Forall₂ SameImage s.outputs outputs := by
  have his : s.outputs.map (·.id) = s.scanouts.map (·.output.id) := List.map_map
  have hma := matches_of_unchanged (his ▸ hs.listed) hm.listed hu
  have hk : outputs.map (·.id) = s.outputs.map (·.id) := by
    rw [his]
    exact map_eq_map_of_forall₂ (fun _ _ h => h.1) hma
  refine forall₂_of_keys hk hs.listed.nodup fun out ho => ?_
  obtain ⟨scan, hsc, hid, hh⟩ := forall₂_mem_right hma out ho
  have hd : scan.output ∈ s.outputs := List.mem_map_of_mem hsc
  have hn : out.name = scan.output.name := by rw [hm.named out ho, hs.named _ hd, hid]
  simp only [sameHardware, Bool.and_eq_true, decide_eq_true_eq] at hh
  refine ⟨scan.output, hd, hid.symm, hid, hn, hh.1.1.2.symm, ?_⟩
  rw [hm.transforms out ho, hn, hr _ hd]

variable {request : ApplyOutputConfiguration} {staged : StagedApply} {guard : DpmsTopologyGuard}

theorem validate_spec {cs : List ConnectedConnector} (h : s.validate F setup p request cs = .ok staged) :
    configuredOutputs setup.names cs setup.maxOutputs staged.configuration = some staged.outputs ∧
      updateTopologyForOutputs F s.topology staged.outputs staged.configuration = some staged.preview := by
  obtain ⟨⟨configuration, dp⟩, -, h⟩ := bind_ok.1 h; dsimp only at h
  split at h
  · rename_i outputs ho; split at h
    · rename_i preview hr; split at h
      · cases h
      · cases h; exact ⟨ho, hr⟩
    · cases h
  · cases h

theorem shown_of_preview {preview : TopologyManager} (hs : s.Sound F setup)
    (hm : Made setup.names configuration outputs) (hn : hardwareChanged s.scanouts outputs = false)
    (hu : updateTopologyForOutputs F s.topology outputs configuration = some preview)
    (hsa : (preview.snapshot F).outputs = (s.topology.snapshot F).outputs) :
    ({ s with configuration } : OutputLoop).Shown F := by
  obtain ⟨hw, specs, hsp, hgt⟩ := updateTopologyForOutputs_spec hs.wellFormed hm.listed.nodup hu
  have hou : preview.outputs = s.topology.outputs :=
    eq_of_outputValues_eq hw.keyed hs.wellFormed.keyed hsa
  have his : s.outputs.map (·.id) = s.scanouts.map (·.output.id) := List.map_map
  have hma := matches_of_unchanged (his ▸ hs.listed) hm.listed hn
  have hr : ∀ out ∈ s.outputs, out.transform = configuration.effectiveTransform out.name := by
    intro out ho
    obtain ⟨scan, hsc, rfl⟩ := List.mem_map.1 ho
    obtain ⟨f, hf, hid, -⟩ := forall₂_mem_left hma scan hsc
    obtain ⟨spec, hse, hsi, -⟩ := forall₂_mem_left (outputSpecs_each hsp) f hf
    have hh : ∃ spec, preview.outputs[f.id]? = some spec := by
      rw [hgt]
      refine Option.isSome_iff_exists.1 (List.find?_isSome.2 ⟨spec, hse, by simpa using hsi⟩)
    obtain ⟨shown, hh⟩ := hh
    have hv := transform_of_update hs.wellFormed hm.listed.nodup hu hf hh
    rw [hou, hid] at hh
    have hna : f.name = scan.output.name := by rw [hm.named f hf, hs.named _ ho, hid]
    rw [← hna, ← hm.transforms f hf, ← hv]
    exact (hs.transforms scan.output ho shown hh).symm
  refine ⟨hr, ?_⟩
  have hd : LaidOut F configuration outputs s.topology := by
    obtain ⟨specs, hsp, hge⟩ := laidOut_of_update hs.wellFormed hm.listed.nodup hu
    exact ⟨specs, hsp, fun id => hou ▸ hge id⟩
  exact laidOut_congr hd ((sameImage_of_unchanged hs hm hn hr).flip.imp fun _ _ h => SameImage.symm h)

/-! ## Applies -/

theorem kept_finishApply (request : ApplyOutputConfiguration) (before : OutputLoop) (hs : s.Sound F setup)
    (hh : ({ s with configuration := staged.configuration } : OutputLoop).Shown F)
    (hse : s.topologyDirty = true ∨
      ({ s with configuration := staged.configuration } : OutputLoop).Settled setup) :
    (finishApply p request staged before s).Kept F setup rebased := by
  have hr : Kept F setup rebased { s with
      configuration := staged.configuration
      activeOutputConfirmation := (finishApply p request staged before s).activeOutputConfirmation } :=
    ⟨⟨hs.wellFormed, hs.listed, hs.named, hs.transforms, hs.ready⟩,
      .inl ⟨hh.transforms, hh.laidOut⟩, fun _ => ⟨hh.transforms, hh.laidOut⟩, .inr (hse.imp .inl id)⟩
  exact hr.still (still_finishApply request staged before s) id

theorem Kept.applyStaged {scan : ConnectorScan} {P : OutputLoop → Prop} (h : s.Kept F setup false)
    (hcu : s.topologyDirty = true ∨ scan = s.connectors)
    (hfo : configuredOutputs setup.names (currentConnectedConnectors setup.names scan) setup.maxOutputs
      staged.configuration = some staged.outputs)
    (hup : updateTopologyForOutputs F s.topology staged.outputs staged.configuration = some staged.preview) :
    (s.applyStaged F p request staged).Keeps (fun t => t.Kept F setup t.takeRebased.2) P := by
  have hm := made_of_configuredOutputs hfo
  have hno := hm.listed.nodup
  have hn : ∀ {t : OutputLoop}, t.topologyDirty = s.topologyDirty → t.connectors = s.connectors →
      hardwareChanged t.scanouts staged.outputs = false → t.topologyDirty = true ∨
        ({ t with configuration := staged.configuration } : OutputLoop).Settled setup := by
    intro t hdi hco hu
    refine hcu.imp hdi.trans fun hsc => ⟨staged.outputs, ?_, hu⟩; unfold connectedOutputs
    rw [hco, ← hsc]; exact hfo
  have hr : (({ s with outputControlDirty := true } : OutputLoop).did (.refused .applyFailed)).Kept F setup
      (({ s with outputControlDirty := true } : OutputLoop).did (.refused .applyFailed)).takeRebased.2 :=
    h.still ⟨rfl, rfl, rfl, rfl, rfl, id, id, .inl rfl, id⟩ fun hf => by cases hf
  unfold OutputLoop.applyStaged
  simp only
  split
  · rename_i hsa
    simp only [Bool.and_eq_true, Bool.not_eq_true', decide_eq_true_eq] at hsa
    obtain ⟨⟨hu, hv⟩, -⟩ := hsa
    exact kept_finishApply request s h.sound (shown_of_preview h.sound hm hu hup hv)
      (hn rfl rfl hu)
  split
  · rename_i hu; rw [Bool.not_eq_true'] at hu; split
    · exact hr
    rename_i applied hap
    obtain ⟨⟨hs, hh⟩, hd⟩ := resident_shown h.sound hm hu hap
    obtain ⟨topology, scanouts, rfl, -, -⟩ := applyResidentOutputGeometry_spec hap
    exact kept_finishApply request s hs ⟨hh.transforms, hh.laidOut⟩
      (hn rfl rfl (hardwareChanged_self hd hno))
  · split
    · rename_i applied _ hap
      obtain ⟨⟨hs, hh⟩, hd⟩ := hotplug_shown h.sound hm hap
      obtain ⟨topology, scanouts, rfl, -, -⟩ := applyHotplugTopology_spec hap
      have hfi : Kept F setup false (finishApply p request staged s
          { s with scanouts, topology, outputControlDirty := true }) :=
        kept_finishApply request s ⟨hs.wellFormed, hs.listed, hs.named, hs.transforms, hs.ready⟩
          hh (hn rfl rfl (hardwareChanged_self hd hno))
      exact hfi.still ⟨rfl, rfl, rfl, rfl, rfl, id, id, .inl rfl, id⟩ fun hf => by cases hf
    · exact Turn.keeps_leave
    · exact hr

theorem Kept.applyReady (h : s.Kept F setup rebased) (hno : rebased = true → s.readyOutputApply = none) :
    (s.applyReady F setup p rebased).Keeps (fun t => t.Kept F setup t.takeRebased.2) fun t =>
      t.Kept F setup rebased ∧ t.readyOutputApply = none := by
  unfold OutputLoop.applyReady; split
  · rename_i request cs hr
    have hs : ∀ {t : OutputLoop}, Still s t → t.Kept F setup t.takeRebased.2 := fun hst =>
      h.still hst fun hf => by cases hf
    split
    · exact hs .refl
    simp only
    split
    · exact hs ⟨rfl, rfl, rfl, rfl, rfl, fun _ => rfl, fun _ => .inl rfl, .inr rfl, id⟩
    split
    · exact hs ⟨rfl, rfl, rfl, rfl, rfl, id, id, .inr rfl, id⟩
    rename_i staged hv
    obtain ⟨scan, rfl, hcu⟩ := h.sound.ready request cs hr
    obtain ⟨hn, hu⟩ := validate_spec hv
    have hk : Kept F setup false { s with readyOutputApply := none } :=
      h.still ⟨rfl, rfl, rfl, rfl, rfl, id, id, .inr rfl, id⟩ id
    exact hk.applyStaged hcu hn hu
  · rename_i ho
    refine ⟨h, ?_⟩
    cases hr : s.readyOutputApply with
    | none => rfl
    | some ready =>
      have hre := Bool.eq_true_of_not_eq_false fun hf => ho ready.1 ready.2 hf hr
      exact hr.symm.trans (hno hre)

theorem Kept.beforeRescan (h : s.Kept F setup s.takeRebased.2) :
    (s.beforeRescan F setup p).Keeps (fun t => t.Kept F setup t.takeRebased.2) fun reached =>
      reached.1.Kept F setup reached.2 ∧ reached.1.readyOutputApply = none := by
  refine h.beforeAnswers.bind fun (answered, rebased) hf => ?_
  refine hf.answerConfirmations.bind fun c hn => ?_
  obtain ⟨hst, hno⟩ := still_requeue c rebased
  refine (hn.still hst id).stage.bind fun staged hs => ?_
  exact (hs.1.applyReady fun hr => hs.2.trans (hno hr)).bind fun applied hap => hap

/-! ## Rescans -/

/-- A rescan drops what was requested where the hardware refuses the resident application, or where it finds no output
while all scanouts are off, so that nothing marks the scanouts as rebased once there are outputs again. -/
def DropsRequest (F : Type) [PlacementArith F] (setup : Setup) (p : Pass) (rebased : Bool) (s : OutputLoop) : Prop :=
  ∃ outputs, p.scanned = true ∧ s.connectedOutputs setup = some outputs ∧
    (s.residentGeometryReconfigureRequested = true ∧ s.kmsReconfigureRequested = false ∧ rebased = false ∧
        hardwareChanged s.scanouts outputs = false ∧ p.scanoutBusy = false ∧ p.targetsBusy = false ∧
        (p.residentAccepted = false ∨ updateTopologyForOutputs F s.topology outputs s.configuration = none) ∨
      (s.residentGeometryReconfigureRequested = true ∨ rebased = true) ∧ outputs = [] ∧
        s.scanouts.all (fun scanout => !scanout.powered) = true)

theorem deferRemoval_deferred {f : Bool} (h : s.deferRemoval p f outputs = (guard, true)) :
    guard.deferredRemoval = true ∧ f = false := by
  unfold deferRemoval at h; split at h
  · cases h
  rename_i hf
  rw [Bool.or_eq_true, not_or, Bool.not_eq_true, Bool.not_eq_true] at hf
  refine ⟨?_, hf.1⟩; unfold DpmsTopologyGuard.deferMissingOutputs at h
  simp only at h
  split at h
  · cases h
  split at h
  · cases h
  · obtain rfl := (Prod.mk.inj h).1; rfl

/-- Of the outputs that the scanouts drive, a resident application is made unless the hardware refuses it, or they
cannot be laid out. -/
theorem refused_of_resident {accepted : Bool} (hs : s.Sound F setup) (hm : Made setup.names configuration outputs)
    (hu : hardwareChanged s.scanouts outputs = false)
    (h : s.applyResidentOutputGeometry F accepted outputs configuration = none) :
    accepted = false ∨ updateTopologyForOutputs F s.topology outputs configuration = none := by
  cases hup : updateTopologyForOutputs F s.topology outputs configuration with
  | none => exact .inr rfl
  | some topology =>
    have hd : s.outputs.map (·.id) = s.scanouts.map (·.output.id) := List.map_map
    have hma := matches_of_unchanged (hd ▸ hs.listed) hm.listed hu
    have hv : (s.scanouts.mapM fun scan =>
        (outputs.find? fun output => output.id = scan.output.id).map fun output => { scan with output := output }) =
        some (s.scanouts.map fun scan =>
          { scan with
            output := (outputs.find? fun output => output.id = scan.output.id).getD scan.output }) := by
      rw [mapM_some, List.forall₂_map_right_iff, List.forall₂_same]; intro scan hn
      obtain ⟨output, ho, hid, -⟩ := forall₂_mem_left hma scan hn
      have hf : (outputs.find? fun output => output.id = scan.output.id) = some output := by
        rw [← hid]; exact find?_of_mem hm.listed.nodup ho
      rw [hf]; rfl
    cases accepted with
    | false => exact .inl rfl
    | true =>
      have hap : ∃ t, s.applyResidentOutputGeometry F true outputs configuration = some t :=
        ⟨_, Option.bind_eq_some_iff.2 ⟨topology, hup, Option.bind_eq_some_iff.2 ⟨_, hv, if_pos rfl⟩⟩⟩
      obtain ⟨t, hap⟩ := hap
      rw [hap] at h; cases h

/-- The state in which a rescan has consumed the requests and seen the outputs. -/
structure Consumed (s t : OutputLoop) : Prop where
  scanouts : t.scanouts = s.scanouts
  topology : t.topology = s.topology
  configuration : t.configuration = s.configuration
  connectors : t.connectors = s.connectors
  ready : t.readyOutputApply = s.readyOutputApply
  trial : t.activeOutputConfirmation = s.activeOutputConfirmation

theorem consumed_observeOutputs (guard : DpmsTopologyGuard) (deferred : Bool) :
    Consumed s (s.consume.observeOutputs guard deferred) := by
  unfold observeOutputs
  split <;> exact ⟨rfl, rfl, rfl, rfl, rfl, rfl⟩

theorem Consumed.sound (hst : Consumed s t) (h : s.Sound F setup) (hn : s.readyOutputApply = none) :
    t.Sound F setup := by
  have ho : t.outputs = s.outputs := congrArg (List.map Scanout.output) hst.scanouts
  refine ⟨hst.topology ▸ h.wellFormed, ho ▸ h.listed, ho ▸ h.named, ?_, fun _ _ hr => ?_⟩
  · rw [ho, hst.topology]; exact h.transforms
  · rw [hst.ready, hn] at hr; cases hr

theorem Consumed.shown (hst : Consumed s t) (h : s.Shown F) : t.Shown F := by
  have ho : t.outputs = s.outputs := congrArg (List.map Scanout.output) hst.scanouts
  constructor
  · rw [ho, hst.configuration]; exact h.transforms
  · rw [ho, hst.configuration, hst.topology]; exact h.laidOut

theorem kept_of_shown (hn : s.Sound F setup) (hs : s.Shown F)
    (hco : s.connectedOutputs setup = some outputs) (hd : s.outputs = outputs) : s.Kept F setup rebased := by
  have hu : hardwareChanged s.scanouts outputs = false :=
    hardwareChanged_self hd (hd ▸ hn.listed.nodup)
  exact ⟨hn, .inl hs, fun _ => hs, .inr (.inr ⟨outputs, hco, hu⟩)⟩

theorem reconfigure_kept {f : Rescan} (hs : s.Sound F setup) (hh : s.Shown F ∨ f.resident = true ∨ f.rebased = true)
    (hr : s.activeOutputConfirmation ≠ none → s.Shown F) (hn : s.connectedOutputs setup = some f.outputs)
    (hch : f.changed = hardwareChanged s.scanouts f.outputs)
    (hac : f.resident = true → f.kms = false → f.rebased = false → f.changed = false →
      p.scanoutBusy = false → p.targetsBusy = false →
      p.residentAccepted ≠ false ∧ updateTopologyForOutputs F s.topology f.outputs s.configuration ≠ none) :
    (s.reconfigure F p f).Keeps (fun t => t.Kept F setup t.takeRebased.2) fun t => t.Kept F setup t.takeRebased.2 := by
  have hm := made_of_configuredOutputs hn
  have hd : ∀ request cs, s.readyOutputApply = some (request, cs) →
      ∃ scan, cs = currentConnectedConnectors setup.names scan ∧ (true = true ∨ scan = s.connectors) :=
    fun request cs hd => (hs.ready request cs hd).imp fun _ h => ⟨h.1, .inl rfl⟩
  unfold reconfigure
  simp only
  split
  · -- what was requested is requested again
    rename_i hbu
    simp only [Bool.and_eq_true, Bool.not_eq_true'] at hbu
    refine ⟨⟨hs.wellFormed, hs.listed, hs.named, hs.transforms, hd⟩, ?_,
      fun hk => ⟨(hr hk).transforms, (hr hk).laidOut⟩, .inr (.inl (.inl rfl))⟩
    refine hh.imp (fun hh => ⟨hh.transforms, hh.laidOut⟩) (Or.imp id fun hre => ?_)
    rw [hbu.1] at hre; cases hre
  rename_i hfr; split
  · rename_i hrs
    simp only [Bool.and_eq_true, Bool.not_eq_true'] at hrs
    obtain ⟨⟨⟨hrs, hu⟩, hkm⟩, hre⟩ := hrs
    have hil : p.scanoutBusy = false ∧ p.targetsBusy = false := by
      simpa [hre, hrs, hu, hkm] using hfr
    obtain ⟨hac, hla⟩ := hac hrs hkm hre hu hil.1 hil.2; split
    · rename_i hrf
      exact absurd (refused_of_resident hs hm (hch.symm.trans hu) hrf)
        (not_or.2 ⟨hac, hla⟩)
    rename_i applied hap
    obtain ⟨⟨hn', hs'⟩, hv⟩ := resident_shown hs hm (hch.symm.trans hu) hap
    obtain ⟨topology, scanouts, rfl, -, -⟩ := applyResidentOutputGeometry_spec hap
    have hke : Kept F setup false _ := kept_of_shown hn' hs' hn hv
    exact hke.still ⟨rfl, rfl, rfl, rfl, rfl, id, id, .inl rfl, id⟩ fun hf => by cases hf
  · split
    · rename_i applied _ hap
      obtain ⟨⟨hn', hs'⟩, hv⟩ := hotplug_shown hs hm hap
      obtain ⟨topology, scanouts, rfl, -, -⟩ := applyHotplugTopology_spec hap
      have hke : Kept F setup false _ := kept_of_shown hn' hs' hn hv
      exact hke.still ⟨rfl, rfl, rfl, rfl, rfl, id, id, .inl rfl, id⟩ fun hf => by cases hf
    · exact Turn.keeps_leave
    · split
      · exact ⟨⟨hs.wellFormed, hs.listed, hs.named, hs.transforms, hd⟩, .inr (.inr rfl),
          fun hk => ⟨(hr hk).transforms, (hr hk).laidOut⟩, .inr (.inl (.inl rfl))⟩
      · exact Turn.keeps_leave

theorem Kept.disconnect (h : s.Kept F setup rebased) (hn : s.readyOutputApply = none)
    (hw : s.residentGeometryReconfigureRequested = true ∨ rebased = true → s.scanouts.any (·.powered) = true) :
    (s.consume.disconnect guard).Kept F setup (s.consume.disconnect guard).takeRebased.2 where
  sound := by
    refine ⟨h.sound.wellFormed, h.sound.listed, h.sound.named, h.sound.transforms, fun request cs hr => ?_⟩
    rw [show (s.consume.disconnect guard).readyOutputApply = none from hn] at hr; cases hr
  shown := by
    rcases h.shown with hs | hre
    · exact .inl ⟨hs.transforms, hs.laidOut⟩
    · exact .inr (.inr (Bool.or_eq_true_iff.2 (.inr (hw hre))))
  trial hk := ⟨(h.trial hk).transforms, (h.trial hk).laidOut⟩
  settled := .inr (.inl (.inl rfl))

theorem Kept.scanned (h : s.Kept F setup rebased) (hno : s.readyOutputApply = none) (hsa : p.scanned = true)
    (hco : s.connectedOutputs setup = some outputs) (hd : ¬s.DropsRequest F setup p rebased) :
    (s.consume.scanned F p rebased s.kmsReconfigureRequested s.residentGeometryReconfigureRequested outputs).Keeps
      (fun t => t.Kept F setup t.takeRebased.2) fun t => t.Kept F setup t.takeRebased.2 := by
  cases hf : s.consume.deferRemoval p (rebased || s.kmsReconfigureRequested ||
      s.residentGeometryReconfigureRequested) outputs with
  | mk guard deferred =>
    unfold OutputLoop.scanned; dsimp only
    rw [hf]; dsimp only
    split
    · rename_i he
      refine h.disconnect hno fun hr => ?_
      by_contra hof
      refine hd ⟨outputs, hsa, hco, .inr ⟨hr, he.1, ?_⟩⟩
      simpa using hof
    have hn := consumed_observeOutputs (s := s) guard deferred
    have hso := hn.sound h.sound hno
    have htr : (s.consume.observeOutputs guard deferred).activeOutputConfirmation ≠ none →
        (s.consume.observeOutputs guard deferred).Shown F := fun hk =>
      hn.shown (h.trial (hn.trial ▸ hk))
    have hfo : (s.consume.observeOutputs guard deferred).connectedOutputs setup = some outputs := by
      unfold connectedOutputs
      rw [hn.connectors, hn.configuration]; exact hco
    split
    · rename_i hap
      have ho : deferred = false := by
        cases deferred with
        | false => rfl
        | true =>
          rw [Bool.not_true, Bool.false_and, Bool.false_or, (deferRemoval_deferred hf).2] at hap
          cases hap
      subst ho
      refine reconfigure_kept hso (h.shown.imp hn.shown id) htr hfo ?_ ?_
      · rw [hn.scanouts]; rfl
      · intro hrs hm hre hu hsc hta
        by_contra hrf
        refine hd ⟨outputs, hsa, hco, .inl ⟨hrs, hm, hre, ?_, hsc, hta, ?_⟩⟩
        · exact hu
        · rw [hn.topology, hn.configuration, not_and_or, not_not, not_not] at hrf
          exact hrf
    · rename_i hqu
      simp only [Bool.or_eq_true, not_or, Bool.not_eq_true] at hqu
      obtain ⟨hu, ⟨hre, -⟩, hrs⟩ := hqu
      have hs : s.Shown F := by
        rcases h.shown with hs | hr | hk
        · exact hs
        · rw [hrs] at hr; cases hr
        · rw [hre] at hk; cases hk
      refine ⟨hso, .inl (hn.shown hs), htr, .inr ?_⟩
      cases deferred with
      | true =>
        refine .inl (.inr ?_)
        unfold observeOutputs; exact (deferRemoval_deferred hf).1
      | false =>
        refine .inr ⟨outputs, hfo, ?_⟩
        rw [hn.scanouts]; exact hu

theorem Kept.rescan (h : s.Kept F setup rebased) (hn : s.readyOutputApply = none)
    (hd : ¬s.DropsRequest F setup p rebased) :
    (s.rescan F setup p rebased).Keeps (fun t => t.Kept F setup t.takeRebased.2) fun t =>
      t.Kept F setup t.takeRebased.2 := by
  unfold OutputLoop.rescan
  simp only
  split
  · split
    · exact Turn.keeps_leave
    rename_i outputs hf
    split_ifs at hf with hs
    exact h.scanned hn hs hf hd
  · rename_i hil
    refine h.mono fun hr => absurd ?_ hil; simp [hr]

/-! ## Runs -/

def Drops (F : Type) [PlacementArith F] (setup : Setup) (s : OutputLoop) (p : Pass) : Prop :=
  ∃ reached rebased, s.beforeRescan F setup p = .ok (reached, rebased) ∧ reached.DropsRequest F setup p rebased

def Agrees (F : Type) [PlacementArith F] (setup : Setup) (s : OutputLoop) : Prop :=
  ∃ outputs, s.connectedOutputs setup = some outputs ∧ LaidOut F s.configuration outputs s.topology

theorem Kept.next (h : s.Kept F setup s.takeRebased.2) (hr : ¬s.Drops F setup p) :
    (s.next F setup p).Kept F setup (s.next F setup p).takeRebased.2 := by
  unfold OutputLoop.next; split
  · exact h
  have hs : (s.pass F setup p).Keeps (fun t => t.Kept F setup t.takeRebased.2) fun t =>
      t.Kept F setup t.takeRebased.2 := by
    refine h.beforeRescan.reached.bind fun (reached, rebased) ⟨⟨hk, hn⟩, hre⟩ => ?_
    exact hk.rescan hn fun hd => hr ⟨reached, rebased, hre, hd⟩
  exact hs.finish (h.still ⟨rfl, rfl, rfl, rfl, rfl, id, id, .inl rfl, id⟩ id)

theorem Kept.agrees (h : s.Kept F setup s.takeRebased.2) (hqu : s.Quiet setup) : s.Agrees F setup := by
  have hs : s.Shown F := by
    rcases h.shown with hs | hr | hre
    · exact hs
    · rw [hqu.resident] at hr; cases hr
    · rw [hqu.rebased] at hre; cases hre
  have hse : s.Settled setup := by
    rcases h.settled with hr | hh | hse
    · rw [hqu.resident] at hr; cases hr
    · exact hqu.rescan hh
    · exact hse
  obtain ⟨outputs, hn, hu⟩ := hse
  have hm := made_of_configuredOutputs hn
  exact ⟨outputs, hn,
    laidOut_congr hs.laidOut (sameImage_of_unchanged h.sound hm hu hs.transforms)⟩

theorem updateTopology_of_new {ss : List OutputSpec} {topology : TopologyManager}
    (hs : outputSpecs F outputs configuration = some ss)
    (hn : newWithPrimaryOutput F ss configuration.primaryOutput = .ok topology) :
    updateTopologyForOutputs F .default outputs configuration = some topology := by
  refine Option.bind_eq_some_iff.2 ⟨ss, hs, ?_⟩
  have hm : updateForOutputs F .default ss configuration.primaryOutput =
      applyWithPrimaryOutput F .default (ss.map .upsert) configuration.primaryOutput := rfl
  rw [hm]; unfold newWithPrimaryOutput at hn
  cases hu : applyWithPrimaryOutput F .default (ss.map .upsert) configuration.primaryOutput with
  | mk reached result =>
    rw [hu] at hn
    cases result with
    | error error => cases hn
    | ok commit => exact congrArg some (Except.ok.inj hn)

theorem start_kept {cs : ConnectorScan} {ser : Nat}
    (h : start F setup configuration cs ser = some s) : s.Kept F setup s.takeRebased.2 := by
  obtain ⟨outputs, hn, hla⟩ := Option.bind_eq_some_iff.1 h
  obtain ⟨ss, hsp, hs⟩ := Option.bind_eq_some_iff.1 hla
  have hm := made_of_configuredOutputs hn; split at hs
  · rename_i first rest topology hw; cases hs
    have hu := updateTopology_of_new hsp hw
    have he := wellFormed_default (F := F)
    have hd : ((first :: rest).map fun output => ({ output, powered := true } : Scanout)).map (·.output) =
        first :: rest := by
      rw [List.map_map]; exact List.map_id _
    refine kept_of_shown ?_ ?_ hn hd
    · refine ⟨?_, ?_, ?_, ?_, fun _ _ hr => by cases hr⟩
      · exact (updateTopologyForOutputs_spec he hm.listed.nodup hu).1
      · unfold outputs
        rw [hd]; exact hm.listed
      · unfold outputs
        rw [hd]; exact hm.named
      · unfold outputs; rw [hd]
        exact fun output ho spec hse => transform_of_update he hm.listed.nodup hu ho hse
    · constructor
      · unfold outputs
        rw [hd]; exact hm.transforms
      · unfold outputs; rw [hd]
        exact laidOut_of_update he hm.listed.nodup hu
  · cases hs

/-- In every run whose passes drop no request, the configuration is shown wherever nothing that would reapply it is
scheduled. -/
theorem geometry_agrees {configuration : RuntimeOutputConfiguration} {connectors : ConnectorScan} {serial : Nat}
    {passes : List Pass} (hstart : start F setup configuration connectors serial = some s)
    (hruns : Along (next F setup) (fun s p => ¬s.Drops F setup p) s passes)
    (hquiet : (exec (next F setup) s passes).Quiet setup) : (exec (next F setup) s passes).Agrees F setup :=
  (exec_invariant_along (I := fun s : OutputLoop => s.Kept F setup s.takeRebased.2) (fun _ _ h hdrops => h.next hdrops)
    (start_kept hstart) hruns).agrees hquiet

theorem not_drops (h : (s.beforeRescan F setup p).Keeps (fun _ => True) fun reached =>
    reached.1.residentGeometryReconfigureRequested = false ∧ reached.2 = false) : ¬s.Drops F setup p := by
  rintro ⟨reached, rebased, hre, outputs, -, -, hd⟩; rw [hre] at h
  obtain ⟨hs, hrb⟩ := h
  rcases hd with ⟨hr, -⟩ | ⟨hr | hr, -⟩
  · rw [hs] at hr; cases hr
  · rw [hs] at hr; cases hr
  · cases hrb.symm.trans hr

/-- Nothing that would reapply the configuration is scheduled. -/
def quiet (s : OutputLoop) : Bool :=
  !s.residentGeometryReconfigureRequested && !s.kmsReconfigureRequested && !s.takeRebased.2 &&
    decide (s.pendingSensorRotation = s.configuration.sensorRotation) && !s.topologyDirty &&
    !s.dpmsTopology.deferredRemoval

theorem quiet_of_eq_true (h : s.quiet = true) : s.Quiet setup := by
  unfold quiet at h
  simp only [Bool.and_eq_true, Bool.not_eq_true', decide_eq_true_eq] at h
  obtain ⟨⟨⟨⟨⟨hrs, hk⟩, hre⟩, hro⟩, hr⟩, hd⟩ := h
  refine ⟨hrs, hk, hre, hro, ?_⟩
  rintro (hs | hs)
  · rw [hr] at hs; cases hs
  · rw [hd] at hs; cases hs

def untroubled (F : Type) [PlacementArith F] (setup : Setup) (s : OutputLoop) (p : Pass) : Bool :=
  ((s.beforeRescan F setup p).toOption.map fun reached =>
    !reached.1.residentGeometryReconfigureRequested && !reached.2).getD true

theorem not_drops_of_untroubled (h : s.untroubled F setup p = true) : ¬s.Drops F setup p := by
  refine not_drops ?_; unfold untroubled at h
  cases hr : s.beforeRescan F setup p with
  | error stopped => cases stopped <;> trivial
  | ok reached =>
    rw [hr] at h
    simpa [Except.toOption] using h

/-- One monitor, moved on trial. -/
theorem one_monitor_agrees : ∃ s, start Rat workbench {} oneMonitor 1 = some s ∧
    (exec (next Rat workbench) s tryMove).Agrees Rat workbench := by
  cases hs : start Rat workbench {} oneMonitor 1 with
  | none =>
    have hstar := (by decide +kernel : (start Rat workbench {} oneMonitor 1).isSome = true)
    rw [hs] at hstar; cases hstar
  | some s =>
    have hrun : ((start Rat workbench {} oneMonitor 1).map fun s =>
        decide (Along (next Rat workbench) (fun s p => s.untroubled Rat workbench p = true) s tryMove) &&
          (exec (next Rat workbench) s tryMove).quiet) = some true := by
      decide +kernel
    rw [hs] at hrun
    simp only [Option.map_some, Option.some.injEq, Bool.and_eq_true, decide_eq_true_eq] at hrun
    obtain ⟨hunt, hquiet⟩ := hrun
    exact ⟨s, rfl,
      geometry_agrees hs (hunt.mono fun _ _ => not_drops_of_untroubled) (quiet_of_eq_true hquiet)⟩

/-- A move on trial that expires while the hardware refuses the way back. -/
def refuseRollback : List Pass := tryMove ++ [{ now := 20000, residentAccepted := false }, { now := 20001 }]

/-- The rollback is dropped: nothing is scheduled, and the monitor stays where the trial moved it. -/
theorem rollback_dropped : ∃ s, start Rat workbench {} oneMonitor 1 = some s ∧
    (exec (next Rat workbench) s refuseRollback).Quiet workbench ∧
      ¬(exec (next Rat workbench) s refuseRollback).Agrees Rat workbench := by
  cases hs : start Rat workbench {} oneMonitor 1 with
  | none =>
    have hstar := (by decide +kernel : (start Rat workbench {} oneMonitor 1).isSome = true)
    rw [hs] at hstar; cases hstar
  | some s =>
    have hrun : ((start Rat workbench {} oneMonitor 1).map fun s =>
        let s' := exec (next Rat workbench) s refuseRollback
        s'.quiet &&
          ((s'.connectedOutputs workbench).bind fun outputs => outputSpecs Rat outputs s'.configuration).all fun specs =>
            s'.topology.outputs[(1 : OutputId)]?.map geometry ≠
              (specs.find? fun spec => spec.id = 1).map geometry) = some true := by
      decide +kernel
    rw [hs] at hrun
    simp only [Option.map_some, Option.some.injEq, Bool.and_eq_true] at hrun
    obtain ⟨hquiet, hshow⟩ := hrun
    refine ⟨s, rfl, quiet_of_eq_true hquiet, ?_⟩
    rintro ⟨outputs, hcon, specs, hspec, hgeom⟩
    rw [hcon, Option.bind_some, hspec, Option.all_some, decide_eq_true_eq] at hshow
    exact hshow (hgeom 1)

end OutputLoop

end Deniald.Outputs
