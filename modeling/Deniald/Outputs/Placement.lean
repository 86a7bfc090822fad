/-
What the connectors and a configuration determine: the connected outputs come in the order of their names, so two
scans that find the same hardware make the same list, and the geometry of the desktop depends on no more of an
output than its id, name, mode and transform.
-/
import Deniald.Outputs.EventLoop
import Mathlib.Data.List.Sort

namespace Deniald.Outputs

open Deniald.Lib Deniald.Topology
open TopologyManager

/-! ## The order of connectors -/

namespace ConnectorNames

variable {names : ConnectorNames} {a b c : Nat}

theorem le_total : names.le a b = true ∨ names.le b a = true := by
  simp only [le, Bool.or_eq_true, decide_eq_true_eq, Bool.and_eq_true]
  rcases lt_trichotomy (names.interface a) (names.interface b) with h | h | h
  · exact .inl (.inl h)
  · rcases Nat.le_total (names.interfaceId a) (names.interfaceId b) with hid | hid
    · exact .inl (.inr ⟨h, hid⟩)
    · exact .inr (.inr ⟨h.symm, hid⟩)
  · exact .inr (.inl h)

theorem le_trans (hab : names.le a b = true) (hbc : names.le b c = true) : names.le a c = true := by
  simp only [le, Bool.or_eq_true, decide_eq_true_eq, Bool.and_eq_true] at *
  rcases hab with hab | ⟨hab, hid⟩
  · rcases hbc with hbc | ⟨hbc, -⟩
    · exact .inl (hab.trans hbc)
    · exact .inl (hbc ▸ hab)
  rcases hbc with hbc | ⟨hbc, hid'⟩
  · exact .inl (hab ▸ hbc)
  · exact .inr ⟨hab.trans hbc, hid.trans hid'⟩

theorem le_antisymm (hab : names.le a b = true) (hba : names.le b a = true) : a = b := by
  simp only [le, Bool.or_eq_true, decide_eq_true_eq, Bool.and_eq_true] at hab hba
  rcases hab with hab | ⟨hab, hid⟩
  · rcases hba with hba | ⟨hba, -⟩
    · exact absurd (hab.trans hba) (lt_irrefl _)
    · exact absurd (hba ▸ hab) (lt_irrefl _)
  rcases hba with hba | ⟨-, hid'⟩
  · exact absurd (hab ▸ hba) (lt_irrefl _)
  · exact names.distinct a b hab (Nat.le_antisymm hid hid')

end ConnectorNames

/-- Ids in the order of their connectors' names, each once. -/
structure Listed (names : ConnectorNames) (ids : List OutputId) : Prop where
  ordered : ids.Pairwise fun a b => names.le a b = true
  nodup : ids.Nodup

theorem Listed.sublist {names : ConnectorNames} {ids ids' : List OutputId} (h : Listed names ids)
    (hs : ids'.Sublist ids) : Listed names ids' := ⟨h.ordered.sublist hs, h.nodup.sublist hs⟩

theorem Listed.eq {names : ConnectorNames} {ids ids' : List OutputId} (h : Listed names ids) (h' : Listed names ids')
    (hlen : ids.length = ids'.length) (hs : ids ⊆ ids') : ids = ids' :=
  List.Perm.eq_of_pairwise (fun _ _ _ _ => ConnectorNames.le_antisymm) h.ordered h'.ordered
    ((List.subperm_of_subset h.nodup hs).perm_of_length_le hlen.ge)

/-! ## Connected outputs -/

section

variable {names : ConnectorNames} {scan : ConnectorScan} {maxOutputs : Nat}
  {configuration : RuntimeOutputConfiguration} {outputs : List ConnectedOutput}

theorem listed_currentConnectedConnectors (scan : ConnectorScan) :
    Listed names ((currentConnectedConnectors names scan).map (·.handle)) := by
  constructor
  · rw [List.pairwise_map]
    exact @List.pairwise_mergeSort _ (fun a b : ConnectedConnector => names.le a.handle b.handle)
      (fun _ _ _ => ConnectorNames.le_trans) (fun _ _ => Bool.or_eq_true_iff.2 ConnectorNames.le_total) scan.connectors
  · exact ((List.mergeSort_perm scan.connectors _).map _).nodup_iff.2 scan.nodup

structure Made (names : ConnectorNames) (configuration : RuntimeOutputConfiguration) (outputs : List ConnectedOutput) :
    Prop where
  listed : Listed names (outputs.map (·.id))
  named : ∀ output ∈ outputs, output.name = names.name output.id
  transforms : ∀ output ∈ outputs, output.transform = configuration.effectiveTransform output.name

theorem made_of_configuredOutputs
    (h : configuredOutputs names (currentConnectedConnectors names scan) maxOutputs configuration = some outputs) :
    Made names configuration outputs := by
  have hou := mapM_some.1 h
  have he : List.Forall₂ (fun (conn : ConnectedConnector) (out : ConnectedOutput) =>
      out.id = conn.handle ∧ out.name = names.name conn.handle ∧
        out.transform = configuration.effectiveTransform out.name)
      (((currentConnectedConnectors names scan).filter fun conn =>
        names.name conn.handle ∉ configuration.disabledOutputs).take maxOutputs) outputs := by
    refine hou.imp ?_; intro conn out ho
    obtain ⟨mode, -, rfl⟩ := Option.map_eq_some_iff.1 ho; exact ⟨rfl, rfl, rfl⟩
  constructor
  · rw [map_eq_map_of_forall₂ (fun _ _ h => h.1) he]
    refine (listed_currentConnectedConnectors scan).sublist (List.Sublist.map _ ?_)
    exact (List.take_sublist _ _).trans List.filter_sublist
  · intro out ho
    obtain ⟨conn, -, hid, hn, -⟩ := forall₂_mem_right he _ ho; rw [hid, hn]
  · intro out ho
    obtain ⟨conn, -, -, -, hr⟩ := forall₂_mem_right he _ ho; exact hr

theorem configuredOutputs_rotated (r : OutputTransform) {cs : List ConnectedConnector}
    (h : configuredOutputs names cs maxOutputs configuration = some outputs) :
    configuredOutputs names cs maxOutputs { configuration with sensorRotation := r } =
      some (outputs.map fun out =>
        { out with
          transform := ({ configuration with sensorRotation := r } :
            RuntimeOutputConfiguration).effectiveTransform out.name }) := by
  refine mapM_some.2 ?_; rw [List.forall₂_map_right_iff]
  refine (mapM_some.1 h).imp ?_; intro conn out ho
  obtain ⟨mode, hm, rfl⟩ := Option.map_eq_some_iff.1 ho
  exact Option.map_eq_some_iff.2 ⟨mode, hm, rfl⟩

end

/-! ## Hardware -/

namespace OutputLoop

def Matches (a b : ConnectedOutput) : Prop := b.id = a.id ∧ sameHardware a b = true

variable {scanouts scanouts' : List Scanout}

variable {outputs : List ConnectedOutput}

theorem hardwareChanged_eq_false_iff : hardwareChanged scanouts outputs = false ↔ outputs.length = scanouts.length ∧
      ∀ out ∈ outputs, ∃ d, (scanouts.map (·.output)).find? (fun d => d.id = out.id) = some d ∧
        sameHardware d out = true := by
  simp only [hardwareChanged, Bool.or_eq_false_iff, decide_eq_false_iff_not, not_not, observedOutputChanged,
    List.any_eq_false]
  refine and_congr_right fun _ => forall₂_congr fun out _ => ?_; rw [List.find?_map]
  simp only [Function.comp_def]
  cases scanouts.find? fun s => s.output.id = out.id <;> simp

theorem hardwareChanged_congr (h : scanouts'.map (·.output) = scanouts.map (·.output))
    (hu : hardwareChanged scanouts outputs = false) : hardwareChanged scanouts' outputs = false := by
  have hlen : scanouts'.length = scanouts.length := by simpa using congrArg List.length h
  rw [hardwareChanged_eq_false_iff] at hu ⊢
  rwa [h, hlen]

theorem hardwareChanged_retransformed {f g : ConnectedOutput → OutputTransform}
    (h : scanouts'.map (·.output) = scanouts.map fun s => { s.output with transform := f s.output })
    (hu : hardwareChanged scanouts outputs = false) :
    hardwareChanged scanouts' (outputs.map fun out => { out with transform := g out }) = false := by
  have hlen : scanouts'.length = scanouts.length := by simpa using congrArg List.length h
  rw [hardwareChanged_eq_false_iff] at hu ⊢
  refine ⟨by rw [List.length_map, hu.1, hlen], fun out hou => ?_⟩
  obtain ⟨o, ho, rfl⟩ := List.mem_map.1 hou
  obtain ⟨d, hf, hs⟩ := hu.2 o ho
  refine ⟨{ d with transform := f d }, ?_, hs⟩
  have hm := @find?_map_key _ _ _ ConnectedOutput.id (fun out => { out with transform := f out })
    (fun _ => rfl) o.id (scanouts.map (·.output))
  rw [List.map_map] at hm
  rw [h]; exact hm.trans (by rw [hf]; rfl)

theorem hardwareChanged_self (h : scanouts.map (·.output) = outputs) (hn : (outputs.map (·.id)).Nodup) :
    hardwareChanged scanouts outputs = false := by
  rw [hardwareChanged_eq_false_iff, h]
  refine ⟨by rw [← h, List.length_map], fun out ho => ⟨out, ?_, by simp [sameHardware]⟩⟩
  exact find?_of_mem hn ho

theorem matches_of_unchanged {names : ConnectorNames} (hn : Listed names (scanouts.map (·.output.id)))
    (hou : Listed names (outputs.map (·.id))) (h : hardwareChanged scanouts outputs = false) :
    List.Forall₂ (fun s output => Matches s.output output) scanouts outputs := by
  obtain ⟨hlen, hsa⟩ := hardwareChanged_eq_false_iff.1 h
  have hf : ∀ output ∈ outputs, ∃ s ∈ scanouts, Matches s.output output := by
    intro output ho
    obtain ⟨d, hfi, hh⟩ := hsa output ho
    obtain ⟨s, hs, rfl⟩ := List.mem_map.1 (List.mem_of_find?_eq_some hfi)
    have hid : s.output.id = output.id := by simpa using List.find?_some hfi
    exact ⟨s, hs, hid.symm, hh⟩
  have hd : outputs.map (·.id) = scanouts.map (·.output.id) := by
    refine hou.eq hn (by simpa using hlen) ?_; intro id hid
    obtain ⟨output, ho, rfl⟩ := List.mem_map.1 hid
    obtain ⟨s, hs, hm⟩ := hf output ho
    exact List.mem_map.2 ⟨s, hs, hm.1.symm⟩
  refine forall₂_of_keys hd hn.nodup ?_; intro output ho
  obtain ⟨s, hs, hm⟩ := hf output ho
  exact ⟨s, hs, hm.1.symm, hm⟩

end OutputLoop

/-! ## Geometry -/

/-- What the desktop shows of an output. -/
structure Geometry where
  position : LogicalPoint
  mode : PixelSize
  refreshMillihz : Nat
  scale120 : Nat
  transform : OutputTransform
  deriving DecidableEq

def geometry (spec : OutputSpec) : Geometry :=
  ⟨spec.position, spec.mode, spec.refreshMillihz, spec.scale120, spec.transform⟩

structure SameGeometry (a b : OutputSpec) : Prop where
  id : b.id = a.id
  geometry : geometry b = geometry a

/-- Outputs that differ in nothing that geometry depends on. -/
structure SameImage (a b : ConnectedOutput) : Prop where
  id : b.id = a.id
  name : b.name = a.name
  mode : b.mode = a.mode
  transform : b.transform = a.transform

section

variable {F : Type} [PlacementArith F] {configuration : RuntimeOutputConfiguration}

theorem logicalRect_congr {a b : OutputSpec} (h : geometry b = geometry a) : b.logicalRect F = a.logicalRect F := by
  simp only [geometry, Geometry.mk.injEq] at h
  obtain ⟨hpos, hm, -, hs, hr⟩ := h
  unfold OutputSpec.logicalRect OutputSpec.transformedPixelSize; rw [hpos, hm, hs, hr]

theorem includeOutput_congr {a b : OutputSpec} (h : geometry b = geometry a) (dx : Int) :
    includeOutput F dx b = includeOutput F dx a := by
  have hpos : b.position = a.position := congrArg Geometry.position h
  unfold includeOutput; rw [logicalRect_congr h, hpos]

variable {pending pending' : List (OutputSpec × Bool)} {specs : List OutputSpec}

theorem placeSpecs_congr {dx : Int} (hn : List.Forall₂ (fun a b => SameGeometry a.1 b.1 ∧ b.2 = a.2) pending pending')
    (h : placeSpecs F dx pending = some specs) :
    ∃ specs', placeSpecs F dx pending' = some specs' ∧ List.Forall₂ SameGeometry specs specs' := by
  induction hn generalizing dx specs with
  | nil =>
    cases h; exact ⟨[], rfl, .nil⟩
  | @cons a b pending pending' hab _ ih =>
    obtain ⟨a, _⟩ := a
    obtain ⟨b, cn⟩ := b
    obtain ⟨hab, rfl⟩ := hab; dsimp only at hab
    -- the output placed, in both lists
    have hpl : SameGeometry (if cn then a else { a with position := ⟨dx, 0⟩ })
        (if cn then b else { b with position := ⟨dx, 0⟩ }) := by
      split
      · exact hab
      refine ⟨hab.id, ?_⟩
      have hm := hab.geometry
      simp only [geometry, Geometry.mk.injEq] at hm ⊢; exact ⟨trivial, hm.2⟩
    unfold placeSpecs at h ⊢
    simp only at h ⊢
    obtain ⟨reached, hr, h⟩ := Option.bind_eq_some_iff.1 h
    obtain ⟨rest, hpa, h⟩ := Option.bind_eq_some_iff.1 h; cases h
    obtain ⟨rest', hp', hs⟩ := ih hpa
    refine ⟨_, ?_, .cons hpl hs⟩
    rw [includeOutput_congr hpl.geometry, hr]
    exact Option.bind_eq_some_iff.2 ⟨reached, rfl, Option.bind_eq_some_iff.2 ⟨rest', hp', rfl⟩⟩

theorem foldlM_includeOutput_congr (defaultX : Int)
    (hn : List.Forall₂ (fun a b => SameGeometry a.1 b.1 ∧ b.2 = a.2) pending pending') :
    (pending'.filter (·.2)).foldlM (fun defaultX (ent : OutputSpec × Bool) => includeOutput F defaultX ent.1) defaultX =
      (pending.filter (·.2)).foldlM (fun defaultX (ent : OutputSpec × Bool) => includeOutput F defaultX ent.1)
        defaultX := by
  induction hn generalizing defaultX with
  | nil => rfl
  | @cons a b pending pending' hab _ ih =>
    obtain ⟨a, _⟩ := a
    obtain ⟨b, cn⟩ := b
    obtain ⟨hab, rfl⟩ := hab; dsimp only at hab
    cases cn with
    | false =>
      rw [List.filter_cons_of_neg (by simp), List.filter_cons_of_neg (by simp)]; exact ih defaultX
    | true =>
      simp only [List.filter_cons_of_pos, List.foldlM_cons]
      rw [includeOutput_congr hab.geometry]; exact congrArg _ (funext ih)

variable {outputs : List ConnectedOutput}

/-- Outputs that look alike are placed alike. -/
theorem outputSpecs_congr {outs' : List ConnectedOutput} (h : List.Forall₂ SameImage outputs outs')
    (hs : outputSpecs F outputs configuration = some specs) :
    ∃ specs', outputSpecs F outs' configuration = some specs' ∧ List.Forall₂ SameGeometry specs specs' := by
  obtain ⟨pending, hpe, hs⟩ := Option.bind_eq_some_iff.1 hs
  obtain ⟨reached, hr, hs⟩ := Option.bind_eq_some_iff.1 hs
  have hp' : ∃ pending', outs'.mapM (pendingSpec configuration) = some pending' ∧
      List.Forall₂ (fun a b => SameGeometry a.1 b.1 ∧ b.2 = a.2) pending pending' := by
    refine mapM_some_related ?_ h (mapM_some.1 hpe)
    rintro a b ent ⟨hid, hn, hm, htr⟩ he
    unfold pendingSpec at he ⊢
    obtain ⟨refresh, hf, rfl⟩ := Option.map_eq_some_iff.1 he
    refine ⟨_, Option.map_eq_some_iff.2 ⟨refresh, by rw [hm]; exact hf, rfl⟩, ⟨hid, ?_⟩, by rw [hn]⟩
    simp [geometry, hn, hm, htr]
  obtain ⟨pending', hp', hsa⟩ := hp'
  obtain ⟨specs', hs', hpl⟩ := placeSpecs_congr hsa hs
  refine ⟨specs', ?_, hpl⟩
  refine Option.bind_eq_some_iff.2 ⟨pending', hp', Option.bind_eq_some_iff.2 ⟨reached, ?_, hs'⟩⟩
  exact (foldlM_includeOutput_congr 0 hsa).trans hr

def Specifies (output : ConnectedOutput) (spec : OutputSpec) : Prop :=
  spec.id = output.id ∧ spec.transform = output.transform

theorem placeSpecs_each {dx : Int}
    (hn : List.Forall₂ (fun out (ent : OutputSpec × Bool) => Specifies out ent.1) outputs pending)
    (h : placeSpecs F dx pending = some specs) : List.Forall₂ Specifies outputs specs := by
  induction hn generalizing dx specs with
  | nil =>
    cases h; exact .nil
  | @cons out ent outputs pending hs _ ih =>
    obtain ⟨spec, cn⟩ := ent
    obtain ⟨reached, -, h⟩ := Option.bind_eq_some_iff.1 h
    obtain ⟨rest, hpl, h⟩ := Option.bind_eq_some_iff.1 h; cases h
    refine .cons ?_ (ih hpl)
    split <;> exact hs

theorem outputSpecs_each (h : outputSpecs F outputs configuration = some specs) :
    List.Forall₂ Specifies outputs specs := by
  obtain ⟨pending, hn, h⟩ := Option.bind_eq_some_iff.1 h
  obtain ⟨reached, -, h⟩ := Option.bind_eq_some_iff.1 h
  refine placeSpecs_each ((mapM_some.1 hn).imp ?_) h; intro out ent he
  obtain ⟨refresh, -, rfl⟩ := Option.map_eq_some_iff.1 he; exact ⟨rfl, rfl⟩

/-! ## The topology -/

theorem getElem?_foldl_remove (id : OutputId) : ∀ (gone : List OutputId) (stg : Outputs),
    ((gone.map TopologyChange.remove).foldl stage stg)[id]? =
      if id ∈ gone then none else stg[id]?
  | [], _ => rfl
  | other :: gone, stg => by
    rw [List.map_cons, List.foldl_cons, getElem?_foldl_remove id gone]
    simp only [stage, Std.ExtTreeMap.getElem?_erase, List.mem_cons]
    by_cases hn : id ∈ gone
    · simp [hn]
    by_cases heq : other = id
    · simp [heq]
    · simp [hn, heq, Ne.symm heq, Std.LawfulEqCmp.compare_eq_iff_eq]

theorem getElem?_foldl_upsert (id : OutputId) : ∀ {specs : List OutputSpec} {staged : Outputs},
    (specs.map (·.id)).Nodup →
    ((specs.map TopologyChange.upsert).foldl stage staged)[id]? =
      (specs.find? fun spec => spec.id = id).or staged[id]?
  | [], _, _ => rfl
  | spec :: specs, staged, h => by
    obtain ⟨hf, hn⟩ := List.nodup_cons.1 h
    rw [List.map_cons, List.foldl_cons, getElem?_foldl_upsert id hn, List.find?_cons]
    simp only [stage, Std.ExtTreeMap.getElem?_insert]
    by_cases heq : spec.id = id
    · have hno : specs.find? (fun other => other.id = id) = none := by
        rw [List.find?_eq_none]; intro other ho hid
        have hid : other.id = id := by simpa using hid
        exact hf (List.mem_map.2 ⟨other, ho, hid.trans heq.symm⟩)
      simp [hno, heq]
    · simp [heq]

theorem outputs_commitStaged (m : TopologyManager) (staged : Outputs) (out : Option String) :
    (m.commitStaged staged out).1.outputs = staged := by
  unfold commitStaged
  simp only
  split
  · rfl
  rename_i h
  simp only [not_or, not_not] at h
  exact eq_of_no_difference h.1 h.2.1 h.2.2.1

theorem updateTopologyForOutputs_spec {m m' : TopologyManager} (hm : m.WellFormed F)
    (hno : (outputs.map (·.id)).Nodup) (h : updateTopologyForOutputs F m outputs configuration = some m') :
    m'.WellFormed F ∧ ∃ specs, outputSpecs F outputs configuration = some specs ∧
      ∀ id : OutputId, m'.outputs[id]? = specs.find? fun spec => spec.id = id := by
  obtain ⟨specs, hs, h⟩ := Option.bind_eq_some_iff.1 h
  have hd : specs.map (·.id) = outputs.map (·.id) :=
    map_eq_map_of_forall₂ (fun _ _ h => h.1) (outputSpecs_each hs)
  rcases update_spec hm (.updateForOutputs specs configuration.primaryOutput) with
    ⟨e, he⟩ | ⟨m₁, commit, hok, hw, -⟩
  · simp only [update] at he
    rw [he] at h; cases h
  · simp only [update] at hok; rw [hok] at h
    obtain rfl := Option.some.inj h
    refine ⟨hw, specs, hs, fun id => ?_⟩
    unfold updateForOutputs applyWithPrimaryOutput at hok
    simp only at hok
    split at hok
    · cases hok
    obtain rfl : _ = m₁ := (Prod.mk.inj hok).1
    rw [outputs_commitStaged, List.foldl_append, getElem?_foldl_upsert id (hd ▸ hno)]
    cases hf : specs.find? fun spec => spec.id = id with
    | some spec => rfl
    | none =>
      have hu : id ∉ specs.map (·.id) := by
        intro hmem
        obtain ⟨spec, hsp, hid⟩ := List.mem_map.1 hmem
        exact absurd (decide_eq_true hid) (List.find?_eq_none.1 hf spec hsp)
      have hn := getElem?_foldl_remove id
        (((m.snapshot F).outputs.filter fun out => out.id ∉ specs.map (·.id)).map (·.id)) m.outputs
      rw [List.map_map] at hn
      refine Eq.trans hn ?_; split
      · rfl
      rename_i hk
      cases hge : m.outputs[id]? with
      | none => rfl
      | some out =>
        have hid : out.id = id := hm.keyed id out hge
        refine absurd (List.mem_map.2 ⟨out, List.mem_filter.2 ⟨?_, ?_⟩, hid⟩) hk
        · exact mem_outputValues.2 ⟨id, hge⟩
        · rw [hid]; exact decide_eq_true hu

end

end Deniald.Outputs
