/-
Requests for an output configuration: which of them are staged, what staging changes, and that a turned output gets
the transform asked for. Besides what it says of the outputs, a request is refused for a persistence that is not to be
had, a timeout out of range or the name of its primary output.
-/
import Deniald.Outputs.Confirmation

namespace Deniald.Outputs

open Deniald.Lib Deniald.Topology

/-! ## Complete requests -/

/-- A connector has a mode of a size. -/
def Advertises (modes : List Mode) (width height : Nat) : Prop :=
  (width < 2 ^ 16 ∧ height < 2 ^ 16) ∧ ∃ mode ∈ modes, (mode.width = width ∧ mode.height = height) ∧ 0 ≤ mode.refresh

/-- What is asked of one output can be had. -/
structure Stageable (connector : ConnectedConnector) (output : RequestedOutput) : Prop where
  powered : output.powered = true → output.enabled = true
  scale : ∃ scale, output.scale = .finite scale ∧ 1 / 4 ≤ scale ∧ scale ≤ 8
  mode : Advertises connector.modes output.modeWidth output.modeHeight

structure CompleteRequest (names : ConnectorNames) (connectors : List ConnectedConnector) (maxOutputs : Nat)
    (request : ApplyOutputConfiguration) : Prop where
  once : (request.outputs.map (·.name)).Nodup
  connected : (request.outputs.map (·.name)).Perm (connectors.map fun connector => names.name connector.handle)
  enabled : 0 < (request.outputs.filter (·.enabled)).length
  bounded : (request.outputs.filter (·.enabled)).length ≤ maxOutputs
  stageable : ∀ connector ∈ connectors, ∀ output ∈ request.outputs, output.name = names.name connector.handle →
    Stageable connector output

/-- What a request asks for beyond its outputs is allowed. -/
structure Permitted (persistenceAvailable : Bool) (request : ApplyOutputConfiguration) : Prop where
  persistent : request.persistent = true → persistenceAvailable = true
  timeout : ∀ timeout ∈ request.confirmationTimeoutMilliseconds, 1000 ≤ timeout ∧ timeout ≤ 60000
  primary : ∀ name ∈ request.primaryOutput, validPrimaryOutput name = true

structure SameEntries (name : String) (a b : RuntimeOutputConfiguration) : Prop where
  position : b.positions.get? name = a.positions.get? name
  mode : b.modes.get? name = a.modes.get? name
  scale : b.scales120.get? name = a.scales120.get? name
  transform : b.transforms.get? name = a.transforms.get? name
  subpixel : b.subpixels.get? name = a.subpixels.get? name
  adaptiveSync : name ∈ b.vrrOutputs ↔ name ∈ a.vrrOutputs
  disabled : name ∈ b.disabledOutputs ↔ name ∈ a.disabledOutputs

theorem SameEntries.refl (name : String) (a : RuntimeOutputConfiguration) : SameEntries name a a :=
  ⟨rfl, rfl, rfl, rfl, rfl, Iff.rfl, Iff.rfl⟩

theorem SameEntries.trans {name : String} {a b c : RuntimeOutputConfiguration} (hab : SameEntries name a b)
    (hbc : SameEntries name b c) : SameEntries name a c :=
  ⟨hbc.1.trans hab.1, hbc.2.trans hab.2, hbc.3.trans hab.3, hbc.4.trans hab.4, hbc.5.trans hab.5, hbc.6.trans hab.6,
    hbc.7.trans hab.7⟩

/-! ## Transforms -/

theorem rotatedBy_inverseRotation (transform rt : OutputTransform) :
    rotatedBy (rotatedBy transform (inverseRotation rt)) rt = transform := by
  cases transform <;> cases rt <;> rfl

theorem effectiveTransform_of_baseline {current stg : RuntimeOutputConfiguration} {name : String}
    {transform : OutputTransform} (hr : stg.sensorRotation = current.sensorRotation)
    (h : stg.transforms.get? name = some (current.baselineTransform name transform)) :
    stg.effectiveTransform name = transform := by
  unfold RuntimeOutputConfiguration.effectiveTransform; rw [h, Option.getD_some, hr]
  unfold RuntimeOutputConfiguration.baselineTransform; split
  · exact rotatedBy_inverseRotation _ _
  · rfl

/-! ## Modes -/

theorem foldl_choose_mem {α : Type} (better : α → α → Bool) : ∀ (l : List α) (first : α),
    l.foldl (fun best a => if better a best then a else best) first ∈ first :: l
  | [], first => List.mem_singleton.2 rfl
  | a :: l, first => by
    rw [List.foldl_cons]
    rcases List.mem_cons.1 (foldl_choose_mem better l (if better a first then a else first)) with h | h
    · rw [h]; split
      · exact List.mem_cons_of_mem _ List.mem_cons_self
      · exact List.mem_cons_self
    · exact List.mem_cons_of_mem _ (List.mem_cons_of_mem _ h)

variable {configured : Option Nat}

theorem selectRefreshMillihz_mem {refreshes : List Nat} {rf : Nat}
    (h : selectRefreshMillihz refreshes configured = some rf) : rf ∈ refreshes := by
  cases refreshes with
  | nil => cases h
  | cons first rest =>
    cases h; exact foldl_choose_mem _ rest first

theorem selectRefreshMillihz_eq_none_iff {rs : List Nat} : selectRefreshMillihz rs configured = none ↔ rs = [] := by
  cases rs <;> simp [selectRefreshMillihz]

theorem toU16_eq_some_iff {n m : Nat} : toU16 n = some m ↔ n < 2 ^ 16 ∧ n = m := by
  unfold toU16
  split <;> simp_all

theorem refreshMillihz_eq_some_iff {mode : Mode} {refresh : Nat} :
    mode.refreshMillihz = some refresh ↔ 0 ≤ mode.refresh ∧ mode.refresh.toNat = refresh := by
  unfold Mode.refreshMillihz
  split <;> simp_all

theorem selectOutputMode_isSome_iff {ms : List Mode} {width height : Nat} (rf : Nat) :
    (selectOutputMode ms (some ⟨some width, some height, some rf⟩)).isSome ↔ Advertises ms width height := by
  unfold selectOutputMode Advertises; rw [Option.isSome_iff_exists]
  simp only [Option.bind_eq_bind, Option.bind_eq_some_iff, toU16_eq_some_iff, Option.map_eq_some_iff]
  constructor
  · rintro ⟨selected, preferred, -, _, ⟨hw, rfl⟩, _, ⟨hh, rfl⟩, size, hs, _, -, pair, hr, rfl⟩
    cases hs
    obtain ⟨mode, hm, hma⟩ := List.mem_filterMap.1 (List.mem_of_find?_eq_some hr); split at hma
    · rename_i hz
      obtain ⟨_, hre, -⟩ := Option.map_eq_some_iff.1 hma
      exact ⟨⟨hw, hh⟩, mode, hm, Prod.mk.inj hz, (refreshMillihz_eq_some_iff.1 hre).1⟩
    · cases hma
  · rintro ⟨⟨hw, hh⟩, mode, hm, ⟨rfl, rfl⟩, hre⟩
    have hpr : ∃ preferred, (ms.find? (·.preferred)).or ms.head? = some preferred := by
      cases ms with
      | nil => cases hm
      | cons first rest => cases hn : (first :: rest).find? (·.preferred) <;> simp
    obtain ⟨preferred, hpr⟩ := hpr
    have hmt : (mode, mode.refresh.toNat) ∈ ms.filterMap fun other =>
        if (other.width, other.height) = (mode.width, mode.height) then
          other.refreshMillihz.map fun rf => (other, rf) else none := by
      refine List.mem_filterMap.2 ⟨mode, hm, ?_⟩
      rw [if_pos rfl, refreshMillihz_eq_some_iff.2 ⟨hre, rfl⟩]; rfl
    generalize hd : ms.filterMap _ = matching at hmt
    cases hse : selectRefreshMillihz (matching.map Prod.snd) (some rf) with
    | none =>
      rw [selectRefreshMillihz_eq_none_iff, List.map_eq_nil_iff] at hse
      subst hse; cases hmt
    | some selected =>
      obtain ⟨pair, hr, hs⟩ := List.mem_map.1 (selectRefreshMillihz_mem hse)
      have hf : (matching.find? fun pair => decide (pair.2 = selected)).isSome := by
        rw [List.find?_isSome]; exact ⟨pair, hr, by simpa using hs⟩
      obtain ⟨found, hf⟩ := Option.isSome_iff_exists.1 hf; subst hd
      exact ⟨found.1, preferred, hpr, _, ⟨hw, rfl⟩, _, ⟨hh, rfl⟩, _, rfl, selected, hse, found,
        hf, rfl⟩

/-! ## Staging -/

section

variable {names : ConnectorNames} {r : Rounding} {current : RuntimeOutputConfiguration}
  {requested : List RequestedOutput} {connector : ConnectedConnector}

variable {acc : RuntimeOutputConfiguration × LinkedMap OutputId Bool}

theorem stageOutput_ok_iff : (∃ acc', stageOutput names r current requested acc connector = .ok acc') ↔
      ∃ output, requested.find? (fun output => output.name = names.name connector.handle) = some output ∧
        Stageable connector output := by
  unfold stageOutput
  simp only
  cases requested.find? fun output => output.name = names.name connector.handle with
  | none => simp
  | some output =>
    simp only [Option.some.injEq, exists_eq_left']
    constructor
    · rintro ⟨acc', h⟩; split at h
      · cases h
      rename_i hw; split at h
      · cases h
      · cases h
      rename_i s hs; split at h
      · cases h
      rename_i hn; split at h
      · cases h
      rename_i hm
      refine ⟨fun hon => ?_, ⟨s, hs, ?_⟩,
        (selectOutputMode_isSome_iff output.modeRefreshMillihz).1 ?_⟩
      · by_contra ho
        simp [hon, ho] at hw
      · simpa only [not_or, not_lt] using hn
      · simpa [Option.isSome_iff_ne_none] using hm
    · rintro ⟨hw, ⟨s, hs, hlo, hh⟩, hm⟩
      have hm := (selectOutputMode_isSome_iff output.modeRefreshMillihz).2 hm
      have hw : (!output.enabled && output.powered) = false := by
        cases he : output.enabled <;> cases hon : output.powered <;> simp_all
      rw [hw, hs]
      simp only [Bool.false_eq_true, if_false, not_or.2 ⟨not_lt.2 hlo, not_lt.2 hh⟩, Option.isNone_eq_false_iff.2 hm,
        Except.ok.injEq, exists_eq']

theorem stageOutput_others {acc' : RuntimeOutputConfiguration × LinkedMap OutputId Bool}
    (h : stageOutput names r current requested acc connector = .ok acc') :
    acc'.1.sensorRotation = acc.1.sensorRotation ∧ acc'.1.subpixels = acc.1.subpixels ∧
      ∀ name, name ≠ names.name connector.handle → SameEntries name acc.1 acc'.1 := by
  unfold stageOutput at h
  simp only at h
  split at h
  · cases h
  rename_i out hf; split at h
  · cases h
  split at h
  · cases h
  · cases h
  split at h
  · cases h
  split at h
  · cases h
  cases h
  refine ⟨rfl, rfl, fun name hne => ⟨?_, ?_, ?_, ?_, rfl, ?_, ?_⟩⟩
  · simp [hne]
  · simp [hne]
  · simp [hne]
  · simp [hne]
  · cases out.adaptiveSync <;> simp [hne]
  · cases out.enabled <;> simp [hne]

theorem foldlM_stageOutput_others : ∀ {connectors : List ConnectedConnector}
    {acc acc' : RuntimeOutputConfiguration × LinkedMap OutputId Bool},
    connectors.foldlM (stageOutput names r current requested) acc = .ok acc' →
      acc'.1.sensorRotation = acc.1.sensorRotation ∧ acc'.1.subpixels = acc.1.subpixels ∧
        ∀ name, name ∉ connectors.map (fun connector => names.name connector.handle) → SameEntries name acc.1 acc'.1
  | [], acc, acc', h => by
    cases h; exact ⟨rfl, rfl, fun name _ => .refl name _⟩
  | connector :: connectors, acc, acc', h => by
    rw [List.foldlM_cons] at h
    obtain ⟨mid, hm, hr⟩ := bind_ok.1 h
    obtain ⟨hro, hs, ho⟩ := stageOutput_others hm
    obtain ⟨hr', hs', ho'⟩ := foldlM_stageOutput_others hr
    refine ⟨hr'.trans hro, hs'.trans hs, fun name hn => ?_⟩
    obtain ⟨hne, hn⟩ := not_or.1 (List.mem_cons.not.1 hn)
    exact (ho name hne).trans (ho' name hn)

theorem foldlM_stageOutput_ok_iff {connectors : List ConnectedConnector} :
    (∃ acc', connectors.foldlM (stageOutput names r current requested) acc = .ok acc') ↔
      ∀ connector ∈ connectors, ∃ output,
        requested.find? (fun output => output.name = names.name connector.handle) = some output ∧
          Stageable connector output := by
  constructor
  · rintro ⟨acc', h⟩
    induction connectors generalizing acc with
    | nil => exact fun _ h => absurd h List.not_mem_nil
    | cons connector connectors ih =>
      rw [List.foldlM_cons] at h
      obtain ⟨mid, hm, hr⟩ := bind_ok.1 h
      exact List.forall_mem_cons.2 ⟨stageOutput_ok_iff.1 ⟨mid, hm⟩, ih hr⟩
  · intro h
    obtain ⟨acc', ha', -⟩ := foldlM_succeeds (I := fun _ => True) (s := acc) (fun connector hn acc _ => by
      obtain ⟨acc', ha'⟩ : ∃ acc', stageOutput names r current requested acc connector = .ok acc' :=
        stageOutput_ok_iff.2 (h connector hn)
      exact ⟨acc', ha', trivial⟩) trivial
    exact ⟨acc', ha'⟩

end

/-! ## Requests -/

section

variable {names : ConnectorNames} {r : Rounding} {request : ApplyOutputConfiguration}
  {connectors : List ConnectedConnector} {maxOutputs : Nat} {current : RuntimeOutputConfiguration}
  {persistenceAvailable : Bool}

theorem names_checked_iff : (request.outputs.length = connectors.length ∧ (request.outputs.map (·.name)).Nodup ∧
      (connectors.map fun connector => names.name connector.handle).toFinset =
        (request.outputs.map (·.name)).toFinset) ↔ (request.outputs.map (·.name)).Nodup ∧
        (request.outputs.map (·.name)).Perm (connectors.map fun connector => names.name connector.handle) := by
  constructor
  · rintro ⟨hlen, hn, hna⟩
    refine ⟨hn, (List.subperm_of_subset hn fun name hm => ?_).perm_of_length_le ?_⟩
    · rw [← List.mem_toFinset, hna, List.mem_toFinset]; exact hm
    · rw [List.length_map, List.length_map, hlen]
  · rintro ⟨hn, hr⟩
    refine ⟨by simpa using hr.length_eq, hn, ?_⟩; exact (List.toFinset_eq_of_perm _ _ hr).symm

theorem configurationFromOutputRequest_eq {names : ConnectorNames} {r : Rounding}
    (hpr : Permitted persistenceAvailable request) (hn : (request.outputs.map (·.name)).Nodup)
    (hpe : (request.outputs.map (·.name)).Perm (connectors.map fun connector => names.name connector.handle))
    (he : 0 < (request.outputs.filter (·.enabled)).length)
    (hbo : (request.outputs.filter (·.enabled)).length ≤ maxOutputs) :
    configurationFromOutputRequest names r request connectors maxOutputs current persistenceAvailable =
      connectors.foldlM (stageOutput names r current request.outputs)
        ({ current with primaryOutput := request.primaryOutput }, .empty) := by
  obtain ⟨hlen, -, hna⟩ := names_checked_iff.2 ⟨hn, hpe⟩
  obtain ⟨hs, hm, hr⟩ := hpr
  have hs : (request.persistent && !persistenceAvailable) = false := by
    cases h : request.persistent <;> cases h' : persistenceAvailable <;> simp_all
  have hm : (request.confirmationTimeoutMilliseconds.any fun timeout => timeout < 1000 || 60000 < timeout) =
      false := by
    cases h : request.confirmationTimeoutMilliseconds with
    | none => rfl
    | some timeout =>
      have := hm timeout h
      simp only [Option.any_some, Bool.or_eq_false_iff, decide_eq_false_iff_not]; omega
  have hr : (request.primaryOutput.any fun name => !validPrimaryOutput name) = false := by
    cases h : request.primaryOutput with
    | none => rfl
    | some name => simp [hr name h]
  unfold configurationFromOutputRequest
  simp only [hs, hm, hr, Bool.false_eq_true, if_false, hlen, ne_eq, not_true_eq_false, hn,
    hna, if_neg (not_or.2 ⟨he.ne', not_lt.2 hbo⟩)]

theorem configurationFromOutputRequest_ok_iff :
    (∃ stg, configurationFromOutputRequest names r request connectors maxOutputs current persistenceAvailable =
      .ok stg) ↔ Permitted persistenceAvailable request ∧ CompleteRequest names connectors maxOutputs request := by
  constructor
  · rintro ⟨stg, h⟩; unfold configurationFromOutputRequest at h
    simp only at h
    split at h
    · cases h
    rename_i hpe; split at h
    · cases h
    rename_i hti; split at h
    · cases h
    rename_i hpr; split at h
    · cases h
    split at h
    · cases h
    split at h
    · cases h
    split at h
    · cases h
    rename_i hlen hn hna he
    obtain ⟨hn, hr⟩ := names_checked_iff.1 ⟨not_not.1 hlen, not_not.1 hn, not_not.1 hna⟩
    obtain ⟨hso, hbo⟩ := not_or.1 he
    have hst := foldlM_stageOutput_ok_iff.1 ⟨stg, h⟩
    refine ⟨⟨fun h => ?_, fun timeout h => ?_, fun name h => ?_⟩,
      ⟨hn, hr, Nat.pos_of_ne_zero hso, not_lt.1 hbo, fun connector hco out ho hm => ?_⟩⟩
    · by_contra hof
      simp [h, hof] at hpe
    · rw [Option.mem_def.1 h, Option.any_some] at hti
      simp only [Bool.or_eq_true, decide_eq_true_eq] at hti; omega
    · rw [Option.mem_def.1 h, Option.any_some] at hpr
      simpa using hpr
    · obtain ⟨fn, hf, hs⟩ := hst connector hco
      rw [← hm, find?_of_mem hn ho] at hf; exact Option.some.inj hf ▸ hs
  · rintro ⟨hper, hn, hr, he, hbo, hs⟩
    rw [configurationFromOutputRequest_eq hper hn hr he hbo]
    refine foldlM_stageOutput_ok_iff.2 fun connector hco => ?_
    obtain ⟨out, ho, hm⟩ := List.mem_map.1
      (hr.mem_iff.2 (List.mem_map_of_mem (f := fun connector => names.name connector.handle) hco))
    refine ⟨out, ?_, hs connector hco out ho hm⟩
    rw [← hm]; exact find?_of_mem hn ho

end

/-- A request is staged exactly if it is permitted and complete. Staging changes the primary output and what the
configuration says of the connected outputs, as asked, the transforms so that they are the effective ones. A request
that is not staged leaves the loop as it was, but for the answer. -/
theorem requests_staged {F : Type} [PlacementArith F] (names : ConnectorNames) (r : Rounding)
    (request : ApplyOutputConfiguration) (connectors : List ConnectedConnector) (maxOutputs : Nat)
    (current : RuntimeOutputConfiguration) (persistenceAvailable : Bool) :
    ((∃ staged, configurationFromOutputRequest names r request connectors maxOutputs current persistenceAvailable =
      .ok staged) ↔ Permitted persistenceAvailable request ∧ CompleteRequest names connectors maxOutputs request) ∧
    (∀ staged power, configurationFromOutputRequest names r request connectors maxOutputs current persistenceAvailable =
        .ok (staged, power) →
      staged.primaryOutput = request.primaryOutput ∧ staged.sensorRotation = current.sensorRotation ∧
      (∀ name, name ∉ connectors.map (fun connector => names.name connector.handle) → SameEntries name current staged) ∧
      ∀ output ∈ request.outputs, StagedFor r current staged output ∧
        staged.effectiveTransform output.name = output.transform) ∧
    ∀ (setup : Setup) (p : Pass) (loop : OutputLoop) (code : FailureCode),
      loop.readyOutputApply = some (request, connectors) → p.applyBusy = false → request.serial = loop.serial →
      configurationFromOutputRequest setup.names setup.rounding request connectors setup.maxOutputs loop.configuration
        setup.persistenceAvailable = .error code →
      loop.applyReady F setup p false = .again (({ loop with readyOutputApply := none }).did (.refused code)) := by
  refine ⟨configurationFromOutputRequest_ok_iff, fun staged power h => ?_, ?_⟩
  · obtain ⟨hper, hcom⟩ := configurationFromOutputRequest_ok_iff.1 ⟨_, h⟩
    obtain ⟨hprim, hstag, -⟩ := configurationFromOutputRequest_spec h
    rw [configurationFromOutputRequest_eq hper hcom.once hcom.connected hcom.enabled
      hcom.bounded] at h
    obtain ⟨hrot, -, hoth⟩ := foldlM_stageOutput_others h
    refine ⟨hprim, hrot, fun name hnam => ?_, fun output hout => ?_⟩
    · obtain ⟨hpos, hmod, hscal, htran, hsub, hsyn, hdis⟩ := hoth name hnam
      exact ⟨hpos, hmod, hscal, htran, hsub, hsyn, hdis⟩
    · have hstag := hstag output hout
      exact ⟨hstag, effectiveTransform_of_baseline hrot hstag.transform⟩
  · intro setup p loop code hread hbus hser herr
    have hinv : ({ loop with readyOutputApply := none } : OutputLoop).validate F setup p request connectors =
        .error code := by
      unfold OutputLoop.validate
      simp only [herr]; rfl
    unfold OutputLoop.applyReady
    simp only [hread, hbus, hser, Bool.false_eq_true, if_false, ne_eq, not_true_eq_false, hinv]

/-! ## A complete request that is refused -/

def portNames : ConnectorNames := ⟨fun _ => "DP", id, fun _ _ _ h => h⟩

def portConnector : ConnectedConnector := ⟨1, 7, [⟨1920, 1080, 60000, true, 0⟩], .unknown, ⟨0, 0⟩⟩

def persistentRequest : ApplyOutputConfiguration where
  serial := 1
  persistent := true
  outputs := [⟨"DP-1", true, true, 0, 0, 1920, 1080, 60000, .finite 1, .normal, false⟩]

/-- Without a configuration file, a complete request is refused where it is persistent. -/
theorem persistentRequest_refused : CompleteRequest portNames [portConnector] 1 persistentRequest ∧
    configurationFromOutputRequest portNames .exact persistentRequest [portConnector] 1 {} false =
      .error .unsupported := by
  refine ⟨⟨by decide, by decide, by decide, by decide, ?_⟩, by decide⟩
  intro connector hcon output hout _
  obtain rfl := List.mem_singleton.1 hcon
  obtain rfl := List.mem_singleton.1 hout
  exact ⟨fun _ => rfl, ⟨1, rfl, by norm_num, by norm_num⟩, by decide, _, List.mem_singleton_self _, ⟨rfl, rfl⟩, by decide⟩

end Deniald.Outputs
