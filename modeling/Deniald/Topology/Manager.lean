/-
Topology transactions (topology.rs, `TopologyManager`): an update stages its changes, validates the
whole desktop, and commits it under a new epoch, or leaves the manager as it was.
-/
import Deniald.Lib.Run
import Deniald.Lib.Counter
import Deniald.Topology.Output
import Std.Data.ExtTreeMap

namespace Deniald.Topology

open Deniald.Lib

/-! ## Model -/

inductive TopologyChange where
  | upsert (output : OutputSpec)
  | remove (id : OutputId)

/-- `BTreeMap<OutputId, OutputSpec>`. -/
abbrev Outputs := Std.ExtTreeMap OutputId OutputSpec compare

/-- `BTreeMap::values`, by ascending key. -/
def outputValues (outputs : Outputs) : List OutputSpec := outputs.toList.map (·.2)

structure TopologySnapshot (F : Type) where
  epoch : UInt64
  logicalBounds : Option (LogicalRect F)
  ticker : Option OutputId
  outputs : List OutputSpec

structure TopologyCommit where
  previousEpoch : UInt64
  epoch : UInt64
  added : List OutputId
  removed : List OutputId
  changed : List OutputId

structure TopologyManager where
  epoch : UInt64
  outputs : Outputs
  primaryOutput : Option String

def stage (staged : Outputs) : TopologyChange → Outputs
  | .upsert output => staged.insert output.id output
  | .remove id => staged.erase id

/-- The keys of `a` that are not in `b`, ascending (`BTreeSet::difference`). -/
def keysDifference (a b : Outputs) : List OutputId := a.keys.filter fun id => !b.contains id

/-- The common keys whose values differ, ascending. -/
def keysChanged (a b : Outputs) : List OutputId :=
  (a.keys.filter fun id => b.contains id).filter fun id => a[id]? ≠ b[id]?

/-- The order of the keys `(refresh_millihz, Reverse(id))`: not greater. -/
def tickerKeyLe (a b : OutputSpec) : Bool :=
  a.refreshMillihz < b.refreshMillihz || (a.refreshMillihz == b.refreshMillihz && b.id ≤ a.id)

/-- `Iterator::max_by_key`: the last of the greatest elements. -/
def maxByTickerKey : List OutputSpec → Option OutputSpec
  | [] => none
  | first :: rest => some (rest.foldl (fun best o => if tickerKeyLe best o then o else best) first)

namespace TopologyManager

/-- `TopologyManager::default`. -/
def default : TopologyManager := ⟨0, ∅, none⟩

def commitStaged (m : TopologyManager) (staged : Outputs) (primaryOutput : Option String) :
    TopologyManager × TopologyCommit :=
  let added := keysDifference staged m.outputs
  let removed := keysDifference m.outputs staged
  let changed := keysChanged m.outputs staged
  let m' : TopologyManager :=
    if added ≠ [] ∨ removed ≠ [] ∨ changed ≠ [] ∨ m.primaryOutput ≠ primaryOutput then
      { epoch := bump m.epoch, outputs := staged, primaryOutput := primaryOutput }
    else m
  (m', { previousEpoch := m.epoch, epoch := m'.epoch, added, removed, changed })

section

variable (F : Type) [LogicalArith F]

def applyWithPrimaryOutput (m : TopologyManager) (changes : List TopologyChange) (primaryOutput : Option String) :
    TopologyManager × Except TopologyError TopologyCommit :=
  let staged := changes.foldl stage m.outputs
  match validateOutputs F (outputValues staged) with
  | .error e => (m, .error e)
  | .ok () =>
    let (m', commit) := m.commitStaged staged primaryOutput
    (m', .ok commit)

def apply (m : TopologyManager) (changes : List TopologyChange) :
    TopologyManager × Except TopologyError TopologyCommit :=
  m.applyWithPrimaryOutput F changes m.primaryOutput

def newWithPrimaryOutput (outputs : List OutputSpec) (primaryOutput : Option String) :
    Except TopologyError TopologyManager :=
  let (m, result) := default.applyWithPrimaryOutput F (outputs.map .upsert) primaryOutput
  result.map fun _ => m

def tickerOutput (m : TopologyManager) : Option OutputSpec :=
  (m.primaryOutput.bind fun name => (outputValues m.outputs).find? fun output => output.name = name).or
    (maxByTickerKey (outputValues m.outputs))

def snapshot (m : TopologyManager) : TopologySnapshot F where
  epoch := m.epoch
  logicalBounds := logicalBounds F (outputValues m.outputs)
  ticker := m.tickerOutput.map (·.id)
  outputs := outputValues m.outputs

/-- `update_topology_for_outputs` (output_topology.rs) for the specs of the connected outputs: the
outputs not among them are removed. -/
def updateForOutputs (m : TopologyManager) (specs : List OutputSpec) (primaryOutput : Option String) :
    TopologyManager × Except TopologyError TopologyCommit :=
  let desired := specs.map (·.id)
  let gone := ((m.snapshot F).outputs.filter fun output => output.id ∉ desired).map fun output =>
    TopologyChange.remove output.id
  m.applyWithPrimaryOutput F (gone ++ specs.map .upsert) primaryOutput

/-! ## Runs -/

/-- The updates a manager receives. -/
inductive Update where
  | apply (changes : List TopologyChange)
  | applyWithPrimaryOutput (changes : List TopologyChange) (primaryOutput : Option String)
  | updateForOutputs (specs : List OutputSpec) (primaryOutput : Option String)

def update (m : TopologyManager) : Update → TopologyManager × Except TopologyError TopologyCommit
  | .apply changes => m.apply F changes
  | .applyWithPrimaryOutput changes primaryOutput => m.applyWithPrimaryOutput F changes primaryOutput
  | .updateForOutputs specs primaryOutput => m.updateForOutputs F specs primaryOutput

def next (m : TopologyManager) (u : Update) : TopologyManager := (m.update F u).1

end

/-! ## One update -/

/-- Each output is stored under its own id. -/
def Keyed (outputs : Outputs) : Prop := ∀ (id : OutputId) (o : OutputSpec), outputs[id]? = some o → o.id = id

/-- What a manager keeps: each output is stored under its own id, and the desktop is well formed. -/
structure WellFormed (F : Type) [LogicalArith F] (m : TopologyManager) : Prop where
  keyed : Keyed m.outputs
  valid : ValidOutputs F (outputValues m.outputs)

/-- The outcome of an update of `m`: an error changes nothing; a commit reports the epochs and exactly
the difference of the desktops, and the epoch moves, to a value other than zero, exactly when the
desktop or the primary output does. -/
structure Commits (F : Type) [LogicalArith F] (m m' : TopologyManager) (commit : TopologyCommit) : Prop where
  previous : commit.previousEpoch = m.epoch
  epoch : commit.epoch = m'.epoch
  moves : m'.epoch ≠ m.epoch ↔
    (m'.snapshot F).outputs ≠ (m.snapshot F).outputs ∨ m'.primaryOutput ≠ m.primaryOutput
  nonzero : m'.epoch ≠ m.epoch → m'.epoch ≠ 0
  added : ∀ id, id ∈ commit.added ↔
    id ∈ (m'.snapshot F).outputs.map (·.id) ∧ id ∉ (m.snapshot F).outputs.map (·.id)
  removed : ∀ id, id ∈ commit.removed ↔
    id ∈ (m.snapshot F).outputs.map (·.id) ∧ id ∉ (m'.snapshot F).outputs.map (·.id)
  changed : ∀ id, id ∈ commit.changed ↔
    ∃ o ∈ (m.snapshot F).outputs, ∃ o' ∈ (m'.snapshot F).outputs, o.id = id ∧ o'.id = id ∧ o ≠ o'

variable {a b outputs : Outputs} {id : OutputId}

theorem mem_outputValues {o : OutputSpec} : o ∈ outputValues outputs ↔ ∃ id : OutputId, outputs[id]? = some o := by
  unfold outputValues; rw [List.mem_map]
  constructor
  · rintro ⟨⟨id, o'⟩, h, rfl⟩
    exact ⟨id, Std.ExtTreeMap.mem_toList_iff_getElem?_eq_some.1 h⟩
  · rintro ⟨id, h⟩
    exact ⟨(id, o), Std.ExtTreeMap.mem_toList_iff_getElem?_eq_some.2 h, rfl⟩

theorem stage_keyed {stg : Outputs} (h : Keyed stg) (c : TopologyChange) : Keyed (stage stg c) := by
  intro id o hge
  cases c with
  | upsert out =>
    simp only [stage, Std.ExtTreeMap.getElem?_insert] at hge; split at hge
    · rename_i heq
      obtain rfl : out = o := by simpa using hge
      exact Std.LawfulEqCmp.eq_of_compare heq
    · exact h id o hge
  | remove gone =>
    simp only [stage, Std.ExtTreeMap.getElem?_erase] at hge; split at hge
    · cases hge
    · exact h id o hge

theorem foldl_stage_keyed : ∀ (changes : List TopologyChange) {stg : Outputs}, Keyed stg →
    Keyed (changes.foldl stage stg)
  | [], _, h => h
  | c :: changes, _, h => foldl_stage_keyed changes (stage_keyed h c)

theorem getElem?_of_keyed (h : Keyed outputs) {o : OutputSpec} :
    outputs[id]? = some o ↔ o ∈ outputValues outputs ∧ o.id = id := by
  constructor
  · intro hge; exact ⟨mem_outputValues.2 ⟨id, hge⟩, h id o hge⟩
  · rintro ⟨hmem, rfl⟩
    obtain ⟨id, hge⟩ := mem_outputValues.1 hmem
    rwa [h id o hge]

theorem mem_ids_of_keyed (h : Keyed outputs) : id ∈ (outputValues outputs).map (·.id) ↔ id ∈ outputs := by
  rw [Std.ExtTreeMap.mem_iff_isSome_getElem?, Option.isSome_iff_exists, List.mem_map]
  simp [getElem?_of_keyed h]

theorem eq_of_outputValues_eq (ha : Keyed a) (hb : Keyed b) (h : outputValues a = outputValues b) : a = b := by
  refine Std.ExtTreeMap.ext_getElem? fun id => Option.ext fun o => ?_
  rw [getElem?_of_keyed ha, getElem?_of_keyed hb, h]

theorem mem_keysDifference : id ∈ keysDifference a b ↔ id ∈ a ∧ id ∉ b := by
  unfold keysDifference
  rw [List.mem_filter, Std.ExtTreeMap.mem_keys, Std.ExtTreeMap.mem_iff_contains, Std.ExtTreeMap.mem_iff_contains,
    Bool.not_eq_true,
    Bool.not_eq_true']

theorem mem_keysChanged : id ∈ keysChanged a b ↔ ∃ o o', a[id]? = some o ∧ b[id]? = some o' ∧ o ≠ o' := by
  unfold keysChanged
  simp only [List.mem_filter, Std.ExtTreeMap.mem_keys, Std.ExtTreeMap.contains_iff_mem, decide_eq_true_eq,
    Std.ExtTreeMap.mem_iff_isSome_getElem?, Option.isSome_iff_exists]
  constructor
  · rintro ⟨⟨⟨o, ha⟩, ⟨o', hb⟩⟩, hne⟩
    exact ⟨o, o', ha, hb, fun h => hne (by rw [ha, hb, h])⟩
  · rintro ⟨o, o', ha, hb, hne⟩
    exact ⟨⟨⟨o, ha⟩, ⟨o', hb⟩⟩, fun h => hne (by rw [ha, hb] at h; exact Option.some.inj h)⟩

theorem eq_of_no_difference (hd : keysDifference b a = []) (hr : keysDifference a b = [])
    (hh : keysChanged a b = []) : a = b := by
  refine Std.ExtTreeMap.ext_getElem? fun id => ?_
  have hd : ¬ (id ∈ b ∧ id ∉ a) := fun h => by simpa [hd] using mem_keysDifference.2 h
  have hr : ¬ (id ∈ a ∧ id ∉ b) := fun h => by simpa [hr] using mem_keysDifference.2 h
  rw [Std.ExtTreeMap.mem_iff_isSome_getElem?, Std.ExtTreeMap.mem_iff_isSome_getElem?] at hd hr
  cases ha : a[id]? with
  | none => cases hb : b[id]? with
    | none => rfl
    | some o => simp [ha, hb] at hd
  | some o => cases hb : b[id]? with
    | none => simp [ha, hb] at hr
    | some o' =>
      by_contra hne
      have := mem_keysChanged.2 ⟨o, o', ha, hb, fun h => hne (congrArg some h)⟩
      rw [hh] at this; cases this

section

variable {F : Type} [LogicalArith F]

variable {m : TopologyManager}

theorem commits_of_outputs {m' : TopologyManager} (hm : Keyed m.outputs) (hm' : Keyed m'.outputs)
    (he : m' = m ∨ m'.epoch = bump m.epoch ∧ (m'.outputs ≠ m.outputs ∨ m'.primaryOutput ≠ m.primaryOutput)) :
    Commits F m m'
      { previousEpoch := m.epoch, epoch := m'.epoch, added := keysDifference m'.outputs m.outputs,
        removed := keysDifference m.outputs m'.outputs, changed := keysChanged m.outputs m'.outputs } where
  previous := rfl
  epoch := rfl
  moves := by
    rcases he with rfl | ⟨hbu, hne⟩
    · simp
    · refine iff_of_true (by rw [hbu]; exact bump_ne_self _) (hne.imp_left fun h heq => h ?_)
      exact eq_of_outputValues_eq hm' hm heq
  nonzero := by
    rcases he with rfl | ⟨hbu, -⟩
    · intro h; exact absurd rfl h
    · intro _; rw [hbu]; exact bump_ne_zero _
  added id := by
    show id ∈ keysDifference _ _ ↔ id ∈ (outputValues _).map _ ∧ id ∉ (outputValues _).map _
    rw [mem_keysDifference, mem_ids_of_keyed hm, mem_ids_of_keyed hm']
  removed id := by
    show id ∈ keysDifference _ _ ↔ id ∈ (outputValues _).map _ ∧ id ∉ (outputValues _).map _
    rw [mem_keysDifference, mem_ids_of_keyed hm, mem_ids_of_keyed hm']
  changed id := by
    show id ∈ keysChanged _ _ ↔ ∃ o ∈ outputValues _, ∃ o' ∈ outputValues _, _; rw [mem_keysChanged]
    simp only [getElem?_of_keyed hm, getElem?_of_keyed hm']
    constructor
    · rintro ⟨o, o', ⟨ho, hid⟩, ⟨ho', hid'⟩, hne⟩; exact ⟨o, ho, o', ho', hid, hid', hne⟩
    · rintro ⟨o, ho, o', ho', hid, hid', hne⟩; exact ⟨o, o', ⟨ho, hid⟩, ⟨ho', hid'⟩, hne⟩

theorem differences_self (outputs : Outputs) : keysDifference outputs outputs = [] ∧
    keysChanged outputs outputs = [] := by
  refine ⟨List.eq_nil_iff_forall_not_mem.2 fun id h => ?_, List.eq_nil_iff_forall_not_mem.2 fun id h => ?_⟩
  · obtain ⟨hin, hou⟩ := mem_keysDifference.1 h; exact hou hin
  · obtain ⟨o, o', ho, ho', hne⟩ := mem_keysChanged.1 h
    rw [ho] at ho'; exact hne (Option.some.inj ho')

theorem commitStaged_spec (hm : m.WellFormed F) {staged : Outputs} (hk : Keyed staged)
    (hv : ValidOutputs F (outputValues staged)) (out : Option String) : (m.commitStaged staged out).1.WellFormed F ∧
      Commits F m (m.commitStaged staged out).1 (m.commitStaged staged out).2 := by
  unfold commitStaged
  simp only
  split
  · rename_i h
    refine ⟨⟨hk, hv⟩, commits_of_outputs hm.keyed hk (.inr ⟨rfl, ?_⟩)⟩
    by_contra hs
    simp only [not_or, not_not] at hs
    obtain ⟨rfl, rfl⟩ := hs
    obtain ⟨hd, hh⟩ := differences_self m.outputs
    rcases h with h | h | h | h
    · exact h hd
    · exact h hd
    · exact h hh
    · exact h rfl
  · rename_i h
    simp only [not_or, not_not] at h
    obtain ⟨hadd, hr, hh, hpr⟩ := h
    obtain rfl : m.outputs = staged := eq_of_no_difference hadd hr hh
    exact ⟨hm, commits_of_outputs hm.keyed hm.keyed (.inl rfl)⟩

theorem applyWithPrimaryOutput_spec (hm : m.WellFormed F) (changes : List TopologyChange) (out : Option String) :
    (∃ e, m.applyWithPrimaryOutput F changes out = (m, .error e)) ∨
      ∃ m' commit, m.applyWithPrimaryOutput F changes out = (m', .ok commit) ∧ m'.WellFormed F ∧
        Commits F m m' commit := by
  have hk : Keyed (changes.foldl stage m.outputs) := foldl_stage_keyed changes hm.keyed
  unfold applyWithPrimaryOutput
  simp only
  split
  · rename_i e _; exact .inl ⟨e, rfl⟩
  rename_i hv
  have hs := commitStaged_spec hm hk ((validateOutputs_ok_iff F _).1 hv) out
  exact .inr ⟨_, _, rfl, hs⟩

theorem update_spec (hm : m.WellFormed F) (u : Update) : (∃ e, m.update F u = (m, .error e)) ∨
      ∃ m' commit, m.update F u = (m', .ok commit) ∧ m'.WellFormed F ∧ Commits F m m' commit := by
  cases u with
  | apply changes => exact applyWithPrimaryOutput_spec hm changes m.primaryOutput
  | applyWithPrimaryOutput changes out => exact applyWithPrimaryOutput_spec hm changes out
  | updateForOutputs ss out => exact applyWithPrimaryOutput_spec hm _ out

/-! ## The ticker -/

theorem tickerKeyLe_total (a b : OutputSpec) : tickerKeyLe a b = true ∨ tickerKeyLe b a = true := by
  simp only [tickerKeyLe, Bool.or_eq_true, decide_eq_true_eq, Bool.and_eq_true, beq_iff_eq]
  have := Nat.le_total a.id b.id
  rcases Nat.lt_trichotomy a.refreshMillihz b.refreshMillihz with h | h | h
  · exact .inl (.inl h)
  · exact this.symm.imp (fun hid => .inr ⟨h, hid⟩) fun hid => .inr ⟨h.symm, hid⟩
  · exact .inr (.inl h)

theorem tickerKeyLe_trans {a b c : OutputSpec} (hab : tickerKeyLe a b = true) (hbc : tickerKeyLe b c = true) :
    tickerKeyLe a c = true := by
  simp only [tickerKeyLe, Bool.or_eq_true, decide_eq_true_eq, Bool.and_eq_true, beq_iff_eq] at *
  rcases hab with hab | ⟨hab, hid⟩
  · exact .inl (hbc.elim (lt_trans hab) fun h => hab.trans_eq h.1)
  rcases hbc with hbc | ⟨hbc, hid'⟩
  · exact .inl (hab.trans_lt hbc)
  · exact .inr ⟨hab.trans hbc, hid'.trans hid⟩

theorem foldl_ticker_spec : ∀ (rest : List OutputSpec) (best : OutputSpec),
    let top := rest.foldl (fun best o => if tickerKeyLe best o then o else best) best
    top ∈ best :: rest ∧ ∀ o ∈ best :: rest, tickerKeyLe o top = true
  | [], best => by simp [tickerKeyLe]
  | o :: rest, best => by
    have ih := foldl_ticker_spec rest (if tickerKeyLe best o then o else best)
    simp only [List.foldl_cons] at ih ⊢
    obtain ⟨hmem, hle⟩ := ih
    obtain ⟨hf, hr⟩ := List.forall_mem_cons.1 hle
    refine ⟨?_, List.forall_mem_cons.2 ⟨?_, List.forall_mem_cons.2 ⟨?_, hr⟩⟩⟩
    · rcases List.mem_cons.1 hmem with h | h
      · rw [h]; split <;> simp
      · exact List.mem_cons_of_mem _ (List.mem_cons_of_mem _ h)
    · refine tickerKeyLe_trans ?_ hf; split
      · assumption
      · simp [tickerKeyLe]
    · refine tickerKeyLe_trans ?_ hf; split
      · simp [tickerKeyLe]
      · exact (tickerKeyLe_total best o).resolve_left (by assumption)

theorem maxByTickerKey_spec {outputs : List OutputSpec} {o : OutputSpec} (h : maxByTickerKey outputs = some o) :
    o ∈ outputs ∧ ∀ p ∈ outputs, tickerKeyLe p o = true := by
  cases outputs with
  | nil => cases h
  | cons first rest => obtain rfl := Option.some.inj h; exact foldl_ticker_spec rest first

structure Elected (m : TopologyManager) (o : OutputSpec) : Prop where
  present : o ∈ outputValues m.outputs
  choice : m.primaryOutput = some o.name ∨
    (∀ p ∈ outputValues m.outputs, m.primaryOutput ≠ some p.name) ∧
      ∀ p ∈ outputValues m.outputs, p.refreshMillihz ≤ o.refreshMillihz

theorem tickerOutput_elected {o : OutputSpec} (h : m.tickerOutput = some o) : m.Elected o := by
  unfold tickerOutput at h
  rcases Option.or_eq_some_iff.1 h with hr | ⟨hno, hm⟩
  · obtain ⟨name, hn, hf⟩ := Option.bind_eq_some_iff.1 hr
    have heq : o.name = name := by simpa using List.find?_some hf
    exact ⟨List.mem_of_find?_eq_some hf, .inl (by rw [hn, heq])⟩
  obtain ⟨hmem, hle⟩ := maxByTickerKey_spec hm
  refine ⟨hmem, .inr ⟨fun p hp hn => ?_, fun p hp => ?_⟩⟩
  · rw [hn, Option.bind_some, List.find?_eq_none] at hno; exact hno p hp (by simp)
  · have := hle p hp
    simp only [tickerKeyLe, Bool.or_eq_true, decide_eq_true_eq, Bool.and_eq_true, beq_iff_eq] at this; omega

theorem tickerOutput_eq_none : m.tickerOutput = none ↔ outputValues m.outputs = [] := by
  unfold tickerOutput; rw [Option.or_eq_none_iff]
  constructor
  · rintro ⟨-, h⟩
    cases hv : outputValues m.outputs with
    | nil => rfl
    | cons first rest => rw [hv] at h; cases h
  · intro h; rw [h]
    exact ⟨by cases m.primaryOutput <;> rfl, rfl⟩

/-! ## Whole runs -/

/-- A well-formed snapshot of a manager: its outputs have distinct ids and distinct non-blank names,
non-zero modes, scales and refresh rates, and logical rectangles that do not overlap, and its ticker,
which is missing only without outputs, is the primary output or, when no output is the primary one, an
output of maximal refresh. -/
structure GoodSnapshot (F : Type) [LogicalArith F] (primaryOutput : Option String) (s : TopologySnapshot F) : Prop where
  ids : (s.outputs.map (·.id)).Nodup
  names : (s.outputs.map (·.name)).Nodup
  notBlank : ∀ o ∈ s.outputs, trim o.name.toList ≠ []
  nonzero : ∀ o ∈ s.outputs, o.mode.width ≠ 0 ∧ o.mode.height ≠ 0 ∧ o.scale120 ≠ 0 ∧ o.refreshMillihz ≠ 0
  disjoint : s.outputs.Pairwise fun a b => logicalRectsOverlap (a.logicalRect F) (b.logicalRect F) = false
  noTicker : s.ticker = none ↔ s.outputs = []
  ticker : ∀ id, s.ticker = some id → ∃ o ∈ s.outputs, o.id = id ∧
    (primaryOutput = some o.name ∨ (∀ p ∈ s.outputs, primaryOutput ≠ some p.name) ∧
      ∀ p ∈ s.outputs, p.refreshMillihz ≤ o.refreshMillihz)

theorem outputValues_ids_nodup {outputs : Outputs} (h : Keyed outputs) : ((outputValues outputs).map (·.id)).Nodup := by
  have hk : (outputValues outputs).map (·.id) = outputs.keys := by
    rw [← Std.ExtTreeMap.map_fst_toList_eq_keys, outputValues, List.map_map]
    refine List.map_congr_left fun p hp => ?_
    exact h p.1 p.2 (Std.ExtTreeMap.mem_toList_iff_getElem?_eq_some.1 hp)
  rw [hk]; exact Std.ExtTreeMap.nodup_keys

theorem goodSnapshot_of_wellFormed (hm : m.WellFormed F) : GoodSnapshot F m.primaryOutput (m.snapshot F) where
  ids := outputValues_ids_nodup hm.keyed
  names := List.pairwise_map.2 (hm.valid.pairs.imp fun h => h.names)
  notBlank o ho := (trim_ne_nil_iff _).2 (hm.valid.each o ho).name
  nonzero o ho := by
    have := hm.valid.each o ho
    exact ⟨this.width, this.height, this.scale, this.refresh⟩
  disjoint := hm.valid.pairs.imp fun h => h.disjoint
  noTicker := by
    show m.tickerOutput.map _ = none ↔ outputValues m.outputs = []
    rw [Option.map_eq_none_iff, tickerOutput_eq_none]
  ticker id hid := by
    obtain ⟨o, ho, rfl⟩ := Option.map_eq_some_iff.1 hid
    have he := tickerOutput_elected ho; exact ⟨o, he.present, rfl, he.choice⟩

theorem wellFormed_default : WellFormed F default where
  keyed := by intro id o h; simp [default] at h
  valid := by
    have : outputValues (default).outputs = [] := by simp [outputValues, default]
    rw [this]; exact ⟨by simp, .nil⟩

theorem wellFormed_run (us : List Update) : (exec (next F) default us).WellFormed F := by
  refine exec_invariant (fun m u hm => ?_) us wellFormed_default; unfold next
  rcases update_spec hm u with ⟨e, h⟩ | ⟨m', commit, h, hm', -⟩
  · rw [h]; exact hm
  · rw [h]; exact hm'

variable (F) in
/-- Topology transactions are atomic and well formed: after every run of updates the snapshot is well
formed, and a further update either fails and changes neither manager nor snapshot, or commits. -/
theorem topology_transactions (us : List Update) :
    let m := exec (next F) default us
    GoodSnapshot F m.primaryOutput (m.snapshot F) ∧
      ∀ u, match m.update F u with
        | (m', .error _) => m' = m ∧ (m'.snapshot F) = m.snapshot F ∧ m'.epoch = m.epoch
        | (m', .ok commit) => Commits F m m' commit ∧ GoodSnapshot F m'.primaryOutput (m'.snapshot F) := by
  intro m
  have hm : m.WellFormed F := wellFormed_run us
  refine ⟨goodSnapshot_of_wellFormed hm, fun u => ?_⟩
  rcases update_spec hm u with ⟨e, h⟩ | ⟨m', commit, h, hm', hcom⟩
  · rw [h]; exact ⟨rfl, rfl, rfl⟩
  · rw [h]; exact ⟨hcom, goodSnapshot_of_wellFormed hm'⟩

end

end TopologyManager

end Deniald.Topology
