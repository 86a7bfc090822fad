/-
Automatic placement (output_topology.rs): an output without a configured position is put to the right of all outputs
with one and of all that come before it, so it overlaps none; an edge beyond the plane makes the placement fail.
-/
import Deniald.Lib.Double
import Deniald.Lib.Fallible
import Deniald.Lib.Lists
import Deniald.Outputs.Configuration

namespace Deniald.Outputs

open Deniald.Lib Deniald.Topology

/-! ## Doubles -/

def Double (_ : CoordinateRounding) : Type := F64

instance (r : CoordinateRounding) : PlacementArith (Double r) where
  ofInt n := F64.finite n
  add := F64.add r.toRounding
  sub := F64.sub r.toRounding
  div := F64.div r.toRounding
  min := F64.min
  max := F64.max
  lt := F64.lt
  isFinite := F64.isFinite
  ceilI32
    | .finite width => toI32 ⌈width⌉
    | .infinite _ => none
    | .nan => some 0

theorem toI32_eq_some_iff {n m : Int} : toI32 n = some m ↔ (-2 ^ 31 ≤ n ∧ n < 2 ^ 31) ∧ n = m := by
  unfold toI32
  split <;> simp_all

variable {r : CoordinateRounding}

theorem not_before_of_columns {x n y : Int} {width : Double r} (hn : PlacementArith.ceilI32 width = some n)
    (hr : -2 ^ 31 ≤ x + n ∧ x + n < 2 ^ 31) (hy : x + n ≤ y) :
    LogicalArith.lt (LogicalArith.ofInt y : Double r) (LogicalArith.add (LogicalArith.ofInt x) width) = false := by
  cases width with
  | finite q =>
    obtain ⟨-, rfl⟩ := toI32_eq_some_iff.1 hn
    refine F64.lt_round_eq_false (n := x + ⌈q⌉) (abs_le.2 ⟨by omega, by omega⟩) ?_ hy
    push_cast; exact add_le_add_right (Int.le_ceil q) _
  | infinite _ => cases hn
  | nan => rfl

/-! ## The unbounded plane -/

section

variable (F : Type) [PlacementArith F]

/-- The right edge of an output in whole columns, where its width is a number of them. -/
def rightEdge (spec : OutputSpec) : Option Int :=
  (PlacementArith.ceilI32 (spec.logicalRect F).width).map (spec.position.x + ·)

/-- The loop that places the outputs on a plane without bounds. -/
def arrangeSpecs : Int → List (OutputSpec × Bool) → Option (List OutputSpec)
  | _, [] => some []
  | x, (spec, configured) :: pending => do
    let spec := if configured then spec else { spec with position := ⟨x, 0⟩ }
    let right ← rightEdge F spec
    let specs ← arrangeSpecs (max x right) pending
    some (spec :: specs)

/-- How outputs are arranged on a plane without bounds. -/
def arrangement (outputs : List ConnectedOutput) (configuration : RuntimeOutputConfiguration) :
    Option (List OutputSpec) := do
  let pending ← outputs.mapM (pendingSpec configuration)
  let x ← (pending.filter (·.2)).foldlM (fun x (spec, _) => (rightEdge F spec).map (max x)) 0
  arrangeSpecs F x pending

def EdgeFits (spec : OutputSpec) : Prop := ∃ right, rightEdge F spec = some right ∧ -2 ^ 31 ≤ right ∧ right < 2 ^ 31

end

section

variable {F : Type} [PlacementArith F] {pending : List (OutputSpec × Bool)} {specs : List OutputSpec}

theorem includeOutput_eq_some_iff {x x' : Int} {spec : OutputSpec} : includeOutput F x spec = some x' ↔
      ∃ right, rightEdge F spec = some right ∧ (-2 ^ 31 ≤ right ∧ right < 2 ^ 31) ∧ x' = max x right := by
  unfold includeOutput rightEdge
  simp only [Option.bind_eq_bind, Option.bind_eq_some_iff, toI32_eq_some_iff, Option.map_eq_some_iff, Option.some.injEq]
  constructor
  · rintro ⟨n, hn, right, ⟨hf, rfl⟩, rfl⟩; exact ⟨_, ⟨n, hn, rfl⟩, hf, rfl⟩
  · rintro ⟨right, ⟨n, hn, rfl⟩, hf, rfl⟩; exact ⟨n, hn, _, ⟨hf, rfl⟩, rfl⟩

theorem placeSpecs_eq_some_iff : ∀ {x : Int} {pending : List (OutputSpec × Bool)} {specs : List OutputSpec},
    placeSpecs F x pending = some specs ↔ arrangeSpecs F x pending = some specs ∧ ∀ spec ∈ specs, EdgeFits F spec
  | x, [], specs => by
    simp only [placeSpecs, arrangeSpecs, Option.some.injEq]
    constructor
    · rintro rfl; exact ⟨rfl, fun _ h => absurd h List.not_mem_nil⟩
    · exact And.left
  | x, (spec, configured) :: pending, specs => by
    simp only [placeSpecs, arrangeSpecs, Option.bind_eq_bind, Option.bind_eq_some_iff, includeOutput_eq_some_iff,
      placeSpecs_eq_some_iff, Option.some.injEq]
    constructor
    · rintro ⟨_, ⟨right, hr, hf, rfl⟩, rest, ⟨hre, hal⟩, rfl⟩
      refine ⟨⟨right, hr, rest, hre, rfl⟩, fun spec' hs => ?_⟩
      rcases List.mem_cons.1 hs with rfl | hs
      · exact ⟨right, hr, hf⟩
      · exact hal _ hs
    · rintro ⟨⟨right, hr, rest, hre, rfl⟩, hal⟩
      obtain ⟨_, he, hf⟩ := hal _ List.mem_cons_self
      obtain rfl := Option.some.inj (hr.symm.trans he)
      exact ⟨_, ⟨right, hr, hf, rfl⟩, rest, ⟨hre, fun _ h => hal _ (List.mem_cons_of_mem _ h)⟩, rfl⟩

def Placed (pending : OutputSpec × Bool) (spec : OutputSpec) : Prop :=
  { spec with position := pending.1.position } = pending.1 ∧ (pending.2 = true → spec = pending.1)

theorem Placed.name {pending : OutputSpec × Bool} {spec : OutputSpec} (h : Placed pending spec) :
    spec.name = pending.1.name := by
  have hn := congrArg OutputSpec.name h.1; exact hn

theorem arrangeSpecs_placed : ∀ {x : Int} {pending : List (OutputSpec × Bool)} {specs : List OutputSpec},
    arrangeSpecs F x pending = some specs → List.Forall₂ Placed pending specs
  | x, [], specs, h => by
    cases h; exact .nil
  | x, (spec, configured) :: pending, specs, h => by
    simp only [arrangeSpecs, Option.bind_eq_bind, Option.bind_eq_some_iff, Option.some.injEq] at h
    obtain ⟨right, -, rest, hr, rfl⟩ := h
    refine .cons ?_ (arrangeSpecs_placed hr)
    cases configured with
    | true => exact ⟨rfl, fun _ => rfl⟩
    | false => exact ⟨rfl, fun h => Bool.noConfusion h⟩

theorem foldlM_include_eq_some_iff : ∀ {c : List (OutputSpec × Bool)} {x x' : Int},
    c.foldlM (fun x (spec, _) => includeOutput F x spec) x = some x' ↔
      c.foldlM (fun x (spec, _) => (rightEdge F spec).map (max x)) x = some x' ∧
        ∀ p ∈ c, EdgeFits F p.1
  | [], x, x' => by simp
  | (spec, _) :: c, x, x' => by
    simp only [List.foldlM_cons, Option.bind_eq_bind, Option.bind_eq_some_iff, includeOutput_eq_some_iff,
      foldlM_include_eq_some_iff, Option.map_eq_some_iff, List.forall_mem_cons]
    constructor
    · rintro ⟨_, ⟨right, hr, hf, rfl⟩, hs, hal⟩
      exact ⟨⟨_, ⟨right, hr, rfl⟩, hs⟩, ⟨right, hr, hf⟩, hal⟩
    · rintro ⟨⟨_, ⟨right, hr, rfl⟩, hs⟩, ⟨_, he, hf⟩, hal⟩
      obtain rfl := Option.some.inj (hr.symm.trans he)
      exact ⟨_, ⟨right, hr, hf, rfl⟩, hs, hal⟩

theorem configured_reach : ∀ {c : List (OutputSpec × Bool)} {x x' : Int},
    c.foldlM (fun x (spec, _) => (rightEdge F spec).map (max x)) x = some x' →
      x ≤ x' ∧ ∀ p ∈ c, ∃ right, rightEdge F p.1 = some right ∧ right ≤ x'
  | [], x, x', h => by
    cases h
    exact ⟨le_rfl, fun _ hp => absurd hp List.not_mem_nil⟩
  | (spec, _) :: c, x, x', h => by
    simp only [List.foldlM_cons, Option.bind_eq_bind, Option.bind_eq_some_iff, Option.map_eq_some_iff] at h
    obtain ⟨_, ⟨right, hri, rfl⟩, hr⟩ := h
    obtain ⟨hle, hal⟩ := configured_reach hr
    exact ⟨(le_max_left _ _).trans hle,
      List.forall_mem_cons.2 ⟨⟨right, hri, (le_max_right _ _).trans hle⟩, hal⟩⟩

/-! ## Automatic outputs -/

variable {configuration : RuntimeOutputConfiguration}

/-- An output without a configured position. -/
def Automatic (configuration : RuntimeOutputConfiguration) (spec : OutputSpec) : Prop :=
  configuration.positions.get? spec.name = none

def BeyondColumns (F : Type) [PlacementArith F] (spec other : OutputSpec) : Prop :=
  ∃ right, rightEdge F other = some right ∧ right ≤ spec.position.x

theorem pendingSpec_configured {out : ConnectedOutput} {p : OutputSpec × Bool}
    (h : pendingSpec configuration out = some p) : p.2 = true ↔ ¬Automatic configuration p.1 := by
  obtain ⟨refresh, -, rfl⟩ := Option.map_eq_some_iff.1 h
  simp [Automatic, Option.isSome_iff_ne_none]

theorem arrangeSpecs_beyond : ∀ {x : Int} {pending : List (OutputSpec × Bool)} {specs : List OutputSpec},
    (∀ p ∈ pending, p.2 = true ↔ ¬Automatic configuration p.1) → arrangeSpecs F x pending = some specs →
      (∀ spec ∈ specs, Automatic configuration spec → x ≤ spec.position.x) ∧
      specs.Pairwise fun e later => Automatic configuration later → BeyondColumns F later e
  | x, [], specs, _, h => by
    cases h; exact ⟨fun _ h => absurd h List.not_mem_nil, .nil⟩
  | x, (spec, configured) :: pending, specs, hn, h => by
    simp only [arrangeSpecs, Option.bind_eq_bind, Option.bind_eq_some_iff, Option.some.injEq] at h
    obtain ⟨right, hri, rest, hs, rfl⟩ := h
    obtain ⟨hh, hta⟩ := List.forall_mem_cons.1 hn
    obtain ⟨hr, hpa⟩ := arrangeSpecs_beyond hta hs
    refine ⟨List.forall_mem_cons.2 ⟨fun hau => ?_, fun later hla hau => ?_⟩,
      List.pairwise_cons.2 ⟨fun later hla hau => ?_, hpa⟩⟩
    · cases configured with
      | true => exact absurd hau (hh.1 rfl)
      | false => exact le_rfl
    · exact (le_max_left _ _).trans (hr later hla hau)
    · exact ⟨right, hri, (le_max_right _ _).trans (hr later hla hau)⟩

/-- An output's spec, but for its position where that is not configured. -/
def SpecOf (configuration : RuntimeOutputConfiguration) (output : ConnectedOutput) (spec : OutputSpec) : Prop :=
  ∃ p, pendingSpec configuration output = some p ∧ Placed p spec

theorem specOf_of_placed : ∀ {outputs : List ConnectedOutput} {pending : List (OutputSpec × Bool)}
    {specs : List OutputSpec}, List.Forall₂ (fun out p => pendingSpec configuration out = some p) outputs pending →
      List.Forall₂ Placed pending specs → List.Forall₂ (SpecOf configuration) outputs specs
  | _, _, _, .nil, .nil => .nil
  | _, _, _, .cons hp hn, .cons hpl hs => .cons ⟨_, hp, hpl⟩ (specOf_of_placed hn hs)

variable {outputs : List ConnectedOutput}

theorem arrangement_spec (h : arrangement F outputs configuration = some specs) :
    List.Forall₂ (SpecOf configuration) outputs specs ∧
      specs.Pairwise (fun e later => Automatic configuration later → BeyondColumns F later e) ∧
      ∀ spec ∈ specs, ∀ other ∈ specs, Automatic configuration spec → ¬Automatic configuration other →
        BeyondColumns F spec other := by
  simp only [arrangement, Option.bind_eq_bind, Option.bind_eq_some_iff] at h
  obtain ⟨pending, hn, x, hx, hs⟩ := h
  have hn := mapM_some.1 hn
  have hf : ∀ p ∈ pending, p.2 = true ↔ ¬Automatic configuration p.1 := by
    intro p hp
    obtain ⟨out, -, hou⟩ := forall₂_mem_right hn p hp; exact pendingSpec_configured hou
  have hpl := arrangeSpecs_placed hs
  obtain ⟨hre, hr⟩ := arrangeSpecs_beyond hf hs
  refine ⟨?_, hr, fun spec hsp other ho hau hco => ?_⟩
  · exact specOf_of_placed hn hpl
  · obtain ⟨p, hp, hpo⟩ := forall₂_mem_right hpl other ho
    have hfl : p.2 = true := (hf p hp).2 (by unfold Automatic; rw [← hpo.name]; exact hco)
    obtain ⟨right, hri, hle⟩ := (configured_reach hx).2 p (List.mem_filter.2 ⟨hp, hfl⟩)
    refine ⟨right, ?_, hle.trans (hre spec hsp hau)⟩
    rw [hpo.2 hfl]; exact hri

theorem outputSpecs_eq_some_iff : outputSpecs F outputs configuration = some specs ↔
      arrangement F outputs configuration = some specs ∧ ∀ spec ∈ specs, EdgeFits F spec := by
  simp only [outputSpecs, arrangement, Option.bind_eq_bind, Option.bind_eq_some_iff, foldlM_include_eq_some_iff,
    placeSpecs_eq_some_iff]
  constructor
  · rintro ⟨pending, hn, x, ⟨hx, -⟩, hs, hf⟩; exact ⟨⟨pending, hn, x, hx, hs⟩, hf⟩
  · rintro ⟨⟨pending, hn, x, hx, hs⟩, hf⟩
    refine ⟨pending, hn, x, ⟨hx, fun p hp => ?_⟩, hs, hf⟩
    -- a configured output keeps its edge where it is placed
    obtain ⟨hmem, hfl⟩ := List.mem_filter.1 hp
    obtain ⟨spec, hsp, hpl⟩ := forall₂_mem_left (arrangeSpecs_placed hs) p hmem
    rw [← hpl.2 hfl]; exact hf spec hsp

end

/-! ## Rectangles -/

structure StartsBeyond (r : CoordinateRounding) (spec other : OutputSpec) : Prop where
  columns : BeyondColumns (Double r) spec other
  edge : LogicalArith.lt (spec.logicalRect (Double r)).x (other.logicalRect (Double r)).right = false

theorem startsBeyond_of_columns {spec other : OutputSpec} (hf : EdgeFits (Double r) other)
    (h : BeyondColumns (Double r) spec other) : StartsBeyond r spec other := by
  refine ⟨h, ?_⟩
  obtain ⟨right, hr, hle⟩ := h
  obtain ⟨r', hr', hra⟩ := hf
  obtain rfl := Option.some.inj (hr.symm.trans hr')
  obtain ⟨n, hn, rfl⟩ := Option.map_eq_some_iff.1 hr; exact not_before_of_columns hn hra hle

theorem StartsBeyond.apart {spec other : OutputSpec} (h : StartsBeyond r spec other) :
    logicalRectsOverlap (spec.logicalRect (Double r)) (other.logicalRect (Double r)) = false ∧
      logicalRectsOverlap (other.logicalRect (Double r)) (spec.logicalRect (Double r)) = false := by
  unfold logicalRectsOverlap
  rw [h.edge]; simp

/-- Outputs are placed as on a plane without bounds, or not at all where an edge is out of range. Each automatic one
starts at or beyond the right edge of all before it and all that have a position, and so overlaps none. -/
theorem automatic_placement (r : CoordinateRounding) (outputs : List ConnectedOutput)
    (configuration : RuntimeOutputConfiguration) :
    (∀ specs, outputSpecs (Double r) outputs configuration = some specs ↔
      arrangement (Double r) outputs configuration = some specs ∧ ∀ spec ∈ specs, EdgeFits (Double r) spec) ∧
    ∀ specs, outputSpecs (Double r) outputs configuration = some specs →
      List.Forall₂ (SpecOf configuration) outputs specs ∧
      specs.Pairwise (fun earlier later => Automatic configuration later → StartsBeyond r later earlier) ∧
      (∀ spec ∈ specs, ∀ other ∈ specs, Automatic configuration spec → ¬Automatic configuration other →
        StartsBeyond r spec other) ∧
      specs.Pairwise fun a b => Automatic configuration a ∨ Automatic configuration b →
        logicalRectsOverlap (a.logicalRect (Double r)) (b.logicalRect (Double r)) = false ∧
          logicalRectsOverlap (b.logicalRect (Double r)) (a.logicalRect (Double r)) = false := by
  refine ⟨fun specs => outputSpecs_eq_some_iff, fun specs hspecs => ?_⟩
  obtain ⟨harr, hfit⟩ := outputSpecs_eq_some_iff.1 hspecs
  obtain ⟨hspecO, hpair, hconf⟩ := arrangement_spec harr
  have hbeyon : specs.Pairwise fun earlier later => Automatic configuration later → StartsBeyond r later earlier :=
    hpair.imp_of_mem fun hear _ h haut => startsBeyond_of_columns (hfit _ hear) (h haut)
  have hpos : ∀ spec ∈ specs, ∀ other ∈ specs, Automatic configuration spec →
      ¬Automatic configuration other → StartsBeyond r spec other := fun spec hspec other hoth haut hcon =>
    startsBeyond_of_columns (hfit _ hoth) (hconf spec hspec other hoth haut hcon)
  refine ⟨hspecO, hbeyon, hpos, hbeyon.imp_of_mem fun {a b} ha hb h haut => ?_⟩
  by_cases hb' : Automatic configuration b
  · exact (h hb').apart.symm
  · exact (hpos a ha b hb (haut.resolve_right hb') hb').apart

end Deniald.Outputs
