/-
Outputs of the logical desktop and their validation (topology.rs). Coordinates are `f64` in the
source; the model is over any `LogicalArith`, of which Lean's `Float` is the source's own and the
rationals are the exact one.
-/
import Mathlib.Algebra.Order.Ring.Rat
import Mathlib.Data.List.TakeWhile

namespace Deniald.Topology

/-! ## Arithmetic -/

/-- The operations on logical coordinates: `f64`'s, with `ofInt` the conversion from a 32-bit integer. -/
class LogicalArith (F : Type) where
  ofInt : Int → F
  add : F → F → F
  sub : F → F → F
  div : F → F → F
  min : F → F → F
  max : F → F → F
  lt : F → F → Bool
  isFinite : F → Bool

/-- The source's arithmetic; `f64::min` and `f64::max` ignore a NaN. -/
instance : LogicalArith Float where
  ofInt := Float.ofInt
  add := (· + ·)
  sub := (· - ·)
  div := (· / ·)
  min a b := if a.isNaN then b else if b.isNaN then a else if a < b then a else b
  max a b := if a.isNaN then b else if b.isNaN then a else if b < a then a else b
  lt a b := a < b
  isFinite := Float.isFinite

instance : LogicalArith Rat where
  ofInt := fun n => n
  add := (· + ·)
  sub := (· - ·)
  div := (· / ·)
  min := fun a b => if a < b then a else b
  max := fun a b => if b < a then a else b
  lt a b := a < b
  isFinite _ := true

/-! ## Outputs -/

/-- `OutputId(pub u64)`; only equality and order are used. -/
abbrev OutputId := Nat

/-- `SCALE_BASE`. -/
def scaleBase : Nat := 120

structure LogicalPoint where
  x : Int
  y : Int
  deriving DecidableEq

structure PixelSize where
  width : Nat
  height : Nat
  deriving DecidableEq

inductive OutputTransform where
  | normal | rotate90 | rotate180 | rotate270 | flipped | flipped90 | flipped180 | flipped270
  deriving DecidableEq

def OutputTransform.swapsAxes : OutputTransform → Bool
  | .rotate90 | .rotate270 | .flipped90 | .flipped270 => true
  | _ => false

inductive OutputSubpixel where
  | unknown | horizontalRgb | horizontalBgr | verticalRgb | verticalBgr | none
  deriving DecidableEq

structure OutputSpec where
  id : OutputId
  name : String
  position : LogicalPoint
  mode : PixelSize
  scale120 : Nat
  refreshMillihz : Nat
  transform : OutputTransform
  subpixel : OutputSubpixel
  sizeMm : PixelSize
  deriving DecidableEq

structure LogicalRect (F : Type) where
  x : F
  y : F
  width : F
  height : F

section Geometry

variable {F : Type} [LogicalArith F]

open LogicalArith

def LogicalRect.right (r : LogicalRect F) : F := add r.x r.width

def LogicalRect.bottom (r : LogicalRect F) : F := add r.y r.height

def OutputSpec.transformedPixelSize (o : OutputSpec) : PixelSize :=
  if o.transform.swapsAxes then ⟨o.mode.height, o.mode.width⟩ else o.mode

variable (F) in
def OutputSpec.logicalRect (o : OutputSpec) : LogicalRect F :=
  let transformed := o.transformedPixelSize
  let scale : F := div (ofInt o.scale120) (ofInt scaleBase)
  { x := ofInt o.position.x
    y := ofInt o.position.y
    width := div (ofInt transformed.width) scale
    height := div (ofInt transformed.height) scale }

def logicalRectsOverlap (first second : LogicalRect F) : Bool :=
  lt first.x second.right && lt second.x first.right && lt first.y second.bottom && lt second.y first.bottom

/-- The coordinates are finite and within the `i32` range. -/
def LogicalRect.inRange (r : LogicalRect F) : Bool :=
  !(!isFinite r.x || !isFinite r.y || !isFinite r.width || !isFinite r.height ||
    lt (ofInt (2 ^ 31 - 1)) r.right || lt (ofInt (2 ^ 31 - 1)) r.bottom ||
    lt r.x (ofInt (-2 ^ 31)) || lt r.y (ofInt (-2 ^ 31)))

variable (F) in
def logicalBounds : List OutputSpec → Option (LogicalRect F)
  | [] => none
  | first :: rest =>
    let rect := first.logicalRect F
    let (left, top, right, bottom) := rest.foldl (fun (left, top, right, bottom) output =>
      let rect := output.logicalRect F
      (min left rect.x, min top rect.y, max right rect.right, max bottom rect.bottom))
      (rect.x, rect.y, rect.right, rect.bottom)
    some { x := left, y := top, width := sub right left, height := sub bottom top }

end Geometry

/-! ## Validation -/

/-- `char::is_whitespace`: the Unicode property `White_Space`. -/
def isWhitespace (c : Char) : Bool :=
  (0x09 ≤ c.toNat && c.toNat ≤ 0x0d) || c.toNat == 0x20 || c.toNat == 0x85 || c.toNat == 0xa0 ||
    c.toNat == 0x1680 || (0x2000 ≤ c.toNat && c.toNat ≤ 0x200a) || c.toNat == 0x2028 || c.toNat == 0x2029 ||
    c.toNat == 0x202f || c.toNat == 0x205f || c.toNat == 0x3000

/-- `str::trim`. -/
def trim (s : List Char) : List Char :=
  ((s.dropWhile isWhitespace).reverse.dropWhile isWhitespace).reverse

inductive TopologyError where
  | duplicateName (name : String)
  | emptyName (id : OutputId)
  | emptyMode (id : OutputId)
  | invalidScale (id : OutputId)
  | invalidRefresh (id : OutputId)
  | coordinateOverflow (id : OutputId)
  | overlappingOutputs (first second : String)

section Validation

variable (F : Type) [LogicalArith F]

/-- The loop of `validate_outputs`, with the names and rectangles of the outputs before. -/
def validateLoop : List OutputSpec → List String → List (String × LogicalRect F) → Except TopologyError Unit
  | [], _, _ => .ok ()
  | output :: rest, names, logicalRects =>
    if trim output.name.toList = [] then .error (.emptyName output.id)
    else if output.name ∈ names then .error (.duplicateName output.name)
    else if output.mode.width = 0 ∨ output.mode.height = 0 then .error (.emptyMode output.id)
    else if output.scale120 = 0 then .error (.invalidScale output.id)
    else if output.refreshMillihz = 0 then .error (.invalidRefresh output.id)
    else
      let rect := output.logicalRect F
      if !rect.inRange then .error (.coordinateOverflow output.id)
      else
        match logicalRects.find? fun other => logicalRectsOverlap rect other.2 with
        | some (otherName, _) =>
          if output.name < otherName then .error (.overlappingOutputs output.name otherName)
          else .error (.overlappingOutputs otherName output.name)
        | none => validateLoop rest (output.name :: names) (logicalRects ++ [(output.name, rect)])

def validateOutputs (outputs : List OutputSpec) : Except TopologyError Unit := validateLoop F outputs [] []

/-! ## What validation accepts -/

/-- One output is well formed. -/
structure OutputSpec.Valid (o : OutputSpec) : Prop where
  name : ∃ c ∈ o.name.toList, isWhitespace c = false
  width : o.mode.width ≠ 0
  height : o.mode.height ≠ 0
  scale : o.scale120 ≠ 0
  refresh : o.refreshMillihz ≠ 0
  range : (o.logicalRect F).inRange = true

/-- Two outputs fit together. -/
structure Compatible (a b : OutputSpec) : Prop where
  names : a.name ≠ b.name
  disjoint : logicalRectsOverlap (a.logicalRect F) (b.logicalRect F) = false

/-- A desktop's outputs are well formed and fit together pairwise. -/
structure ValidOutputs (outputs : List OutputSpec) : Prop where
  each : ∀ o ∈ outputs, o.Valid F
  pairs : outputs.Pairwise (Compatible F)

theorem trim_eq_nil_iff (s : List Char) : trim s = [] ↔ ∀ c ∈ s, isWhitespace c = true := by
  unfold trim
  simp only [List.reverse_eq_nil_iff, List.dropWhile_eq_nil_iff, List.mem_reverse]
  constructor
  · intro h c hc
    rw [← List.takeWhile_append_dropWhile (p := isWhitespace) (l := s)] at hc
    rcases List.mem_append.1 hc with hc | hc
    · exact List.mem_takeWhile_imp hc
    · exact h c hc
  · intro h c hc; exact h c (List.dropWhile_sublist _ |>.mem hc)

theorem trim_ne_nil_iff (s : List Char) : trim s ≠ [] ↔ ∃ c ∈ s, isWhitespace c = false := by
  rw [ne_eq, trim_eq_nil_iff]; simp

theorem logicalRectsOverlap_symm (a b : LogicalRect F) : logicalRectsOverlap a b = logicalRectsOverlap b a := by
  unfold logicalRectsOverlap
  simp [Bool.and_comm, Bool.and_left_comm]

theorem validateLoop_cons_iff (o : OutputSpec) (rest : List OutputSpec) (names : List String)
    (rects : List (String × LogicalRect F)) : validateLoop F (o :: rest) names rects = .ok () ↔
      o.Valid F ∧ o.name ∉ names ∧ (∀ r ∈ rects, logicalRectsOverlap (o.logicalRect F) r.2 = false) ∧
        validateLoop F rest (o.name :: names) (rects ++ [(o.name, o.logicalRect F)]) = .ok () := by
  constructor
  · intro h; unfold validateLoop at h
    split_ifs at h with hn hd hm hs hre
    obtain ⟨hw, hh⟩ := not_or.1 hm
    simp only at h
    split at h
    · cases h
    rename_i hra
    cases hf : rects.find? fun other => logicalRectsOverlap (o.logicalRect F) other.2 with
    | some other => simp only [hf] at h; split_ifs at h
    | none =>
      simp only [hf] at h
      refine ⟨⟨(trim_ne_nil_iff _).1 hn, hw, hh, hs, hre, by simpa using hra⟩, hd, ?_, h⟩
      simpa using hf
  · rintro ⟨hv, hna, hr, hrs⟩
    have hf : (rects.find? fun other => logicalRectsOverlap (o.logicalRect F) other.2) = none := by
      simpa using hr
    unfold validateLoop
    rw [if_neg ((trim_ne_nil_iff _).2 hv.name), if_neg hna, if_neg (not_or.2 ⟨hv.width, hv.height⟩),
      if_neg hv.scale, if_neg hv.refresh]
    simp only [hv.range, Bool.not_true, Bool.false_eq_true, if_false, hf]; exact hrs

theorem validateLoop_ok_iff : ∀ (outputs : List OutputSpec) (names : List String)
    (rects : List (String × LogicalRect F)),
    validateLoop F outputs names rects = .ok () ↔ ValidOutputs F outputs ∧
      ∀ o ∈ outputs, o.name ∉ names ∧ ∀ r ∈ rects, logicalRectsOverlap (o.logicalRect F) r.2 = false
  | [], _, _ => by simp [validateLoop, ValidOutputs.mk]
  | o :: rest, names, rects => by
    rw [validateLoop_cons_iff, validateLoop_ok_iff rest]
    constructor
    · rintro ⟨hv, hn, hf, ⟨he, hs⟩, ho⟩
      refine ⟨⟨List.forall_mem_cons.2 ⟨hv, he⟩, .cons (fun p hp => ⟨?_, ?_⟩) hs⟩,
        List.forall_mem_cons.2 ⟨⟨hn, hf⟩, fun p hp => ⟨?_, fun r hr => ?_⟩⟩⟩
      · exact fun h => (ho p hp).1 (by rw [h]; exact List.mem_cons_self ..)
      · rw [logicalRectsOverlap_symm]; exact (ho p hp).2 _ (List.mem_append_right _ (List.mem_singleton.2 rfl))
      · exact fun h => (ho p hp).1 (List.mem_cons_of_mem _ h)
      · exact (ho p hp).2 r (List.mem_append_left _ hr)
    · rintro ⟨⟨he, hs⟩, ho⟩
      obtain ⟨hv, he⟩ := List.forall_mem_cons.1 he
      obtain ⟨hpa, hs⟩ := List.pairwise_cons.1 hs
      obtain ⟨⟨hn, hf⟩, ho⟩ := List.forall_mem_cons.1 ho
      refine ⟨hv, hn, hf, ⟨he, hs⟩, fun p hp => ⟨fun h => ?_, fun r hr => ?_⟩⟩
      · rcases List.mem_cons.1 h with h | h
        · exact (hpa p hp).names h.symm
        · exact (ho p hp).1 h
      · rcases List.mem_append.1 hr with hr | hr
        · exact (ho p hp).2 r hr
        · obtain rfl := List.mem_singleton.1 hr
          rw [logicalRectsOverlap_symm]; exact (hpa p hp).disjoint

theorem validateOutputs_ok_iff (outputs : List OutputSpec) :
    validateOutputs F outputs = .ok () ↔ ValidOutputs F outputs := by
  unfold validateOutputs
  rw [validateLoop_ok_iff]; simp

end Validation

end Deniald.Topology
