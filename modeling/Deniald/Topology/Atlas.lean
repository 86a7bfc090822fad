/-
The desktop atlas (topology.rs, `AtlasPlan`): every output's logical rectangle scaled to the pixels of
one texture, its edges rounded. Neighbours share their edges and rounding is monotone, so the source
rectangles of a valid desktop stay disjoint and inside the texture.
-/
import Deniald.Lib.Number
import Deniald.Topology.Manager
import Mathlib.Order.CompletePartialOrder

namespace Deniald.Topology

open Deniald.Lib
open OutputTransform

/-! ## Model -/

/-- The operations on atlas coordinates: those on logical ones, products, and
`round().clamp(0.0, u32::MAX as f64) as u32`. -/
class AtlasArith (F : Type) extends LogicalArith F where
  mul : F → F → F
  roundToU32 : F → Nat

instance : AtlasArith Float where
  mul := (· * ·)
  roundToU32 x :=
    let rounded := x.round
    (if rounded < 0.0 then 0.0 else if 4294967295.0 < rounded then 4294967295.0 else rounded).toUInt32.toNat

/-- `u32::MAX`. -/
def u32Max : Nat := 2 ^ 32 - 1

instance : AtlasArith Rat where
  mul := (· * ·)
  roundToU32 q := (clamp (roundHalfAway q) 0 u32Max).toNat

structure PixelRect where
  x : Nat
  y : Nat
  width : Nat
  height : Nat
  deriving DecidableEq

def PixelRect.size (r : PixelRect) : PixelSize := ⟨r.width, r.height⟩

inductive Sampling where
  | oneToOne
  | scaled

structure AtlasOutput (F : Type) where
  id : OutputId
  logicalRect : LogicalRect F
  sourceRect : PixelRect
  pixelSize : PixelSize
  transform : OutputTransform
  sampling : Sampling

structure AtlasPlan (F : Type) where
  topologyEpoch : UInt64
  logicalOrigin : F × F
  logicalSize : F × F
  engineScale120 : Nat
  pixelSize : PixelSize
  outputs : List (AtlasOutput F)

/-- An affine mapping: `x' = scaleX * x + skewX * y + translateX`, `y' = skewY * x + scaleY * y + translateY`. -/
structure OutputProjection (F : Type) where
  scaleX : F
  skewX : F
  translateX : F
  skewY : F
  scaleY : F
  translateY : F

section

variable {F : Type} [AtlasArith F]

open LogicalArith AtlasArith

def scaledEdge (value scale : F) : Nat := roundToU32 (mul value scale)

def maxScale120 (outputs : List OutputSpec) : Nat := (outputs.map (·.scale120)).max?.getD scaleBase

variable (F) in
def engineScale (outputs : List OutputSpec) : F := div (ofInt (maxScale120 outputs)) (ofInt scaleBase)

/-- The body of `for_snapshot`'s loop over the outputs. -/
def atlasOutput (bounds : LogicalRect F) (engineScale : F) (output : OutputSpec) : AtlasOutput F :=
  let logicalRect := output.logicalRect F
  let left := scaledEdge (sub logicalRect.x bounds.x) engineScale
  let top := scaledEdge (sub logicalRect.y bounds.y) engineScale
  let right := scaledEdge (sub logicalRect.right bounds.x) engineScale
  let bottom := scaledEdge (sub logicalRect.bottom bounds.y) engineScale
  -- the subtractions of `Nat` saturate like those of `u32`
  let sourceRect : PixelRect :=
    { x := left, y := top, width := Nat.max (right - left) 1, height := Nat.max (bottom - top) 1 }
  let pixelSize := output.transformedPixelSize
  { id := output.id
    logicalRect := logicalRect
    sourceRect := sourceRect
    pixelSize := pixelSize
    transform := output.transform
    sampling := if sourceRect.size = pixelSize then .oneToOne else .scaled }

def AtlasPlan.forSnapshot (snapshot : TopologySnapshot F) : Option (AtlasPlan F) :=
  snapshot.logicalBounds.map fun bounds =>
    let engineScale := engineScale F snapshot.outputs
    let width := scaledEdge bounds.width engineScale
    let height := scaledEdge bounds.height engineScale
    { topologyEpoch := snapshot.epoch
      logicalOrigin := (bounds.x, bounds.y)
      logicalSize := (bounds.width, bounds.height)
      engineScale120 := maxScale120 snapshot.outputs
      pixelSize := ⟨Nat.max width 1, Nat.max height 1⟩
      outputs := snapshot.outputs.map (atlasOutput bounds engineScale) }

/-- The coefficients of a transform on the oriented pixels: `scale_x, skew_x, translate_x, skew_y, scale_y, translate_y`. -/
def OutputTransform.coefficients (transform : OutputTransform) (width height : F) : OutputProjection F :=
  let zero : F := ofInt 0
  let one : F := ofInt 1
  let minus : F := ofInt (-1)
  match transform with
  | .normal => ⟨one, zero, zero, zero, one, zero⟩
  | .rotate90 => ⟨zero, minus, height, one, zero, zero⟩
  | .rotate180 => ⟨minus, zero, width, zero, minus, height⟩
  | .rotate270 => ⟨zero, one, zero, minus, zero, width⟩
  | .flipped => ⟨minus, zero, width, zero, one, zero⟩
  | .flipped90 => ⟨zero, one, zero, one, zero, zero⟩
  | .flipped180 => ⟨one, zero, zero, zero, minus, height⟩
  | .flipped270 => ⟨zero, minus, height, minus, zero, width⟩

def OutputProjection.forOutput (output : OutputSpec) (source : PixelRect) : OutputProjection F :=
  let oriented := output.transformedPixelSize
  let width : F := ofInt oriented.width
  let height : F := ofInt oriented.height
  let sourceScaleX := div width (ofInt source.width)
  let sourceScaleY := div height (ofInt source.height)
  let c := output.transform.coefficients width height
  let sourceX : F := ofInt source.x
  let sourceY : F := ofInt source.y
  { scaleX := mul c.scaleX sourceScaleX
    skewX := mul c.skewX sourceScaleY
    translateX := sub (sub c.translateX (mul (mul c.scaleX sourceScaleX) sourceX))
      (mul (mul c.skewX sourceScaleY) sourceY)
    skewY := mul c.skewY sourceScaleX
    scaleY := mul c.scaleY sourceScaleY
    translateY := sub (sub c.translateY (mul (mul c.skewY sourceScaleX) sourceX))
      (mul (mul c.scaleY sourceScaleY) sourceY) }

end

/-! ## Rounding -/

theorem roundHalfAway_of_nonneg {q : ℚ} (h : 0 ≤ q) : roundHalfAway q = ⌊q + 1 / 2⌋ := if_pos h

theorem roundHalfAway_nonneg {q : ℚ} (h : 0 ≤ q) : 0 ≤ roundHalfAway q := by
  rw [roundHalfAway_of_nonneg h]; exact Int.floor_nonneg.2 (by linarith)

theorem roundHalfAway_add_nat {a : ℚ} (ha : 0 ≤ a) (n : Nat) : roundHalfAway (a + n) = roundHalfAway a + n := by
  rw [roundHalfAway_of_nonneg ha, roundHalfAway_of_nonneg (by positivity), add_right_comm, Int.floor_add_natCast]

theorem scaledEdge_eq {value s : ℚ} (h : 0 ≤ value * s) (hf : roundHalfAway (value * s) ≤ u32Max) :
    (scaledEdge value s : Int) = roundHalfAway (value * s) := by
  have hn := roundHalfAway_nonneg h
  show ((clamp (roundHalfAway (value * s)) 0 u32Max).toNat : Int) = _; unfold clamp
  rw [if_neg (not_lt.2 hn), if_neg (not_lt.2 hf)]; exact Int.toNat_of_nonneg hn

theorem scaledEdge_mono {a b scale : ℚ} (hs : 0 ≤ scale) (h : a ≤ b) : scaledEdge a scale ≤ scaledEdge b scale := by
  have hr : roundHalfAway (a * scale) ≤ roundHalfAway (b * scale) :=
    roundHalfAway_monotone (mul_le_mul_of_nonneg_right h hs)
  show (clamp (roundHalfAway (a * scale)) 0 u32Max).toNat ≤ (clamp (roundHalfAway (b * scale)) 0 u32Max).toNat
  refine Int.toNat_le_toNat ?_; unfold clamp
  split_ifs <;> omega

/-- An extent that covers `n` pixels keeps them when its edges are rounded, and has no others when it is
just as long. -/
theorem scaledEdge_extent {org extent scale : ℚ} {n : Nat} (ho : 0 ≤ org) (hs : 0 ≤ scale)
    (hex : n ≤ extent * scale) (hfi : roundHalfAway ((org + extent) * scale) ≤ u32Max) :
    scaledEdge org scale + n ≤ scaledEdge (org + extent) scale ∧
      (extent * scale = n → scaledEdge (org + extent) scale = scaledEdge org scale + n) := by
  have hf : 0 ≤ org * scale := mul_nonneg ho hs
  have hr : (org + extent) * scale = org * scale + extent * scale := add_mul ..
  have hn : (0 : ℚ) ≤ n := Nat.cast_nonneg n
  have hm := roundHalfAway_add_nat hf n
  have hle : roundHalfAway (org * scale + n) ≤ roundHalfAway ((org + extent) * scale) := by
    rw [hr]
    exact roundHalfAway_monotone (by linarith)
  have hd : (scaledEdge (org + extent) scale : Int) = roundHalfAway ((org + extent) * scale) :=
    scaledEdge_eq (by rw [hr]; linarith) hfi
  have hst := scaledEdge_eq hf (by omega)
  constructor
  · omega
  · intro he
    rw [hr, he, hm] at hd; omega

/-! ## Bounds -/

theorem foldl_bounds (outputs : List OutputSpec) : ∀ left top right bottom : ℚ,
    let (l, t, r, b) := outputs.foldl (fun (left, top, right, bottom) output =>
      let rect := output.logicalRect ℚ
      (LogicalArith.min left rect.x, LogicalArith.min top rect.y, LogicalArith.max right rect.right,
        LogicalArith.max bottom rect.bottom)) (left, top, right, bottom)
    (l ≤ left ∧ t ≤ top ∧ right ≤ r ∧ bottom ≤ b) ∧ ∀ output ∈ outputs, l ≤ (output.logicalRect ℚ).x ∧
      t ≤ (output.logicalRect ℚ).y ∧ (output.logicalRect ℚ).right ≤ r ∧ (output.logicalRect ℚ).bottom ≤ b := by
  have hn : ∀ a b : ℚ, LogicalArith.min a b ≤ a ∧ LogicalArith.min a b ≤ b := fun a b => by
    show (if a < b then a else b) ≤ a ∧ (if a < b then a else b) ≤ b
    split_ifs with h
    · exact ⟨le_refl _, h.le⟩
    · exact ⟨not_lt.1 h, le_refl _⟩
  have hm : ∀ a b : ℚ, a ≤ LogicalArith.max a b ∧ b ≤ LogicalArith.max a b := fun a b => by
    show a ≤ (if b < a then a else b) ∧ b ≤ (if b < a then a else b)
    split_ifs with h
    · exact ⟨le_refl _, h.le⟩
    · exact ⟨not_lt.1 h, le_refl _⟩
  induction outputs with
  | nil => simp
  | cons output outputs ih =>
    intro left top right bottom
    obtain ⟨⟨hl, ht, hr, hb⟩, hal⟩ := ih (LogicalArith.min left (output.logicalRect ℚ).x)
      (LogicalArith.min top (output.logicalRect ℚ).y) (LogicalArith.max right (output.logicalRect ℚ).right)
      (LogicalArith.max bottom (output.logicalRect ℚ).bottom)
    refine ⟨⟨hl.trans (hn ..).1, ht.trans (hn ..).1, (hm ..).1.trans hr, (hm ..).1.trans hb⟩,
      List.forall_mem_cons.2
        ⟨⟨hl.trans (hn ..).2, ht.trans (hn ..).2, (hm ..).2.trans hr, (hm ..).2.trans hb⟩, hal⟩⟩

variable {outputs : List OutputSpec} {output : OutputSpec}

theorem logicalBounds_contain {bnds : LogicalRect ℚ} (h : logicalBounds ℚ outputs = some bnds) :
    ∀ output ∈ outputs, bnds.x ≤ (output.logicalRect ℚ).x ∧ bnds.y ≤ (output.logicalRect ℚ).y ∧
      (output.logicalRect ℚ).right ≤ bnds.x + bnds.width ∧ (output.logicalRect ℚ).bottom ≤ bnds.y + bnds.height := by
  cases outputs with
  | nil => cases h
  | cons first rest =>
    cases h
    obtain ⟨hf, hr⟩ := foldl_bounds rest (first.logicalRect ℚ).x (first.logicalRect ℚ).y
      (first.logicalRect ℚ).right (first.logicalRect ℚ).bottom
    generalize rest.foldl _ _ = edges at hf hr ⊢
    obtain ⟨left, top, right, bottom⟩ := edges
    have hs : ∀ a b : ℚ, a + LogicalArith.sub b a = b := fun a b => add_sub_cancel a b
    simp only [hs]; exact List.forall_mem_cons.2 ⟨hf, hr⟩

/-! ## Pixels -/

def PixelRect.pixels (r : PixelRect) : Set (Nat × Nat) :=
  {p | (r.x ≤ p.1 ∧ p.1 < r.x + r.width) ∧ r.y ≤ p.2 ∧ p.2 < r.y + r.height}

def PixelSize.pixels (size : PixelSize) : Set (Nat × Nat) := {p | p.1 < size.width ∧ p.2 < size.height}

/-- The middle of a pixel. -/
def centre (p : Nat × Nat) : ℚ × ℚ := (p.1 + 1 / 2, p.2 + 1 / 2)

def OutputProjection.apply (t : OutputProjection ℚ) (p : ℚ × ℚ) : ℚ × ℚ :=
  (t.scaleX * p.1 + t.skewX * p.2 + t.translateX, t.skewY * p.1 + t.scaleY * p.2 + t.translateY)

def OutputProjection.OneToOne (t : OutputProjection ℚ) (source : PixelRect) (target : PixelSize) : Prop :=
  ∃ f : Nat × Nat → Nat × Nat, Set.BijOn f source.pixels target.pixels ∧
    ∀ p ∈ source.pixels, t.apply (centre p) = centre (f p)

/-- Where a transform takes a pixel of an oriented rectangle. -/
def OutputTransform.pixel (transform : OutputTransform) (r : PixelRect) (p : Nat × Nat) : Nat × Nat :=
  let u := p.1 - r.x
  let v := p.2 - r.y
  match transform with
  | .normal => (u, v)
  | .rotate90 => (r.height - 1 - v, u)
  | .rotate180 => (r.width - 1 - u, r.height - 1 - v)
  | .rotate270 => (v, r.width - 1 - u)
  | .flipped => (r.width - 1 - u, v)
  | .flipped90 => (v, u)
  | .flipped180 => (u, r.height - 1 - v)
  | .flipped270 => (r.height - 1 - v, r.width - 1 - u)

def OutputTransform.native (transform : OutputTransform) (size : PixelSize) : PixelSize :=
  if transform.swapsAxes then ⟨size.height, size.width⟩ else size

/-- Where it takes a pixel of the native size back to. -/
def OutputTransform.pixelBack (transform : OutputTransform) (r : PixelRect) (p : Nat × Nat) : Nat × Nat :=
  match transform with
  | .normal => (r.x + p.1, r.y + p.2)
  | .rotate90 => (r.x + p.2, r.y + (r.height - 1 - p.1))
  | .rotate180 => (r.x + (r.width - 1 - p.1), r.y + (r.height - 1 - p.2))
  | .rotate270 => (r.x + (r.width - 1 - p.2), r.y + p.1)
  | .flipped => (r.x + (r.width - 1 - p.1), r.y + p.2)
  | .flipped90 => (r.x + p.2, r.y + p.1)
  | .flipped180 => (r.x + p.1, r.y + (r.height - 1 - p.2))
  | .flipped270 => (r.x + (r.width - 1 - p.2), r.y + (r.height - 1 - p.1))

theorem pixel_bijOn (tr : OutputTransform) (r : PixelRect) :
    Set.BijOn (tr.pixel r) r.pixels (tr.native r.size).pixels := by
  refine Set.InvOn.bijOn (show Set.InvOn (tr.pixelBack r) _ _ _ from ⟨?_, ?_⟩) ?_ ?_
  all_goals
    rintro ⟨i, j⟩ hp
    cases tr <;>
      simp only [pixel, pixelBack, native, swapsAxes,
        PixelRect.size, PixelRect.pixels, PixelSize.pixels, Set.mem_ofPred_eq, if_true, Bool.false_eq_true, if_false,
        Prod.mk.injEq] at hp ⊢ <;> omega

theorem forOutput_oneToOne {source : PixelRect} (hs : source.size = output.transformedPixelSize)
    (hw : 0 < source.width) (hh : 0 < source.height) :
    (OutputProjection.forOutput output source : OutputProjection ℚ).OneToOne source output.mode := by
  have hn : output.transform.native source.size = output.mode := by
    rw [hs]
    unfold native OutputSpec.transformedPixelSize
    cases output.transform <;> rfl
  refine ⟨output.transform.pixel source, hn ▸ pixel_bijOn output.transform source, ?_⟩
  rintro ⟨i, j⟩ ⟨⟨hx, hx'⟩, hy, hy'⟩
  have ho : output.transformedPixelSize = ⟨source.width, source.height⟩ := hs.symm
  have hsx : ((source.width : Int) : ℚ) / ((source.width : Int) : ℚ) = 1 := div_self (by positivity)
  have hsy : ((source.height : Int) : ℚ) / ((source.height : Int) : ℚ) = 1 := div_self (by positivity)
  -- the pixel counted from the corner, and from the far sides
  obtain ⟨u, rfl⟩ := Nat.exists_eq_add_of_le hx
  obtain ⟨v, rfl⟩ := Nat.exists_eq_add_of_le hy
  obtain ⟨u', hu⟩ := Nat.exists_eq_add_of_lt (show u < source.width by dsimp only at hx'; omega)
  obtain ⟨v', hv⟩ := Nat.exists_eq_add_of_lt (show v < source.height by dsimp only at hy'; omega)
  have hfu : source.width - 1 - u = u' := by omega
  have hfv : source.height - 1 - v = v' := by omega
  have hwq : ((source.width : Int) : ℚ) = u + u' + 1 := by rw [hu]; push_cast; ring
  have hhq : ((source.height : Int) : ℚ) = v + v' + 1 := by rw [hv]; push_cast; ring
  unfold OutputProjection.forOutput OutputProjection.apply centre
  simp only [ho, LogicalArith.ofInt, LogicalArith.div, LogicalArith.sub, AtlasArith.mul, hsx, hsy]
  cases output.transform <;>
    simp only [coefficients, pixel, LogicalArith.ofInt,
      Nat.add_sub_cancel_left, hfu, hfv,
      Prod.mk.injEq, hwq, hhq] <;> push_cast <;> constructor <;> ring

/-! ## Packing -/

structure ValidSnapshot (s : TopologySnapshot ℚ) : Prop where
  outputs : validateOutputs ℚ s.outputs = .ok ()
  bounds : s.logicalBounds = logicalBounds ℚ s.outputs

/-- The scaled edges of the outputs fit in `u32`. -/
def EdgesFit (s : TopologySnapshot ℚ) : Prop :=
  ∀ bounds, s.logicalBounds = some bounds → ∀ output ∈ s.outputs,
    roundHalfAway (((output.logicalRect ℚ).right - bounds.x) * engineScale ℚ s.outputs) ≤ u32Max ∧
      roundHalfAway (((output.logicalRect ℚ).bottom - bounds.y) * engineScale ℚ s.outputs) ≤ u32Max

theorem scale_le_maxScale120 (h : output ∈ outputs) : output.scale120 ≤ maxScale120 outputs :=
  List.le_max?_getD_of_mem (List.mem_map_of_mem h)

/-- A side of an output, scaled: `n` pixels at the output's scale are at least as many at a greater one. -/
theorem scaled_side {n scale engine : Nat} (hs : 0 < scale) (h : scale ≤ engine) :
    let side : ℚ := LogicalArith.div (LogicalArith.ofInt (n : Nat))
      (LogicalArith.div (LogicalArith.ofInt (scale : Nat)) (LogicalArith.ofInt scaleBase))
    let f : ℚ := LogicalArith.div (LogicalArith.ofInt (engine : Nat)) (LogicalArith.ofInt scaleBase)
    n ≤ side * f ∧ (scale = engine → side * f = n) := by
  intro side f
  have hpos : (0 : ℚ) < scale := by exact_mod_cast hs
  have hle : (scale : ℚ) ≤ engine := by exact_mod_cast h
  have hr : side * f = n * (engine / scale) := by
    show ((n : Int) : ℚ) / (((scale : Int) : ℚ) / ((120 : Int) : ℚ)) * (((engine : Int) : ℚ) / ((120 : Int) : ℚ)) = _
    push_cast
    field_simp
  rw [hr]
  constructor
  · have : (1 : ℚ) ≤ engine / scale := (one_le_div hpos).2 hle
    exact le_mul_of_one_le_right (Nat.cast_nonneg n) this
  · rintro rfl; rw [div_self hpos.ne', mul_one]

/-- What the rounding of one output's edges gives: its rectangle spans the rounded edges, is not empty, and at
the engine's scale has the output's own size. -/
structure Spans (bounds : LogicalRect ℚ) (scale : ℚ) (engine : Nat) (output : OutputSpec) (r : PixelRect) : Prop where
  left : r.x = scaledEdge ((output.logicalRect ℚ).x - bounds.x) scale
  top : r.y = scaledEdge ((output.logicalRect ℚ).y - bounds.y) scale
  right : r.x + r.width = scaledEdge ((output.logicalRect ℚ).right - bounds.x) scale
  bottom : r.y + r.height = scaledEdge ((output.logicalRect ℚ).bottom - bounds.y) scale
  width : 0 < r.width
  height : 0 < r.height
  exact : output.scale120 = engine → r.size = output.transformedPixelSize

theorem transformedPixelSize_pos (hw : output.mode.width ≠ 0) (hh : output.mode.height ≠ 0) :
    0 < output.transformedPixelSize.width ∧ 0 < output.transformedPixelSize.height := by
  unfold OutputSpec.transformedPixelSize; split
  · exact ⟨Nat.pos_of_ne_zero hh, Nat.pos_of_ne_zero hw⟩
  · exact ⟨Nat.pos_of_ne_zero hw, Nat.pos_of_ne_zero hh⟩

theorem logicalRect_le (output : OutputSpec) : (output.logicalRect ℚ).x ≤ (output.logicalRect ℚ).right ∧
    (output.logicalRect ℚ).y ≤ (output.logicalRect ℚ).bottom := by
  have hs : ∀ n : Nat, (0 : ℚ) ≤ ((n : Int) : ℚ) / (((output.scale120 : Int) : ℚ) / ((120 : Int) : ℚ)) :=
    fun n => by positivity
  exact ⟨le_add_of_nonneg_right (hs _), le_add_of_nonneg_right (hs _)⟩

theorem engineScale_nonneg (outputs : List OutputSpec) : 0 ≤ engineScale ℚ outputs := by
  show (0 : ℚ) ≤ ((maxScale120 outputs : Int) : ℚ) / ((120 : Int) : ℚ); positivity

theorem atlasOutput_spans {s : TopologySnapshot ℚ} (hs : ValidSnapshot s) (hf : EdgesFit s)
    {bnds : LogicalRect ℚ} (hn : s.logicalBounds = some bnds) (h : output ∈ s.outputs) :
    Spans bnds (engineScale ℚ s.outputs) (maxScale120 s.outputs) output
      (atlasOutput bnds (engineScale ℚ s.outputs) output).sourceRect := by
  have hv := ((validateOutputs_ok_iff ℚ _).1 hs.outputs).each output h
  obtain ⟨hx, hy, -, -⟩ := logicalBounds_contain (hs.bounds ▸ hn) output h
  obtain ⟨hfx, hfy⟩ := hf bnds hn output h
  obtain ⟨hwp, hhp⟩ := transformedPixelSize_pos hv.width hv.height
  have hsc := Nat.pos_of_ne_zero hv.scale
  have hd : (output.transformedPixelSize.width : ℚ) ≤ (output.logicalRect ℚ).width * engineScale ℚ s.outputs ∧
      (output.scale120 = maxScale120 s.outputs → (output.logicalRect ℚ).width * engineScale ℚ s.outputs = _) :=
    scaled_side hsc (scale_le_maxScale120 h)
  have hhi : (output.transformedPixelSize.height : ℚ) ≤ (output.logicalRect ℚ).height * engineScale ℚ s.outputs ∧
      (output.scale120 = maxScale120 s.outputs → (output.logicalRect ℚ).height * engineScale ℚ s.outputs = _) :=
    scaled_side hsc (scale_le_maxScale120 h)
  have hr : (output.logicalRect ℚ).right - bnds.x =
      ((output.logicalRect ℚ).x - bnds.x) + (output.logicalRect ℚ).width := add_sub_right_comm ..
  have hbo : (output.logicalRect ℚ).bottom - bnds.y =
      ((output.logicalRect ℚ).y - bnds.y) + (output.logicalRect ℚ).height := add_sub_right_comm ..
  obtain ⟨hsx, hex⟩ := scaledEdge_extent (sub_nonneg.2 hx) (engineScale_nonneg s.outputs) hd.1
    (hr ▸ hfx)
  obtain ⟨hsy, hey⟩ := scaledEdge_extent (sub_nonneg.2 hy) (engineScale_nonneg s.outputs) hhi.1
    (hbo ▸ hfy)
  rw [← hr] at hsx hex
  rw [← hbo] at hsy hey
  generalize hrec : (atlasOutput bnds (engineScale ℚ s.outputs) output).sourceRect = r
  have hle : r.x = scaledEdge ((output.logicalRect ℚ).x - bnds.x) (engineScale ℚ s.outputs) := by rw [← hrec]; rfl
  have hto : r.y = scaledEdge ((output.logicalRect ℚ).y - bnds.y) (engineScale ℚ s.outputs) := by rw [← hrec]; rfl
  have hwi : r.width =
      max (scaledEdge ((output.logicalRect ℚ).right - bnds.x) (engineScale ℚ s.outputs) - r.x) 1 := by
    rw [← hrec]; rfl
  have hhe : r.height =
      max (scaledEdge ((output.logicalRect ℚ).bottom - bnds.y) (engineScale ℚ s.outputs) - r.y) 1 := by
    rw [← hrec]; rfl
  refine ⟨hle, hto, by omega, by omega, by omega, by omega, fun he => ?_⟩
  have hw := hex (hd.2 he)
  have hh := hey (hhi.2 he)
  have : r.width = output.transformedPixelSize.width ∧ r.height = output.transformedPixelSize.height := by omega
  exact congrArg₂ PixelSize.mk this.1 this.2

theorem disjoint_pixels {a b : PixelRect} (h : a.x + a.width ≤ b.x ∨ b.x + b.width ≤ a.x ∨ a.y + a.height ≤ b.y ∨
    b.y + b.height ≤ a.y) : Disjoint a.pixels b.pixels := by
  refine Set.disjoint_left.2 ?_
  rintro ⟨i, j⟩ ⟨⟨_, _⟩, _, _⟩ ⟨⟨_, _⟩, _, _⟩; omega

/-- For every valid snapshot whose scaled edges fit in `u32`: each source rectangle is not empty and lies
inside the atlas, those of two outputs share no pixel, and an output at the engine's scale is sampled one
to one and projected pixel by pixel onto its mode. -/
theorem atlas_packing (s : TopologySnapshot ℚ) (plan : AtlasPlan ℚ) (hs : ValidSnapshot s) (hfits : EdgesFit s)
    (hplan : AtlasPlan.forSnapshot s = some plan) :
    List.Forall₂ (fun output planned => planned.id = output.id ∧
      planned.sourceRect.pixels ⊆ plan.pixelSize.pixels ∧
      planned.sourceRect.x + planned.sourceRect.width ≤ plan.pixelSize.width ∧
      planned.sourceRect.y + planned.sourceRect.height ≤ plan.pixelSize.height ∧
      0 < planned.sourceRect.width ∧ 0 < planned.sourceRect.height ∧
      (output.scale120 = plan.engineScale120 → planned.sampling = .oneToOne ∧
        planned.sourceRect.size = output.transformedPixelSize ∧
        (OutputProjection.forOutput output planned.sourceRect : OutputProjection ℚ).OneToOne planned.sourceRect
          output.mode))
      s.outputs plan.outputs ∧
    plan.outputs.Pairwise fun a b => Disjoint a.sourceRect.pixels b.sourceRect.pixels := by
  obtain ⟨bounds, hboun, rfl⟩ := Option.map_eq_some_iff.1 hplan
  have hcon := logicalBounds_contain (hs.bounds ▸ hboun)
  have hscal := engineScale_nonneg s.outputs
  constructor
  · refine List.forall₂_map_right_iff.2 (List.forall₂_same.2 fun output hout => ?_)
    have hspan := atlasOutput_spans hs hfits hboun hout
    obtain ⟨hx, hy, hrig, hbot⟩ := hcon output hout
    obtain ⟨hwid, hheig⟩ := logicalRect_le output
    -- the far edges of the output are not beyond those of the bounds
    have hwide : scaledEdge ((output.logicalRect ℚ).right - bounds.x) (engineScale ℚ s.outputs) ≤
        scaledEdge bounds.width (engineScale ℚ s.outputs) :=
      scaledEdge_mono hscal (by linarith)
    have hhig : scaledEdge ((output.logicalRect ℚ).bottom - bounds.y) (engineScale ℚ s.outputs) ≤
        scaledEdge bounds.height (engineScale ℚ s.outputs) :=
      scaledEdge_mono hscal (by linarith)
    have hinsX := (hspan.right.le.trans hwide).trans (le_max_left _ 1)
    have hinsY := (hspan.bottom.le.trans hhig).trans (le_max_left _ 1)
    refine ⟨rfl, ?_, hinsX, hinsY, hspan.width, hspan.height, fun heng => ?_⟩
    · rintro ⟨i, j⟩ ⟨⟨_, hi⟩, _, hj⟩; exact ⟨hi.trans_le hinsX, hj.trans_le hinsY⟩
    · have hsiz := hspan.exact heng
      exact ⟨if_pos hsiz, hsiz, forOutput_oneToOne hsiz hspan.width hspan.height⟩
  · refine List.pairwise_map.2 ?_
    have hpair := ((validateOutputs_ok_iff ℚ _).1 hs.outputs).pairs
    refine hpair.imp_of_mem fun {a b} ha hb hab => disjoint_pixels ?_
    have hspanA := atlasOutput_spans hs hfits hboun ha
    have hspanB := atlasOutput_spans hs hfits hboun hb
    obtain ⟨hxA, hyA, -, -⟩ := hcon a ha
    obtain ⟨hxB, hyB, -, -⟩ := hcon b hb
    obtain ⟨hwidA, hheigA⟩ := logicalRect_le a
    obtain ⟨hwidB, hheigB⟩ := logicalRect_le b
    have hapar : (b.logicalRect ℚ).right ≤ (a.logicalRect ℚ).x ∨ (a.logicalRect ℚ).right ≤ (b.logicalRect ℚ).x ∨
        (b.logicalRect ℚ).bottom ≤ (a.logicalRect ℚ).y ∨ (a.logicalRect ℚ).bottom ≤ (b.logicalRect ℚ).y := by
      have hdis := hab.disjoint
      simp only [logicalRectsOverlap, LogicalArith.lt, Bool.and_eq_false_iff, decide_eq_false_iff_not,
        not_lt] at hdis
      tauto
    rw [hspanA.right, hspanA.bottom, hspanB.right, hspanB.bottom, hspanA.left, hspanA.top,
      hspanB.left, hspanB.top]
    rcases hapar with h | h | h | h
    · exact .inr (.inl (scaledEdge_mono hscal (by linarith)))
    · exact .inl (scaledEdge_mono hscal (by linarith))
    · exact .inr (.inr (.inr (scaledEdge_mono hscal (by linarith))))
    · exact .inr (.inr (.inl (scaledEdge_mono hscal (by linarith))))

def monitor (id : OutputId) (name : String) (x : Int) (scale120 : Nat) : OutputSpec where
  id := id
  name := name
  position := ⟨x, 0⟩
  mode := ⟨1920, 1080⟩
  scale120 := scale120
  refreshMillihz := 60000
  transform := .rotate90
  subpixel := .unknown
  sizeMm := ⟨0, 0⟩

/-- Two panels side by side, the second one at one and a half times the scale. -/
def desk : TopologySnapshot ℚ where
  epoch := 1
  logicalBounds := logicalBounds ℚ [monitor 1 "left" 0 120, monitor 2 "right" 1080 180]
  ticker := some 1
  outputs := [monitor 1 "left" 0 120, monitor 2 "right" 1080 180]

theorem desk_valid : ValidSnapshot desk := by
  refine ⟨(validateOutputs_ok_iff ℚ _).2 ⟨fun o ho => ?_, List.pairwise_pair.2 ⟨by decide, by decide +kernel⟩⟩, rfl⟩
  simp only [desk, List.mem_cons, List.not_mem_nil, or_false] at ho
  rcases ho with rfl | rfl
  · exact ⟨⟨'l', List.mem_cons_self .., rfl⟩, by decide, by decide, by decide, by decide, by decide +kernel⟩
  · exact ⟨⟨'r', List.mem_cons_self .., rfl⟩, by decide, by decide, by decide, by decide, by decide +kernel⟩

theorem atlas_packing_desk : ∃ plan : AtlasPlan ℚ, AtlasPlan.forSnapshot desk = some plan ∧
    plan.outputs.map (·.sourceRect) = [⟨0, 0, 1620, 2880⟩, ⟨1620, 0, 1080, 1920⟩] ∧
    plan.outputs.Pairwise fun a b => Disjoint a.sourceRect.pixels b.sourceRect.pixels := by
  have hfit : EdgesFit desk := by
    intro bounds hboun; cases hboun
    decide +kernel
  exact ⟨_, rfl, by decide +kernel, (atlas_packing desk _ desk_valid hfit rfl).2⟩

end Deniald.Topology
