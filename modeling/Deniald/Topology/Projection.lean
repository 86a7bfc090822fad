/-
Where an output shows a point (topology.rs, `native_to_logical` and `OutputProjection`). Both place a point in a
rectangle by its share of the sides, so they are inverse because the eight maps of the unit square are.
-/
import Deniald.Topology.Atlas

namespace Deniald.Topology

open Deniald.Lib
open LogicalArith

/-! ## Model -/

section

variable {F : Type} [AtlasArith F]

open LogicalArith AtlasArith

/-- Maps a normalized point of the connector's native axes back into the logical axes of the output. -/
def OutputTransform.nativeToLogical (transform : OutputTransform) (x y : F) : F × F :=
  let one : F := ofInt 1
  match transform with
  | .normal => (x, y)
  | .rotate90 => (y, sub one x)
  | .rotate180 => (sub one x, sub one y)
  | .rotate270 => (sub one y, x)
  | .flipped => (sub one x, y)
  | .flipped90 => (y, x)
  | .flipped180 => (x, sub one y)
  | .flipped270 => (sub one y, sub one x)

end

/-! ## Points of a rectangle -/

/-- The point of a rectangle at the given shares of its sides. -/
def place (corner size share : ℚ × ℚ) : ℚ × ℚ := corner + size * share

def shareOf (corner size point : ℚ × ℚ) : ℚ × ℚ := (point - corner) / size

section

variable {corner size : ℚ × ℚ}

theorem place_shareOf (hw : 0 < size.1) (hh : 0 < size.2) (point : ℚ × ℚ) :
    place corner size (shareOf corner size point) = point := by
  ext
  · show corner.1 + size.1 * ((point.1 - corner.1) / size.1) = point.1
    rw [mul_div_cancel₀ _ hw.ne', add_sub_cancel]
  · show corner.2 + size.2 * ((point.2 - corner.2) / size.2) = point.2
    rw [mul_div_cancel₀ _ hh.ne', add_sub_cancel]

theorem shareOf_place (corner : ℚ × ℚ) (hw : 0 < size.1) (hh : 0 < size.2) (share : ℚ × ℚ) :
    shareOf corner size (place corner size share) = share := by
  ext
  · show (corner.1 + size.1 * share.1 - corner.1) / size.1 = share.1
    rw [add_sub_cancel_left, mul_div_cancel_left₀ _ hw.ne']
  · show (corner.2 + size.2 * share.2 - corner.2) / size.2 = share.2
    rw [add_sub_cancel_left, mul_div_cancel_left₀ _ hh.ne']

theorem place_mem_iff (hw : 0 < size.1) (hh : 0 < size.2) (sh : ℚ × ℚ) :
    place corner size sh ∈ Set.Icc corner (corner + size) ↔ sh ∈ Set.Icc (0 : ℚ × ℚ) 1 := by
  have hd : ∀ {c s u : ℚ}, 0 < s → ((c ≤ c + s * u ∧ c + s * u ≤ c + s) ↔ (0 ≤ u ∧ u ≤ 1)) := by
    intro c s u hs
    rw [le_add_iff_nonneg_right, add_le_add_iff_left, mul_nonneg_iff_of_pos_left hs, mul_le_iff_le_one_right hs]
  have h1 := @hd corner.1 size.1 sh.1 hw
  have h2 := @hd corner.2 size.2 sh.2 hh
  constructor
  · rintro ⟨⟨hf, hto⟩, hr, hbo⟩
    exact ⟨⟨(h1.1 ⟨hf, hr⟩).1, (h2.1 ⟨hto, hbo⟩).1⟩, (h1.1 ⟨hf, hr⟩).2, (h2.1 ⟨hto, hbo⟩).2⟩
  · rintro ⟨⟨hf, hto⟩, hr, hbo⟩
    exact ⟨⟨(h1.2 ⟨hf, hr⟩).1, (h2.2 ⟨hto, hbo⟩).1⟩, (h1.2 ⟨hf, hr⟩).2, (h2.2 ⟨hto, hbo⟩).2⟩

end

/-! ## The unit square -/

/-- The transform that takes one back. -/
def OutputTransform.inverse : OutputTransform → OutputTransform
  | .rotate90 => .rotate270
  | .rotate270 => .rotate90
  | transform => transform

@[simp] theorem OutputTransform.inverse_inverse (transform : OutputTransform) :
    transform.inverse.inverse = transform := by
  cases transform <;> rfl

/-- `native_to_logical` on exact points. -/
def OutputTransform.square (transform : OutputTransform) (share : ℚ × ℚ) : ℚ × ℚ :=
  transform.nativeToLogical share.1 share.2

theorem OutputTransform.square_inverse (tr : OutputTransform) (share : ℚ × ℚ) :
    tr.square (tr.inverse.square share) = share := by
  have hba : ∀ z : ℚ, sub (ofInt 1) (sub (ofInt 1) z) = z :=
    fun z => sub_sub_cancel _ _
  cases tr <;> simp [square, inverse, nativeToLogical, hba]

theorem OutputTransform.square_mem (tr : OutputTransform) {s : ℚ × ℚ}
    (h : s ∈ Set.Icc (0 : ℚ × ℚ) 1) : tr.square s ∈ Set.Icc (0 : ℚ × ℚ) 1 := by
  obtain ⟨⟨hx, hy⟩, hx', hy'⟩ := h
  have hf : ∀ {z : ℚ}, 0 ≤ z → z ≤ 1 →
      0 ≤ (sub (ofInt 1) z : ℚ) ∧ (sub (ofInt 1) z : ℚ) ≤ 1 :=
    fun h0 h1 => ⟨sub_nonneg.2 h1, sub_le_self _ h0⟩
  obtain ⟨hfx, hfx'⟩ := hf hx hx'
  obtain ⟨hfy, hfy'⟩ := hf hy hy'; cases tr
  · exact ⟨⟨hx, hy⟩, hx', hy'⟩
  · exact ⟨⟨hy, hfx⟩, hy', hfx'⟩
  · exact ⟨⟨hfx, hfy⟩, hfx', hfy'⟩
  · exact ⟨⟨hfy, hx⟩, hfy', hx'⟩
  · exact ⟨⟨hfx, hy⟩, hfx', hy'⟩
  · exact ⟨⟨hy, hx⟩, hy', hx'⟩
  · exact ⟨⟨hx, hfy⟩, hx', hfy'⟩
  · exact ⟨⟨hfy, hfx⟩, hfy', hfx'⟩

/-! ## Projection and pointer -/

/-- The upper left corner of a rectangle of pixels. -/
def PixelRect.corner (r : PixelRect) : ℚ × ℚ := (r.x, r.y)

def PixelRect.sides (r : PixelRect) : ℚ × ℚ := (r.width, r.height)

def PixelSize.sides (size : PixelSize) : ℚ × ℚ := (size.width, size.height)

/-- Where a native pixel's point lies in the source: `native_to_logical` between the shares of the mode and of
the source rectangle. -/
def nativeToSource (output : OutputSpec) (source : PixelRect) (point : ℚ × ℚ) : ℚ × ℚ :=
  place source.corner source.sides (output.transform.square (shareOf 0 output.mode.sides point))

theorem forOutput_apply {out : OutputSpec} {source : PixelRect} (hw : 0 < source.width)
    (hh : 0 < source.height) (pt : ℚ × ℚ) : (OutputProjection.forOutput out source : OutputProjection ℚ).apply pt =
      place 0 out.mode.sides (out.transform.inverse.square (shareOf source.corner source.sides pt)) := by
  obtain ⟨x, y⟩ := pt
  unfold OutputProjection.forOutput OutputProjection.apply place shareOf OutputTransform.square
  cases hr : out.transform <;>
    simp only [OutputTransform.coefficients, OutputTransform.inverse, OutputTransform.nativeToLogical,
      OutputSpec.transformedPixelSize, OutputTransform.swapsAxes, hr, PixelRect.corner, PixelRect.sides,
      PixelSize.sides, ofInt, div, sub, AtlasArith.mul, if_true,
      Bool.false_eq_true, if_false, Prod.mk_mul_mk, Prod.mk_sub_mk, Prod.mk_div_mk, zero_add,
      Prod.mk.injEq] <;>
    constructor <;> push_cast <;> field_simp <;> ring

/-- The mapping of the pointer and the projection of the output undo each other, and the projection takes the
source rectangle onto the whole mode. -/
theorem projection_inverse (output : OutputSpec) (source : PixelRect)
    (hsource : 0 < source.width ∧ 0 < source.height) (hmode : 0 < output.mode.width ∧ 0 < output.mode.height) :
    Function.LeftInverse (nativeToSource output source)
      (OutputProjection.forOutput output source : OutputProjection ℚ).apply ∧
    Function.RightInverse (nativeToSource output source)
      (OutputProjection.forOutput output source : OutputProjection ℚ).apply ∧
    (OutputProjection.forOutput output source : OutputProjection ℚ).apply ''
        Set.Icc ((source.x : ℚ), (source.y : ℚ)) (source.x + source.width, source.y + source.height) =
      Set.Icc (0, 0) ((output.mode.width : ℚ), (output.mode.height : ℚ)) := by
  have happl := @forOutput_apply output source hsource.1 hsource.2
  have hwid : (0 : ℚ) < source.sides.1 := Nat.cast_pos.2 hsource.1
  have hheig : (0 : ℚ) < source.sides.2 := Nat.cast_pos.2 hsource.2
  have hmodW : (0 : ℚ) < output.mode.sides.1 := Nat.cast_pos.2 hmode.1
  have hmodH : (0 : ℚ) < output.mode.sides.2 := Nat.cast_pos.2 hmode.2
  have hlef : Function.LeftInverse (nativeToSource output source)
      (OutputProjection.forOutput output source : OutputProjection ℚ).apply := by
    intro point; unfold nativeToSource
    rw [happl, shareOf_place _ hmodW hmodH, OutputTransform.square_inverse, place_shareOf hwid hheig]
  have hrig : Function.RightInverse (nativeToSource output source)
      (OutputProjection.forOutput output source : OutputProjection ℚ).apply := by
    intro point; rw [happl]
    unfold nativeToSource; rw [shareOf_place _ hwid hheig]
    conv => lhs; rw [← OutputTransform.inverse_inverse output.transform]
    rw [OutputTransform.inverse_inverse output.transform.inverse, OutputTransform.square_inverse,
      place_shareOf hmodW hmodH]
  refine ⟨hlef, hrig, ?_⟩
  -- both rectangles hold the points whose shares are in the unit square
  have hsquar : ∀ point, point ∈ Set.Icc source.corner (source.corner + source.sides) ↔
      shareOf source.corner source.sides point ∈ Set.Icc (0 : ℚ × ℚ) 1 := by
    intro point
    rw [← place_mem_iff hwid hheig, place_shareOf hwid hheig]
  have hmodS : ∀ share, place 0 output.mode.sides share ∈ Set.Icc (0 : ℚ × ℚ) (0 + output.mode.sides) ↔
      share ∈ Set.Icc (0 : ℚ × ℚ) 1 := place_mem_iff hmodW hmodH
  rw [zero_add] at hmodS
  ext point
  constructor
  · rintro ⟨point, hpoin, rfl⟩; rw [happl]
    exact (hmodS _).2 (OutputTransform.square_mem _ ((hsquar point).1 hpoin))
  · intro hpoin
    refine ⟨nativeToSource output source point, (hsquar _).2 ?_, hrig point⟩; unfold nativeToSource
    rw [shareOf_place _ hwid hheig]
    refine OutputTransform.square_mem _ ((hmodS _).1 ?_)
    rwa [place_shareOf hmodW hmodH]

def sidePanel : OutputSpec where
  id := 1
  name := "DSI-1"
  position := ⟨1920, 0⟩
  mode := ⟨800, 1280⟩
  scale120 := 120
  refreshMillihz := 60000
  transform := .rotate90
  subpixel := .unknown
  sizeMm := ⟨0, 0⟩

theorem projection_inverse_side :
    Function.LeftInverse (nativeToSource sidePanel ⟨1920, 0, 1280, 800⟩)
      (OutputProjection.forOutput sidePanel ⟨1920, 0, 1280, 800⟩ : OutputProjection ℚ).apply ∧
    (OutputProjection.forOutput sidePanel ⟨1920, 0, 1280, 800⟩ : OutputProjection ℚ).apply ''
      Set.Icc (1920, 0) (3200, 800) = Set.Icc (0, 0) (800, 1280) := by
  obtain ⟨hlef, -, himag⟩ := projection_inverse sidePanel ⟨1920, 0, 1280, 800⟩ (by decide) (by decide)
  refine ⟨hlef, ?_⟩
  norm_num [sidePanel] at himag ⊢
  exact himag

/-! ## Absolute devices -/

/-- An absolute device's event, by its shares of the device's range, on the output it is bound to. -/
def outputBoundAbsolutePosition (share : ℚ × ℚ) (bounds : LogicalRect ℚ) (transform : OutputTransform) : ℚ × ℚ :=
  let logical := transform.nativeToLogical (clamp share.1 0 1) (clamp share.2 0 1)
  (bounds.x + logical.1 * bounds.width, bounds.y + logical.2 * bounds.height)

/-- A device touched where its output shows a point of its source lands at the same shares of the output's bounds. -/
theorem touch_lands {output : OutputSpec} {source : PixelRect} {point : ℚ × ℚ} (bounds : LogicalRect ℚ)
    (hsource : 0 < source.width ∧ 0 < source.height) (hmode : 0 < output.mode.width ∧ 0 < output.mode.height)
    (hpoint : point ∈ Set.Icc source.corner (source.corner + source.sides)) : outputBoundAbsolutePosition
        (shareOf 0 output.mode.sides ((OutputProjection.forOutput output source : OutputProjection ℚ).apply point))
        bounds output.transform =
      place (bounds.x, bounds.y) (bounds.width, bounds.height) (shareOf source.corner source.sides point) := by
  have hw : (0 : ℚ) < source.sides.1 := Nat.cast_pos.2 hsource.1
  have hh : (0 : ℚ) < source.sides.2 := Nat.cast_pos.2 hsource.2
  rw [forOutput_apply hsource.1 hsource.2, shareOf_place 0 (Nat.cast_pos.2 hmode.1) (Nat.cast_pos.2 hmode.2)]
  generalize hs : shareOf source.corner source.sides point = share
  have hm : share ∈ Set.Icc (0 : ℚ × ℚ) 1 := by
    rw [← place_mem_iff hw hh, ← hs, place_shareOf hw hh]; exact hpoint
  obtain ⟨⟨h1, h2⟩, h3, h4⟩ := output.transform.inverse.square_mem hm
  unfold outputBoundAbsolutePosition
  rw [clamp_of_mem (show (0 : ℚ) ≤ _ from h1) (show _ ≤ (1 : ℚ) from h3),
    clamp_of_mem (show (0 : ℚ) ≤ _ from h2) (show _ ≤ (1 : ℚ) from h4),
    show output.transform.nativeToLogical _ _ = share from output.transform.square_inverse share]
  ext
  · exact congrArg (bounds.x + ·) (mul_comm ..)
  · exact congrArg (bounds.y + ·) (mul_comm ..)

theorem touch_lands_side : outputBoundAbsolutePosition
    (shareOf 0 sidePanel.mode.sides ((OutputProjection.forOutput sidePanel ⟨1920, 0, 1280, 800⟩).apply (2560, 400)))
      ⟨1920, 0, 1280, 800⟩ sidePanel.transform =
    place (1920, 0) (1280, 800) (shareOf (1920, 0) (1280, 800) (2560, 400)) := by
  have h := @touch_lands sidePanel ⟨1920, 0, 1280, 800⟩ (2560, 400) ⟨1920, 0, 1280, 800⟩ (by decide)
    (by decide) (by norm_num [PixelRect.corner, PixelRect.sides, Prod.le_def])
  simpa [PixelRect.corner, PixelRect.sides] using h

end Deniald.Topology
