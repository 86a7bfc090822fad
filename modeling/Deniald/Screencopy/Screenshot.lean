/-
The interactive screenshot (screenshot.rs): the region chosen on the frozen canvas is clamped to the canvas and its
edges are scaled to the pixels of the atlas and rounded. As in a capture, a side that comes out empty is raised to one
pixel where it starts, which for a region within the last half pixel is one pixel too far.
-/
import Deniald.Flutter.SystemCommand
import Deniald.Screencopy.Regions
import Deniald.Topology.Atlas

namespace Deniald.Screencopy.Screenshot

open Deniald.Flutter.SystemCommand (ScreenshotRegion decodeRegion decodeRegion_some_iff)
open Deniald.Lib
open Deniald.Layout (Rect)
open Deniald.Topology (AtlasPlan)
open Regions

/-! ## Model -/

/-- A region as the decoder lets it through. -/
structure Region where
  x : ℚ
  y : ℚ
  width : ℚ
  height : ℚ
  origin : 0 ≤ x ∧ 0 ≤ y
  size : 0 < width ∧ 0 < height

def clampEdges (start extent logical : ℚ) : ℚ × ℚ := (clamp start 0 logical, clamp (start + extent) 0 logical)

def projectEdge (logical : ℚ) (pixels : Nat) (edge : ℚ) : Int := clamp (roundHalfAway (edge * pixels / logical)) 0 pixels

/-- Where a side starts and its extent. -/
def projectSide (logical : ℚ) (pixels : Nat) (edges : ℚ × ℚ) : Option (Int × Int) := do
  let low := projectEdge logical pixels edges.1
  let extent ← toI64 (projectEdge logical pixels edges.2 - low)
  some (← toI32 low, ← toI32 (max extent 1))

def projectRequest (region : Option Region) (atlas : AtlasPlan ℚ) : Option Rect :=
  let logicalWidth := atlas.logicalSize.1
  let logicalHeight := atlas.logicalSize.2
  if logicalWidth ≤ 0 ∨ logicalHeight ≤ 0 then none
  else
    let x := region.elim (clampEdges 0 logicalWidth logicalWidth) fun r => clampEdges r.x r.width logicalWidth
    let y := region.elim (clampEdges 0 logicalHeight logicalHeight) fun r => clampEdges r.y r.height logicalHeight
    if x.2 ≤ x.1 ∨ y.2 ≤ y.1 then none
    else do
      let horizontal ← projectSide logicalWidth atlas.pixelSize.width x
      let vertical ← projectSide logicalHeight atlas.pixelSize.height y
      some ⟨horizontal.1, vertical.1, horizontal.2, vertical.2⟩

/-- An atlas of some extent, whose pixels are counted by `i32`. -/
structure FrozenAtlas where
  plan : AtlasPlan ℚ
  logical : 0 < plan.logicalSize.1 ∧ 0 < plan.logicalSize.2
  width : 0 < plan.pixelSize.width ∧ plan.pixelSize.width < 2 ^ 31
  height : 0 < plan.pixelSize.height ∧ plan.pixelSize.height < 2 ^ 31

def FrozenAtlas.size (atlas : FrozenAtlas) : Size := ⟨atlas.plan.pixelSize.width, atlas.plan.pixelSize.height⟩

/-! ## One side -/

/-- Where the middle of a pixel lies on the canvas. -/
def pixelCentre (logical : ℚ) (pixels : Nat) (pixel : Int) : ℚ := (pixel + 1 / 2) * logical / pixels

section

variable {logical start extent edge : ℚ} {pixels : Nat} {pixel : Int} (hl : 0 < logical) (hp : 0 < pixels)
include hl hp

theorem projectEdge_le_iff (h : 0 ≤ edge) (hpi : pixel < pixels) :
    projectEdge logical pixels edge ≤ pixel ↔ edge < pixelCentre logical pixels pixel := by
  have hp' : (0 : ℚ) < pixels := by exact_mod_cast hp
  have hq : 0 ≤ edge * pixels / logical := by positivity
  have hr : roundHalfAway (edge * pixels / logical) ≤ pixel ↔ edge < pixelCentre logical pixels pixel := by
    rw [Topology.roundHalfAway_of_nonneg hq, ← Int.lt_add_one_iff, Int.floor_lt, pixelCentre, lt_div_iff₀ hp',
      ← div_lt_iff₀ hl]
    push_cast; constructor <;> intro h <;> linarith
  have hn := Topology.roundHalfAway_nonneg hq
  rw [← hr]; unfold projectEdge clamp
  split_ifs <;> omega

theorem pixelCentre_mem (h : 0 ≤ pixel) (hpi : pixel < pixels) :
    0 < pixelCentre logical pixels pixel ∧ pixelCentre logical pixels pixel < logical := by
  have hp' : (0 : ℚ) < pixels := by exact_mod_cast hp
  have hc : (0 : ℚ) ≤ pixel := by exact_mod_cast h
  have hle : (pixel : ℚ) + 1 ≤ pixels := by exact_mod_cast hpi
  refine ⟨by unfold pixelCentre; positivity, ?_⟩
  rw [pixelCentre, div_lt_iff₀ hp', mul_comm]
  exact mul_lt_mul_of_pos_left (by linarith) hl

end

theorem clamp_eq_min {x hi : ℚ} (h : 0 ≤ x) : clamp x 0 hi = min x hi := by
  unfold clamp; rw [if_neg (not_lt.2 h)]
  split_ifs with hlt
  · exact (min_eq_right hlt.le).symm
  · exact (min_eq_left (not_lt.1 hlt)).symm

/-- The pixels a side starts and stops at, before it is raised. -/
def pixelEdges (logical : ℚ) (pixels : Nat) (start extent : ℚ) : Int × Int :=
  (projectEdge logical pixels (min start logical), projectEdge logical pixels (min (start + extent) logical))

section

variable {logical start extent : ℚ} {pixels : Nat} {pixel : Int}

theorem pixelEdges_mem : 0 ≤ (pixelEdges logical pixels start extent).1 ∧
    (pixelEdges logical pixels start extent).1 ≤ pixels ∧ 0 ≤ (pixelEdges logical pixels start extent).2 ∧
      (pixelEdges logical pixels start extent).2 ≤ pixels := by
  have hmem (edge : ℚ) : 0 ≤ projectEdge logical pixels edge ∧ projectEdge logical pixels edge ≤ pixels :=
    clamp_mem (Int.natCast_nonneg pixels)
  exact ⟨(hmem _).1, (hmem _).2, (hmem _).1, (hmem _).2⟩

theorem projectSide_eq (hp : pixels < 2 ^ 31) (hs : 0 ≤ start) (he : 0 < extent) :
    projectSide logical pixels (clampEdges start extent logical) = let edges := pixelEdges logical pixels start extent
      some (edges.1, max (edges.2 - edges.1) 1) := by
  have hmem := @pixelEdges_mem logical start extent pixels
  unfold projectSide clampEdges; unfold pixelEdges at *
  simp only [clamp_eq_min hs, clamp_eq_min (show 0 ≤ start + extent by linarith)]
  have h64 : ∀ n : Int, -2 ^ 31 ≤ n → n < 2 ^ 31 → toI64 n = some n := fun n h h' => if_pos ⟨by omega, by omega⟩
  rw [h64 _ (by omega) (by omega), toI32_of_mem (by omega) (by omega), Option.bind_eq_bind, Option.bind_some,
    toI32_of_mem (by omega) (by omega)]; rfl

theorem start_le_iff (hl : 0 < logical) (hs : 0 ≤ start) (h : 0 ≤ pixel) (hpi : pixel < pixels) :
    (pixelEdges logical pixels start extent).1 ≤ pixel ↔ start < pixelCentre logical pixels pixel := by
  have hc := (pixelCentre_mem hl (by omega) h hpi).2
  unfold pixelEdges
  rw [projectEdge_le_iff hl (by omega) (le_min hs hl.le) hpi, min_lt_iff]
  exact or_iff_left hc.asymm

theorem lt_stop_iff (hl : 0 < logical) (hs : 0 ≤ start + extent) (h : 0 ≤ pixel) (hpi : pixel < pixels) :
    pixel < (pixelEdges logical pixels start extent).2 ↔ pixelCentre logical pixels pixel ≤ start + extent := by
  have hc := (pixelCentre_mem hl (by omega) h hpi).2
  unfold pixelEdges
  rw [← not_le, projectEdge_le_iff hl (by omega) (le_min hs hl.le) hpi, not_lt, le_min_iff]
  exact and_iff_left hc.le

end

/-! ## Requests -/

namespace Region

variable (atlas : FrozenAtlas) (r : Region)

def Meets : Prop := r.x < atlas.plan.logicalSize.1 ∧ r.y < atlas.plan.logicalSize.2

def columns : Int × Int := pixelEdges atlas.plan.logicalSize.1 atlas.plan.pixelSize.width r.x r.width

def rows : Int × Int := pixelEdges atlas.plan.logicalSize.2 atlas.plan.pixelSize.height r.y r.height

/-- A side of the region comes out empty. -/
def Raised : Prop := (r.columns atlas).2 ≤ (r.columns atlas).1 ∨ (r.rows atlas).2 ≤ (r.rows atlas).1

/-- The region starts before the middle of the last column and of the last row of pixels. -/
def StartsBeforeLast : Prop :=
  r.x < pixelCentre atlas.plan.logicalSize.1 atlas.plan.pixelSize.width (atlas.plan.pixelSize.width - 1) ∧
    r.y < pixelCentre atlas.plan.logicalSize.2 atlas.plan.pixelSize.height (atlas.plan.pixelSize.height - 1)

/-- The rectangle of a region that meets the canvas. -/
def rect : Rect :=
  ⟨(r.columns atlas).1, (r.rows atlas).1, max ((r.columns atlas).2 - (r.columns atlas).1) 1,
    max ((r.rows atlas).2 - (r.rows atlas).1) 1⟩

/-- A point is in a region, which has its right and bottom edges. -/
def Holds (x y : ℚ) : Prop := r.x < x ∧ x ≤ r.x + r.width ∧ r.y < y ∧ y ≤ r.y + r.height

end Region

variable {atlas : FrozenAtlas} {r : Region}

theorem projectRequest_eq : (r.Meets atlas → projectRequest (some r) atlas.plan = some (r.rect atlas)) ∧
    (¬r.Meets atlas → projectRequest (some r) atlas.plan = none) := by
  obtain ⟨hw, hh⟩ := atlas.logical
  have hem {start extent logical : ℚ} (hs : 0 ≤ start) (he : 0 < extent) (hl : 0 < logical) :
      (clampEdges start extent logical).2 ≤ (clampEdges start extent logical).1 ↔ logical ≤ start := by
    unfold clampEdges
    rw [clamp_eq_min hs, clamp_eq_min (by linarith), le_min_iff, min_le_iff, min_le_iff]
    constructor
    · rintro ⟨h | h, -⟩ <;> linarith
    · exact fun h => ⟨.inr h, .inr le_rfl⟩
  have hx := hem r.origin.1 r.size.1 hw
  have hy := hem r.origin.2 r.size.2 hh
  unfold projectRequest; simp only [Option.elim_some]
  rw [if_neg (fun h => h.elim hw.not_ge hh.not_ge), projectSide_eq atlas.width.2 r.origin.1 r.size.1,
    projectSide_eq atlas.height.2 r.origin.2 r.size.2]
  constructor
  · intro hm
    exact if_neg (not_or.2 ⟨fun h => hm.1.not_ge (hx.1 h), fun h => hm.2.not_ge (hy.1 h)⟩)
  · intro hm
    exact if_pos ((not_and_or.1 hm).imp (fun h => hx.2 (not_lt.1 h)) fun h => hy.2 (not_lt.1 h))

theorem rect_inside_iff : framebufferSourceRect (r.rect atlas) atlas.size = some (r.rect atlas) ↔
    r.StartsBeforeLast atlas := by
  obtain ⟨⟨hw, hh⟩, ⟨hpw, hpw'⟩, hph, hph'⟩ := atlas.logical, atlas.width, atlas.height
  have hco : 0 ≤ (r.columns atlas).1 ∧ _ ∧ _ ∧ (r.columns atlas).2 ≤ _ := pixelEdges_mem
  have hr : 0 ≤ (r.rows atlas).1 ∧ _ ∧ _ ∧ (r.rows atlas).2 ≤ _ := pixelEdges_mem
  have hx : (r.columns atlas).1 ≤ atlas.plan.pixelSize.width - 1 ↔ _ :=
    start_le_iff hw r.origin.1 (by omega) (by omega)
  have hy : (r.rows atlas).1 ≤ atlas.plan.pixelSize.height - 1 ↔ _ :=
    start_le_iff hh r.origin.2 (by omega) (by omega)
  unfold Region.StartsBeforeLast
  rw [framebufferSourceRect_iff, ← hx, ← hy]
  simp only [Region.rect, FrozenAtlas.size, true_and]; omega

theorem rect_whole (hx : r.x = 0) (hy : r.y = 0) (hw : atlas.plan.logicalSize.1 ≤ r.width)
    (hh : atlas.plan.logicalSize.2 ≤ r.height) : r.rect atlas = ⟨0, 0, atlas.size.w, atlas.size.h⟩ := by
  have hs {logical extent : ℚ} {pixels : Nat} (hl : 0 < logical) (he : logical ≤ extent) :
      pixelEdges logical pixels 0 extent = (0, (pixels : Int)) := by
    have hp (n : Nat) : roundHalfAway n = n := by
      rw [Topology.roundHalfAway_of_nonneg (Nat.cast_nonneg _)]; norm_num [Int.floor_eq_iff]
    have hz : roundHalfAway 0 = 0 := by simpa using hp 0
    unfold pixelEdges projectEdge
    rw [min_eq_left hl.le, zero_add, min_eq_right he, zero_mul, zero_div, mul_div_cancel_left₀ _ hl.ne', hp, hz]
    simp [clamp]
  unfold Region.rect Region.columns Region.rows
  rw [hx, hy, hs atlas.logical.1 hw, hs atlas.logical.2 hh]
  have := atlas.width.1; have := atlas.height.1
  simp [FrozenAtlas.size]; omega

def Covers (rect : Rect) (column row : Int) : Prop :=
  rect.x ≤ column ∧ column < rect.x + rect.w ∧ rect.y ≤ row ∧ row < rect.y + rect.h

/-- Each point of the canvas is in one of the regions. -/
def Tile {ι : Type} (atlas : FrozenAtlas) (regions : ι → Region) : Prop :=
  ∀ x y, 0 < x → x ≤ atlas.plan.logicalSize.1 → 0 < y → y ≤ atlas.plan.logicalSize.2 → ∃! i, (regions i).Holds x y

/-- A rectangle that was not raised has the pixels whose middles the region holds. -/
theorem covers_iff {c row : Int} (hc : 0 ≤ c) (hc' : c < atlas.plan.pixelSize.width) (hr : 0 ≤ row)
    (hr' : row < atlas.plan.pixelSize.height) :
    (∃ rect, projectRequest (some r) atlas.plan = some rect ∧ ¬r.Raised atlas ∧ Covers rect c row) ↔
      r.Holds (pixelCentre atlas.plan.logicalSize.1 atlas.plan.pixelSize.width c)
        (pixelCentre atlas.plan.logicalSize.2 atlas.plan.pixelSize.height row) := by
  obtain ⟨⟨hw, hh⟩, ⟨hx, hy⟩, hrw, hrh⟩ := atlas.logical, r.origin, r.size
  have hf : (r.columns atlas).1 ≤ _ ↔ _ := start_le_iff hw hx hc hc'
  have hri : _ < (r.columns atlas).2 ↔ _ := lt_stop_iff hw (by linarith) hc hc'
  have hto : (r.rows atlas).1 ≤ _ ↔ _ := start_le_iff hh hy hr hr'
  have hbo : _ < (r.rows atlas).2 ↔ _ := lt_stop_iff hh (by linarith) hr hr'
  unfold Region.Holds
  rw [← hf, ← hri, ← hto, ← hbo]
  constructor
  · rintro ⟨rect, hj, hs, hv⟩
    by_cases hm : r.Meets atlas
    · cases hj.symm.trans (projectRequest_eq.1 hm)
      simp only [Covers, Region.rect, Region.Raised] at hv hs; omega
    · cases hj.symm.trans (projectRequest_eq.2 hm)
  · intro h
    have hm : r.Meets atlas := ⟨(hf.1 h.1).trans (pixelCentre_mem hw (by omega) hc hc').2,
      (hto.1 h.2.2.1).trans (pixelCentre_mem hh (by omega) hr hr').2⟩
    refine ⟨_, projectRequest_eq.1 hm, ?_⟩
    simp only [Covers, Region.rect, Region.Raised]; omega

/-- What a request is projected to is within the frozen buffer where the region misses the canvas or starts before the
middle of the last column and row of pixels; the whole canvas is the whole buffer, only what misses the canvas is
refused, and regions that tile the canvas are projected to rectangles that tile the buffer. -/
theorem screenshot_region_inside_iff (atlas : FrozenAtlas) :
    (∀ r : Region, (∀ rect, projectRequest (some r) atlas.plan = some rect →
      framebufferSourceRect rect atlas.size = some rect) ↔ (r.Meets atlas → r.StartsBeforeLast atlas)) ∧
    (∀ r : Region, projectRequest (some r) atlas.plan = none ↔ ¬r.Meets atlas) ∧
    projectRequest none atlas.plan = some ⟨0, 0, atlas.size.w, atlas.size.h⟩ ∧
    (∀ r : Region, r.x = 0 → r.y = 0 → atlas.plan.logicalSize.1 ≤ r.width → atlas.plan.logicalSize.2 ≤ r.height →
      projectRequest (some r) atlas.plan = some ⟨0, 0, atlas.size.w, atlas.size.h⟩) ∧
    ∀ (ι : Type) (regions : ι → Region), Tile atlas regions → ∀ column row : Int, 0 ≤ column → column < atlas.size.w →
      0 ≤ row → row < atlas.size.h → ∃! i, ∃ rect, projectRequest (some (regions i)) atlas.plan = some rect ∧
        ¬(regions i).Raised atlas ∧ Covers rect column row := by
  have hwhol (r : Region) (hx : r.x = 0) (hy : r.y = 0) (hw : atlas.plan.logicalSize.1 ≤ r.width)
      (hh : atlas.plan.logicalSize.2 ≤ r.height) : projectRequest (some r) atlas.plan = some ⟨0, 0, _, _⟩ :=
    (projectRequest_eq.1 ⟨by rw [hx]; exact atlas.logical.1, by rw [hy]; exact atlas.logical.2⟩).trans
      (congrArg some (rect_whole hx hy hw hh))
  refine ⟨fun r => ⟨fun h hm => rect_inside_iff.1 (h _ (projectRequest_eq.1 hm)), ?_⟩, fun r => ⟨?_, projectRequest_eq.2⟩,
    hwhol ⟨0, 0, _, _, ⟨le_rfl, le_rfl⟩, atlas.logical⟩ rfl rfl le_rfl le_rfl, hwhol, ?_⟩
  · intro h rect hproj
    by_cases hm : r.Meets atlas
    · cases hproj.symm.trans (projectRequest_eq.1 hm); exact rect_inside_iff.2 (h hm)
    · cases hproj.symm.trans (projectRequest_eq.2 hm)
  · intro h hm
    cases h.symm.trans (projectRequest_eq.1 hm)
  · intro ι regions htil column row hc hc' hr hr'
    have hx := pixelCentre_mem atlas.logical.1 atlas.width.1 hc hc'
    have hy := pixelCentre_mem atlas.logical.2 atlas.height.1 hr hr'
    obtain ⟨i, hi, hone⟩ := htil _ _ hx.1 hx.2.le hy.1 hy.2.le
    exact ⟨i, (covers_iff hc hc' hr hr').2 hi, fun j hj => hone j ((covers_iff hc hc' hr hr').1 hj)⟩

/-- A canvas of 100 by 100 in as many pixels, and a strip of its last half pixel. -/
theorem last_half_pixel_outside : ∃ (atlas : FrozenAtlas) (r : Region) (rect : Rect),
    projectRequest (some r) atlas.plan = some rect ∧ framebufferSourceRect rect atlas.size = none :=
  ⟨⟨⟨0, (0, 0), (100, 100), 120, ⟨100, 100⟩, []⟩, by decide, by decide, by decide⟩,
    ⟨498 / 5, 0, 2 / 5, 50, by decide +kernel, by decide +kernel⟩, ⟨100, 0, 1, 50⟩, by decide +kernel, by decide +kernel⟩

end Deniald.Screencopy.Screenshot
