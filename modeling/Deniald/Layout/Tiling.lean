/-
The dwindle arrangement tiles the work area: each leaf gets one rectangle of positive size inside the
area, no two overlap, and the halves of each split leave out exactly the gap between them. Rectangles
are compared as sets of pixels.
-/
import Deniald.Layout.Leaves

namespace Deniald.Layout

open Deniald.Lib
open Deniald.Topology (OutputId)

/-! ## Pixels -/

def Rect.pixels (g : Rect) : Set (ℤ × ℤ) :=
  {p | (g.x ≤ p.1 ∧ p.1 < g.x + g.w) ∧ g.y ≤ p.2 ∧ p.2 < g.y + g.h}

theorem Rect.mem_pixels {g : Rect} {p : ℤ × ℤ} :
    p ∈ g.pixels ↔ (g.x ≤ p.1 ∧ p.1 < g.x + g.w) ∧ g.y ≤ p.2 ∧ p.2 < g.y + g.h := Iff.rfl

/-- A rectangle of positive size whose edges fit in `i32`. -/
structure Rect.OnScreen (g : Rect) : Prop where
  width : 0 < g.w
  height : 0 < g.h
  left : -2 ^ 31 ≤ g.x
  top : -2 ^ 31 ≤ g.y
  right : g.x + g.w ≤ 2 ^ 31 - 1
  bottom : g.y + g.h ≤ 2 ^ 31 - 1
  widthI32 : g.w ≤ 2 ^ 31 - 1
  heightI32 : g.h ≤ 2 ^ 31 - 1

/-- The strip between the halves of a split, as wide as the gap allows the halves a pixel each. -/
def gapStrip (g first : Rect) (gap : Int) : Rect :=
  let gap := clamp gap 0 (max g.w g.h - 2)
  if g.w ≥ g.h then ⟨g.x + first.w, g.y, gap, g.h⟩ else ⟨g.x, g.y + first.h, g.w, gap⟩

/-- Two rectangles and the gap between them make up a rectangle. -/
structure SplitCovers (gap : Int) (g first second : Rect) : Prop where
  cover : g.pixels = first.pixels ∪ (gapStrip g first gap).pixels ∪ second.pixels
  apart : Disjoint first.pixels second.pixels
  gapFirst : Disjoint first.pixels (gapStrip g first gap).pixels
  gapSecond : Disjoint (gapStrip g first gap).pixels second.pixels

/-! ## One split -/

theorem split_extents {extent : Int} (h : 2 ≤ extent) (hm : extent ≤ 2 ^ 31 - 1) (gap r : Int) :
    let gap' := clamp gap 0 (satSub extent 2)
    let first := clamp r 1 (max (satSub (satSub extent gap') 1) 1)
    gap' = clamp gap 0 (extent - 2) ∧ 0 ≤ gap' ∧ 0 < first ∧
      0 < max (satSub (satSub extent gap') first) 1 ∧
      first + gap' + max (satSub (satSub extent gap') first) 1 = extent := by
  intro gap' first
  have hsu : satSub extent 2 = extent - 2 := satI32_of_mem (by omega) (by omega)
  have hga : gap' = clamp gap 0 (extent - 2) := by simp [gap', hsu]
  obtain ⟨hlo, hhi⟩ : 0 ≤ gap' ∧ gap' ≤ extent - 2 := by rw [hga]; exact clamp_mem (by omega)
  have hv : satSub extent gap' = extent - gap' := satI32_of_mem (by omega) (by omega)
  have hs : satSub (extent - gap') 1 = extent - gap' - 1 := satI32_of_mem (by omega) (by omega)
  obtain ⟨hf, hf'⟩ : 1 ≤ first ∧ first ≤ max (extent - gap' - 1) 1 := by
    simp only [first, hv, hs]; exact clamp_mem (by omega)
  have hse : satSub (extent - gap') first = extent - gap' - first := satI32_of_mem (by omega) (by omega)
  rw [hv, hse]; exact ⟨hga, hlo, by omega, by omega, by omega⟩

/-- The halves of a split lie side by side along the longer side, with the gap between them. -/
theorem splitGeometry_cases (r : Rounding) {g : Rect} (hg : g.OnScreen) (hd : 2 ≤ max g.w g.h) (gap : Int) (rt : F64) :
    ∃ n m gap', gap' = clamp gap 0 (max g.w g.h - 2) ∧ 0 ≤ gap' ∧ 0 < n ∧ 0 < m ∧ ((g.h ≤ g.w ∧ n + gap' + m = g.w ∧
          splitGeometry r g gap rt = (⟨g.x, g.y, n, g.h⟩, ⟨g.x + n + gap', g.y, m, g.h⟩)) ∨
        (g.w < g.h ∧ n + gap' + m = g.h ∧
          splitGeometry r g gap rt = (⟨g.x, g.y, g.w, n⟩, ⟨g.x, g.y + n + gap', g.w, m⟩))) := by
  obtain ⟨hw, hh, hl, ht, hr, hb, hwi, hhi⟩ := hg; unfold splitGeometry
  simp only
  generalize roundHalfAway _ = rounded
  by_cases horizontal : g.h ≤ g.w
  · have hlo : max g.w g.h = g.w := by omega
    rw [hlo] at hd ⊢
    simp only [ge_iff_le, horizontal, decide_true, if_true, show max g.w 2 = g.w by omega]
    obtain ⟨hga, hg0, hn, hm, hs⟩ := split_extents hd hwi gap (satI32 rounded)
    generalize clamp gap 0 (satSub g.w 2) = gap' at hga hg0 hn hm hs ⊢
    generalize clamp (satI32 rounded) 1 _ = n at hn hm hs ⊢
    generalize max (satSub (satSub g.w gap') n) 1 = m at hm hs ⊢
    refine ⟨n, m, gap', hga, hg0, hn, hm, .inl ⟨trivial, hs, ?_⟩⟩
    rw [satAdd, satAdd, satI32_of_mem (by omega : -2 ^ 31 ≤ g.x + n) (by omega), satI32_of_mem (by omega) (by omega)]
  · have hlo : max g.w g.h = g.h := by omega
    rw [hlo] at hd ⊢
    simp only [ge_iff_le, horizontal, decide_false, Bool.false_eq_true, if_false, show max g.h 2 = g.h by omega]
    obtain ⟨hga, hg0, hn, hm, hs⟩ := split_extents hd hhi gap (satI32 rounded)
    generalize clamp gap 0 (satSub g.h 2) = gap' at hga hg0 hn hm hs ⊢
    generalize clamp (satI32 rounded) 1 _ = n at hn hm hs ⊢
    generalize max (satSub (satSub g.h gap') n) 1 = m at hm hs ⊢
    refine ⟨n, m, gap', hga, hg0, hn, hm, .inr ⟨by omega, hs, ?_⟩⟩
    rw [satAdd, satAdd, satI32_of_mem (by omega : -2 ^ 31 ≤ g.y + n) (by omega), satI32_of_mem (by omega) (by omega)]

theorem splitGeometry_covers (r : Rounding) {g : Rect} (hg : g.OnScreen) (hd : 2 ≤ max g.w g.h) (gap : Int) (rt : F64) :
    let halves := splitGeometry r g gap rt
    SplitCovers gap g halves.1 halves.2 ∧ halves.1.OnScreen ∧ halves.2.OnScreen := by
  intro halves
  obtain ⟨n, m, gap', hga, hg0, hn, hm, ⟨hwh, hsu, heq⟩ | ⟨hwh, hsu, heq⟩⟩ :=
    splitGeometry_cases r hg hd gap rt
  all_goals
    obtain ⟨hw, hh, hl, ht, hr, hb, hwi, hhi⟩ := hg
    simp [halves, heq]
  · have hs : gapStrip g ⟨g.x, g.y, n, g.h⟩ gap = ⟨g.x + n, g.y, gap', g.h⟩ := by
      unfold gapStrip; rw [← hga, if_pos hwh]
    refine ⟨⟨?_, ?_, ?_, ?_⟩, ⟨hn, hh, hl, ht, ?_, hb, ?_, hhi⟩, ⟨hm, hh, ?_, ht, ?_, hb, ?_, hhi⟩⟩
    · rw [hs]; ext p; simp only [Set.mem_union, Rect.mem_pixels]; omega
    · rw [Set.disjoint_left]; intro p; simp only [Rect.mem_pixels]; omega
    · rw [hs, Set.disjoint_left]; intro p; simp only [Rect.mem_pixels]; omega
    · rw [hs, Set.disjoint_left]; intro p; simp only [Rect.mem_pixels]; omega
    all_goals simp only; omega
  · have hs : gapStrip g ⟨g.x, g.y, g.w, n⟩ gap = ⟨g.x, g.y + n, g.w, gap'⟩ := by
      unfold gapStrip; rw [← hga, if_neg (by omega)]
    refine ⟨⟨?_, ?_, ?_, ?_⟩, ⟨hw, hn, hl, ht, hr, ?_, hwi, ?_⟩, ⟨hw, hm, hl, ?_, hr, ?_, hwi, ?_⟩⟩
    · rw [hs]; ext p; simp only [Set.mem_union, Rect.mem_pixels]; omega
    · rw [Set.disjoint_left]; intro p; simp only [Rect.mem_pixels]; omega
    · rw [hs, Set.disjoint_left]; intro p; simp only [Rect.mem_pixels]; omega
    · rw [hs, Set.disjoint_left]; intro p; simp only [Rect.mem_pixels]; omega
    all_goals simp only; omega

/-! ## Whole trees -/

namespace DwindleNode

variable {W : Type}

/-- A property of every split of a tree arranged in a rectangle, with the rectangles of its halves. -/
def AllSplits (r : Rounding) (P : Rect → Rect → Rect → Prop) : DwindleNode W → Rect → Int → Prop
  | .window _, _, _ => True
  | .split ratio first second, geometry, gap =>
    let halves := splitGeometry r geometry gap (.finite ratio)
    P geometry halves.1 halves.2 ∧ first.AllSplits r P halves.1 gap ∧ second.AllSplits r P halves.2 gap

/-- Every split has two pixels to divide along its longer side. -/
def Divisible (r : Rounding) (t : DwindleNode W) (geometry : Rect) (gap : Int) : Prop :=
  t.AllSplits r (fun g _ _ => 2 ≤ max g.w g.h) geometry gap

theorem arrange_windows (r : Rounding) (gap : Int) : ∀ (t : DwindleNode W) (geometry : Rect),
    (t.arrange r geometry gap).map (·.window) = t.leaves
  | .window _, _ => rfl
  | .split _ first second, geometry => by
    unfold arrange
    rw [List.map_append, arrange_windows r gap first, arrange_windows r gap second, leaves_split]

theorem allSplits_cover (r : Rounding) (gap : Int) : ∀ {t : DwindleNode W} {geometry : Rect}, geometry.OnScreen →
    t.Divisible r geometry gap → t.AllSplits r (SplitCovers gap) geometry gap
  | .window _, _, _, _ => trivial
  | .split ratio first second, geometry, hg, ⟨hw, hf, hs⟩ => by
    obtain ⟨hv, hg1, hg2⟩ := splitGeometry_covers r hg hw gap (.finite ratio)
    exact ⟨hv, allSplits_cover r gap hg1 hf, allSplits_cover r gap hg2 hs⟩

theorem arrange_inside (r : Rounding) (gap : Int) : ∀ {t : DwindleNode W} {geometry : Rect}, geometry.OnScreen →
    t.Divisible r geometry gap →
    ∀ p ∈ t.arrange r geometry gap, p.geometry.OnScreen ∧ p.geometry.pixels ⊆ geometry.pixels
  | .window _, _, hg, _, p, hp => by
    obtain rfl := List.mem_singleton.1 hp; exact ⟨hg, subset_refl _⟩
  | .split ratio first second, geometry, hg, ⟨hw, hf, hse⟩, p, hp => by
    obtain ⟨hv, hg1, hg2⟩ := splitGeometry_covers r hg hw gap (.finite ratio); rw [hv.cover]
    rcases List.mem_append.1 hp with hp | hp
    · obtain ⟨hs, hn⟩ := arrange_inside r gap hg1 hf p hp
      exact ⟨hs, fun q hq => .inl (.inl (hn hq))⟩
    · obtain ⟨hs, hn⟩ := arrange_inside r gap hg2 hse p hp
      exact ⟨hs, fun q hq => .inr (hn hq)⟩

theorem arrange_disjoint (r : Rounding) (gap : Int) : ∀ {t : DwindleNode W} {geometry : Rect}, geometry.OnScreen →
    t.Divisible r geometry gap →
    (t.arrange r geometry gap).Pairwise fun p q => Disjoint p.geometry.pixels q.geometry.pixels
  | .window _, _, _, _ => List.pairwise_singleton ..
  | .split ratio first second, geometry, hg, ⟨hw, hf, hs⟩ => by
    obtain ⟨hv, hg1, hg2⟩ := splitGeometry_covers r hg hw gap (.finite ratio)
    refine List.pairwise_append.2 ⟨arrange_disjoint r gap hg1 hf, arrange_disjoint r gap hg2 hs, ?_⟩
    intro p hp q hq
    exact hv.apart.mono (arrange_inside r gap hg1 hf p hp).2 (arrange_inside r gap hg2 hs q hq).2

end DwindleNode

/-- For every output's tree, with any ratios, any rounding and any gap, in every work area of positive
size whose edges fit in `i32` and that leaves each split two pixels to divide: each leaf gets exactly
one rectangle, of positive size and inside the area, no two overlap, and the halves of every split
cover it but for the gap between them. -/
theorem dwindle_tiling {W : Type} (r : Rounding) (layout : DwindleLayout W) (output : OutputId) (t : DwindleNode W)
    (workArea : Rect) (gap : Int) (hroot : layout.roots.lookup output = some t) (harea : workArea.OnScreen)
    (hdivisible : t.Divisible r workArea (max gap 0)) :
    let placements := layout.arrange r output workArea gap
    placements.map (·.window) = t.leaves ∧
    (∀ p ∈ placements, 0 < p.geometry.w ∧ 0 < p.geometry.h ∧ p.geometry.pixels ⊆ workArea.pixels) ∧
    placements.Pairwise (fun p q => Disjoint p.geometry.pixels q.geometry.pixels) ∧
    t.AllSplits r (SplitCovers (max gap 0)) workArea (max gap 0) := by
  intro placements
  have harr : placements = t.arrange r workArea (max gap 0) := by
    simp [placements, DwindleLayout.arrange, hroot]
  rw [harr]
  refine ⟨t.arrange_windows r _ workArea, fun p hp => ?_, DwindleNode.arrange_disjoint r _ harea hdivisible,
    DwindleNode.allSplits_cover r _ harea hdivisible⟩
  obtain ⟨hscr, hins⟩ := DwindleNode.arrange_inside r _ harea hdivisible p hp
  exact ⟨hscr.width, hscr.height, hins⟩

theorem dwindle_tiling_three_windows :
    let t : DwindleNode Nat := .split (1 / 2) (.window 1) (.split (1 / 3) (.window 2) (.window 3))
    let layout : DwindleLayout Nat := ⟨.singleton 1 t⟩
    (layout.arrange .exact 1 ⟨10, 20, 1000, 600⟩ 10).Pairwise fun p q => Disjoint p.geometry.pixels q.geometry.pixels :=
  (dwindle_tiling .exact ⟨.singleton 1 (.split (1 / 2) (.window 1) (.split (1 / 3) (.window 2) (.window 3)))⟩ 1
    (.split (1 / 2) (.window 1) (.split (1 / 3) (.window 2) (.window 3))) ⟨10, 20, 1000, 600⟩ 10 rfl
    ⟨by decide, by decide, by decide, by decide, by decide, by decide, by decide, by decide⟩
    ⟨by decide +kernel, trivial, by decide +kernel, trivial, trivial⟩).2.2.1

end Deniald.Layout
