/-
Windows across a change of the topology (wayland_frontend/topology.rs): a window is kept on the output it was on, or
moved to the best of those that are left, at the place it had relative to its output, and clamped to it.

The best output holds the window's centre, then has the most of it, then is nearest. A window that fits its output
stays where it is when nothing changes; one that does not may be nearer to another.
-/
import Deniald.Layout.Tiling
import Mathlib.Data.List.MinMax
import Mathlib.Data.Prod.Lex

namespace Deniald.Topology

open Deniald.Lib
open Deniald.Layout (Rect)

/-! ## Rectangles -/

/-- The tests of rectangles that the compositor library has: exact for those whose edges fit in `i32`. -/
structure RectangleTests where
  contains : Rect → Int × Int → Bool
  intersection : Rect → Rect → Option Rect
  contains_iff : ∀ {g : Rect}, g.OnScreen → ∀ p, contains g p = true ↔ p ∈ g.pixels
  intersection_some : ∀ {a b c : Rect}, a.OnScreen → b.OnScreen → intersection a b = some c →
    c.pixels = a.pixels ∩ b.pixels ∧ 0 ≤ c.w ∧ 0 ≤ c.h
  intersection_none : ∀ {a b : Rect}, a.OnScreen → b.OnScreen → intersection a b = none → Disjoint a.pixels b.pixels

/-- A value brought into the range of `i64`. -/
def satI64 (x : Int) : Int := clamp x (-2 ^ 63) (2 ^ 63 - 1)

/-- One rectangle lies in another. -/
structure Within (a b : Rect) : Prop where
  left : b.x ≤ a.x
  right : a.x + a.w ≤ b.x + b.w
  top : b.y ≤ a.y
  bottom : a.y + a.h ≤ b.y + b.h

/-! ## The best output -/

structure OutputCandidateScore where
  containsCenter : Bool
  overlap : Int
  distance : Int

def outputCandidateIsBetter (candidate best : OutputCandidateScore) : Bool :=
  candidate.containsCenter && !best.containsCenter ||
    candidate.containsCenter = best.containsCenter &&
      (best.overlap < candidate.overlap || candidate.overlap = best.overlap && candidate.distance < best.distance)

def rectangleCenter (g : Rect) : Int × Int := (satAdd g.x (g.w.tdiv 2), satAdd g.y (g.h.tdiv 2))

def pointDistanceSquared (g : Rect) (point : Int × Int) : Int :=
  let right := g.x + g.w
  let bottom := g.y + g.h
  let dx := if point.1 < g.x then g.x - point.1 else if right < point.1 then point.1 - right else 0
  let dy := if point.2 < g.y then g.y - point.2 else if bottom < point.2 then point.2 - bottom else 0
  satI64 (satI64 (dx * dx) + satI64 (dy * dy))

section

variable (tests : RectangleTests)

def popupOverlapArea (output desired : Rect) : Int :=
  match tests.intersection output desired with
  | none => 0
  | some overlap => overlap.w * overlap.h

def outputCandidateScore (desired output : Rect) : OutputCandidateScore where
  containsCenter := tests.contains output (rectangleCenter desired)
  overlap := popupOverlapArea tests output desired
  distance := pointDistanceSquared output (rectangleCenter desired)

/-- The loop over the outputs, with the best of those so far. -/
def betterOutput (desired : Rect) (best : Option (OutputId × Rect)) (output : OutputId × Rect) :
    Option (OutputId × Rect) :=
  match best with
  | none => some output
  | some best =>
    if outputCandidateIsBetter (outputCandidateScore tests desired output.2) (outputCandidateScore tests desired best.2)
    then some output else some best

def chooseOutputGeometry (outputs : List (OutputId × Rect)) (desired : Rect) : Option (OutputId × Rect) :=
  outputs.foldl (betterOutput tests desired) none

/-! ## Migration -/

def migrateAxis (point oldOrigin newOrigin : Int) : Int := satI32 (newOrigin + point - oldOrigin)

/-- `migrate_point_between_origins`, of a rectangle's place. -/
def migrateBetweenOrigins (g oldOutput destination : Rect) : Rect :=
  { g with x := migrateAxis g.x oldOutput.x destination.x, y := migrateAxis g.y oldOutput.y destination.y }

/-- One axis of `clamp_window_geometry`. -/
def clampAxis (loc extent outputLoc outputExtent : Int) : Int :=
  clamp loc outputLoc (if outputExtent ≤ extent then outputLoc else satAdd outputLoc (outputExtent - extent))

def clampWindowGeometry (g output : Rect) : Rect :=
  { g with x := clampAxis g.x g.w output.x output.w, y := clampAxis g.y g.h output.y output.h }

/-- Where a window goes: the output it was on, if it is there, or else the best there is. -/
def migrationDestination (g : Rect) (oldOutputs newOutputs : List (OutputId × Rect)) : Option (OutputId × Rect) :=
  ((chooseOutputGeometry tests oldOutputs g).bind fun old => newOutputs.find? fun new => new.1 = old.1).or
    (chooseOutputGeometry tests newOutputs g)

def migrateWindowGeometry (g : Rect) (oldOutputs newOutputs : List (OutputId × Rect)) : Rect :=
  match migrationDestination tests g oldOutputs newOutputs with
  | none => g
  | some (_, destination) =>
    match chooseOutputGeometry tests oldOutputs g with
    | some (_, oldOutput) => clampWindowGeometry (migrateBetweenOrigins g oldOutput destination) destination
    | none => clampWindowGeometry g destination

end

/-- The outputs of a snapshot: at least one, each once, all of them on the plane of `i32`. -/
structure OutputGeometries where
  outputs : List (OutputId × Rect)
  nonempty : outputs ≠ []
  nodup : (outputs.map Prod.fst).Nodup
  onScreen : ∀ output ∈ outputs, output.2.OnScreen

/-! ## The order of candidates -/

def OutputCandidateScore.rank (score : OutputCandidateScore) : Bool ×ₗ Int ×ₗ Int :=
  toLex (!score.containsCenter, toLex (-score.overlap, score.distance))

theorem outputCandidateIsBetter_iff {candidate best : OutputCandidateScore} :
    outputCandidateIsBetter candidate best = true ↔ candidate.rank < best.rank := by
  obtain ⟨cc, overlap, d⟩ := candidate
  obtain ⟨cc', overlap', d'⟩ := best
  simp only [OutputCandidateScore.rank, Prod.Lex.toLex_lt_toLex, outputCandidateIsBetter, Bool.or_eq_true,
    Bool.and_eq_true, Bool.not_eq_true', decide_eq_true_eq, neg_lt_neg_iff, neg_inj]
  cases cc <;> cases cc' <;> simp

section

variable {tests : RectangleTests} {outputs : List (OutputId × Rect)} {desired : Rect}

theorem chooseOutputGeometry_eq : chooseOutputGeometry tests outputs desired =
    outputs.argmin fun output => (outputCandidateScore tests desired output.2).rank := by
  unfold chooseOutputGeometry List.argmin
  refine congrArg (fun f => outputs.foldl f none) (funext fun best => funext fun output => ?_)
  cases best with
  | none => rfl
  | some best =>
    simp [betterOutput, List.argAux, outputCandidateIsBetter_iff]

theorem exists_chosen (tests : RectangleTests) (desired : Rect) (h : outputs ≠ []) : ∃ id g, chooseOutputGeometry tests outputs desired = some (id, g) := by
  rw [chooseOutputGeometry_eq]
  cases hm : outputs.argmin fun output => (outputCandidateScore tests desired output.2).rank with
  | none => exact absurd (List.argmin_eq_none.1 hm) h
  | some best => exact ⟨best.1, best.2, rfl⟩

theorem chosen_spec {best : OutputId × Rect} (h : chooseOutputGeometry tests outputs desired = some best) :
    best ∈ outputs ∧ ∀ output ∈ outputs, outputCandidateIsBetter (outputCandidateScore tests desired output.2)
        (outputCandidateScore tests desired best.2) = false := by
  rw [chooseOutputGeometry_eq] at h
  refine ⟨List.argmin_mem h, fun output houtput => ?_⟩
  rw [Bool.eq_false_iff, Ne, outputCandidateIsBetter_iff, not_lt]
  exact List.le_of_mem_argmin (f := fun output : OutputId × Rect => (outputCandidateScore tests desired output.2).rank)
    houtput h

end

/-! ## Clamping -/

theorem clampAxis_spec (loc : Int) {extent ol oe : Int} (he : 0 ≤ extent) (hf : extent ≤ oe)
    (hle : -2 ^ 31 ≤ ol) (hr : ol + oe ≤ 2 ^ 31 - 1) : let clamped := clampAxis loc extent ol oe
    (ol ≤ clamped ∧ clamped + extent ≤ ol + oe) ∧
      (ol ≤ loc → loc + extent ≤ ol + oe → clamped = loc) := by
  have hs : satAdd ol (oe - extent) = ol + (oe - extent) :=
    satI32_of_mem (by omega) (by omega)
  simp only [clampAxis, hs, clamp]
  split_ifs <;> omega

theorem clampAxis_clamped (loc : Int) {extent ol oe : Int} (he : 0 ≤ extent) (hz : 0 < oe)
    (hle : -2 ^ 31 ≤ ol) (hr : ol + oe ≤ 2 ^ 31 - 1) : let clamped := clampAxis loc extent ol oe
    (-2 ^ 31 ≤ clamped ∧ clamped ≤ 2 ^ 31 - 1) ∧ clampAxis clamped extent ol oe = clamped := by
  by_cases hf : oe ≤ extent
  · simp only [clampAxis, clamp, if_pos hf]
    split_ifs <;> omega
  have hs : satAdd ol (oe - extent) = ol + (oe - extent) :=
    satI32_of_mem (by omega) (by omega)
  simp only [clampAxis, hs, clamp, if_neg hf]
  split_ifs <;> omega

theorem Within.pixels {a b : Rect} (h : Within a b) : a.pixels ⊆ b.pixels := by
  obtain ⟨hf, hr, hto, hbo⟩ := h; intro p hp
  rw [Rect.mem_pixels] at hp ⊢; omega

theorem within_of_pixels {a b : Rect} (hw : 0 < a.w) (hh : 0 < a.h) (h : a.pixels ⊆ b.pixels) : Within a b := by
  have hf : (a.x, a.y) ∈ a.pixels := by
    rw [Rect.mem_pixels]; omega
  have hs : (a.x + a.w - 1, a.y + a.h - 1) ∈ a.pixels := by
    rw [Rect.mem_pixels]; omega
  have hf := Rect.mem_pixels.1 (h hf)
  have hs := Rect.mem_pixels.1 (h hs)
  constructor <;> omega

theorem Within.fits {a b : Rect} (h : Within a b) : a.w ≤ b.w ∧ a.h ≤ b.h := by
  obtain ⟨hf, hr, hto, hbo⟩ := h; omega

section

variable {tests : RectangleTests} {g output : Rect}

theorem clampWindowGeometry_within (houtput : output.OnScreen) (hw : 0 ≤ g.w) (hh : 0 ≤ g.h) (hfw : g.w ≤ output.w)
    (hfh : g.h ≤ output.h) : Within (clampWindowGeometry g output) output := by
  obtain ⟨⟨hf, hr⟩, -⟩ := clampAxis_spec g.x hw hfw houtput.left houtput.right
  obtain ⟨⟨hto, hbo⟩, -⟩ := clampAxis_spec g.y hh hfh houtput.top houtput.bottom
  exact ⟨hf, hr, hto, hbo⟩

theorem clampWindowGeometry_of_within (houtput : output.OnScreen) (hw : 0 ≤ g.w) (hh : 0 ≤ g.h)
    (h : Within g output) : clampWindowGeometry g output = g := by
  have hx := (clampAxis_spec g.x hw h.fits.1 houtput.left houtput.right).2 h.left h.right
  have hy := (clampAxis_spec g.y hh h.fits.2 houtput.top houtput.bottom).2 h.top h.bottom
  unfold clampWindowGeometry; rw [hx, hy]

theorem onScreen_of_within (houtput : output.OnScreen) (hw : 0 < g.w) (hh : 0 < g.h) (h : Within g output) :
    g.OnScreen := by
  obtain ⟨hf, hr, hto, hbo⟩ := h
  obtain ⟨-, -, hl', ht', hr', hb', hw', hh'⟩ := houtput
  constructor <;> omega

/-! ## A window on its output -/

theorem rectangleCenter_eq (h : g.OnScreen) : rectangleCenter g = (g.x + g.w / 2, g.y + g.h / 2) := by
  obtain ⟨hw, hh, hf, hto, hr, hbo, -, -⟩ := h; unfold rectangleCenter
  rw [Int.tdiv_eq_ediv_of_nonneg hw.le, Int.tdiv_eq_ediv_of_nonneg hh.le]
  exact Prod.ext (satI32_of_mem (by omega) (by omega)) (satI32_of_mem (by omega) (by omega))

theorem popupOverlapArea_spec (tests : RectangleTests) (houtput : output.OnScreen) (hg : g.OnScreen) :
    popupOverlapArea tests output g ≤ g.w * g.h ∧ (g.w * g.h ≤ popupOverlapArea tests output g ↔ Within g output) := by
  have hr : 0 < g.w * g.h := Int.mul_pos hg.width hg.height
  unfold popupOverlapArea; split
  · rename_i hn
    refine ⟨hr.le, fun h => absurd h (not_le.2 hr), fun h => ?_⟩
    have hco : (g.x, g.y) ∈ g.pixels := Rect.mem_pixels.2 (by have := hg.width; have := hg.height; omega)
    exact absurd hco (Set.disjoint_left.1 (tests.intersection_none houtput hg hn) (h.pixels hco))
  rename_i c hs
  obtain ⟨hpi, hw, hh⟩ := tests.intersection_some houtput hg hs
  have hsu : c.pixels ⊆ g.pixels := hpi ▸ Set.inter_subset_right
  rcases hw.eq_or_lt with hw | hw
  · -- nothing in common
    rw [← hw, Int.zero_mul]
    refine ⟨hr.le, fun h => absurd h (not_le.2 hr), fun h => ?_⟩
    have hal : g.pixels ⊆ c.pixels := hpi ▸ Set.subset_inter h.pixels subset_rfl
    have hd := (within_of_pixels hg.width hg.height hal).fits.1; exact absurd hg.width (by omega)
  rcases hh.eq_or_lt with hh | hh
  · rw [← hh, Int.mul_zero]
    refine ⟨hr.le, fun h => absurd h (not_le.2 hr), fun h => ?_⟩
    have hal : g.pixels ⊆ c.pixels := hpi ▸ Set.subset_inter h.pixels subset_rfl
    have hhe := (within_of_pixels hg.width hg.height hal).fits.2; exact absurd hg.height (by omega)
  · have hin := within_of_pixels hw hh hsu
    obtain ⟨hd, hhe⟩ := hin.fits
    refine ⟨Int.mul_le_mul hd hhe hh.le hg.width.le, fun h => ?_, fun h => ?_⟩
    · have hd : c.w = g.w := by nlinarith
      have hhe : c.h = g.h := by nlinarith
      obtain ⟨hf, hri, hto, hbo⟩ := hin
      refine within_of_pixels hg.width hg.height fun p hp => ?_
      have hc : p ∈ c.pixels := by
        rw [Rect.mem_pixels] at hp ⊢; omega
      exact (hpi ▸ hc : p ∈ output.pixels ∩ g.pixels).1
    · have hal : g.pixels ⊆ c.pixels := hpi ▸ Set.subset_inter h.pixels subset_rfl
      obtain ⟨hd, hhe⟩ := (within_of_pixels hg.width hg.height hal).fits
      exact Int.mul_le_mul hd hhe hg.height.le hw.le

theorem containsCenter_of_within (tests : RectangleTests) (houtput : output.OnScreen) (hw : 0 < g.w) (hh : 0 < g.h) (h : Within g output) :
    tests.contains output (rectangleCenter g) = true := by
  have hg := onScreen_of_within houtput hw hh h
  obtain ⟨hf, hr, hto, hbo⟩ := h
  refine (tests.contains_iff houtput _).2 ?_
  rw [rectangleCenter_eq hg, Rect.mem_pixels]; omega

theorem chosen_within {outputs : List (OutputId × Rect)} (ho : ∀ output ∈ outputs, output.2.OnScreen)
    {id : OutputId} (hmem : (id, output) ∈ outputs) (hw : 0 < g.w) (hh : 0 < g.h) (h : Within g output)
    {best : OutputId × Rect} (hbe : chooseOutputGeometry tests outputs g = some best) : Within g best.2 := by
  obtain ⟨hmb, hno⟩ := chosen_spec hbe
  have houtput := ho _ hmem
  have hg := onScreen_of_within houtput hw hh h
  have hr := hno _ hmem
  have hn := containsCenter_of_within tests houtput hw hh h
  refine (popupOverlapArea_spec tests (ho _ hmb) hg).2.1 ?_
  refine ((popupOverlapArea_spec tests houtput hg).2.2 h).trans ?_
  by_contra hs; rw [not_le] at hs
  simp only [outputCandidateIsBetter, outputCandidateScore, hn, hs] at hr
  cases hbc : tests.contains best.2 (rectangleCenter g) <;> simp [hbc] at hr

theorem find?_output {snapshot : OutputGeometries} {id : OutputId} (hmem : (id, output) ∈ snapshot.outputs) :
    (snapshot.outputs.find? fun new => new.1 = id) = some (id, output) :=
  find?_of_mem snapshot.nodup hmem

theorem migrateWindowGeometry_eq {outs no : List (OutputId × Rect)} {old dst : OutputId × Rect}
    (ho : chooseOutputGeometry tests outs g = some old) (hd : migrationDestination tests g outs no = some dst) :
    migrateWindowGeometry tests g outs no = clampWindowGeometry (migrateBetweenOrigins g old.2 dst.2) dst.2 := by
  unfold migrateWindowGeometry; rw [hd, ho]

theorem migrate_of_within (snapshot : OutputGeometries) {id : OutputId} (hmem : (id, output) ∈ snapshot.outputs)
    (hw : 0 < g.w) (hh : 0 < g.h) (h : Within g output) :
    migrateWindowGeometry tests g snapshot.outputs snapshot.outputs = g := by
  obtain ⟨bi, best, hs⟩ := exists_chosen tests g snapshot.nonempty
  have hmb := (chosen_spec hs).1
  have hd : migrationDestination tests g snapshot.outputs snapshot.outputs = some (bi, best) := by
    unfold migrationDestination
    rw [hs, Option.bind_some, find?_output hmb]; rfl
  have hin : Within g best := chosen_within snapshot.onScreen hmem hw hh h hs
  have hon := onScreen_of_within (snapshot.onScreen _ hmem) hw hh h
  have hk : migrateBetweenOrigins g best best = g := by
    unfold migrateBetweenOrigins migrateAxis
    rw [add_sub_cancel_left, add_sub_cancel_left, satI32_of_mem hon.left (by have := hon.right; omega),
      satI32_of_mem hon.top (by have := hon.bottom; omega)]
  rw [migrateWindowGeometry_eq hs hd, hk]
  exact clampWindowGeometry_of_within (snapshot.onScreen _ hmb) hw.le hh.le hin

theorem migrateWindowGeometry_size (tests : RectangleTests) (g : Rect) (oo outs : List (OutputId × Rect)) :
    (migrateWindowGeometry tests g oo outs).w = g.w ∧ (migrateWindowGeometry tests g oo outs).h = g.h := by
  unfold migrateWindowGeometry; split
  · exact ⟨rfl, rfl⟩
  · split <;> exact ⟨rfl, rfl⟩

theorem exists_destination {outs : List (OutputId × Rect)} (new : OutputGeometries) {old : OutputId × Rect}
    (hd : chooseOutputGeometry tests outs g = some old) :
    ∃ id dst, migrationDestination tests g outs new.outputs = some (id, dst) ∧
      (id, dst) ∈ new.outputs ∧ (old.1 ∈ new.outputs.map Prod.fst → id = old.1) := by
  unfold migrationDestination; rw [hd, Option.bind_some]
  by_cases hr : old.1 ∈ new.outputs.map Prod.fst
  · obtain ⟨⟨_, kept⟩, hk, rfl⟩ := List.mem_map.1 hr
    refine ⟨_, kept, ?_, hk, fun _ => rfl⟩
    rw [find?_output hk]; rfl
  obtain ⟨oi, other, ho⟩ := exists_chosen tests g new.nonempty
  have hn : new.outputs.find? (fun output => output.1 = old.1) = none := by
    rw [List.find?_eq_none]; intro output houtput hid
    exact hr (List.mem_map.2 ⟨output, houtput, by simpa using hid⟩)
  refine ⟨oi, other, ?_, (chosen_spec ho).1, fun hid => absurd hid hr⟩
  rw [hn, Option.none_or, ho]

/-- A window that fits at its place on the destination is put there. -/
theorem migrateBetweenOrigins_of_within {out dst : Rect} (hon : dst.OnScreen) (hw : 0 ≤ g.w)
    (hh : 0 ≤ g.h)
    (hin : Within { g with x := dst.x + (g.x - out.x), y := dst.y + (g.y - out.y) }
      dst) :
    clampWindowGeometry (migrateBetweenOrigins g out dst) dst =
      { g with x := dst.x + (g.x - out.x), y := dst.y + (g.y - out.y) } := by
  have hm : migrateBetweenOrigins g out dst =
      { g with x := dst.x + (g.x - out.x), y := dst.y + (g.y - out.y) } := by
    have hf : dst.x ≤ dst.x + (g.x - out.x) := hin.left
    have hr : dst.x + (g.x - out.x) + g.w ≤ dst.x + dst.w := hin.right
    have hto : dst.y ≤ dst.y + (g.y - out.y) := hin.top
    have hbo : dst.y + (g.y - out.y) + g.h ≤ dst.y + dst.h := hin.bottom
    have hx : migrateAxis g.x out.x dst.x = dst.x + (g.x - out.x) := by
      unfold migrateAxis; have := hon.left
      have := hon.right
      rw [Int.add_sub_assoc]; exact satI32_of_mem (by omega) (by omega)
    have hy : migrateAxis g.y out.y dst.y = dst.y + (g.y - out.y) := by
      unfold migrateAxis; have := hon.top
      have := hon.bottom
      rw [Int.add_sub_assoc]; exact satI32_of_mem (by omega) (by omega)
    unfold migrateBetweenOrigins; rw [hx, hy]
  rw [hm]; exact clampWindowGeometry_of_within hon hw hh hin

end

theorem migrate_of_chosen (snapshot : OutputGeometries) {id : OutputId} (hmem : (id, output) ∈ snapshot.outputs)
    (hw : 0 ≤ g.w) (hh : 0 ≤ g.h) {clamped : Rect} (hm : clamped = clampWindowGeometry g output)
    (hs : chooseOutputGeometry tests snapshot.outputs clamped = some (id, output)) :
    migrateWindowGeometry tests clamped snapshot.outputs snapshot.outputs = clamped := by
  have hd : migrationDestination tests clamped snapshot.outputs snapshot.outputs = some (id, output) := by
    unfold migrationDestination
    rw [hs, Option.bind_some, find?_output hmem]; rfl
  have hon := snapshot.onScreen _ hmem
  obtain ⟨⟨hf, hr⟩, hx⟩ := clampAxis_clamped g.x hw hon.width hon.left hon.right
  obtain ⟨⟨hto, hbo⟩, hy⟩ := clampAxis_clamped g.y hh hon.height hon.top hon.bottom
  rw [migrateWindowGeometry_eq hs hd, hm]
  simp [clampWindowGeometry, migrateBetweenOrigins, migrateAxis, satI32_of_mem hf hr, satI32_of_mem hto hbo, hx, hy]

/-- A window across a change of the topology keeps its size; it goes to the output it was on if that is still there; it
keeps its place on the output where it fits there, lies in its output where it fits in it, and then stays, as it
does while the output is the best for it. -/
theorem window_migrated (tests : RectangleTests) (old new : OutputGeometries) (g : Rect) (hw : 0 ≤ g.w) (hh : 0 ≤ g.h) :
    ∃ oldId oldOutput id destination migrated,
      migrateWindowGeometry tests g old.outputs new.outputs = migrated ∧
      chooseOutputGeometry tests old.outputs g = some (oldId, oldOutput) ∧
      migrationDestination tests g old.outputs new.outputs = some (id, destination) ∧
      (id, destination) ∈ new.outputs ∧ (oldId ∈ new.outputs.map Prod.fst → id = oldId) ∧
      (migrated.w = g.w ∧ migrated.h = g.h) ∧
      (Within { g with x := destination.x + (g.x - oldOutput.x), y := destination.y + (g.y - oldOutput.y) } destination →
        migrated.x - destination.x = g.x - oldOutput.x ∧ migrated.y - destination.y = g.y - oldOutput.y) ∧
      (chooseOutputGeometry tests new.outputs migrated = some (id, destination) →
        migrateWindowGeometry tests migrated new.outputs new.outputs = migrated) ∧
      (g.w ≤ destination.w → g.h ≤ destination.h → Within migrated destination ∧
        (0 < g.w → 0 < g.h → migrateWindowGeometry tests migrated new.outputs new.outputs = migrated)) := by
  obtain ⟨oldId, oldOutput, hold⟩ := exists_chosen tests g old.nonempty
  obtain ⟨id, destination, hdes, hmem, hid⟩ := exists_destination new hold
  have hon := new.onScreen _ hmem
  have hmig := migrateWindowGeometry_eq hold hdes
  have hsiz := migrateWindowGeometry_size tests g old.outputs new.outputs
  generalize migrateWindowGeometry tests g old.outputs new.outputs = migrated at hmig hsiz
  refine ⟨oldId, oldOutput, id, destination, migrated, rfl, hold, hdes, hmem, hid, hsiz, ?_,
    migrate_of_chosen new hmem (g := migrateBetweenOrigins g oldOutput destination) hw hh hmig, ?_⟩
  · intro hin
    rw [hmig, migrateBetweenOrigins_of_within hon hw hh hin]
    exact ⟨add_sub_cancel_left _ _, add_sub_cancel_left _ _⟩
  · intro hfitW hfitH
    have hin : Within migrated destination := by
      rw [hmig]
      exact clampWindowGeometry_within hon hw hh hfitW hfitH
    refine ⟨hin, fun hw hh => ?_⟩; rw [← hsiz.1] at hw
    rw [← hsiz.2] at hh; exact migrate_of_within new hmem hw hh hin

/-! ## A window wider than its output -/

theorem satAdd_edge {loc extent : Int} (hex : 0 < extent) (hlo : -2 ^ 31 ≤ loc)
    (he : loc + extent ≤ 2 ^ 31 - 1) : satAdd loc extent = loc + extent := satI32_of_mem (by omega) he

def edgeTests : RectangleTests where
  contains g p := g.x ≤ p.1 && p.1 < satAdd g.x g.w && g.y ≤ p.2 && p.2 < satAdd g.y g.h
  intersection a b :=
    if a.x < satAdd b.x b.w ∧ b.x < satAdd a.x a.w ∧ a.y < satAdd b.y b.h ∧ b.y < satAdd a.y a.h then
      some ⟨max a.x b.x, max a.y b.y, min (satAdd a.x a.w) (satAdd b.x b.w) - max a.x b.x,
        min (satAdd a.y a.h) (satAdd b.y b.h) - max a.y b.y⟩
    else none
  contains_iff {g} hg p := by
    rw [satAdd_edge hg.width hg.left hg.right, satAdd_edge hg.height hg.top hg.bottom, Rect.mem_pixels]
    simp only [Bool.and_eq_true, decide_eq_true_eq]; omega
  intersection_some {a b c} ha hb h := by
    rw [satAdd_edge ha.width ha.left ha.right, satAdd_edge ha.height ha.top ha.bottom, satAdd_edge hb.width hb.left hb.right,
      satAdd_edge hb.height hb.top hb.bottom] at h
    split at h
    · cases h; have := ha.width
      have := ha.height
      have := hb.width
      have := hb.height
      refine ⟨?_, by simp only; omega, by simp only; omega⟩
      ext p
      simp only [Set.mem_inter_iff, Rect.mem_pixels]; omega
    · cases h
  intersection_none {a b} ha hb h := by
    rw [satAdd_edge ha.width ha.left ha.right, satAdd_edge ha.height ha.top ha.bottom, satAdd_edge hb.width hb.left hb.right,
      satAdd_edge hb.height hb.top hb.bottom] at h
    split at h
    · cases h
    rw [Set.disjoint_left]; intro p
    simp only [Rect.mem_pixels]; omega

def oneOutput : OutputGeometries := ⟨[(1, ⟨0, 0, 300, 100⟩)], by decide, by decide, by
  intro output houtput
  obtain rfl := List.mem_singleton.1 houtput
  constructor <;> decide⟩

/-- The first output made narrower, and another beside it. -/
def twoOutputs : OutputGeometries := ⟨[(1, ⟨0, 0, 100, 100⟩), (2, ⟨100, 0, 300, 100⟩)], by decide, by decide, by
  intro output houtput
  rcases List.mem_pair.1 houtput with rfl | rfl <;> constructor <;> decide⟩

theorem window_migrated_narrower : ∃ oldId oldOutput id destination migrated,
    migrateWindowGeometry edgeTests ⟨10, 0, 50, 50⟩ oneOutput.outputs twoOutputs.outputs = migrated ∧
    chooseOutputGeometry edgeTests oneOutput.outputs ⟨10, 0, 50, 50⟩ = some (oldId, oldOutput) ∧
    (id, destination) ∈ twoOutputs.outputs ∧ (oldId ∈ twoOutputs.outputs.map Prod.fst → id = oldId) := by
  obtain ⟨oldId, oldOutput, id, destination, migrated, hmig, hold, -, hmem, hid, -⟩ :=
    window_migrated edgeTests oneOutput twoOutputs ⟨10, 0, 50, 50⟩ (by decide) (by decide)
  exact ⟨oldId, oldOutput, id, destination, migrated, hmig, hold, hmem, hid⟩

/-- A window that does not fit its output any longer is on another at the next change, although nothing changes. -/
theorem wide_window_migrates_again :
    migrateWindowGeometry edgeTests ⟨0, 0, 250, 50⟩ oneOutput.outputs twoOutputs.outputs = ⟨0, 0, 250, 50⟩ ∧
    migrateWindowGeometry edgeTests ⟨0, 0, 250, 50⟩ twoOutputs.outputs twoOutputs.outputs ≠ ⟨0, 0, 250, 50⟩ := by
  decide

end Deniald.Topology
