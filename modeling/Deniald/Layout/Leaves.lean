/-
Dwindle trees and their leaves: what each edit of a tree does to its windows, in order, and to its
ratios.
-/
import Deniald.Layout.Dwindle

namespace Deniald.Layout

open Deniald.Lib

namespace DwindleNode

variable {W : Type} [DecidableEq W]

omit [DecidableEq W] in
def leaves : DwindleNode W → List W
  | .window w => [w]
  | .split _ first second => first.leaves ++ second.leaves

omit [DecidableEq W] in
@[simp] theorem leaves_split (rt : ℚ) (first second : DwindleNode W) :
    (split rt first second).leaves = first.leaves ++ second.leaves := rfl

omit [DecidableEq W] in
/-- Every ratio of the tree is within the clamp range. -/
def RatiosOK (r : Rounding) : DwindleNode W → Prop
  | .window _ => True
  | .split ratio first second => minRatio r ≤ ratio ∧ ratio ≤ maxRatio r ∧ first.RatiosOK r ∧ second.RatiosOK r

omit [DecidableEq W] in
/-- The tree with its windows renamed and nothing else changed. -/
def rename (f : W → W) : DwindleNode W → DwindleNode W
  | .window w => .window (f w)
  | .split ratio first second => .split ratio (first.rename f) (second.rename f)

/-- A tree after its splits around one window were moved: every subtree without the window is the same. -/
inductive ResizedAlong (w : W) : DwindleNode W → DwindleNode W → Prop where
  | refl (t : DwindleNode W) : ResizedAlong w t t
  | first {ratio ratio' : ℚ} {a a' b : DwindleNode W} (h : w ∈ a.leaves) (ha : ResizedAlong w a a') :
      ResizedAlong w (.split ratio a b) (.split ratio' a' b)
  | second {ratio ratio' : ℚ} {a b b' : DwindleNode W} (h : w ∈ b.leaves) (hb : ResizedAlong w b b') :
      ResizedAlong w (.split ratio a b) (.split ratio' a b')

theorem contains_iff : ∀ (t : DwindleNode W) (w : W), t.contains w = true ↔ w ∈ t.leaves
  | .window c, w => by simp [contains, leaves, eq_comm]
  | .split _ first second, w => by
    unfold contains leaves
    rw [Bool.or_eq_true, contains_iff first, contains_iff second, List.mem_append]

omit [DecidableEq W] in
theorem lastWindow_mem : ∀ t : DwindleNode W, t.lastWindow ∈ t.leaves
  | .window _ => List.mem_singleton.2 rfl
  | .split _ _ second => List.mem_append_right _ (lastWindow_mem second)

omit [DecidableEq W] in
theorem leaves_ne_nil (t : DwindleNode W) : t.leaves ≠ [] := List.ne_nil_of_mem t.lastWindow_mem

/-! ## Removing -/

theorem remove_of_not_mem : ∀ {t : DwindleNode W} {w : W}, w ∉ t.leaves → t.remove w = (some t, false)
  | .window c, w, h => by
    have : c ≠ w := fun hc => h (List.mem_singleton.2 hc.symm)
    unfold remove; rw [if_neg this]
  | .split ratio first second, w, h => by
    obtain ⟨h1, h2⟩ := not_or.1 fun hm => h (List.mem_append.2 hm); unfold remove
    simp [remove_of_not_mem h1, remove_of_not_mem h2]

theorem remove_of_mem : ∀ {t : DwindleNode W} {w : W}, w ∈ t.leaves →
    (t.remove w).2 = true ∧ (t.remove w).1.elim [] leaves = t.leaves.erase w
  | .window c, w, h => by
    obtain rfl := List.mem_singleton.1 h
    unfold remove; rw [if_pos rfl]; simp [leaves]
  | .split ratio first second, w, h => by
    unfold remove
    by_cases h1 : w ∈ first.leaves
    · obtain ⟨hf, hv⟩ := remove_of_mem h1; unfold leaves
      rw [List.erase_append_left _ h1, ← hv]
      rcases hr : first.remove w with ⟨_ | f', flag⟩
      · rw [hr] at hf; subst hf; simp
      · rw [hr] at hf; subst hf; simp [leaves]
    · have h2 : w ∈ second.leaves := (List.mem_append.1 h).resolve_left h1
      obtain ⟨hf, hv⟩ := remove_of_mem h2; unfold leaves
      rw [List.erase_append_right _ h1, ← hv, remove_of_not_mem h1]
      rcases hr : second.remove w with ⟨_ | s', flag⟩
      · rw [hr] at hf; subst hf; simp
      · rw [hr] at hf; subst hf; simp [leaves]

theorem remove_ratios {r : Rounding} : ∀ {t : DwindleNode W} (w : W), t.RatiosOK r →
    ∀ t' ∈ (t.remove w).1, t'.RatiosOK r
  | .window c, w, _, t', ht' => by
    unfold remove at ht'; split at ht'
    · cases ht'
    · obtain rfl := Option.some.inj ht'; trivial
  | .split ratio first second, w, ⟨hlo, hhi, hf, hs⟩, t', ht' => by
    by_cases h1 : w ∈ first.leaves
    · obtain ⟨hfl, -⟩ := remove_of_mem h1; unfold remove at ht'
      rcases hr : first.remove w with ⟨_ | f', flag⟩
      · rw [hr] at hfl; subst hfl
        simp only [hr] at ht'
        obtain rfl := Option.some.inj ht'; exact hs
      rw [hr] at hfl; subst hfl
      simp only [hr] at ht'; cases ht'
      exact ⟨hlo, hhi, remove_ratios w hf f' (by rw [hr]; rfl), hs⟩
    · unfold remove at ht'
      simp only [remove_of_not_mem h1] at ht'
      rcases hr : second.remove w with ⟨_ | s', _ | _⟩
      · simp [hr] at ht'
      · simp only [hr] at ht'
        obtain rfl := Option.some.inj ht'; exact hf
      · simp only [hr, Option.map₂_some_some] at ht'; cases ht'
        exact ⟨hlo, hhi, hf, remove_ratios w hs s' (by rw [hr]; rfl)⟩
      simp only [hr, Option.map_some] at ht'; cases ht'
      exact ⟨hlo, hhi, hf, remove_ratios w hs s' (by rw [hr]; rfl)⟩

/-! ## Inserting -/

section Split

variable (r : Rounding)

theorem splitWindow_of_not_mem : ∀ {t : DwindleNode W} {anchor : W} (w : W), anchor ∉ t.leaves →
    t.splitWindow r anchor w = (t, false)
  | .window c, anchor, w, h => by
    have : c ≠ anchor := fun hc => h (List.mem_singleton.2 hc.symm)
    unfold splitWindow; rw [if_neg this]
  | .split ratio first second, anchor, w, h => by
    obtain ⟨h1, h2⟩ := not_or.1 fun hm => h (List.mem_append.2 hm); unfold splitWindow
    simp [splitWindow_of_not_mem w h1, splitWindow_of_not_mem w h2]

theorem splitWindow_of_mem : ∀ {t : DwindleNode W} {anchor : W} (w : W), anchor ∈ t.leaves →
    (t.splitWindow r anchor w).2 = true ∧
      ∃ before after, t.leaves = before ++ anchor :: after ∧
        (t.splitWindow r anchor w).1.leaves = before ++ anchor :: w :: after
  | .window c, anchor, w, h => by
    obtain rfl := List.mem_singleton.1 h
    unfold splitWindow; rw [if_pos rfl]; exact ⟨rfl, [], [], rfl, rfl⟩
  | .split ratio first second, anchor, w, h => by
    unfold splitWindow
    by_cases h1 : anchor ∈ first.leaves
    · obtain ⟨hf, before, after, ho, hn⟩ := splitWindow_of_mem w h1
      rcases hs : first.splitWindow r anchor w with ⟨f', flag⟩
      rw [hs] at hf hn; subst hf
      refine ⟨rfl, before, after ++ second.leaves, ?_, ?_⟩
      · rw [leaves_split, ho]; simp
      · show f'.leaves ++ second.leaves = _; rw [hn]; simp
    · obtain ⟨hf, before, after, ho, hn⟩ := splitWindow_of_mem w ((List.mem_append.1 h).resolve_left h1)
      rw [splitWindow_of_not_mem r w h1]
      refine ⟨hf, first.leaves ++ before, after, ?_, ?_⟩
      · rw [leaves_split, ho]; simp
      · show first.leaves ++ (second.splitWindow r anchor w).1.leaves = _; rw [hn]; simp

theorem remove_splitWindow : ∀ {t : DwindleNode W} {anchor w : W}, anchor ∈ t.leaves → w ∉ t.leaves →
    (t.splitWindow r anchor w).1.remove w = (some t, true)
  | .window c, anchor, w, h, hw => by
    obtain rfl := List.mem_singleton.1 h
    have : anchor ≠ w := fun hc => hw (List.mem_singleton.2 hc.symm)
    unfold splitWindow; rw [if_pos rfl]; simp [remove, this]
  | .split ratio first second, anchor, w, h, hw => by
    obtain ⟨hw1, hw2⟩ := not_or.1 fun hm => hw (List.mem_append.2 hm); unfold splitWindow
    by_cases h1 : anchor ∈ first.leaves
    · have hf := (splitWindow_of_mem r w h1).1
      have ih := remove_splitWindow h1 hw1
      rcases hs : first.splitWindow r anchor w with ⟨f', flag⟩
      rw [hs] at hf ih; subst hf
      unfold remove; simp [ih]
    · have ih := remove_splitWindow ((List.mem_append.1 h).resolve_left h1) hw2
      rw [splitWindow_of_not_mem r w h1]; unfold remove
      simp [remove_of_not_mem hw1, ih]

theorem half_ratio_mem : minRatio r ≤ halfRatio r ∧ halfRatio r ≤ maxRatio r :=
  ⟨r.mono (by norm_num), r.mono (by norm_num)⟩

theorem splitWindow_ratios : ∀ {t : DwindleNode W} (anchor w : W), t.RatiosOK r →
    (t.splitWindow r anchor w).1.RatiosOK r
  | .window c, anchor, w, _ => by
    unfold splitWindow; split
    · exact ⟨(half_ratio_mem r).1, (half_ratio_mem r).2, trivial, trivial⟩
    · trivial
  | .split ratio first second, anchor, w, ⟨hlo, hhi, hf, hs⟩ => by
    have ihf := splitWindow_ratios anchor w hf; unfold splitWindow
    rcases hsp : first.splitWindow r anchor w with ⟨f', _ | _⟩
    · rw [hsp] at ihf; exact ⟨hlo, hhi, ihf, splitWindow_ratios anchor w hs⟩
    · rw [hsp] at ihf; exact ⟨hlo, hhi, ihf, hs⟩

end Split

/-! ## Swapping and resizing -/

omit [DecidableEq W] in
theorem leaves_rename (f : W → W) : ∀ t : DwindleNode W, (t.rename f).leaves = t.leaves.map f
  | .window w => rfl
  | .split _ first second => by
    unfold rename leaves; rw [leaves_rename f first, leaves_rename f second, List.map_append]

omit [DecidableEq W] in
theorem ratiosOK_rename {r : Rounding} (f : W → W) : ∀ {t : DwindleNode W}, t.RatiosOK r → (t.rename f).RatiosOK r
  | .window _, _ => trivial
  | .split _ _ _, ⟨hlo, hhi, hf, hs⟩ => ⟨hlo, hhi, ratiosOK_rename f hf, ratiosOK_rename f hs⟩

theorem swapWindows_eq (a b : W) : ∀ t : DwindleNode W, t.swapWindows a b = t.rename (Equiv.swap a b)
  | .window w => by
    unfold swapWindows rename; rw [Equiv.swap_apply_def]
    split
    · rfl
    · split <;> rfl
  | .split _ first second => by unfold swapWindows rename; rw [swapWindows_eq a b first, swapWindows_eq a b second]

theorem rename_swap_of_not_mem {a b : W} : ∀ {t : DwindleNode W}, a ∉ t.leaves → b ∉ t.leaves →
    t.rename (Equiv.swap a b) = t
  | .window w, ha, hb => by
    have hwa : w ≠ a := fun h => ha (List.mem_singleton.2 h.symm)
    have hwb : w ≠ b := fun h => hb (List.mem_singleton.2 h.symm)
    unfold rename; rw [Equiv.swap_apply_of_ne_of_ne hwa hwb]
  | .split _ first second, ha, hb => by
    obtain ⟨ha1, ha2⟩ := not_or.1 fun hm => ha (List.mem_append.2 hm)
    obtain ⟨hb1, hb2⟩ := not_or.1 fun hm => hb (List.mem_append.2 hm)
    unfold rename; rw [rename_swap_of_not_mem ha1 hb1, rename_swap_of_not_mem ha2 hb2]

omit [DecidableEq W] in
theorem ResizedAlong.leaves_eq {w : W} {t t' : DwindleNode W} (h : ResizedAlong w t t') : t'.leaves = t.leaves := by
  induction h with
  | refl => rfl
  | first _ _ ih => unfold leaves; rw [ih]
  | second _ _ ih => unfold leaves; rw [ih]

omit [DecidableEq W] in
theorem ResizedAlong.eq_of_not_mem {w : W} {t t' : DwindleNode W} (h : ResizedAlong w t t') (hw : w ∉ t.leaves) :
    t' = t := by
  cases h with
  | refl => rfl
  | first h _ => exact absurd (List.mem_append_left _ h) hw
  | second h _ => exact absurd (List.mem_append_right _ h) hw

/-! ### Resizing -/

section Resize

variable (r : Rounding)

theorem resizedRatio_mem {rt : ℚ} {dl : F64} {a : Int} {next : ℚ}
    (h : resizedRatio r rt dl a = some next) : minRatio r ≤ next ∧ next ≤ maxRatio r := by
  unfold resizedRatio at h
  cases dl with
  | finite d =>
    simp only at h
    split at h
    · split at h
      · cases h; exact clamp_mem (r.mono (by norm_num))
      · cases h
    · cases h
  | infinite _ => cases h
  | nan => cases h

theorem resizeBoundary_mem {rt : ℚ} (hr : minRatio r ≤ rt ∧ rt ≤ maxRatio r) (wif : Bool)
    (geometry : Rect) (gap : Int) (edges : LayoutResizeEdges) (dx dy : F64) (rsz : ResizedAxes) :
    let ratio' := (resizeBoundary r rt wif geometry gap edges dx dy rsz).1
    minRatio r ≤ ratio' ∧ ratio' ≤ maxRatio r := by
  intro ratio'
  -- whichever axis is split, the new ratio is the old one or a clamped one
  have hmem : ∀ d available, let next := (resizedRatio r rt d available).getD rt
      minRatio r ≤ next ∧ next ≤ maxRatio r := by
    intro d available
    cases hn : resizedRatio r rt d available with
    | none => exact hr
    | some next => exact resizedRatio_mem r hn
  have hs : ratio' = rt ∨ ∃ d available, ratio' = (resizedRatio r rt d available).getD rt := by
    simp only [ratio', resizeBoundary]
    generalize (!(if decide (geometry.w ≥ geometry.h) = true then _ else _ : Bool)) = skips
    cases skips with
    | true => exact .inl rfl
    | false => exact .inr ⟨_, _, rfl⟩
  rcases hs with h | ⟨d, available, h⟩
  · rw [h]; exact hr
  · rw [h]; exact hmem d available

theorem resizeWindow_along : ∀ (t : DwindleNode W) (w : W) (geometry : Rect) (gap : Int) (edges : LayoutResizeEdges)
    (deltaX dy : F64), let t' := (t.resizeWindow r w geometry gap edges deltaX dy).1
      ResizedAlong w t t' ∧ (t.RatiosOK r → t'.RatiosOK r)
  | .window c, _, _, _, _, _, _ => ⟨.refl _, id⟩
  | .split ratio first second, w, geometry, gap, edges, deltaX, dy => by
    unfold resizeWindow
    simp only
    split
    · rename_i h1
      obtain ⟨hn, hr⟩ := resizeWindow_along first w
        (splitGeometry r geometry gap (.finite ratio)).1 gap edges deltaX dy
      refine ⟨.first ((contains_iff _ _).1 h1) hn, fun ⟨hlo, hhi, hf, hs⟩ => ?_⟩
      obtain ⟨hlo', hhi'⟩ := resizeBoundary_mem r ⟨hlo, hhi⟩ true geometry gap edges deltaX dy _
      exact ⟨hlo', hhi', hr hf, hs⟩
    · split
      · rename_i h2
        obtain ⟨hn, hr⟩ := resizeWindow_along second w
          (splitGeometry r geometry gap (.finite ratio)).2 gap edges deltaX dy
        refine ⟨.second ((contains_iff _ _).1 h2) hn, fun ⟨hlo, hhi, hf, hs⟩ => ?_⟩
        obtain ⟨hlo', hhi'⟩ := resizeBoundary_mem r ⟨hlo, hhi⟩ false geometry gap edges deltaX dy _
        exact ⟨hlo', hhi', hf, hr hs⟩
      · exact ⟨.refl _, id⟩

end Resize

end DwindleNode

end Deniald.Layout
