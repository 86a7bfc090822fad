/-
The dwindle layout partitions its windows over whole runs: every window inserted and not removed since
is one leaf of one output's tree, ratios stay in their clamp range, an operation leaves what it does
not name undisturbed, and removing a window just inserted restores the trees before.
-/
import Deniald.Lib.Run
import Deniald.Layout.Leaves
import Mathlib.Data.Finset.Basic

namespace Deniald.Layout

open Deniald.Lib
open Deniald.Topology (OutputId)

/-! ## Runs -/

/-- An iteration order a hash map may take: any reordering of its entries. -/
structure IterationOrder (W : Type) where
  permute : List (Σ _ : OutputId, DwindleNode W) → List (Σ _ : OutputId, DwindleNode W)
  perm : ∀ l, (permute l).Perm l

inductive LayoutEvent (W : Type) where
  | insert (insertion : LayoutInsertion W)
  | remove (window : W)
  | swap (first second : W)
  | resize (request : LayoutResizeRequest W)
  | clear
  | reorder (order : IterationOrder W)

namespace DwindleLayout

variable {W : Type} [DecidableEq W]

def next (r : Rounding) (layout : DwindleLayout W) : LayoutEvent W → DwindleLayout W
  | .insert insertion => layout.insert r insertion
  | .remove w => (layout.remove w).1
  | .swap first second => (layout.swap first second).1
  | .resize request => (layout.resize r request).1
  | .clear => empty
  | .reorder order =>
    ⟨order.permute layout.roots.entries, (List.perm_nodupKeys (order.perm _)).2 layout.roots.nodupKeys⟩

def manage (managed : Finset W) : LayoutEvent W → Finset W
  | .insert insertion => Insert.insert insertion.window managed
  | .remove w => managed.erase w
  | .clear => ∅
  | _ => managed

omit [DecidableEq W] in
def root (layout : DwindleLayout W) (output : OutputId) : Option (DwindleNode W) := layout.roots.lookup output

omit [DecidableEq W] in
def windowsOn (layout : DwindleLayout W) (output : OutputId) : List W :=
  (layout.root output).elim [] DwindleNode.leaves

/-- The invariant: no window is a leaf twice, the leaves are the managed windows, and every ratio is in
range. -/
structure Partitioned (r : Rounding) (layout : DwindleLayout W) (managed : Finset W) : Prop where
  nodup : ∀ o, (layout.windowsOn o).Nodup
  apart : ∀ o o', o ≠ o' → (layout.windowsOn o).Disjoint (layout.windowsOn o')
  managed : ∀ w, w ∈ managed ↔ ∃ o, w ∈ layout.windowsOn o
  ratios : ∀ o t, layout.root o = some t → t.RatiosOK r

variable {layout : DwindleLayout W} {o : OutputId} {w : W} {r : Rounding} {managed : Finset W}

omit [DecidableEq W] in
theorem windowsOn_of_root {t : DwindleNode W} (h : layout.root o = some t) : layout.windowsOn o = t.leaves := by
  unfold windowsOn; rw [h]; rfl

omit [DecidableEq W] in
theorem mem_windowsOn : w ∈ layout.windowsOn o ↔ ∃ t, layout.root o = some t ∧ w ∈ t.leaves := by
  unfold windowsOn
  cases layout.root o <;> simp

/-! ## Operations, tree by tree -/

theorem locate_some (h : layout.locate w = some o) : ∃ t, layout.root o = some t ∧ w ∈ t.leaves := by
  obtain ⟨e, he, rfl⟩ := Option.map_eq_some_iff.1 h
  obtain ⟨hr, hmem⟩ := lookup_of_find? he
  exact ⟨e.2, hr, (DwindleNode.contains_iff _ _).1 hmem⟩

theorem locate_none (h : layout.locate w = none) {t : DwindleNode W} (ht : layout.root o = some t) : w ∉ t.leaves := by
  have := not_of_find?_none (Option.map_eq_none_iff.1 h) ht
  rw [← DwindleNode.contains_iff, Bool.not_eq_true]; exact this

/-- What is left of a tree without a window. -/
def prune (w : W) (root : Option (DwindleNode W)) : Option (DwindleNode W) := root.bind fun t => (t.remove w).1

theorem prune_of_not_mem {root : Option (DwindleNode W)} (h : ∀ t ∈ root, w ∉ t.leaves) : prune w root = root := by
  cases root with
  | none => rfl
  | some t => unfold prune; rw [Option.bind_some, DwindleNode.remove_of_not_mem (h t rfl)]

theorem root_remove (apart : ∀ o o', o ≠ o' → (layout.windowsOn o).Disjoint (layout.windowsOn o')) (w : W)
    (o : OutputId) : (layout.remove w).1.root o = prune w (layout.root o) := by
  unfold remove
  cases hlo : layout.locate w with
  | none => exact (prune_of_not_mem fun t ht => locate_none hlo ht).symm
  | some output =>
    obtain ⟨t, ht, hw⟩ := locate_some hlo
    have hk : layout.roots.lookup output = some t := ht
    simp only [hk]
    by_cases ho : o = output
    · subst ho
      unfold prune root; rw [hk, Option.bind_some]
      cases hr : (t.remove w).1 with
      | none => exact AList.lookup_erase ..
      | some t' => exact AList.lookup_insert _
    · -- the window is in one tree, so the others have nothing to lose
      rw [prune_of_not_mem fun t' ht' hw' =>
        apart o output ho (mem_windowsOn.2 ⟨t', ht', hw'⟩) (mem_windowsOn.2 ⟨t, ht, hw⟩)]
      unfold root
      cases (t.remove w).1 with
      | none => simp only; rw [lookup_erase_eq, if_neg ho]
      | some t' => simp only; rw [lookup_insert_eq, lookup_erase_eq, if_neg ho, if_neg ho]

/-- Inserting a window, over the layout without it: it becomes a tree of its own, or splits a leaf of
the tree there; the other trees stay. -/
theorem root_insert (r : Rounding) (layout : DwindleLayout W) (i : LayoutInsertion W) :
    let removed := (layout.remove i.window).1
    (∀ o, o ≠ i.output → (layout.insert r i).root o = removed.root o) ∧
      ((removed.root i.output = none ∧ (layout.insert r i).root i.output = some (.window i.window)) ∨
        ∃ t anchor, removed.root i.output = some t ∧ anchor ∈ t.leaves ∧
          (layout.insert r i).root i.output = some (t.splitWindow r anchor i.window).1) := by
  intro removed; unfold insert
  cases hr : removed.roots.lookup i.output with
  | none =>
    refine ⟨fun o ho => ?_, .inl ⟨hr, ?_⟩⟩
    · simp only [removed] at hr
      simp only [hr]; exact AList.lookup_insert_ne ho
    · simp only [removed] at hr
      simp only [hr]; exact AList.lookup_insert _
  | some t =>
    refine ⟨fun o ho => ?_, .inr ⟨t, (i.anchor.filter fun anchor => t.contains anchor).getD t.lastWindow,
      hr, ?_, ?_⟩⟩
    · simp only [removed] at hr
      simp only [hr]; exact AList.lookup_insert_ne ho
    · cases hn : i.anchor.filter fun anchor => t.contains anchor with
      | none => exact t.lastWindow_mem
      | some anchor =>
        exact (DwindleNode.contains_iff _ _).1 (Option.filter_eq_some_iff.1 hn).2
    · simp only [removed] at hr
      simp only [hr]; exact AList.lookup_insert _

theorem contains_iff : layout.contains w = true ↔ ∃ o t, layout.root o = some t ∧ w ∈ t.leaves := by
  unfold contains; rw [List.any_eq_true]
  constructor
  · rintro ⟨⟨o, t⟩, he, hw⟩
    exact ⟨o, t, AList.mem_lookup_iff.2 he, (DwindleNode.contains_iff _ _).1 hw⟩
  · rintro ⟨o, t, ht, hw⟩
    exact ⟨⟨o, t⟩, AList.mem_lookup_iff.1 ht, (DwindleNode.contains_iff _ _).2 hw⟩

theorem root_swap (layout : DwindleLayout W) (a b : W) (o : OutputId) : (layout.swap a b).1.root o =
      if a ≠ b ∧ layout.contains a ∧ layout.contains b then (layout.root o).map (DwindleNode.rename (Equiv.swap a b))
      else layout.root o := by
  unfold swap; split
  · rename_i h
    rw [if_neg (by simpa [imp_iff_not_or] using h)]
  rename_i h; rw [if_pos (by simpa using h)]; unfold root
  rw [lookup_mapValues]
  exact congrArg (fun f => Option.map f _) (funext fun t => DwindleNode.swapWindows_eq a b t)

theorem root_resize (r : Rounding) (layout : DwindleLayout W) (request : LayoutResizeRequest W) (o : OutputId) :
    (layout.resize r request).1.root o = layout.root o ∨
      ∃ t t', layout.root o = some t ∧ (layout.resize r request).1.root o = some t' ∧
        DwindleNode.ResizedAlong request.window t t' ∧ (t.RatiosOK r → t'.RatiosOK r) := by
  unfold resize; split
  · cases hf : layout.roots.entries.find? fun ent => ent.2.contains request.window with
    | none => exact .inl rfl
    | some e =>
      obtain ⟨hr, -⟩ := lookup_of_find? hf
      by_cases ho : o = e.1
      · subst ho
        right
        refine ⟨e.2, _, hr, ?_, DwindleNode.resizeWindow_along r e.2 request.window request.workArea
          (max request.gap 0) request.edges request.deltaX request.deltaY⟩
        exact AList.lookup_insert _
      · left
        exact AList.lookup_insert_ne ho
  · exact .inl rfl

/-! ## Operations, output by output -/

theorem leaves_prune (w : W) (root : Option (DwindleNode W)) :
    (prune w root).elim [] DwindleNode.leaves = (root.elim [] DwindleNode.leaves).erase w := by
  cases root with
  | none => rfl
  | some t =>
    show ((t.remove w).1.elim [] DwindleNode.leaves) = t.leaves.erase w
    by_cases hw : w ∈ t.leaves
    · exact (DwindleNode.remove_of_mem hw).2
    · rw [DwindleNode.remove_of_not_mem hw, List.erase_of_not_mem hw]; rfl

theorem windowsOn_remove (apart : ∀ o o', o ≠ o' → (layout.windowsOn o).Disjoint (layout.windowsOn o')) (w : W)
    (o : OutputId) : (layout.remove w).1.windowsOn o = (layout.windowsOn o).erase w := by
  unfold windowsOn; rw [root_remove apart, leaves_prune]

theorem windowsOn_resize (r : Rounding) (layout : DwindleLayout W) (request : LayoutResizeRequest W) (o : OutputId) :
    (layout.resize r request).1.windowsOn o = layout.windowsOn o := by
  rcases root_resize r layout request o with h | ⟨t, t', ht, ht', hn, -⟩
  · unfold windowsOn; rw [h]
  · rw [windowsOn_of_root ht, windowsOn_of_root ht', hn.leaves_eq]

theorem windowsOn_swap (layout : DwindleLayout W) (a b : W) (o : OutputId) : (layout.swap a b).1.windowsOn o =
      if a ≠ b ∧ layout.contains a ∧ layout.contains b then (layout.windowsOn o).map (Equiv.swap a b)
      else layout.windowsOn o := by
  unfold windowsOn; rw [root_swap]
  split
  · cases layout.root o with
    | none => rfl
    | some t => exact DwindleNode.leaves_rename _ t
  · rfl

theorem root_reorder (r : Rounding) (layout : DwindleLayout W) (or : IterationOrder W) (o : OutputId) :
    (layout.next r (.reorder or)).root o = layout.root o :=
  AList.perm_lookup (or.perm _)

theorem partitioned_remove (h : layout.Partitioned r managed) (w : W) :
    (layout.remove w).1.Partitioned r (managed.erase w) where
  nodup o := by rw [windowsOn_remove h.apart]; exact (h.nodup o).erase w
  apart o o' ho := by
    rw [windowsOn_remove h.apart, windowsOn_remove h.apart]
    exact List.disjoint_of_subset_left (List.erase_subset)
      (List.disjoint_of_subset_right (List.erase_subset) (h.apart o o' ho))
  managed v := by
    simp only [Finset.mem_erase, windowsOn_remove h.apart, (h.nodup _).mem_erase_iff, h.managed v]
    constructor
    · rintro ⟨hne, o, hv⟩; exact ⟨o, hne, hv⟩
    · rintro ⟨o, hne, hv⟩; exact ⟨hne, o, hv⟩
  ratios o t ht := by
    rw [root_remove h.apart] at ht
    obtain ⟨t0, ht0, hr⟩ := Option.bind_eq_some_iff.1 ht
    exact DwindleNode.remove_ratios w (h.ratios o t0 ht0) t hr

theorem not_mem_windowsOn_remove (h : layout.Partitioned r managed) (w : W) (o : OutputId) :
    w ∉ (layout.remove w).1.windowsOn o :=
  fun hw => Finset.notMem_erase _ _ (((partitioned_remove h w).managed w).2 ⟨o, hw⟩)

/-- What an insertion does on its output, over the layout without the window: the window joins the
leaves, and pruning it gives the tree back. -/
theorem insert_spec (h : layout.Partitioned r managed) (i : LayoutInsertion W) :
    (∀ o, o ≠ i.output → (layout.insert r i).root o = (layout.remove i.window).1.root o) ∧
      ∃ t', (layout.insert r i).root i.output = some t' ∧ t'.RatiosOK r ∧
        t'.leaves.Perm (i.window :: (layout.remove i.window).1.windowsOn i.output) ∧
        prune i.window (some t') = (layout.remove i.window).1.root i.output := by
  have hp := partitioned_remove h i.window
  have hf := not_mem_windowsOn_remove h i.window
  obtain ⟨ho, ⟨hno, hn⟩ | ⟨t, anchor, ht, han, hn⟩⟩ := root_insert r layout i
  · refine ⟨ho, _, hn, trivial, ?_, ?_⟩
    · unfold windowsOn; rw [hno]; exact List.Perm.refl _
    · rw [hno]; unfold prune DwindleNode.remove; simp
  · have hf' : i.window ∉ t.leaves := by rw [← windowsOn_of_root ht]; exact hf _
    obtain ⟨-, before, after, hd, hv⟩ := DwindleNode.splitWindow_of_mem r i.window han
    refine ⟨ho, _, hn, DwindleNode.splitWindow_ratios r _ _ (hp.ratios _ t ht), ?_, ?_⟩
    · rw [windowsOn_of_root ht, hd, hv]
      have : (before ++ anchor :: i.window :: after).Perm (before ++ i.window :: anchor :: after) :=
        (List.Perm.swap ..).append_left before
      exact this.trans List.perm_middle
    · rw [ht]; unfold prune
      rw [Option.bind_some, DwindleNode.remove_splitWindow r han hf']

theorem partitioned_insert (h : layout.Partitioned r managed) (i : LayoutInsertion W) :
    (layout.insert r i).Partitioned r (Insert.insert i.window managed) := by
  have hp := partitioned_remove h i.window
  have hf := not_mem_windowsOn_remove h i.window
  obtain ⟨hot, t', hro, hra, hr, -⟩ := insert_spec h i; rw [← windowsOn_of_root hro] at hr
  have hh : ∀ o, o ≠ i.output → (layout.insert r i).windowsOn o = (layout.remove i.window).1.windowsOn o := by
    intro o ho; unfold windowsOn; rw [hot o ho]
  have hmem : ∀ o v, v ∈ (layout.insert r i).windowsOn o ↔
      (o = i.output ∧ v = i.window) ∨ v ∈ (layout.remove i.window).1.windowsOn o := by
    intro o v
    by_cases ho : o = i.output
    · subst ho; rw [hr.mem_iff]; simp
    · rw [hh o ho]; simp [ho]
  refine ⟨fun o => ?_, fun o o' ho v hv hv' => ?_, fun v => ?_, fun o t ht => ?_⟩
  · by_cases ho : o = i.output
    · subst ho
      exact hr.nodup_iff.2 (List.nodup_cons.2 ⟨hf _, hp.nodup _⟩)
    · rw [hh o ho]; exact hp.nodup o
  · rcases (hmem o v).1 hv with ⟨rfl, rfl⟩ | hv
    · rcases (hmem o' i.window).1 hv' with ⟨ho', -⟩ | hv'
      · exact ho ho'.symm
      · exact hf o' hv'
    rcases (hmem o' v).1 hv' with ⟨-, rfl⟩ | hv'
    · exact hf o hv
    · exact hp.apart o o' ho hv hv'
  · simp only [hmem, exists_or, exists_and_right, exists_eq, true_and, ← hp.managed v, Finset.mem_insert,
      Finset.mem_erase]
    tauto
  · by_cases ho : o = i.output
    · subst ho; rw [hro] at ht
      cases ht; exact hra
    · rw [hot o ho] at ht; exact hp.ratios o t ht

omit [DecidableEq W] in
theorem partitioned_of_windowsOn {lay' : DwindleLayout W} (h : layout.Partitioned r managed) (f : Equiv.Perm W)
    (hf : ∀ w, f w ∈ managed ↔ w ∈ managed) (hw : ∀ o, lay'.windowsOn o = (layout.windowsOn o).map f)
    (hr : ∀ o t, lay'.root o = some t → t.RatiosOK r) : lay'.Partitioned r managed where
  nodup o := by rw [hw]; exact (h.nodup o).map f.injective
  apart o o' ho := by
    rw [hw, hw]; exact List.disjoint_map f.injective (h.apart o o' ho)
  managed w := by
    rw [← f.apply_symm_apply w, hf, h.managed]
    simp only [hw, List.mem_map_of_injective f.injective]
  ratios := hr

theorem partitioned_swap (h : layout.Partitioned r managed) (a b : W) : (layout.swap a b).1.Partitioned r managed := by
  by_cases hs : a ≠ b ∧ layout.contains a ∧ layout.contains b
  · have ha := hs.2.1
    have hb := hs.2.2
    have hm : ∀ w, layout.contains w = true → w ∈ managed := fun w hw =>
      (h.managed w).2 ((contains_iff.1 hw).imp fun o => mem_windowsOn.2)
    refine partitioned_of_windowsOn h (Equiv.swap a b) (fun w => ?_) (fun o => ?_) fun o t ht => ?_
    · rw [Equiv.swap_apply_def]; split
      · subst w; exact iff_of_true (hm b hb) (hm a ha)
      split
      · subst w; exact iff_of_true (hm a ha) (hm b hb)
      · rfl
    · rw [windowsOn_swap, if_pos hs]
    · rw [root_swap, if_pos hs] at ht
      obtain ⟨t0, ht0, rfl⟩ := Option.map_eq_some_iff.1 ht
      exact DwindleNode.ratiosOK_rename _ (h.ratios o t0 ht0)
  · refine partitioned_of_windowsOn h (Equiv.refl W) (fun w => Iff.rfl) (fun o => ?_) fun o t ht => ?_
    · rw [windowsOn_swap, if_neg hs]; exact (List.map_id _).symm
    · rw [root_swap, if_neg hs] at ht; exact h.ratios o t ht

theorem partitioned_resize (h : layout.Partitioned r managed) (request : LayoutResizeRequest W) :
    (layout.resize r request).1.Partitioned r managed := by
  refine partitioned_of_windowsOn h (Equiv.refl W) (fun w => Iff.rfl) (fun o => ?_) fun o t ht => ?_
  · rw [windowsOn_resize]; exact (List.map_id _).symm
  · rcases root_resize r layout request o with hs | ⟨t0, t', ht0, ht', -, hr⟩
    · rw [hs] at ht; exact h.ratios o t ht
    · rw [ht'] at ht
      cases ht; exact hr (h.ratios o t0 ht0)

theorem partitioned_reorder (h : layout.Partitioned r managed) (or : IterationOrder W) :
    (layout.next r (.reorder or)).Partitioned r managed := by
  refine partitioned_of_windowsOn h (Equiv.refl W) (fun w => Iff.rfl) (fun o => ?_) fun o t ht => ?_
  · unfold windowsOn; rw [root_reorder]; exact (List.map_id _).symm
  · rw [root_reorder] at ht; exact h.ratios o t ht

omit [DecidableEq W] in
theorem partitioned_empty (r : Rounding) : (empty : DwindleLayout W).Partitioned r ∅ where
  nodup o := List.nodup_nil
  apart o o' _ := by intro w hw; cases hw
  managed w := by
    constructor
    · intro hw; exact absurd hw (Finset.notMem_empty w)
    · rintro ⟨o, hw⟩; cases hw
  ratios o t ht := by cases ht

theorem partitioned_next (layout : DwindleLayout W) (managed : Finset W) (e : LayoutEvent W)
    (h : layout.Partitioned r managed) : (layout.next r e).Partitioned r (manage managed e) := by
  cases e with
  | insert i => exact partitioned_insert h i
  | remove w => exact partitioned_remove h w
  | swap first second => exact partitioned_swap h first second
  | resize request => exact partitioned_resize h request
  | clear => exact partitioned_empty r
  | reorder or => exact partitioned_reorder h or

/-! ## Whole runs -/

/-- What an event leaves as it was, for each output: an insertion or a removal everything but its
window, a swap the shape of the trees and all other windows, a resize every subtree without its
window. -/
def Undisturbed (layout layout' : DwindleLayout W) (o : OutputId) : LayoutEvent W → Prop
  | .insert i =>
    (o ≠ i.output → i.window ∉ layout.windowsOn o → layout'.root o = layout.root o) ∧
      (layout'.windowsOn o).erase i.window = (layout.windowsOn o).erase i.window ∧
      prune i.window (layout'.root o) = prune i.window (layout.root o)
  | .remove w =>
    (w ∉ layout.windowsOn o → layout'.root o = layout.root o) ∧
      layout'.windowsOn o = (layout.windowsOn o).erase w ∧ layout'.root o = prune w (layout.root o)
  | .swap a b =>
    (a ∉ layout.windowsOn o → b ∉ layout.windowsOn o → layout'.root o = layout.root o) ∧
      (layout'.root o = layout.root o ∨ layout'.root o = (layout.root o).map (DwindleNode.rename (Equiv.swap a b)))
  | .resize request =>
    (request.window ∉ layout.windowsOn o → layout'.root o = layout.root o) ∧
      layout'.windowsOn o = layout.windowsOn o ∧
      Option.Rel (DwindleNode.ResizedAlong request.window) (layout.root o) (layout'.root o)
  | .clear => True
  | .reorder _ => layout'.root o = layout.root o

theorem undisturbed_insert (h : layout.Partitioned r managed) (i : LayoutInsertion W) (o : OutputId) :
    Undisturbed layout (layout.insert r i) o (.insert i) := by
  obtain ⟨hh, t', hro, -, hpe, hr⟩ := insert_spec h i
  have hp' : prune i.window ((layout.insert r i).root o) = prune i.window (layout.root o) := by
    by_cases ho : o = i.output
    · subst ho; rw [hro, hr, root_remove h.apart]
    · rw [hh o ho, prune_of_not_mem fun t ht hw =>
        not_mem_windowsOn_remove h i.window o (mem_windowsOn.2 ⟨t, ht, hw⟩), root_remove h.apart]
  refine ⟨fun ho hw => ?_, ?_, hp'⟩
  · rw [hh o ho, root_remove h.apart]
    exact prune_of_not_mem fun t ht hmem => hw (mem_windowsOn.2 ⟨t, ht, hmem⟩)
  · unfold windowsOn; rw [← leaves_prune, ← leaves_prune, hp']

theorem undisturbed_next (h : layout.Partitioned r managed) (e : LayoutEvent W) (o : OutputId) :
    Undisturbed layout (layout.next r e) o e := by
  cases e with
  | insert i => exact undisturbed_insert h i o
  | remove w =>
    refine ⟨fun hw => ?_, windowsOn_remove h.apart w o, root_remove h.apart w o⟩
    refine (root_remove h.apart w o).trans (prune_of_not_mem fun t ht hmem => hw (mem_windowsOn.2 ⟨t, ht, hmem⟩))
  | swap a b =>
    have hsw := root_swap layout a b o
    refine ⟨fun ha hb => hsw.trans ?_, ?_⟩
    · split
      · cases hr : layout.root o with
        | none => rfl
        | some t =>
          rw [windowsOn_of_root hr] at ha hb
          rw [Option.map_some, DwindleNode.rename_swap_of_not_mem ha hb]
      · rfl
    · show (layout.swap a b).1.root o = _ ∨ (layout.swap a b).1.root o = _; rw [hsw]
      split
      · exact .inr rfl
      · exact .inl rfl
  | resize request =>
    have hre : Option.Rel (DwindleNode.ResizedAlong request.window) (layout.root o)
        ((layout.resize r request).1.root o) := by
      rcases root_resize r layout request o with hs | ⟨t, t', ht, ht', hn, -⟩
      · rw [hs]
        cases layout.root o with
        | none => exact .none
        | some t => exact .some (.refl t)
      · rw [ht, ht']; exact .some hn
    refine ⟨fun hw => ?_, windowsOn_resize r layout request o, hre⟩
    show (layout.resize r request).1.root o = _
    rcases root_resize r layout request o with hs | ⟨t, t', ht, ht', hn, -⟩
    · exact hs
    · rw [windowsOn_of_root ht] at hw; rw [ht, ht', hn.eq_of_not_mem hw]
  | clear => trivial
  | reorder or => exact root_reorder r layout or o

/-- After every run: each window inserted and not removed since is exactly one leaf of exactly one
output's tree, the trees hold no other windows, and their ratios are in the clamp range. The next
event, whichever it is, leaves what it does not name undisturbed, and removing a window right after
inserting it restores the layout before, less the window where it had been managed already. -/
theorem dwindle_partition (r : Rounding) (es : List (LayoutEvent W)) :
    let layout := exec (next r) empty es
    let managed := exec manage ∅ es
    (∀ w ∈ managed, ∃ o t, layout.root o = some t ∧ t.leaves.count w = 1 ∧
      ∀ o' t', layout.root o' = some t' → w ∈ t'.leaves → o' = o) ∧
    (∀ o t, layout.root o = some t → t.leaves ≠ [] ∧ (∀ w ∈ t.leaves, w ∈ managed) ∧ t.RatiosOK r) ∧
    (∀ e o, Undisturbed layout (layout.next r e) o e) ∧
    (∀ i : LayoutInsertion W, ∀ o,
      ((layout.insert r i).remove i.window).1.root o = (layout.remove i.window).1.root o ∧
      (i.window ∉ managed → ((layout.insert r i).remove i.window).1.root o = layout.root o)) := by
  intro layout managed
  have h : layout.Partitioned r managed :=
    exec_simulation (fun layout managed e => partitioned_next layout managed e) es (partitioned_empty r)
  refine ⟨fun w hw => ?_, fun o t ht => ⟨t.leaves_ne_nil, fun w hw => ?_, h.ratios o t ht⟩,
    fun e o => undisturbed_next h e o, fun i o => ?_⟩
  · obtain ⟨o, ho⟩ := (h.managed w).1 hw
    obtain ⟨t, ht, hmem⟩ := mem_windowsOn.1 ho
    have hnod : t.leaves.Nodup := by rw [← windowsOn_of_root ht]; exact h.nodup o
    refine ⟨o, t, ht, List.count_eq_one_of_mem hnod hmem, fun o' t' ht' hmem' => ?_⟩
    by_contra hne
    exact h.apart o' o hne (mem_windowsOn.2 ⟨t', ht', hmem'⟩) ho
  · exact (h.managed w).2 ⟨o, mem_windowsOn.2 ⟨t, ht, hw⟩⟩
  · have hres : ((layout.insert r i).remove i.window).1.root o = (layout.remove i.window).1.root o := by
      rw [root_remove (partitioned_insert h i).apart, root_remove h.apart]
      exact (undisturbed_insert h i o).2.2
    refine ⟨hres, fun hfres => hres.trans ?_⟩; rw [root_remove h.apart]
    exact prune_of_not_mem fun t ht hw => hfres ((h.managed _).2 ⟨o, mem_windowsOn.2 ⟨t, ht, hw⟩⟩)

end DwindleLayout

end Deniald.Layout
