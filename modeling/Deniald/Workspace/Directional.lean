/-
Directional focus and swaps (wayland_frontend/window_layout.rs): the search goes over the tiles of all workspaces, those
that are not shown among them. What it finds is shown where no hidden tile rivals the shown ones.
-/
import Deniald.Layout.Neighbor
import Deniald.Layout.Tiling
import Deniald.Workspace.State

namespace Deniald.Workspace

open Deniald.Lib Deniald.Topology Deniald.Layout
open DwindleLayout

inductive WindowLayout (W : Type) where
  | stacking
  | dwindle (layout : DwindleLayout W)

namespace WindowLayout

variable {W : Type} [DecidableEq W]

omit [DecidableEq W] in
def arrange (r : Rounding) (layout : WindowLayout W) (output : OutputId) (workArea : Rect) (gap : Int) :
    List (LayoutPlacement W) :=
  match layout with
  | .stacking => []
  | .dwindle layout => layout.arrange r output workArea gap

def swap (layout : WindowLayout W) (first second : W) : WindowLayout W × Bool :=
  match layout with
  | .stacking => (.stacking, false)
  | .dwindle layout => (.dwindle (layout.swap first second).1, (layout.swap first second).2)

omit [DecidableEq W] in
def root (layout : WindowLayout W) (bucket : OutputId) : Option (DwindleNode W) :=
  match layout with
  | .stacking => none
  | .dwindle layout => layout.root bucket

omit [DecidableEq W] in
def windowsOn (layout : WindowLayout W) (bucket : OutputId) : List W := (layout.root bucket).elim [] DwindleNode.leaves

end WindowLayout

/-- The bucket of the windows of one workspace, with the saturating arithmetic of `u64`. -/
def layoutOutputId (output : OutputId) (workspace : UInt8) : OutputId :=
  min (min (output * 16) (2 ^ 64 - 1) + workspace.toNat) (2 ^ 64 - 1)

def layoutGap : F64 → Int
  | .finite padding => satI32 (max (roundHalfAway padding) 0)
  | .infinite _ | .nan => 0

structure TiledFrontend (W : Type) where
  workspaces : WaylandFrontend
  /-- `maximize_work_area`. -/
  workArea : OutputId → Rect
  maximizePadding : F64
  windowLayout : WindowLayout W
  space : List W

namespace TiledFrontend

variable {W : Type} [DecidableEq W] (r : Rounding)

omit [DecidableEq W] in
def layoutWorkspaceCount (s : TiledFrontend W) : Nat :=
  if s.workspaces.workspacesEnabled then s.workspaces.workspaceCount.toNat else 1

omit [DecidableEq W] in
def slots (s : TiledFrontend W) : List (OutputId × UInt8) :=
  s.workspaces.outputs.flatMap fun output =>
    (List.range' 1 s.layoutWorkspaceCount).map fun workspace => (output, .ofNat workspace)

omit [DecidableEq W] in
def bucketPlacements (s : TiledFrontend W) (slot : OutputId × UInt8) : List (LayoutPlacement W) :=
  s.windowLayout.arrange r (layoutOutputId slot.1 slot.2) (s.workArea slot.1) (layoutGap s.maximizePadding)

omit [DecidableEq W] in
def currentLayoutPlacements (s : TiledFrontend W) : List (LayoutPlacement W) := s.slots.flatMap (s.bucketPlacements r)

def windowForLayoutId (s : TiledFrontend W) (w : W) : Option W := s.space.find? (· = w)

def layoutNeighborWindow (s : TiledFrontend W) (w : W) (direction : LayoutDirection) : Option W :=
  (directionalNeighbor w (s.currentLayoutPlacements r) direction).bind s.windowForLayoutId

/-- The trees after a swap with the neighbour, of which the source then publishes the tiles. -/
def swapToplevelInDirection (s : TiledFrontend W) (focused : W) (direction : LayoutDirection) : WindowLayout W × Bool :=
  match s.layoutNeighborWindow r focused direction with
  | none => (s.windowLayout, false)
  | some target => s.windowLayout.swap focused target

/-! ## What is shown -/

omit [DecidableEq W] in
def shows (s : TiledFrontend W) (slot : OutputId × UInt8) : Bool :=
  !s.workspaces.workspacesEnabled || slot.2 = s.workspaces.activeWorkspace slot.1

omit [DecidableEq W] in
def hiddenWindows (s : TiledFrontend W) : List W :=
  (s.slots.filter fun slot => !s.shows slot).flatMap fun slot => s.windowLayout.windowsOn (layoutOutputId slot.1 slot.2)

omit [DecidableEq W] in
/-- Outputs are known by their connector's handle, workspaces are within their limit, no window is in two trees, and a
window leaves its tree before it leaves the screen. -/
structure Tidy (s : TiledFrontend W) : Prop where
  handles : ∀ output ∈ s.workspaces.outputs, output < 2 ^ 32
  count : s.workspaces.workspaceCount ≤ 9
  apart : ∀ o o', o ≠ o' → (s.windowLayout.windowsOn o).Disjoint (s.windowLayout.windowsOn o')
  mapped : ∀ o, ∀ w ∈ s.windowLayout.windowsOn o, w ∈ s.space

omit [DecidableEq W] in
/-- Two frontends whose trees differ on hidden workspaces at most. -/
structure Agree (s s' : TiledFrontend W) : Prop where
  workspaces : s'.workspaces = s.workspaces
  workArea : s'.workArea = s.workArea
  padding : s'.maximizePadding = s.maximizePadding
  trees : ∀ slot ∈ s.slots, s.shows slot = true →
    s'.windowLayout.root (layoutOutputId slot.1 slot.2) = s.windowLayout.root (layoutOutputId slot.1 slot.2)

/-- The search does not tell two frontends apart by what is hidden, finds no hidden window, and a swap leaves the hidden
trees as they are. -/
structure SeesVisible (s s' : TiledFrontend W) (focused : W) (direction : LayoutDirection) : Prop where
  same : s.layoutNeighborWindow r focused direction = s'.layoutNeighborWindow r focused direction
  visible : ∀ t ∈ [s, s'], ∀ w, t.layoutNeighborWindow r focused direction = some w → w ∉ t.hiddenWindows
  kept : ∀ t ∈ [s, s'], ∀ slot ∈ t.slots, t.shows slot = false →
    (t.swapToplevelInDirection r focused direction).1.root (layoutOutputId slot.1 slot.2) =
      t.windowLayout.root (layoutOutputId slot.1 slot.2)

def ShownFirst (s : TiledFrontend W) (focused : W) (direction : LayoutDirection) : Prop :=
  Beaten (· ∉ s.hiddenWindows) focused (s.currentLayoutPlacements r) direction

/-! ## Buckets -/

variable {s : TiledFrontend W} {slot : OutputId × UInt8} {focused : W} {direction : LayoutDirection}

omit [DecidableEq W] in
theorem slot_bounds (h : s.Tidy) (hs : slot ∈ s.slots) : slot.1 < 2 ^ 32 ∧ slot.2.toNat ≤ 9 := by
  obtain ⟨out, ho, hs⟩ := List.mem_flatMap.1 hs
  obtain ⟨wsp, hw, rfl⟩ := List.mem_map.1 hs
  refine ⟨h.handles out ho, ?_⟩
  have hn : s.layoutWorkspaceCount ≤ 9 := by
    unfold layoutWorkspaceCount; split
    · exact UInt8.le_iff_toNat_le.1 h.count
    · decide
  rw [List.mem_range'_1] at hw
  rw [UInt8.toNat_ofNat_of_lt' (by show wsp < 256; omega)]; omega

theorem layoutOutputId_inj {slot' : OutputId × UInt8} (h : slot.1 < 2 ^ 32 ∧ slot.2.toNat ≤ 9)
    (h' : slot'.1 < 2 ^ 32 ∧ slot'.2.toNat ≤ 9) (heq : layoutOutputId slot.1 slot.2 = layoutOutputId slot'.1 slot'.2) :
    slot = slot' := by
  have hn : ∀ o o' w w' : Nat, o < 2 ^ 32 → o' < 2 ^ 32 → w ≤ 9 → w' ≤ 9 →
      min (min (o * 16) (2 ^ 64 - 1) + w) (2 ^ 64 - 1) = min (min (o' * 16) (2 ^ 64 - 1) + w') (2 ^ 64 - 1) →
        o = o' ∧ w = w' := by
    intro o o' w w' ho ho' hw hw' h; omega
  obtain ⟨hou, hr⟩ := hn _ _ _ _ h.1 h'.1 h.2 h'.2 heq
  exact Prod.ext hou (UInt8.toNat_inj.1 hr)

omit [DecidableEq W] in
theorem bucketPlacements_windows (s : TiledFrontend W) (slot : OutputId × UInt8) :
    (s.bucketPlacements r slot).map (·.window) = s.windowLayout.windowsOn (layoutOutputId slot.1 slot.2) := by
  unfold bucketPlacements WindowLayout.arrange WindowLayout.windowsOn WindowLayout.root
  cases s.windowLayout with
  | stacking => rfl
  | dwindle layout =>
    show (layout.arrange r _ _ _).map _ = (layout.roots.lookup _).elim [] _; unfold arrange
    cases layout.roots.lookup (layoutOutputId slot.1 slot.2) with
    | none => rfl
    | some root => exact DwindleNode.arrange_windows ..

omit [DecidableEq W] in
theorem mem_bucket {placement : LayoutPlacement W} (h : placement ∈ s.bucketPlacements r slot) :
    placement.window ∈ s.windowLayout.windowsOn (layoutOutputId slot.1 slot.2) := by
  rw [← bucketPlacements_windows r s slot]; exact List.mem_map_of_mem h

omit [DecidableEq W] in
theorem not_hidden_of_shows (h : s.Tidy) (hsl : slot ∈ s.slots) (hs : s.shows slot = true) {w : W}
    (hw : w ∈ s.windowLayout.windowsOn (layoutOutputId slot.1 slot.2)) : w ∉ s.hiddenWindows := by
  intro hh
  obtain ⟨slot', hs', hw'⟩ := List.mem_flatMap.1 hh
  obtain ⟨hs', hn⟩ := List.mem_filter.1 hs'
  refine h.apart _ _ (fun heq => ?_) hw hw'
  obtain rfl := layoutOutputId_inj (slot_bounds h hsl) (slot_bounds h hs') heq
  rw [hs] at hn; cases hn

omit [DecidableEq W] in
theorem hidden_of_not_shows (hsl : slot ∈ s.slots) (hs : s.shows slot = false) {w : W}
    (hw : w ∈ s.windowLayout.windowsOn (layoutOutputId slot.1 slot.2)) : w ∈ s.hiddenWindows :=
  List.mem_flatMap.2 ⟨slot, List.mem_filter.2 ⟨hsl, by rw [hs]; rfl⟩, hw⟩

theorem filter_placements (h : s.Tidy) :
    (s.currentLayoutPlacements r).filter (fun placement => placement.window ∉ s.hiddenWindows) =
      (s.slots.filter s.shows).flatMap (s.bucketPlacements r) := by
  have hsp : ∀ slots : List (OutputId × UInt8), (∀ slot ∈ slots, slot ∈ s.slots) →
      (slots.flatMap (s.bucketPlacements r)).filter (fun placement => placement.window ∉ s.hiddenWindows) =
        (slots.filter s.shows).flatMap (s.bucketPlacements r) := by
    intro slots hsl
    induction slots with
    | nil => rfl
    | cons slot slots ih =>
      have hs := hsl slot (List.mem_cons_self ..)
      rw [List.flatMap_cons, List.filter_append, ih fun slot hs => hsl slot (List.mem_cons_of_mem _ hs)]
      cases hh : s.shows slot with
      | true =>
        rw [List.filter_cons_of_pos hh, List.flatMap_cons, List.filter_eq_self.2]
        exact fun placement hmem => decide_eq_true (not_hidden_of_shows h hs hh (mem_bucket r hmem))
      | false =>
        rw [List.filter_cons_of_neg (by rw [hh]; decide), List.filter_eq_nil_iff.2, List.nil_append]
        exact fun placement hmem hn =>
          of_decide_eq_true hn (hidden_of_not_shows hs hh (mem_bucket r hmem))
  exact hsp s.slots fun _ hs => hs

omit [DecidableEq W] in
theorem Agree.placements {s' : TiledFrontend W} (h : s.Agree s') :
    (s'.slots.filter s'.shows).flatMap (s'.bucketPlacements r) = (s.slots.filter s.shows).flatMap (s.bucketPlacements r) := by
  have hsl : s'.slots = s.slots := by
    unfold slots layoutWorkspaceCount; rw [h.workspaces]
  have hh : s'.shows = s.shows := by
    unfold shows; rw [h.workspaces]
  rw [hsl, hh]
  refine List.flatMap_congr fun slot hs => ?_
  obtain ⟨hs, hw⟩ := List.mem_filter.1 hs
  have hr : ∀ (lay : WindowLayout W) (area : Rect) (gap : Int),
      lay.arrange r (layoutOutputId slot.1 slot.2) area gap =
        (lay.root (layoutOutputId slot.1 slot.2)).elim [] fun root => root.arrange r area (max gap 0) := by
    intro lay area gap
    cases lay with
    | stacking => rfl
    | dwindle lay =>
      show lay.arrange r _ _ _ = (lay.roots.lookup _).elim [] _; unfold arrange
      cases lay.roots.lookup (layoutOutputId slot.1 slot.2) <;> rfl
  unfold bucketPlacements
  rw [hr, hr, h.workArea, h.padding, h.trees slot hs hw]

/-! ## The neighbour -/

theorem directionalNeighbor_mem {w : W} {placements : List (LayoutPlacement W)}
    (h : directionalNeighbor focused placements direction = some w) : w ∈ placements.map (·.window) := by
  obtain ⟨current, -, h⟩ := Option.bind_eq_some_iff.1 h
  obtain ⟨n, hn, h⟩ := Option.bind_eq_some_iff.1 h; cases h
  exact List.mem_map_of_mem (List.mem_of_mem_filter (List.argmin_mem hn))

theorem layoutNeighborWindow_eq (h : s.Tidy) (focused : W) (direction : LayoutDirection) :
    s.layoutNeighborWindow r focused direction =
      directionalNeighbor focused (s.currentLayoutPlacements r) direction := by
  unfold layoutNeighborWindow
  cases hn : directionalNeighbor focused (s.currentLayoutPlacements r) direction with
  | none => rfl
  | some w =>
    obtain ⟨placement, hpl, rfl⟩ := List.mem_map.1 (directionalNeighbor_mem hn)
    obtain ⟨slot, -, hs⟩ := List.mem_flatMap.1 hpl
    have hsp := h.mapped _ _ (mem_bucket r hs)
    show s.space.find? (· = placement.window) = some placement.window
    cases hf : s.space.find? (· = placement.window) with
    | none => exact absurd (List.find?_eq_none.1 hf _ hsp) (by simp)
    | some found =>
      rw [of_decide_eq_true (List.find?_some (p := fun found : W => found = placement.window) hf)]

theorem neighbor_of_shownFirst (h : s.Tidy) (hfo : focused ∉ s.hiddenWindows) (hf : s.ShownFirst r focused direction) :
    s.layoutNeighborWindow r focused direction =
      directionalNeighbor focused ((s.slots.filter s.shows).flatMap (s.bucketPlacements r)) direction := by
  rw [layoutNeighborWindow_eq r h, ← filter_placements r h]
  exact (directionalNeighbor_filter (p := (· ∉ s.hiddenWindows)) hfo hf).symm

theorem swap_keeps_hidden (hf : focused ∉ s.hiddenWindows)
    (hv : ∀ w, s.layoutNeighborWindow r focused direction = some w → w ∉ s.hiddenWindows)
    (hsl : slot ∈ s.slots) (hs : s.shows slot = false) :
    (s.swapToplevelInDirection r focused direction).1.root (layoutOutputId slot.1 slot.2) =
      s.windowLayout.root (layoutOutputId slot.1 slot.2) := by
  have ho : ∀ {w : W}, w ∉ s.hiddenWindows → w ∉ s.windowLayout.windowsOn (layoutOutputId slot.1 slot.2) :=
    fun hw hmem => hw (hidden_of_not_shows hsl hs hmem)
  unfold swapToplevelInDirection
  cases hr : s.layoutNeighborWindow r focused direction with
  | none => rfl
  | some target =>
    have hf := ho hf
    have hr := ho (hv target hr)
    show (s.windowLayout.swap focused target).1.root _ = _
    unfold WindowLayout.swap WindowLayout.root
    cases hy : s.windowLayout with
    | stacking => rfl
    | dwindle layout =>
      rw [hy] at hf hr
      change focused ∉ (layout.root _).elim [] DwindleNode.leaves at hf
      change target ∉ (layout.root _).elim [] DwindleNode.leaves at hr
      show (layout.swap focused target).1.root _ = layout.root _; rw [root_swap]
      split
      · cases hro : layout.root (layoutOutputId slot.1 slot.2) with
        | none => rfl
        | some root =>
          rw [hro] at hf hr
          exact congrArg some (DwindleNode.rename_swap_of_not_mem hf hr)
      · rfl

/-- The search sees what is shown and nothing else exactly where, in both frontends, every hidden tile that lies in the
direction is beaten by a shown one. -/
theorem directional_sees_visible_iff {s s' : TiledFrontend W} (h : s.Tidy) (h' : s'.Tidy) (hagree : s.Agree s')
    {focused : W} (hfocused : focused ∉ s.hiddenWindows) (hfocused' : focused ∉ s'.hiddenWindows)
    (direction : LayoutDirection) :
    SeesVisible r s s' focused direction ↔ s.ShownFirst r focused direction ∧ s'.ShownFirst r focused direction := by
  have hvis : ∀ {t : TiledFrontend W}, t.Tidy → (t.ShownFirst r focused direction ↔
      ∀ w, t.layoutNeighborWindow r focused direction = some w → w ∉ t.hiddenWindows) := fun ht => by
    rw [layoutNeighborWindow_eq r ht]; exact beaten_iff
  constructor
  · intro hsees
    exact ⟨(hvis h).2 (hsees.visible s (by simp)), (hvis h').2 (hsees.visible s' (by simp))⟩
  · rintro ⟨hfir, hfir'⟩
    have hall : ∀ t ∈ [s, s'], t.Tidy ∧ focused ∉ t.hiddenWindows ∧ t.ShownFirst r focused direction := by
      simp only [List.mem_cons, List.not_mem_nil, or_false]
      rintro t (rfl | rfl)
      · exact ⟨h, hfocused, hfir⟩
      · exact ⟨h', hfocused', hfir'⟩
    refine ⟨?_, fun t ht => ?_, fun t ht slot hslot hshows => ?_⟩
    · rw [neighbor_of_shownFirst r h hfocused hfir, neighbor_of_shownFirst r h' hfocused' hfir', hagree.placements r]
    · obtain ⟨htid, -, hshow⟩ := hall t ht; exact (hvis htid).1 hshow
    · obtain ⟨htid, hfoc, hshow⟩ := hall t ht
      exact swap_keeps_hidden r hfoc ((hvis htid).1 hshow) hslot hshows

/-! ## A hidden neighbour -/

def onSecond (windowLayout : DwindleLayout Nat) : TiledFrontend Nat where
  workspaces :=
    { outputs := [1]
      tickerOutput := none
      workspacesEnabled := true
      workspaceCount := 2
      activeWorkspaces := AList.insert 1 2 ∅ }
  workArea _ := ⟨0, 0, 1000, 600⟩
  maximizePadding := .finite 0
  windowLayout := .dwindle windowLayout
  space := [1, 2, 3, 4]

/-- Two windows side by side on the workspace that is shown. -/
def sideBySide : DwindleLayout Nat := (DwindleLayout.empty.insert .exact ⟨3, 18, none⟩).insert .exact ⟨4, 18, none⟩

/-- The same, and two on the workspace that is not shown. -/
def overHidden : DwindleLayout Nat := (sideBySide.insert .exact ⟨1, 17, none⟩).insert .exact ⟨2, 17, none⟩

theorem tidy_onSecond {lay : DwindleLayout Nat} {managed : Finset Nat} (h : lay.Partitioned .exact managed)
    (hm : ∀ w ∈ managed, w ∈ [1, 2, 3, 4]) : (onSecond lay).Tidy where
  handles _ ho := by
    obtain rfl := List.mem_singleton.1 ho; decide
  count := by
    show (2 : UInt8) ≤ 9; decide
  apart := h.apart
  mapped o w hw := hm w ((h.managed w).2 ⟨o, hw⟩)

theorem tidy_examples : (onSecond overHidden).Tidy ∧ (onSecond sideBySide).Tidy := by
  have hs := partitioned_insert
    (partitioned_insert (partitioned_empty .exact) ⟨3, 18, none⟩) ⟨4, 18, none⟩
  have hh := partitioned_insert (partitioned_insert hs ⟨1, 17, none⟩) ⟨2, 17, none⟩
  exact ⟨tidy_onSecond hh (by decide), tidy_onSecond hs (by decide)⟩

theorem agree_examples : (onSecond overHidden).Agree (onSecond sideBySide) where
  workspaces := rfl
  workArea := rfl
  padding := rfl
  trees := by decide +kernel

/-- The search goes to the right of the shown window, and finds a hidden one as near as the shown one. -/
theorem hidden_neighbor : ¬∀ (r : Rounding) (s s' : TiledFrontend Nat) (focused : Nat) (direction : LayoutDirection),
    s.Tidy → s'.Tidy → s.Agree s' → focused ∉ s.hiddenWindows → focused ∉ s'.hiddenWindows →
      SeesVisible r s s' focused direction := by
  intro h
  have hsees := h .exact (onSecond overHidden) (onSecond sideBySide) 3 .right tidy_examples.1 tidy_examples.2
    agree_examples (by decide +kernel) (by decide +kernel)
  have hneig : (onSecond overHidden).layoutNeighborWindow .exact 3 .right = some 2 := by decide +kernel
  exact hsees.visible _ (List.mem_cons_self ..) 2 hneig (by decide +kernel)

/-- To the left of the first tile there is none, hidden or shown. -/
theorem nothing_to_the_left : SeesVisible .exact (onSecond overHidden) (onSecond sideBySide) 3 .left := by
  have hnon : ∀ layout ∈ [overHidden, sideBySide],
      directionalNeighbor 3 ((onSecond layout).currentLayoutPlacements .exact) .left = none := by decide +kernel
  have hfir : ∀ layout ∈ [overHidden, sideBySide], (onSecond layout).ShownFirst .exact 3 .left :=
    fun layout hlayout => beaten_iff.2 fun w hw => by
      rw [hnon layout hlayout] at hw; cases hw
  exact (directional_sees_visible_iff .exact tidy_examples.1 tidy_examples.2 agree_examples (by decide +kernel)
    (by decide +kernel) .left).2 ⟨hfir _ (by simp), hfir _ (by simp)⟩

end TiledFrontend

end Deniald.Workspace
