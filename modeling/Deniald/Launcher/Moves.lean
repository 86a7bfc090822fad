/-
Runs of the home grid: items are moved, exchanged and resized, applications come and go, and pages are added. An
exchange checks both footprints against the other items, but not against each other.
-/
import Deniald.Launcher.Refresh
import Mathlib.Logic.Equiv.Basic

namespace Deniald.Launcher

open Deniald.Lib

/-- Where a grid comes from. -/
inductive GridStart
  | initial (apps : List DesktopApp) (localApps : List LocalFlutterApplication)
      (savedLayout : Option (List (Option HomeLayoutSlot)))
  | refreshed (apps : List DesktopApp) (localApps : List LocalFlutterApplication) (currentSlots : Slots)

inductive GridStep
  | moveSlot (fromIndex toIndex : Int) (pageSize : Nat)
  | resizeSlot (index colSpan rowSpan : Int) (pageSize : Nat)
  | refresh (apps : List DesktopApp) (localApps : List LocalFlutterApplication)
  | ensureSlotCapacity (pageSize : Nat)

section Steps

variable (columns : Columns)

def GridStart.slots : GridStart → Slots
  | initial apps localApps savedLayout => initialSlotsForApps columns apps localApps savedLayout
  | refreshed apps localApps currentSlots => refreshSlotsForApps columns apps localApps currentSlots

/-- What the controller makes of its slots: a refused move or resize leaves them. -/
def next (slots : Slots) : GridStep → Slots
  | .moveSlot fromIndex toIndex pageSize =>
    ((moveSlot columns slots fromIndex toIndex pageSize).map HomeGridMoveResult.slots).getD slots
  | .resizeSlot index colSpan rowSpan pageSize =>
    (resizeSlot columns slots index colSpan rowSpan pageSize).getD slots
  | .refresh apps localApps => refreshSlotsForApps columns apps localApps slots
  | .ensureSlotCapacity pageSize => Launcher.ensureSlotCapacity slots pageSize

/-- A move that exchanges two items gives them footprints without a common cell. -/
def Apart (slots : Slots) : GridStep → Prop
  | .moveSlot fromIndex toIndex pageSize => canMoveSlot columns slots fromIndex toIndex pageSize = true →
      ∀ source target, itemAt slots fromIndex.toNat = some source →
        itemAt slots (targetAnchor columns slots toIndex) = some target →
        (cellsFor columns (targetAnchor columns slots toIndex) source).Disjoint (cellsFor columns fromIndex.toNat target)
  | _ => True

/-- A move keeps the items and a resize their ids and all the others; one that is refused changes nothing. -/
def KeepsItems (slots : Slots) : GridStep → Prop
  | .moveSlot fromIndex toIndex pageSize =>
    (moveSlot columns slots fromIndex toIndex pageSize = none →
        next columns slots (.moveSlot fromIndex toIndex pageSize) = slots) ∧
      ∀ item, (∃ i, itemAt (next columns slots (.moveSlot fromIndex toIndex pageSize)) i = some item) ↔
        ∃ i, itemAt slots i = some item
  | .resizeSlot index colSpan rowSpan pageSize =>
    (resizeSlot columns slots index colSpan rowSpan pageSize = none →
        next columns slots (.resizeSlot index colSpan rowSpan pageSize) = slots) ∧
      ∀ i, (itemAt (next columns slots (.resizeSlot index colSpan rowSpan pageSize)) i).map HomeGridItem.id =
          (itemAt slots i).map HomeGridItem.id ∧
        (i ≠ index.toNat → itemAt (next columns slots (.resizeSlot index colSpan rowSpan pageSize)) i = itemAt slots i)
  | _ => True

end Steps

variable {columns : Columns} {slots : Slots}

/-! ## Moves -/

/-- Where a move that can be made finds room, if nothing overlaps before it: free of all but the items that move. -/
structure HasRoom (columns : Columns) (slots : Slots) (origin anchor index : Nat) (item : HomeGridItem) : Prop where
  fits : itemFitsAtColumn columns item index = true
  disjoint : ∀ i ≠ origin, i ≠ anchor → ∀ a, itemAt slots i = some a →
    (cellsFor columns index item).Disjoint (cellsFor columns i a)

theorem Valid.hasRoom (h : Valid columns (itemAt slots)) {org an index ps : Nat} {item : HomeGridItem}
    {ig : List Nat} (hpl : canPlaceAt columns slots index item ps ig = true)
    (hn : ∀ i ∈ ig, i = org ∨ i = an) : HasRoom columns slots org an index item where
  fits := (h.of_canPlaceAt hpl).1
  disjoint i hne hne' a ha :=
    (h.of_canPlaceAt hpl).2 i (fun hi => (hn i hi).elim hne hne') a ha

theorem canMoveSlot_spec {idx toIndex : Int} {ps : Nat} (h : canMoveSlot columns slots idx toIndex ps = true) :
    ∃ source, itemAt slots idx.toNat = some source ∧ targetAnchor columns slots toIndex ≠ idx.toNat ∧
      (Valid columns (itemAt slots) →
        HasRoom columns slots idx.toNat (targetAnchor columns slots toIndex) (targetAnchor columns slots toIndex)
          source ∧ ∀ target, itemAt slots (targetAnchor columns slots toIndex) = some target →
            HasRoom columns slots idx.toNat (targetAnchor columns slots toIndex) idx.toNat target) := by
  unfold canMoveSlot at h; split at h
  · cases h
  split at h
  · cases h
  rename_i source hs; dsimp only at h; split at h
  · cases h
  rename_i hne; refine ⟨source, hs, hne, fun hv => ?_⟩; split at h
  · rename_i hn
    have han : targetAnchor columns slots toIndex = toIndex.toNat := by
      unfold targetAnchor at hn ⊢
      cases hf : anchorForCell columns toIndex.toNat slots with
      | none => rfl
      | some anchor =>
        obtain ⟨item, hm, -⟩ := of_anchorForCell hf
        rw [hf] at hn; cases hn.symm.trans hm
    rw [← han] at h
    refine ⟨hv.hasRoom h fun i hi => .inl (List.mem_singleton.1 hi), fun target hr => ?_⟩
    cases hn.symm.trans hr
  · rename_i target hr
    obtain ⟨hsr, htr⟩ := Bool.and_eq_true_iff.1 h
    have hpa : ∀ i ∈ [idx.toNat, targetAnchor columns slots toIndex],
        i = idx.toNat ∨ i = targetAnchor columns slots toIndex := fun i hi => List.mem_pair.1 hi
    refine ⟨hv.hasRoom hsr hpa, fun other ho => ?_⟩
    cases hr.symm.trans ho; exact hv.hasRoom htr hpa

theorem itemAt_moveSlot {idx ti : Int} {ps : Nat} {source : HomeGridItem}
    (h : canMoveSlot columns slots idx ti ps = true) (hs : itemAt slots idx.toNat = some source) :
    itemAt (next columns slots (.moveSlot idx ti ps)) = Function.update (Function.update (itemAt slots) idx.toNat
        (itemAt slots (targetAnchor columns slots ti))) (targetAnchor columns slots ti) (some source) := by
  have hlt := lt_of_itemAt hs
  dsimp only [next]; unfold moveSlot; rw [if_pos h, hs]
  dsimp only [Option.map_some, Option.getD_some]
  have hm := List.le_max?_getD_of_mem (k := 0) (List.mem_append_left
    (((itemAt slots (targetAnchor columns slots ti)).map (cellsFor columns idx.toNat)).getD [])
    (anchor_mem columns (targetAnchor columns slots ti) source))
  rw [itemAt_set, itemAt_set]
  · unfold ensureListLength; rw [itemAt_append_none]
  · unfold ensureListLength; rw [List.length_append]; omega
  · unfold ensureListLength; rw [List.length_set, List.length_append, List.length_replicate]; omega

theorem moveSlot_valid_iff {idx ti : Int} {ps : Nat} (h : Valid columns (itemAt slots))
    (hv : canMoveSlot columns slots idx ti ps = true) :
    Valid columns (itemAt (next columns slots (.moveSlot idx ti ps))) ↔ Apart columns slots (.moveSlot idx ti ps) := by
  obtain ⟨source, hs, hne, hro⟩ := canMoveSlot_spec hv
  obtain ⟨hsr, htr⟩ := hro h
  rw [itemAt_moveSlot hv hs]
  generalize hn : targetAnchor columns slots ti = anchor at *
  generalize hm : itemAt slots = f at *
  constructor
  · intro hva _ src' target hs' hr
    rw [hm, hs] at hs'; cases hs'
    rw [hm, hn] at hr; rw [hn]
    refine hva.disjoint anchor idx.toNat source target (Function.update_self ..) ?_ hne
    rw [Function.update_of_ne hne.symm, Function.update_self]; exact hr
  · intro hap
    -- the target leaves its place, then takes that of the source, and the source takes the target's
    have hf : Valid columns (Function.update f anchor none) := h.mono fun i a ha => by
      rcases eq_or_ne i anchor with rfl | hi
      · rw [Function.update_self] at ha; cases ha
      · rwa [Function.update_of_ne hi] at ha
    have hof : ∀ {i a}, Function.update f anchor none i = some a → i ≠ anchor ∧ f i = some a := fun {i a} ha => by
      rcases eq_or_ne i anchor with rfl | hi
      · rw [Function.update_self] at ha; cases ha
      · rw [Function.update_of_ne hi] at ha; exact ⟨hi, ha⟩
    have hba : Valid columns (Function.update (Function.update f anchor none) idx.toNat (f anchor)) := by
      cases hr : f anchor with
      | none =>
        refine hf.mono fun i a ha => ?_
        rcases eq_or_ne i idx.toNat with rfl | hi
        · rw [Function.update_self] at ha; cases ha
        · rwa [Function.update_of_ne hi] at ha
      | some target =>
        refine hf.update (htr target hr).fits (fun i hi a ha => ?_) fun i hi a ha hid => ?_
        · exact (htr target hr).disjoint i hi (hof ha).1 a (hm ▸ (hof ha).2)
        · exact (hof ha).1 (h.once i anchor a target (hof ha).2 hr hid)
    have hla := hba.update hsr.fits (fun i hi a ha => ?_) fun i hi a ha hid => ?_
    · rwa [Function.update_comm hne, Function.update_idem] at hla
    · rcases eq_or_ne i idx.toNat with rfl | hi'
      · rw [Function.update_self] at ha
        have hd := hap hv source a (hm ▸ hs) (by rw [hm, hn]; exact ha)
        rw [hn] at hd; exact hd
      · rw [Function.update_of_ne hi'] at ha
        exact hsr.disjoint i hi' hi a (hm ▸ (hof ha).2)
    · rcases eq_or_ne i idx.toNat with rfl | hi'
      · rw [Function.update_self] at ha; exact hne (h.once _ _ a source ha hs hid)
      · rw [Function.update_of_ne hi'] at ha
        exact hi' (h.once i _ a source (hof ha).2 hs hid)

/-! ## Resizes -/

theorem canResizeSlot_spec {index colSpan rowSpan : Int} {ps : Nat}
    (h : canResizeSlot columns slots index colSpan rowSpan ps = true) :
    ∃ source, itemAt slots index.toNat = some source ∧
      canPlaceAt columns slots index.toNat (source.resize colSpan rowSpan) ps [index.toNat] = true ∧
      itemAt (next columns slots (.resizeSlot index colSpan rowSpan ps)) =
        Function.update (itemAt slots) index.toNat (some (source.resize colSpan rowSpan)) := by
  have hn := h
  unfold canResizeSlot at h; split at h
  · cases h
  obtain ⟨source, hs, hpl⟩ := (Option.any_eq_true _ _).1 h
  refine ⟨source, hs, (Bool.and_eq_true_iff.1 hpl).2, ?_⟩
  dsimp only [next]; unfold resizeSlot; rw [if_pos hn, hs]
  exact itemAt_putItem

/-! ## Runs -/

theorem next_valid_iff (h : Valid columns (itemAt slots)) (e : GridStep) :
    Valid columns (itemAt (next columns slots e)) ↔ Apart columns slots e := by
  cases e with
  | moveSlot idx ti ps =>
    by_cases hm : canMoveSlot columns slots idx ti ps = true
    · exact moveSlot_valid_iff h hm
    · refine iff_of_true ?_ fun hn => absurd hn hm
      dsimp only [next]; unfold moveSlot; rw [if_neg hm]; exact h
  | resizeSlot index colSpan rowSpan ps =>
    refine iff_of_true ?_ trivial
    by_cases hr : canResizeSlot columns slots index colSpan rowSpan ps = true
    · obtain ⟨source, hs, hpl, hit⟩ := canResizeSlot_spec hr
      obtain ⟨hfi, hf⟩ := h.of_canPlaceAt hpl
      rw [hit]
      refine h.update hfi (fun i hi => hf i fun hmem => hi (List.mem_singleton.1 hmem)) fun i hi a ha hid => ?_
      exact hi (h.once i _ a source ha hs (hid.trans (source.id_resize ..)))
    · dsimp only [next]; unfold resizeSlot; rw [if_neg hr]; exact h
  | refresh apps la => exact iff_of_true (place_spec columns true _ _ _).1 trivial
  | ensureSlotCapacity ps =>
    refine iff_of_true ?_ trivial
    show Valid columns (itemAt (Launcher.ensureSlotCapacity slots ps))
    unfold ensureSlotCapacity ensureListLength; split
    · exact h
    · rw [itemAt_append_none]; exact h

theorem next_keepsItems (slots : Slots) (e : GridStep) : KeepsItems columns slots e := by
  cases e with
  | moveSlot idx ti ps =>
    refine ⟨fun hn => by dsimp only [next]; rw [hn]; rfl, fun item => ?_⟩
    by_cases hm : canMoveSlot columns slots idx ti ps = true
    · obtain ⟨source, hs, hne, -⟩ := canMoveSlot_spec hm
      rw [itemAt_moveSlot hm hs, ← hs]
      generalize targetAnchor columns slots ti = anchor at *
      have hw : ∀ i, Function.update (Function.update (itemAt slots) idx.toNat (itemAt slots anchor)) anchor
          (itemAt slots idx.toNat) i = itemAt slots (Equiv.swap idx.toNat anchor i) := fun i => by
        rcases eq_or_ne i anchor with rfl | hi
        · rw [Function.update_self, Equiv.swap_apply_right]
        rw [Function.update_of_ne hi]; rcases eq_or_ne i idx.toNat with rfl | hi'
        · rw [Function.update_self, Equiv.swap_apply_left]
        · rw [Function.update_of_ne hi', Equiv.swap_apply_of_ne_of_ne hi' hi]
      constructor
      · rintro ⟨i, hi⟩; exact ⟨_, (hw i).symm.trans hi⟩
      · rintro ⟨i, hi⟩; exact ⟨_, (hw _).trans (by rw [Equiv.swap_apply_self]; exact hi)⟩
    · dsimp only [next]; unfold moveSlot; rw [if_neg hm]; rfl
  | resizeSlot index colSpan rowSpan ps =>
    refine ⟨fun hn => by dsimp only [next]; rw [hn]; rfl, fun i => ?_⟩
    by_cases hr : canResizeSlot columns slots index colSpan rowSpan ps = true
    · obtain ⟨source, hs, -, hit⟩ := canResizeSlot_spec hr
      rw [hit]; refine ⟨?_, fun hi => Function.update_of_ne hi ..⟩
      rcases eq_or_ne i index.toNat with rfl | hi
      · rw [Function.update_self, hs]; exact congrArg some (source.id_resize ..)
      · rw [Function.update_of_ne hi]
    · dsimp only [next]; unfold resizeSlot; rw [if_neg hr]; exact ⟨rfl, fun _ => rfl⟩
  | refresh apps la => trivial
  | ensureSlotCapacity ps => trivial

theorem GridStart.valid (columns : Columns) (start : GridStart) : Valid columns (itemAt (start.slots columns)) := by
  cases start with
  | initial apps la lay => exact (place_spec columns false _ _ _).1
  | refreshed apps la sls => exact (place_spec columns true _ _ _).1

/-- Home grid items never overlap on a run exactly if its moves exchange only items whose footprints stay apart; every
move and resize keeps the items. -/
theorem home_grid_overlaps_iff (columns : Columns) (start : GridStart) (steps : List GridStep) :
    Valid columns (itemAt (start.slots columns)) ∧
      (Along (next columns) (fun slots e => Valid columns (itemAt (next columns slots e))) (start.slots columns) steps ↔
        Along (next columns) (Apart columns) (start.slots columns) steps) ∧
      Along (next columns) (KeepsItems columns) (start.slots columns) steps :=
  ⟨start.valid columns, (along_iff_invariant (I := fun slots => Valid columns (itemAt slots))
    (fun _ e h => next_valid_iff h e) (start.valid columns)).symm,
    Along.of_invariant (I := fun _ => True) (G := fun _ _ => True) (fun _ _ _ _ => trivial) (fun slots e _ _ => next_keepsItems slots e) trivial
      (along_of_forall fun _ _ => trivial)⟩

/-- A clock of two cells behind an application: exchanged, it covers the application's new cell. -/
theorem clock_covers_app :
    ¬Valid ⟨4, by decide⟩ (itemAt (next ⟨4, by decide⟩ (GridStart.slots ⟨4, by decide⟩ (.initial [⟨"a"⟩] []
      (some [none, some ⟨"app:a", none, none⟩, some ⟨"widget:clock", none, none⟩, none,
        some ⟨"widget:battery-discharge", none, none⟩]))) (.moveSlot 1 3 12))) := by
  intro h
  have hdis := h.disjoint 1 2 (.clock (.clamp 2 1)) (.app ⟨"a"⟩) (by rfl) (by rfl) (by decide)
  exact hdis (show 2 ∈ _ by decide) (by decide)

end Deniald.Launcher
