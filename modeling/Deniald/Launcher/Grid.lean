/-
The grid of the home screen (home_grid_layout.dart, home_grid_item.dart): items take rectangles of cells in rows of
`columns`, each anchored at the index of its slot, and are moved, exchanged and resized.
-/
import Deniald.Lib.Run

namespace Deniald.Launcher

open Deniald.Lib

/-- `HomeGridLayout.columns`, never less than on a phone. -/
structure Columns where
  count : Nat
  enough : 4 ≤ count

structure DesktopApp where
  id : String

structure LocalFlutterApplication where
  id : String

inductive HomeGridItemType
  | clock | batteryDischarge | app
  deriving DecidableEq

/-- The spans of a widget: clock and battery discharge have the same bounds. -/
structure WidgetSpan where
  colSpan : Nat
  rowSpan : Nat
  cols : 2 ≤ colSpan ∧ colSpan ≤ 4
  rows : 1 ≤ rowSpan ∧ rowSpan ≤ 3

def WidgetSpan.clamp (colSpan rowSpan : Int) : WidgetSpan where
  colSpan := (max 2 (min colSpan 4)).toNat
  rowSpan := (max 1 (min rowSpan 3)).toNat
  cols := by omega
  rows := by omega

/-- What the factories of `HomeGridItem` make, whose constructor is private. -/
inductive HomeGridItem
  | clock (span : WidgetSpan)
  | batteryDischarge (span : WidgetSpan)
  | app (app : DesktopApp)
  | localApp (app : LocalFlutterApplication)

namespace HomeGridItem

def type : HomeGridItem → HomeGridItemType
  | clock _ => .clock
  | batteryDischarge _ => .batteryDischarge
  | app _ | localApp _ => .app

def id : HomeGridItem → String
  | clock _ => "widget:clock"
  | batteryDischarge _ => "widget:battery-discharge"
  | app a => "app:" ++ a.id
  | localApp a => "local:" ++ a.id

def colSpan : HomeGridItem → Nat
  | clock span | batteryDischarge span => span.colSpan
  | app _ | localApp _ => 1

def rowSpan : HomeGridItem → Nat
  | clock span | batteryDischarge span => span.rowSpan
  | app _ | localApp _ => 1

def resizable (item : HomeGridItem) : Bool := item.type ≠ .app

def resize (colSpan rowSpan : Int) : HomeGridItem → HomeGridItem
  | clock _ => clock (.clamp colSpan rowSpan)
  | batteryDischarge _ => batteryDischarge (.clamp colSpan rowSpan)
  | item => item

theorem spans (item : HomeGridItem) : 0 < item.colSpan ∧ item.colSpan ≤ 4 ∧ 0 < item.rowSpan := by
  have hw : ∀ span : WidgetSpan, 0 < span.colSpan ∧ span.colSpan ≤ 4 ∧ 0 < span.rowSpan := fun span =>
    ⟨by have := span.cols; omega, span.cols.2, span.rows.1⟩
  have ho : 0 < 1 ∧ 1 ≤ 4 ∧ 0 < 1 := by decide
  cases item with
  | clock span => exact hw span
  | batteryDischarge span => exact hw span
  | app a => exact ho
  | localApp a => exact ho

theorem id_resize (colSpan rowSpan : Int) (item : HomeGridItem) : (item.resize colSpan rowSpan).id = item.id := by
  cases item <;> rfl

end HomeGridItem

abbrev Slots := List (Option HomeGridItem)

/-- The item anchored at an index, if that is in the list. -/
def itemAt (slots : Slots) (index : Nat) : Option HomeGridItem := slots[index]?.join

def ensureListLength (slots : Slots) (length : Nat) : Slots := slots ++ List.replicate (length - slots.length) none

/-- `minPages`. -/
def minPages : Nat := 2

def ensureSlotCapacity (slots : Slots) (pageSize : Nat) : Slots :=
  if pageSize = 0 then slots
  else
    let minSlots := pageSize * minPages
    let roundedSlots := (slots.length + pageSize - 1) / pageSize * pageSize
    ensureListLength slots (max minSlots roundedSlots)

section Layout

variable (columns : Columns)

def itemFitsAtColumn (item : HomeGridItem) (index : Nat) : Bool :=
  index % columns.count + item.colSpan ≤ columns.count

def cellsFor (index : Nat) (item : HomeGridItem) : List Nat :=
  (List.range item.rowSpan).flatMap fun row => (List.range item.colSpan).map fun column =>
    (index / columns.count + row) * columns.count + index % columns.count + column

def itemFitsInPage (index : Nat) (item : HomeGridItem) (pageSize : Nat) : Bool :=
  if pageSize = 0 || !itemFitsAtColumn columns item index then false
  else
    let pageStart := index / pageSize * pageSize
    (cellsFor columns index item).all fun cell => pageStart ≤ cell && cell < pageStart + pageSize

def anchorForCell (cell : Nat) (slots : Slots) : Option Nat :=
  (List.range slots.length).find? fun index =>
    (itemAt slots index).any fun item => (cellsFor columns index item).contains cell

def canPlaceAt (slots : Slots) (index : Nat) (item : HomeGridItem) (pageSize : Nat) (ignoreAnchors : List Nat) : Bool :=
  itemFitsInPage columns index item pageSize && (cellsFor columns index item).all fun cell =>
    (anchorForCell columns cell slots).all fun occupant => ignoreAnchors.contains occupant

/-- The slot that a drop on `toIndex` meets: that of the item there, else `toIndex` itself. -/
def targetAnchor (slots : Slots) (toIndex : Int) : Nat :=
  (anchorForCell columns toIndex.toNat slots).getD toIndex.toNat

def canMoveSlot (slots : Slots) (fromIndex toIndex : Int) (pageSize : Nat) : Bool :=
  if fromIndex = toIndex || fromIndex < 0 || toIndex < 0 || slots.length ≤ fromIndex then false
  else
    match itemAt slots fromIndex.toNat with
    | none => false
    | some source =>
      let anchor := targetAnchor columns slots toIndex
      if anchor = fromIndex.toNat then false
      else
        match itemAt slots anchor with
        | none => canPlaceAt columns slots toIndex.toNat source pageSize [fromIndex.toNat]
        | some target =>
          canPlaceAt columns slots anchor source pageSize [fromIndex.toNat, anchor] &&
            canPlaceAt columns slots fromIndex.toNat target pageSize [fromIndex.toNat, anchor]

structure HomeGridMoveResult where
  slots : Slots
  movedToIndex : Nat

def moveSlot (slots : Slots) (fromIndex toIndex : Int) (pageSize : Nat) : Option HomeGridMoveResult :=
  if canMoveSlot columns slots fromIndex toIndex pageSize then
    (itemAt slots fromIndex.toNat).map fun source =>
      let anchor := targetAnchor columns slots toIndex
      let target := itemAt slots anchor
      let required := (cellsFor columns anchor source ++
        (target.map (cellsFor columns fromIndex.toNat)).getD []).max?.getD 0
      ⟨((ensureListLength slots (required + 1)).set fromIndex.toNat target).set anchor (some source), anchor⟩
  else none

def canResizeSlot (slots : Slots) (index colSpan rowSpan : Int) (pageSize : Nat) : Bool :=
  if index < 0 || slots.length ≤ index then false
  else (itemAt slots index.toNat).any fun source => source.resizable &&
    canPlaceAt columns slots index.toNat (source.resize colSpan rowSpan) pageSize [index.toNat]

/-- The slots with an item, behind which there are slots up to its last cell. -/
def putItem (slots : Slots) (index : Nat) (item : HomeGridItem) : Slots :=
  (ensureListLength slots ((cellsFor columns index item).getLastD index + 1)).set index (some item)

def resizeSlot (slots : Slots) (index colSpan rowSpan : Int) (pageSize : Nat) : Option Slots :=
  if canResizeSlot columns slots index colSpan rowSpan pageSize then
    (itemAt slots index.toNat).map fun source =>
      putItem columns slots index.toNat (source.resize colSpan rowSpan)
  else none

/-! ## Slots -/

variable {slots : Slots} {index : Nat} {item : HomeGridItem} {columns}

theorem itemAt_append_none (slots : Slots) (n : Nat) : itemAt (slots ++ List.replicate n none) = itemAt slots := by
  funext i; unfold itemAt
  rcases Nat.lt_or_ge i slots.length with h | h
  · rw [List.getElem?_append_left h]
  · rw [List.getElem?_append_right h, List.getElem?_eq_none h, List.getElem?_replicate]
    split <;> rfl

theorem itemAt_set (h : index < slots.length) (value : Option HomeGridItem) :
    itemAt (slots.set index value) = Function.update (itemAt slots) index value := by
  funext i; unfold itemAt; by_cases hi : i = index
  · subst hi; rw [Function.update_self, List.getElem?_set_self h]; rfl
  · rw [Function.update_of_ne hi, List.getElem?_set_ne (Ne.symm hi)]

theorem lt_of_itemAt (h : itemAt slots index = some item) : index < slots.length := by
  by_contra hge; unfold itemAt at h
  rw [List.getElem?_eq_none (by omega)] at h; cases h

theorem mem_cellsFor {cell : Nat} : cell ∈ cellsFor columns index item ↔ ∃ row < item.rowSpan, ∃ c < item.colSpan,
      (index / columns.count + row) * columns.count + index % columns.count + c = cell := by
  simp [cellsFor]

theorem le_of_mem {cell : Nat} (h : cell ∈ cellsFor columns index item) : index ≤ cell := by
  obtain ⟨row, -, column, -, rfl⟩ := mem_cellsFor.1 h
  have hd := Nat.div_add_mod' index columns.count
  have hr : index / columns.count * columns.count ≤ (index / columns.count + row) * columns.count :=
    Nat.mul_le_mul_right _ (Nat.le_add_right ..)
  omega

theorem anchor_mem (columns : Columns) (index : Nat) (item : HomeGridItem) : index ∈ cellsFor columns index item := by
  obtain ⟨hco, -, hr⟩ := item.spans
  refine mem_cellsFor.2 ⟨0, hr, 0, hco, ?_⟩
  rw [Nat.add_zero, Nat.add_zero]; exact Nat.div_add_mod' index columns.count

theorem itemAt_putItem : itemAt (putItem columns slots index item) =
    Function.update (itemAt slots) index (some item) := by
  have hs : index ≤ (cellsFor columns index item).getLastD index := by
    rcases List.mem_cons.1 List.getLastD_mem_cons with h | h
    · exact Nat.le_of_eq h.symm
    · exact le_of_mem h
  unfold putItem ensureListLength
  rw [itemAt_set, itemAt_append_none]
  rw [List.length_append, List.length_replicate]; omega

theorem of_anchorForCell {cell : Nat} (h : anchorForCell columns cell slots = some index) :
    ∃ item, itemAt slots index = some item ∧ cell ∈ cellsFor columns index item := by
  have hn := List.find?_some h
  obtain ⟨item, hm, hce⟩ := (Option.any_eq_true _ _).1 hn
  exact ⟨item, hm, List.contains_iff_mem.1 hce⟩

theorem not_mem_of_anchorForCell {cell : Nat} (h : anchorForCell columns cell slots = none)
    (hm : itemAt slots index = some item) : cell ∉ cellsFor columns index item := fun hce =>
  List.find?_eq_none.1 h index (List.mem_range.2 (lt_of_itemAt hm))
    ((Option.any_eq_true _ _).2 ⟨item, hm, List.contains_iff_mem.2 hce⟩)

/-! ## Grids without overlaps -/

/-- Every item fits in the columns of its row, no two share a cell, and each id occurs once. -/
structure Valid (columns : Columns) (f : Nat → Option HomeGridItem) : Prop where
  fits : ∀ i item, f i = some item → itemFitsAtColumn columns item i = true
  disjoint : ∀ i j a b, f i = some a → f j = some b → i ≠ j →
    (cellsFor columns i a).Disjoint (cellsFor columns j b)
  once : ∀ i j a b, f i = some a → f j = some b → a.id = b.id → i = j

variable {f g : Nat → Option HomeGridItem}

theorem Valid.mono (h : Valid columns f) (hs : ∀ i a, g i = some a → f i = some a) : Valid columns g :=
  ⟨fun i a ha => h.fits i a (hs i a ha), fun i j a b ha hb => h.disjoint i j a b (hs i a ha) (hs j b hb),
    fun i j a b ha hb => h.once i j a b (hs i a ha) (hs j b hb)⟩

theorem Valid.update (h : Valid columns f) (hfi : itemFitsAtColumn columns item index = true)
    (hf : ∀ i ≠ index, ∀ a, f i = some a → (cellsFor columns index item).Disjoint (cellsFor columns i a))
    (hn : ∀ i ≠ index, ∀ a, f i = some a → a.id ≠ item.id) : Valid columns (Function.update f index (some item)) := by
  have hs : ∀ i a, Function.update f index (some item) i = some a →
      (i = index ∧ item = a) ∨ (i ≠ index ∧ f i = some a) := by
    intro i a ha; rcases eq_or_ne i index with rfl | hne
    · rw [Function.update_self] at ha; exact .inl ⟨rfl, Option.some.inj ha⟩
    · rw [Function.update_of_ne hne] at ha; exact .inr ⟨hne, ha⟩
  refine ⟨fun i a ha => ?_, fun i j a b ha hb hij => ?_, fun i j a b ha hb hid => ?_⟩
  · rcases hs i a ha with ⟨rfl, rfl⟩ | ⟨-, ha⟩
    · exact hfi
    · exact h.fits i a ha
  · rcases hs i a ha with ⟨hi, rfl⟩ | ⟨hi, ha'⟩ <;> rcases hs j b hb with ⟨hj, rfl⟩ | ⟨hj, hb'⟩
    · exact absurd (hi.trans hj.symm) hij
    · exact hi ▸ hf j hj b hb'
    · exact hj ▸ fun _ hce hc' => hf i hi a ha' hc' hce
    · exact h.disjoint i j a b ha' hb' hij
  · rcases hs i a ha with ⟨hi, rfl⟩ | ⟨hi, ha'⟩ <;> rcases hs j b hb with ⟨hj, rfl⟩ | ⟨hj, hb'⟩
    · exact hi.trans hj.symm
    · exact absurd hid.symm (hn j hj b hb')
    · exact absurd hid (hn i hi a ha')
    · exact h.once i j a b ha' hb' hid

theorem Valid.of_canPlaceAt {ps : Nat} {ia : List Nat} (h : Valid columns (itemAt slots))
    (hpl : canPlaceAt columns slots index item ps ia = true) :
    itemFitsAtColumn columns item index = true ∧ ∀ i ∉ ia, ∀ a, itemAt slots i = some a →
      (cellsFor columns index item).Disjoint (cellsFor columns i a) := by
  obtain ⟨hpa, hs⟩ := Bool.and_eq_true_iff.1 hpl
  refine ⟨?_, fun i hi a ha cell hce hc' => ?_⟩
  · unfold itemFitsInPage at hpa; split at hpa
    · cases hpa
    · rename_i hf; by_contra hco
      rw [Bool.not_eq_true] at hco; rw [hco] at hf; simp at hf
  · have hal := List.all_eq_true.1 hs cell hce
    cases hn : anchorForCell columns cell slots with
    | none => exact not_mem_of_anchorForCell hn ha hc'
    | some occupant =>
      obtain ⟨b, hb, hcl⟩ := of_anchorForCell hn
      rw [hn] at hal
      have hne : i ≠ occupant := fun heq => hi (heq ▸ List.contains_iff_mem.1 hal)
      exact h.disjoint i occupant a b ha hb hne hc' hcl

end Layout

end Deniald.Launcher
