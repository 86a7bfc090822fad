/-
The grid of the home screen filled from a saved layout and refreshed when applications come and go
(home_grid_layout.dart): what can stay in its slot does, and the rest goes to the first slot that is free for it.
-/
import Deniald.Launcher.Grid
import Deniald.Lib.LinkedMap
import Mathlib.Data.Nat.Find

namespace Deniald.Launcher

open Deniald.Lib

structure HomeLayoutSlot where
  id : String
  colSpan : Option Int
  rowSpan : Option Int

section Place

variable (columns : Columns)

/-- Whether the item fits in the columns behind the index, and no item has one of its cells. -/
def isFree (slots : Slots) (index : Nat) (item : HomeGridItem) : Bool :=
  itemFitsAtColumn columns item index &&
    !(cellsFor columns index item).any fun cell => (anchorForCell columns cell slots).isSome

variable {columns} {slots : Slots} {index : Nat} {item : HomeGridItem}

theorem isFree_iff : isFree columns slots index item = true ↔ itemFitsAtColumn columns item index = true ∧
    ∀ i a, itemAt slots i = some a → (cellsFor columns index item).Disjoint (cellsFor columns i a) := by
  unfold isFree
  rw [Bool.and_eq_true, Bool.not_eq_true', List.any_eq_false]
  refine and_congr_right fun _ => ⟨fun h i a ha cell hce hc' => ?_, fun h cell hce hs => ?_⟩
  · exact not_mem_of_anchorForCell (Option.not_isSome_iff_eq_none.1 (h cell hce)) ha hc'
  · obtain ⟨i, hi⟩ := Option.isSome_iff_exists.1 hs
    obtain ⟨a, ha, hc'⟩ := of_anchorForCell hi
    exact h i a ha hce hc'

theorem exists_bound (l : List Nat) : ∃ bound, ∀ cell ∈ l, cell < bound := by
  induction l with
  | nil => exact ⟨0, fun _ h => absurd h List.not_mem_nil⟩
  | cons a l ih =>
    obtain ⟨bound, hn⟩ := ih
    refine ⟨bound + a + 1, fun cell hce => ?_⟩
    rcases List.mem_cons.1 hce with rfl | hce
    · omega
    · have := hn cell hce; omega

/-- A row behind all the cells that are taken is free. -/
theorem exists_free (columns : Columns) (slots : Slots) (idx : Nat) (item : HomeGridItem) :
    ∃ index, idx ≤ index ∧ isFree columns slots index item = true := by
  obtain ⟨b, hn⟩ := exists_bound ((List.range slots.length).flatMap fun i =>
    ((itemAt slots i).map (cellsFor columns i)).getD [])
  have hco : 0 < columns.count := Nat.lt_of_lt_of_le (by decide) columns.enough
  have hle : idx + b ≤ (idx + b) * columns.count := Nat.le_mul_of_pos_right _ hco
  refine ⟨(idx + b) * columns.count, by omega, isFree_iff.2 ⟨decide_eq_true ?_, fun i a ha cell hce hc' => ?_⟩⟩
  · rw [Nat.mul_mod_left, Nat.zero_add]; exact Nat.le_trans item.spans.2.1 columns.enough
  · have hk := hn cell (List.mem_flatMap.2 ⟨i, List.mem_range.2 (lt_of_itemAt ha), by rw [ha]; exact hc'⟩)
    have := le_of_mem hce; omega

variable (columns)

/-- `placeItemAt`, which returns the list it was given where the item cannot be placed. -/
def placeItemAt (slots : Slots) (index : Nat) (item : HomeGridItem) : Option Slots :=
  if isFree columns slots index item then some (putItem columns slots index item) else none

/-- `placeItemAfter`, whose loop ends at the first index that is free. -/
def placeItemAfter (slots : Slots) (startIndex : Nat) (item : HomeGridItem) : Slots :=
  putItem columns slots (Nat.find (exists_free columns slots startIndex item)) item

def placeItemInFirstFreeSlot (slots : Slots) (item : HomeGridItem) : Slots := placeItemAfter columns slots 0 item

/-- The loop over the slots that there were, which is the same for a saved layout and for current slots, but that the
latter look for another slot for an item that cannot stay. -/
def placeKept (fallback : Bool) : Nat → Slots → Slots → List String → Slots × List String
  | _, [], slots, used => (slots, used)
  | index, none :: kept, slots, used => placeKept fallback (index + 1) kept slots used
  | index, some item :: kept, slots, used =>
    if used.contains item.id then placeKept fallback (index + 1) kept slots used
    else
      match placeItemAt columns slots index item with
      | some placed => placeKept fallback (index + 1) kept placed (item.id :: used)
      | none =>
        if fallback then
          placeKept fallback (index + 1) kept (placeItemInFirstFreeSlot columns slots item) (item.id :: used)
        else placeKept fallback (index + 1) kept slots used

/-- The loop over the items of a map, which has every id once. -/
def placeRest (startIndex : HomeGridItem → Nat) (used : List String) (items : List HomeGridItem) (slots : Slots) : Slots :=
  items.foldl (fun slots item =>
    if used.contains item.id then slots else placeItemAfter columns slots (startIndex item) item) slots

end Place

section Refresh

variable (columns : Columns) (apps : List DesktopApp) (localApps : List LocalFlutterApplication)

def keyed (item : HomeGridItem) : String × HomeGridItem := (item.id, item)

def appItems : List HomeGridItem := apps.map .app ++ localApps.map .localApp

/-- The defaults of `HomeGridItem.clock` and `HomeGridItem.batteryDischarge`. -/
def widgetItems : List HomeGridItem := [.clock (.clamp 2 1), .batteryDischarge (.clamp 4 2)]

def itemsById (items : List HomeGridItem) : LinkedMap String HomeGridItem := .ofList (items.map keyed)

/-- The item of a saved slot, in the spans that it had. -/
def savedItem (slot : HomeLayoutSlot) : Option HomeGridItem :=
  ((itemsById (widgetItems ++ appItems apps localApps)).get? slot.id).map fun item =>
    if item.resizable then item.resize (slot.colSpan.getD item.colSpan) (slot.rowSpan.getD item.rowSpan) else item

def savedItems (savedLayout : List (Option HomeLayoutSlot)) : Slots :=
  savedLayout.map fun slot => slot.bind (savedItem apps localApps)

def initialSlotsForApps (savedLayout : Option (List (Option HomeLayoutSlot))) : Slots :=
  let placed := placeKept columns false 0 (savedItems apps localApps (savedLayout.getD [])) [] []
  let startIndex := fun item : HomeGridItem =>
    match savedLayout with
    | some saved => if item.type = .app then saved.length else 0
    | none => 0
  placeRest columns startIndex placed.2 (itemsById (widgetItems ++ appItems apps localApps)).values placed.1

/-- The item that current slots keep: an application as it is known now, or a widget. -/
def keptItem (current : HomeGridItem) : Option HomeGridItem :=
  if current.type = .app then (itemsById (appItems apps localApps)).get? current.id else some current

def keptItems (currentSlots : Slots) : Slots := currentSlots.map fun current => current.bind (keptItem apps localApps)

def refreshSlotsForApps (currentSlots : Slots) : Slots :=
  let placed := placeKept columns true 0 (keptItems apps localApps currentSlots) [] []
  placeRest columns (fun _ => currentSlots.length) placed.2 (itemsById (appItems apps localApps)).values placed.1

end Refresh

/-! ## Placing -/

variable {columns : Columns} {slots : Slots} {index : Nat} {item : HomeGridItem} {used : List String}

/-- An item with that id is on the grid. -/
def Shown (slots : Slots) (id : String) : Prop := ∃ i a, itemAt slots i = some a ∧ a.id = id

theorem free_none (h : isFree columns slots index item = true) : itemAt slots index = none := by
  cases hm : itemAt slots index with
  | none => rfl
  | some a => exact absurd (anchor_mem columns index a) ((isFree_iff.1 h).2 index a hm (anchor_mem columns index item))

theorem Valid.place (h : Valid columns (itemAt slots)) (hf : isFree columns slots index item = true)
    (hn : ¬Shown slots item.id) : Valid columns (itemAt (putItem columns slots index item)) := by
  obtain ⟨hfi, hd⟩ := isFree_iff.1 hf
  rw [itemAt_putItem]
  exact h.update hfi (fun i _ a ha => hd i a ha) fun i _ a ha hid => hn ⟨i, a, ha, hid⟩

theorem itemAt_putItem_iff (hf : isFree columns slots index item = true) {i : Nat} {a : HomeGridItem} :
    itemAt (putItem columns slots index item) i = some a ↔ itemAt slots i = some a ∨ (i = index ∧ a = item) := by
  rw [itemAt_putItem]; rcases eq_or_ne i index with rfl | hne
  · rw [Function.update_self, free_none hf]
    simp [eq_comm]
  · rw [Function.update_of_ne hne]; simp [hne]

theorem shown_putItem (hf : isFree columns slots index item = true) {id : String} :
    Shown (putItem columns slots index item) id ↔ id = item.id ∨ Shown slots id := by
  constructor
  · rintro ⟨i, a, ha, rfl⟩; rcases (itemAt_putItem_iff hf).1 ha with ha | ⟨-, rfl⟩
    · exact .inr ⟨i, a, ha, rfl⟩
    · exact .inl rfl
  · rintro (rfl | ⟨i, a, ha, rfl⟩)
    · exact ⟨index, item, (itemAt_putItem_iff hf).2 (.inr ⟨rfl, rfl⟩), rfl⟩
    · exact ⟨i, a, (itemAt_putItem_iff hf).2 (.inl ha), rfl⟩

theorem placeItemAfter_free (columns : Columns) (slots : Slots) (idx : Nat) (item : HomeGridItem) :
    ∃ index, isFree columns slots index item = true ∧
      placeItemAfter columns slots idx item = putItem columns slots index item :=
  ⟨_, (Nat.find_spec (exists_free columns slots idx item)).2, rfl⟩

/-- A valid grid whose ids are those that were used. -/
structure Placed (columns : Columns) (slots : Slots) (used : List String) : Prop where
  valid : Valid columns (itemAt slots)
  used : ∀ id, id ∈ used ↔ Shown slots id

theorem Placed.put (h : Placed columns slots used) (hf : isFree columns slots index item = true)
    (hn : item.id ∉ used) : Placed columns (putItem columns slots index item) (item.id :: used) :=
  ⟨h.valid.place hf fun hs => hn ((h.used _).2 hs),
    fun id => by rw [shown_putItem hf, List.mem_cons, h.used]⟩

theorem placed_nil (columns : Columns) : Placed columns [] [] where
  valid := by constructor <;> intro _ _ <;> intros <;> contradiction
  used id := ⟨fun h => absurd h List.not_mem_nil, fun ⟨_, _, h, _⟩ => by cases h⟩

/-- What the loop over the slots that there were makes of a grid: its items come from those slots or were there before,
and where there is a fallback it has all of their ids. -/
structure Kept (columns : Columns) (fallback : Bool) (kept slots : Slots) (used : List String)
    (r : Slots × List String) : Prop where
  placed : Placed columns r.1 r.2
  used : ∀ id ∈ used, id ∈ r.2
  origin : ∀ i a, itemAt r.1 i = some a → itemAt slots i = some a ∨ some a ∈ kept
  all : fallback = true → ∀ a, some a ∈ kept → a.id ∈ r.2

section Kept

variable {fallback : Bool} {kept : Slots} {r : Slots × List String}

theorem Kept.skip (h : Kept columns fallback kept slots used r) {slot : Option HomeGridItem}
    (hs : ∀ a, slot = some a → fallback = true → a.id ∈ used) : Kept columns fallback (slot :: kept) slots used r where
  placed := h.placed
  used := h.used
  origin i a ha := (h.origin i a ha).imp_right (List.mem_cons_of_mem _)
  all hf a ha := by
    rcases List.mem_cons.1 ha with heq | ha
    · exact h.used _ (hs a heq.symm hf)
    · exact h.all hf a ha

theorem Kept.put (h : Kept columns fallback kept (putItem columns slots index item) (item.id :: used) r)
    (hr : isFree columns slots index item = true) : Kept columns fallback (some item :: kept) slots used r where
  placed := h.placed
  used id hid := h.used id (List.mem_cons_of_mem _ hid)
  origin i a ha := by
    rcases h.origin i a ha with ha | hmem
    · rcases (itemAt_putItem_iff hr).1 ha with ha | ⟨-, rfl⟩
      · exact .inl ha
      · exact .inr (List.mem_cons_self ..)
    · exact .inr (List.mem_cons_of_mem _ hmem)
  all hf a ha := by
    rcases List.mem_cons.1 ha with heq | ha
    · rw [Option.some.inj heq]; exact h.used _ (List.mem_cons_self ..)
    · exact h.all hf a ha

theorem placeKept_spec (fallback : Bool) (kept : Slots) : ∀ {slots : Slots} {index : Nat} {used : List String},
    Placed columns slots used →
      Kept columns fallback kept slots used (placeKept columns fallback index kept slots used) := by
  induction kept with
  | nil => exact fun h => ⟨h, fun _ hid => hid, fun _ _ ha => .inl ha, fun _ _ ha => absurd ha List.not_mem_nil⟩
  | cons slot kept ih =>
    intro slots index used h
    cases slot with
    | none => exact (ih h).skip fun _ heq => by cases heq
    | some item =>
      unfold placeKept; split
      · rename_i hu
        refine (ih h).skip fun a heq _ => ?_
        cases heq; exact List.contains_iff_mem.1 hu
      rename_i hu
      have hn : item.id ∉ used := fun hmem => hu (List.contains_iff_mem.2 hmem)
      unfold placeItemAt
      cases hr : isFree columns slots index item with
      | true => exact (ih (h.put hr hn)).put hr
      | false =>
        cases fallback with
        | true =>
          obtain ⟨free, hr, heq⟩ := placeItemAfter_free columns slots 0 item
          show Kept columns true _ _ _ (placeKept columns true _ _ (placeItemAfter columns slots 0 item) _)
          rw [heq]; exact (ih (h.put hr hn)).put hr
        | false => exact (ih h).skip fun _ _ hf => by cases hf

end Kept

theorem itemAt_append_left {before : Slots} (h : index < before.length) (after : Slots) :
    itemAt (before ++ after) index = itemAt before index := by
  unfold itemAt; rw [List.getElem?_append_left h]

theorem itemAt_append_cons (before : Slots) (slot : Option HomeGridItem) (after : Slots) :
    itemAt (before ++ slot :: after) before.length = slot := by
  unfold itemAt; simp

theorem itemAt_concat (before : Slots) (slot : Option HomeGridItem) :
    itemAt (before ++ [slot]) = Function.update (itemAt before) before.length slot := by
  funext i; rcases Nat.lt_trichotomy i before.length with h | rfl | h
  · rw [itemAt_append_left h, Function.update_of_ne (Nat.ne_of_lt h)]
  · rw [itemAt_append_cons, Function.update_self]
  · rw [Function.update_of_ne (Nat.ne_of_gt h)]; unfold itemAt
    rw [List.getElem?_eq_none (by simp; omega), List.getElem?_eq_none (by omega)]

theorem placeKept_valid (fallback : Bool) : ∀ {kept before slots : Slots} {used : List String},
    Valid columns (itemAt (before ++ kept)) → itemAt slots = itemAt before → Placed columns slots used →
      itemAt (placeKept columns fallback before.length kept slots used).1 = itemAt (before ++ kept)
  | [], before, _, _, _, heq, _ => by rw [List.append_nil]; exact heq
  | none :: kept, before, slots, used, h, heq, hpl => by
    rw [List.append_cons] at h ⊢
    have hr := placeKept_valid fallback h (heq.trans (itemAt_append_none before 1).symm) hpl
    rw [List.length_append] at hr; exact hr
  | some item :: kept, before, slots, used, h, heq, hpl => by
    have hm := itemAt_append_cons before (some item) kept
    have hbe : ∀ i a, itemAt slots i = some a → i < before.length ∧
        itemAt (before ++ some item :: kept) i = some a := fun i a ha => by
      rw [heq] at ha; exact ⟨lt_of_itemAt ha, (itemAt_append_left (lt_of_itemAt ha) _).trans ha⟩
    have hn : item.id ∉ used := fun hmem => by
      obtain ⟨i, a, ha, hid⟩ := (hpl.used _).1 hmem
      obtain ⟨hlt, hi⟩ := hbe i a ha
      exact Nat.ne_of_lt hlt (h.once i _ a item hi hm hid)
    have hf : isFree columns slots before.length item = true :=
      isFree_iff.2 ⟨h.fits _ _ hm, fun i a ha => by
        obtain ⟨hlt, hi⟩ := hbe i a ha
        exact h.disjoint _ i item a hm hi (Nat.ne_of_gt hlt)⟩
    unfold placeKept placeItemAt
    rw [if_neg fun hu => hn (List.contains_iff_mem.1 hu), if_pos hf]
    rw [List.append_cons] at h ⊢
    have hr := placeKept_valid fallback h
      (by rw [itemAt_putItem, heq, itemAt_concat]) (hpl.put hf hn)
    rw [List.length_append] at hr; exact hr

theorem placeRest_spec (idx : HomeGridItem → Nat) : ∀ {items : List HomeGridItem} {slots : Slots},
    Valid columns (itemAt slots) → (items.map HomeGridItem.id).Nodup →
      (∀ item ∈ items, item.id ∉ used → ¬Shown slots item.id) → let r := placeRest columns idx used items slots
      Valid columns (itemAt r) ∧ (∀ i a, itemAt slots i = some a → itemAt r i = some a) ∧
        (∀ item ∈ items, item.id ∉ used → Shown r item.id) ∧
        ∀ i a, itemAt r i = some a → itemAt slots i = some a ∨ a ∈ items
  | [], _, h, _, _ => ⟨h, fun _ _ ha => ha, fun _ hmem => absurd hmem List.not_mem_nil, fun _ _ ha => .inl ha⟩
  | item :: items, slots, h, hd, hw => by
    obtain ⟨hno, hd⟩ := List.nodup_cons.1 hd
    have hstep : ∃ next, placeRest columns idx used (item :: items) slots =
          placeRest columns idx used items next ∧ Valid columns (itemAt next) ∧
        (∀ i a, itemAt slots i = some a → itemAt next i = some a) ∧
        (∀ i a, itemAt next i = some a → itemAt slots i = some a ∨ a = item) ∧
        (item.id ∉ used → Shown next item.id) := by
      by_cases hu : item.id ∈ used
      · exact ⟨slots, by unfold placeRest; rw [List.foldl_cons, if_pos (List.contains_iff_mem.2 hu)], h,
          fun _ _ ha => ha, fun _ _ ha => .inl ha, fun hn => absurd hu hn⟩
      · obtain ⟨free, hf, heq⟩ := placeItemAfter_free columns slots (idx item) item
        refine ⟨putItem columns slots free item, ?_, h.place hf (hw item (List.mem_cons_self ..) hu),
          fun i a ha => (itemAt_putItem_iff hf).2 (.inl ha),
          fun i a ha => ((itemAt_putItem_iff hf).1 ha).imp_right And.right, fun _ => (shown_putItem hf).2 (.inl rfl)⟩
        unfold placeRest
        rw [List.foldl_cons, if_neg fun hmem => hu (List.contains_iff_mem.1 hmem), heq]
    obtain ⟨next, heq, hv, hk, ho, hs⟩ := hstep
    obtain ⟨hv', hk', hal, ho'⟩ := placeRest_spec idx hv hd
      fun other hmem hn ⟨i, a, ha, hid⟩ => by
        rcases ho i a ha with ha | rfl
        · exact hw other (List.mem_cons_of_mem _ hmem) hn ⟨i, a, ha, hid⟩
        · exact hno (hid ▸ List.mem_map_of_mem hmem)
    rw [heq]
    refine ⟨hv', fun i a ha => hk' i a (hk i a ha), fun other hmem hn => ?_, fun i a ha => ?_⟩
    · rcases List.mem_cons.1 hmem with rfl | hmem
      · obtain ⟨i, a, ha, hid⟩ := hs hn; exact ⟨i, a, hk' i a ha, hid⟩
      · exact hal other hmem hn
    · rcases ho' i a ha with ha | hmem
      · exact (ho i a ha).imp_right fun heq => by rw [heq]; exact List.mem_cons_self ..
      · exact .inr (List.mem_cons_of_mem _ hmem)

/-! ## Items by their ids -/

section Items

variable {items : List HomeGridItem} {key : String} {apps : List DesktopApp} {localApps : List LocalFlutterApplication}

theorem of_itemsById (h : (itemsById items).get? key = some item) : item.id = key ∧ item ∈ items := by
  obtain ⟨f, hf, heq⟩ := List.mem_map.1 (LinkedMap.mem_of_ofList h)
  cases heq; exact ⟨rfl, hf⟩

theorem itemsById_isSome (h : item ∈ items) : ((itemsById items).get? item.id).isSome = true := by
  unfold itemsById LinkedMap.ofList
  rw [LinkedMap.isSome_foldl_set, Bool.or_eq_true]
  exact .inl (List.any_eq_true.2 ⟨keyed item, List.mem_map_of_mem h, decide_eq_true rfl⟩)

theorem mem_values : item ∈ (itemsById items).values ↔ (itemsById items).get? item.id = some item := by
  rw [LinkedMap.get?_eq_some_iff]
  refine ⟨fun h => ?_, fun h => List.mem_map.2 ⟨_, h, rfl⟩⟩
  obtain ⟨⟨key, f⟩, hmem, rfl⟩ := List.mem_map.1 h
  rw [(of_itemsById (LinkedMap.get?_eq_some_iff.2 hmem)).1]; exact hmem

theorem nodup_values (items : List HomeGridItem) : ((itemsById items).values.map HomeGridItem.id).Nodup := by
  have hk : (itemsById items).values.map HomeGridItem.id = (itemsById items).entries.map Prod.fst := by
    unfold LinkedMap.values; rw [List.map_map]
    exact List.map_congr_left fun e he => (of_itemsById (LinkedMap.get?_eq_some_iff.2 he)).1
  rw [hk]; exact (itemsById items).nodup

theorem eq_of_id_app {app : DesktopApp} (h : item.id = (HomeGridItem.app app).id) : item = .app app := by
  have hh := congrArg String.toList h
  cases item <;> simp [HomeGridItem.id, String.toList_append] at hh
  rename_i other; cases other; cases app
  exact congrArg _ (congrArg _ (String.toList_inj.1 hh))

theorem eq_of_id_localApp {app : LocalFlutterApplication} (h : item.id = (HomeGridItem.localApp app).id) :
    item = .localApp app := by
  have hh := congrArg String.toList h
  cases item <;> simp [HomeGridItem.id, String.toList_append] at hh
  rename_i other; cases other; cases app
  exact congrArg _ (congrArg _ (String.toList_inj.1 hh))

theorem eq_of_mem_appItems (h : item ∈ appItems apps localApps) {other : HomeGridItem} (hid : other.id = item.id) :
    other = item := by
  rcases List.mem_append.1 h with h | h
  · obtain ⟨app, -, rfl⟩ := List.mem_map.1 h; exact eq_of_id_app hid
  · obtain ⟨app, -, rfl⟩ := List.mem_map.1 h; exact eq_of_id_localApp hid

/-- An application in its grid: all of those that are known, each once, and no others. -/
structure Filled (columns : Columns) (apps : List DesktopApp) (localApps : List LocalFlutterApplication) (slots : Slots) :
    Prop where
  valid : Valid columns (itemAt slots)
  appOnce : ∀ app ∈ apps, ∃! i, itemAt slots i = some (.app app)
  localAppOnce : ∀ app ∈ localApps, ∃! i, itemAt slots i = some (.localApp app)
  known : ∀ i item, itemAt slots i = some item → item.type = .app → item ∈ appItems apps localApps

theorem filled_of (hv : Valid columns (itemAt slots)) (hs : ∀ item ∈ appItems apps localApps, Shown slots item.id)
    (hk : ∀ i item, itemAt slots i = some item → item.type = .app → item ∈ appItems apps localApps) :
    Filled columns apps localApps slots := by
  have hu : ∀ item ∈ appItems apps localApps, ∃! i, itemAt slots i = some item := fun item hmem => by
    obtain ⟨i, a, ha, hid⟩ := hs item hmem
    rw [eq_of_mem_appItems hmem hid] at ha
    exact ⟨i, ha, fun j hj => hv.once j i item item hj ha rfl⟩
  exact ⟨hv, fun app hap => hu _ (List.mem_append_left _ (List.mem_map_of_mem hap)),
    fun app hap => hu _ (List.mem_append_right _ (List.mem_map_of_mem hap)), hk⟩

theorem itemAt_keptItems (slots : Slots) (i : Nat) :
    itemAt (keptItems apps localApps slots) i = (itemAt slots i).bind (keptItem apps localApps) := by
  unfold itemAt keptItems; rw [List.getElem?_map]
  cases slots[i]? <;> rfl

theorem eq_of_keptItem {current : HomeGridItem} (h : keptItem apps localApps current = some item) :
    item = current ∧ (item.type = .app → item ∈ appItems apps localApps) := by
  unfold keptItem at h; split at h
  · obtain ⟨hid, hmem⟩ := of_itemsById h
    exact ⟨(eq_of_mem_appItems hmem hid.symm).symm, fun _ => hmem⟩
  · rename_i hy; cases h; exact ⟨rfl, fun hap => absurd hap hy⟩

theorem keptItem_of_known (h : item.type = .app → item ∈ appItems apps localApps) :
    keptItem apps localApps item = some item := by
  unfold keptItem; split
  · rename_i hy
    obtain ⟨f, hf⟩ := Option.isSome_iff_exists.1 (itemsById_isSome (h hy))
    rw [hf, eq_of_mem_appItems (h hy) (of_itemsById hf).1]
  · rfl

theorem of_savedItem {slot : HomeLayoutSlot} (h : savedItem apps localApps slot = some item) (hap : item.type = .app) :
    item ∈ appItems apps localApps := by
  obtain ⟨f, hf, rfl⟩ := Option.map_eq_some_iff.1 h
  have hmem := (of_itemsById hf).2
  cases f with
  | clock span => cases hap
  | batteryDischarge span => cases hap
  | app app => show HomeGridItem.app app ∈ _; simpa [widgetItems] using hmem
  | localApp app => show HomeGridItem.localApp app ∈ _; simpa [widgetItems] using hmem

end Items

theorem place_spec (columns : Columns) (fallback : Bool) (idx : HomeGridItem → Nat) (kept : Slots)
    (items : List HomeGridItem) : let placed := placeKept columns fallback 0 kept [] []
    let slots := placeRest columns idx placed.2 (itemsById items).values placed.1
    Valid columns (itemAt slots) ∧ (∀ item ∈ items, Shown slots item.id) ∧
      (fallback = true → ∀ item, some item ∈ kept → Shown slots item.id) ∧
      (∀ i item, itemAt slots i = some item → some item ∈ kept ∨ item ∈ items) ∧
      (Valid columns (itemAt kept) → ∀ i item, itemAt kept i = some item → itemAt slots i = some item) := by
  intro placed slots
  have hk : Kept columns fallback kept [] [] placed := placeKept_spec fallback kept (placed_nil columns)
  obtain ⟨hv, hke, hal, ho⟩ := placeRest_spec idx hk.placed.valid (nodup_values items)
    fun item _ hno hs => hno ((hk.placed.used item.id).2 hs)
  have hu : ∀ id ∈ placed.2, Shown slots id := fun id hid => by
    obtain ⟨i, a, ha, heq⟩ := (hk.placed.used id).1 hid; exact ⟨i, a, hke i a ha, heq⟩
  refine ⟨hv, fun item hmem => ?_, fun hf item hmem => hu _ (hk.all hf item hmem), fun i item hm => ?_,
    fun h i item hm => ?_⟩
  · obtain ⟨f, hn⟩ := Option.isSome_iff_exists.1 (itemsById_isSome hmem)
    obtain ⟨hid, -⟩ := of_itemsById hn
    rw [← hid] at hn ⊢
    by_cases hpl : f.id ∈ placed.2
    · exact hu _ hpl
    · exact hal f (mem_values.2 hn) hpl
  · rcases ho i item hm with hpl | hmem
    · exact .inl ((hk.origin i item hpl).resolve_left fun hnil => by cases hnil)
    · exact .inr (of_itemsById (mem_values.1 hmem)).2
  · have heq : itemAt (placeKept columns fallback ([] : Slots).length kept [] []).1 = itemAt ([] ++ kept) :=
      placeKept_valid fallback h rfl (placed_nil columns)
    exact hke i item ((congrFun heq i).trans hm)

/-- Refreshing the home grid loses nothing: it ends in a valid grid that has every known application and widget once and
no other application, and what a valid layout had and is still known stays in its slot. -/
theorem home_grid_loses_nothing (columns : Columns) (apps : List DesktopApp) (localApps : List LocalFlutterApplication)
    (savedLayout : Option (List (Option HomeLayoutSlot))) (currentSlots : Slots) :
    let saved := savedItems apps localApps (savedLayout.getD [])
    let first := initialSlotsForApps columns apps localApps savedLayout
    let refreshed := refreshSlotsForApps columns apps localApps currentSlots
    (Filled columns apps localApps first ∧ (∀ item ∈ widgetItems, Shown first item.id) ∧
        (Valid columns (itemAt saved) → ∀ i item, itemAt saved i = some item → itemAt first i = some item)) ∧
      Filled columns apps localApps refreshed ∧
      (∀ i item, itemAt currentSlots i = some item → item.type ≠ .app → Shown refreshed item.id) ∧
      (Valid columns (itemAt currentSlots) → ∀ i item, itemAt currentSlots i = some item →
        (item.type = .app → item ∈ appItems apps localApps) → itemAt refreshed i = some item) := by
  intro saved first refreshed
  have hitem : ∀ {i item}, itemAt currentSlots i = some item → (item.type = .app → item ∈ appItems apps localApps) →
      itemAt (keptItems apps localApps currentSlots) i = some item := fun hcur hknow => by
    rw [itemAt_keptItems, hcur]; exact keptItem_of_known hknow
  constructor
  · obtain ⟨hval, hshow, -, horig, hstays⟩ := place_spec columns false _ saved (widgetItems ++ appItems apps localApps)
    refine ⟨filled_of hval (fun item hmem => hshow item (List.mem_append_right _ hmem)) fun i item hi happ => ?_,
      fun item hmem => hshow item (List.mem_append_left _ hmem), hstays⟩
    rcases horig i item hi with hsav | hmem
    · obtain ⟨slot, -, hslot⟩ := List.mem_map.1 hsav
      obtain ⟨slot, -, hslot⟩ := Option.bind_eq_some_iff.1 hslot; exact of_savedItem hslot happ
    · refine (List.mem_append.1 hmem).resolve_left fun hwid => ?_
      rcases List.mem_pair.1 hwid with rfl | rfl <;> cases happ
  · obtain ⟨hval, hshow, hall, horig, hstays⟩ := place_spec columns true (fun _ => currentSlots.length)
      (keptItems apps localApps currentSlots) (appItems apps localApps)
    refine ⟨filled_of hval hshow fun i item hi happ => ?_, fun i item hi hne => ?_, fun h i item hi hknow => ?_⟩
    · rcases horig i item hi with hcur | hmem
      · obtain ⟨current, -, hcur⟩ := List.mem_map.1 hcur
        obtain ⟨current, -, hcur⟩ := Option.bind_eq_some_iff.1 hcur
        exact (eq_of_keptItem hcur).2 happ
      · exact hmem
    · have hkep := hitem hi fun happ => absurd happ hne
      refine hall rfl item (List.mem_of_getElem? (i := i) ?_)
      exact Option.join_eq_some_iff.1 hkep
    · refine hstays (h.mono fun j a ha => ?_) i item (hitem hi hknow)
      rw [itemAt_keptItems] at ha
      obtain ⟨current, hcur, hkepI⟩ := Option.bind_eq_some_iff.1 ha
      rw [(eq_of_keptItem hkepI).1]; exact hcur

end Deniald.Launcher
