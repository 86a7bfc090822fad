/-
Captured contacts: what capturing slots does to the contacts and what it lists, and the gestures that hold theirs.
-/
import Deniald.Touch.Recognizer

namespace Deniald.Touch

open Deniald.Lib

variable {F : Type}

namespace Contacts

variable {contacts : Contacts F} {slot : Int}

theorem mem_windowSlots {windowId : UInt64} :
    slot ∈ contacts.windowSlots windowId ↔ ∃ contact, contacts.lookup slot = some contact ∧
      contact.windowId = some windowId := by
  unfold windowSlots
  rw [List.mem_insertionSort, List.mem_filterMap]
  constructor
  · rintro ⟨⟨k, contact⟩, hmem, hs⟩; dsimp only at hs
    split_ifs at hs with hw
    cases hs
    exact ⟨contact, AList.mem_lookup_iff.2 hmem, hw⟩
  · rintro ⟨contact, hk, hw⟩
    exact ⟨⟨slot, contact⟩, AList.mem_lookup_iff.1 hk, if_pos hw⟩

theorem hasCapturedWindowContact_iff {windowId : UInt64} :
    contacts.hasCapturedWindowContact windowId = true ↔ ∃ slot contact, contacts.lookup slot = some contact ∧
      contact.captured = true ∧ contact.windowId = some windowId := by
  unfold hasCapturedWindowContact; rw [List.any_eq_true]
  constructor
  · rintro ⟨⟨slot, contact⟩, hmem, h⟩; rw [Bool.and_eq_true, decide_eq_true_eq] at h
    exact ⟨slot, contact, AList.mem_lookup_iff.2 hmem, h⟩
  · rintro ⟨slot, contact, hk, h⟩
    refine ⟨⟨slot, contact⟩, AList.mem_lookup_iff.1 hk, ?_⟩
    rw [Bool.and_eq_true, decide_eq_true_eq]; exact h

def Captured (contacts : Contacts F) (slot : Int) : Prop := ∃ contact, contacts.lookup slot = some contact ∧
  contact.captured = true

/-! ## Capturing slots -/

theorem captureSlots_lookup (slot : Int) : ∀ (contacts : Contacts F) (slots : List Int),
    (contacts.captureSlots slots).2.lookup slot =
      if slot ∈ slots then (contacts.lookup slot).map fun contact => { contact with captured := true }
      else contacts.lookup slot
  | contacts, [] => rfl
  | contacts, k :: slots => by
    unfold captureSlots
    cases hk : contacts.lookup k with
    | none =>
      rw [captureSlots_lookup slot contacts slots]
      by_cases hs : slot = k
      · subst hs; rw [hk, if_pos (List.mem_cons_self ..)]
        split <;> rfl
      · simp [hs]
    | some contact =>
      rw [captureSlots_lookup slot _ slots, lookup_insert_eq]
      by_cases hs : slot = k
      · subst hs
        rw [hk, if_pos rfl, if_pos (List.mem_cons_self ..)]
        split <;> rfl
      · simp [hs]

theorem captureSlots_count (slot : Int) : ∀ (contacts : Contacts F) (slots : List Int),
    (contacts.captureSlots slots).1.count slot =
      if slot ∈ slots ∧ (contacts.lookup slot).any (fun contact => !contact.captured) = true then 1 else 0
  | contacts, [] => by
    rw [if_neg fun h => List.not_mem_nil h.1]; rfl
  | contacts, k :: slots => by
    unfold captureSlots
    cases hk : contacts.lookup k with
    | none =>
      rw [captureSlots_count slot contacts slots]
      by_cases hs : slot = k
      · subst hs
        simp [hk]
      · simp [hs]
    | some contact =>
      dsimp only
      have hr := captureSlots_count slot (contacts.insert k { contact with captured := true }) slots
      rw [lookup_insert_eq] at hr
      by_cases hs : slot = k
      · subst hs
        rw [if_pos rfl, Option.any_some, Bool.not_true, if_neg fun h => Bool.false_ne_true h.2] at hr
        rw [hk, Option.any_some]
        cases hca : contact.captured with
        | true =>
          rw [if_pos rfl, hr, if_neg fun h => by simp at h]
        | false =>
          rw [if_neg Bool.false_ne_true, List.count_cons_self, hr, if_pos ⟨List.mem_cons_self .., rfl⟩]
      · rw [if_neg hs] at hr
        have hn : (k :: (captureSlots (contacts.insert k { contact with captured := true }) slots).1).count slot =
            (captureSlots (contacts.insert k { contact with captured := true }) slots).1.count slot :=
          List.count_cons_of_ne (Ne.symm hs)
        simp only [List.mem_cons, hs, false_or]; split
        · exact hr
        · exact hn.trans hr

theorem captured_captureSlots {slots : List Int} : (contacts.captureSlots slots).2.Captured slot ↔
      contacts.Captured slot ∨ slot ∈ slots ∧ (contacts.lookup slot).isSome = true := by
  unfold Captured; rw [captureSlots_lookup]
  by_cases hmem : slot ∈ slots
  · rw [if_pos hmem]
    cases hk : contacts.lookup slot with
    | none => simp
    | some contact => simp [hmem]
  · rw [if_neg hmem]; simp [hmem]

/-! ## Contacts that are kept -/

def Keeps (contacts contacts' : Contacts F) : Prop :=
  ∀ slot contact, contacts.lookup slot = some contact →
    ∃ contact', contacts'.lookup slot = some contact' ∧ contact'.windowId = contact.windowId ∧
      (contact.captured = true → contact'.captured = true)

theorem keeps_captureSlots (contacts : Contacts F) (slots : List Int) :
    contacts.Keeps (contacts.captureSlots slots).2 := by
  intro slot contact h; rw [captureSlots_lookup, h]
  split
  · exact ⟨_, rfl, rfl, fun _ => rfl⟩
  · exact ⟨contact, rfl, rfl, id⟩

theorem keeps_insert_new (h : contacts.lookup slot = none) (contact : Contact F) :
    contacts.Keeps (contacts.insert slot contact) := by
  intro k c hk
  rw [lookup_insert_eq, if_neg (by rintro rfl; rw [h] at hk; cases hk)]; exact ⟨c, hk, rfl, id⟩

theorem keeps_insert_position {contact : Contact F} (h : contacts.lookup slot = some contact) (position : Point F) :
    contacts.Keeps (contacts.insert slot { contact with position := position }) := by
  intro k c hk; rw [lookup_insert_eq]
  split
  · rename_i heq; subst heq
    obtain rfl := Option.some.inj (h.symm.trans hk); exact ⟨_, rfl, rfl, id⟩
  · exact ⟨c, hk, rfl, id⟩

end Contacts

/-! ## Gestures and their contacts -/

/-- A gesture holds its contacts: they are on its window, and captured unless it is still a candidate. A blocked window
has a captured contact. -/
def Gesture.Held (contacts : Contacts F) : Gesture F → Prop
  | .blocked windowId => contacts.hasCapturedWindowContact windowId = true
  | .pinchCandidate slots windowId .. => ∀ slot ∈ [slots.1, slots.2],
      ∃ contact, contacts.lookup slot = some contact ∧ contact.windowId = some windowId
  | gesture => gesture.slots ≠ [] ∧ ∀ slot ∈ gesture.slots, ∃ contact, contacts.lookup slot = some contact ∧
      contact.windowId = some gesture.windowId ∧ contact.captured = true

variable {contacts : Contacts F}

theorem Gesture.Held.keeps {contacts' : Contacts F} {ges : Gesture F} (h : ges.Held contacts)
    (hke : contacts.Keeps contacts') : ges.Held contacts' := by
  have hal {slots : List Int} {windowId : UInt64} (h : ∀ slot ∈ slots, ∃ contact, contacts.lookup slot = some contact ∧
      contact.windowId = some windowId ∧ contact.captured = true) : ∀ slot ∈ slots, ∃ contact,
        contacts'.lookup slot = some contact ∧ contact.windowId = some windowId ∧ contact.captured = true := by
    intro slot hs
    obtain ⟨contact, hk, hw, hca⟩ := h slot hs
    obtain ⟨contact', hl', hw', hc'⟩ := hke slot contact hk
    exact ⟨contact', hl', hw'.trans hw, hc' hca⟩
  cases ges with
  | blocked windowId =>
    obtain ⟨slot, contact, hk, hca, hw⟩ := Contacts.hasCapturedWindowContact_iff.1 h
    obtain ⟨contact', hl', hw', hc'⟩ := hke slot contact hk
    exact Contacts.hasCapturedWindowContact_iff.2
      ⟨slot, contact', hl', hc' hca, hw'.trans hw⟩
  | pinchCandidate slots windowId poss geo m =>
    intro slot hs
    obtain ⟨contact, hk, hw⟩ := h slot hs
    obtain ⟨contact', hl', hw', -⟩ := hke slot contact hk
    exact ⟨contact', hl', hw'.trans hw⟩
  | move slot windowId org geo lg started geometryLocked => exact ⟨h.1, hal h.2⟩
  | pinch slots windowId poss geo lg => exact ⟨h.1, hal h.2⟩
  | minimizeSwipe slots windowId org => exact ⟨h.1, hal h.2⟩
  | threeFinger slots windowId org => exact ⟨h.1, hal h.2⟩
  | fourFinger slots windowId center ini m => exact ⟨h.1, hal h.2⟩

theorem Gesture.Held.contact {ges : Gesture F} (h : ges.Held contacts) :
    ∃ slot contact, contacts.lookup slot = some contact := by
  have hs (h : ges.slots ≠ [] ∧ ∀ k ∈ ges.slots, ∃ contact, contacts.lookup k = some contact ∧
      contact.windowId = some ges.windowId ∧ contact.captured = true) :
      ∃ slot contact, contacts.lookup slot = some contact := by
    obtain ⟨slot, hsl⟩ := List.exists_mem_of_ne_nil _ h.1
    obtain ⟨contact, hk, -⟩ := h.2 slot hsl; exact ⟨slot, contact, hk⟩
  cases ges with
  | blocked windowId =>
    obtain ⟨slot, contact, hk, -⟩ := Contacts.hasCapturedWindowContact_iff.1 h
    exact ⟨slot, contact, hk⟩
  | pinchCandidate slots windowId poss geo m =>
    obtain ⟨contact, hk, -⟩ := h slots.1 (List.mem_cons_self ..); exact ⟨slots.1, contact, hk⟩
  | move slot windowId org geo lg started geometryLocked => exact hs h
  | pinch slots windowId poss geo lg => exact hs h
  | minimizeSwipe slots windowId org => exact hs h
  | threeFinger slots windowId org => exact hs h
  | fourFinger slots windowId center ini m => exact hs h

theorem held_captureSlots {slots : List Int} {windowId : UInt64}
    (h : ∀ slot ∈ slots, slot ∈ contacts.windowSlots windowId) : ∀ slot ∈ slots, ∃ contact,
      (contacts.captureSlots slots).2.lookup slot = some contact ∧ contact.windowId = some windowId ∧
        contact.captured = true := by
  intro slot hs
  obtain ⟨contact, hk, hw⟩ := Contacts.mem_windowSlots.1 (h slot hs)
  rw [Contacts.captureSlots_lookup, if_pos hs, hk]; exact ⟨_, rfl, hw, rfl⟩

end Deniald.Touch
