/-
Contacts that move and contacts that are lifted: how a gesture goes on with the first, and what is left of it after the
second.
-/
import Deniald.Touch.Protocol

namespace Deniald.Touch

open Deniald.Lib

variable {F : Type} [TouchArith F]

open TouchGestureState

/-! ## Motion -/

theorem motionGesture_held {contacts : Contacts F} {ges : Gesture F} (h : ges.Held contacts) (slot : Int)
    (position : Point F) : (motionGesture contacts slot position ges).1.Held contacts := by
  have hbl (h : ges.slots ≠ [] ∧ ∀ k ∈ ges.slots, ∃ contact, contacts.lookup k = some contact ∧
      contact.windowId = some ges.windowId ∧ contact.captured = true) :
      (Gesture.blocked ges.windowId : Gesture F).Held contacts := by
    obtain ⟨k, hk⟩ := List.exists_mem_of_ne_nil _ h.1
    obtain ⟨contact, hlo, hw, hca⟩ := h.2 k hk
    exact Contacts.hasCapturedWindowContact_iff.2 ⟨k, contact, hlo, hca, hw⟩
  cases ges with
  | move gs windowId org geo lg started geometryLocked =>
    unfold motionGesture; dsimp only
    split <;> exact h
  | pinchCandidate slots windowId poss geo m => exact h
  | pinch slots windowId poss geo lg =>
    unfold motionGesture; dsimp only
    split <;> exact h
  | minimizeSwipe slots windowId org =>
    unfold motionGesture; dsimp only
    split
    · split
      · exact hbl h
      · exact h
    · exact h
  | threeFinger slots windowId org =>
    unfold motionGesture; dsimp only
    split
    · split
      · exact hbl h
      · exact h
    · exact h
  | fourFinger slots windowId center ini m =>
    unfold motionGesture; dsimp only
    split
    · split
      · exact hbl h
      · exact h
    · exact h
  | blocked windowId => exact h

/-- A placement is begun before its first update, and once. -/
theorem motionGesture_places (windowId : UInt64) (cs : Contacts F) (slot : Int) (position : Point F)
    (ges : Gesture F) : Places windowId (motionGesture cs slot position ges).2
      (openChange windowId (some ges)) (openChange windowId (some (motionGesture cs slot position ges).1)) := by
  cases ges with
  | move gs id org geo lg started geometryLocked =>
    unfold motionGesture; dsimp only
    split
    · by_cases hid : id = windowId <;> cases started <;>
        simp [Places, openChange, phaseStep, hid]
    · exact places_nil windowId _
  | pinchCandidate slots id poss geo m => exact places_nil windowId _
  | pinch slots id poss geo lg =>
    unfold motionGesture; dsimp only
    split
    · by_cases hid : id = windowId <;> simp [Places, openChange, phaseStep, hid]
    · exact places_nil windowId _
  | minimizeSwipe slots id org =>
    unfold motionGesture; dsimp only
    split
    · split <;> rfl
    · rfl
  | threeFinger slots id org =>
    unfold motionGesture; dsimp only
    split
    · split <;> rfl
    · rfl
  | fourFinger slots id center ini m =>
    unfold motionGesture; dsimp only
    split
    · split <;> rfl
    · rfl
  | blocked id => rfl

theorem motionCandidate_reaction {s : TouchGestureState F} {slots : Int × Int} {windowId : UInt64}
    {poss : Point F × Point F} {geo : WindowGeometry F} {m : Bool × Bool}
    (hs : s.gesture = some (.pinchCandidate slots windowId poss geo m)) (slot : Int)
    (c : Bool) : Reaction s.contacts s.gesture (s.motionCandidate slot c slots windowId poss geo m) := by
  have hw (m' : Bool × Bool) : Reaction s.contacts s.gesture
      ({ s with gesture := some (.pinchCandidate slots windowId poss geo m') },
        { consume := c }) := by
    refine ⟨⟨[], rfl, rfl⟩, fun h g hg => ?_, fun w => ?_⟩
    · cases hg
      have hh := h _ hs; exact hh
    · rw [hs]; exact places_nil w none
  unfold motionCandidate; dsimp only
  generalize (if slots.1 = slot then (true, m.2) else (m.1, true)) = m'; split
  · rename_i cp hpos; split
    · refine ⟨⟨[slots.1, slots.2], rfl, rfl⟩, fun h g hg => ?_, fun w => ?_⟩
      · cases hg
        have how : ∀ k ∈ [slots.1, slots.2], k ∈ s.contacts.windowSlots windowId := fun k hk =>
          Contacts.mem_windowSlots.2 (h _ hs k hk)
        exact Gesture.held_of_captured rfl (List.cons_ne_nil _ _) (held_captureSlots how)
      · rw [hs]
        by_cases hid : windowId = w <;> simp [Places, openChange, phaseStep, hid]
    · exact hw _
  · exact hw _

theorem motionOf_reaction (s : TouchGestureState F) (slot : Int) (position : Point F) (c : Bool) :
    Reaction s.contacts s.gesture (s.motionOf slot position c) := by
  unfold motionOf; split
  · rename_i slots windowId poss geo m hs; split
    · exact motionCandidate_reaction hs slot c
    · exact .ignores s c
  · rename_i gesture _ hs; split
    · refine ⟨⟨[], rfl, rfl⟩, fun h g hg => ?_, fun w => ?_⟩
      · cases hg
        exact motionGesture_held (h gesture hs) slot position
      · rw [hs]
        exact motionGesture_places w s.contacts slot position gesture
    · exact .ignores s false
  · exact .ignores s c

theorem motionOf_consumed {s : TouchGestureState F} {slot : Int} {contact : Contact F}
    (hk : s.contacts.lookup slot = some contact) (position : Point F) :
    (s.motionOf slot position contact.captured).2.consume = true ↔
      (s.motionOf slot position contact.captured).1.contacts.Captured slot := by
  have hca : contact.captured = true ↔ s.contacts.Captured slot := by
    unfold Contacts.Captured
    rw [hk]; simp
  unfold motionOf; split
  · rename_i slots windowId poss geo m hge; split
    · rename_i hs; unfold motionCandidate; dsimp only
      generalize (if slots.1 = slot then (true, m.2) else (m.1, true)) = moved'; split
      · split
        · refine iff_of_true rfl (Contacts.captured_captureSlots.2 (.inr ⟨List.contains_iff_mem.1 hs, ?_⟩))
          rw [hk]; rfl
        · exact hca
      · exact hca
    · exact hca
  · split
    · rename_i h; exact iff_of_true rfl (hca.1 h)
    · rename_i h
      exact iff_of_false Bool.false_ne_true fun h' => h (hca.2 h')
  · exact hca

/-! ## Lift -/

/-- What a lift leaves: a gesture without the contact goes on as it is, and one with it ends, or blocks its window while
that has a captured contact. -/
inductive LiftOutcome (s : TouchGestureState F) (slot : Int) : TouchGestureState F × TouchGestureUpdate F → Prop where
  | absent (none : s.contacts.lookup slot = none) : LiftOutcome s slot (s, {})
  | alone (contact : Contact F) (found : s.contacts.lookup slot = some contact) (gesture : s.gesture = none) :
    LiftOutcome s slot (⟨s.contacts.erase slot, none⟩, { consume := contact.captured })
  | apart (contact : Contact F) (gesture : Gesture F) (found : s.contacts.lookup slot = some contact)
    (active : s.gesture = some gesture) (includes : gesture.includes slot = false) :
    LiftOutcome s slot (⟨s.contacts.erase slot, some gesture⟩, { consume := contact.captured })
  | ends (contact : Contact F) (gesture : Gesture F) (found : s.contacts.lookup slot = some contact)
    (active : s.gesture = some gesture) :
    LiftOutcome s slot (⟨s.contacts.erase slot, lifted (s.contacts.erase slot) gesture⟩,
      { consume := contact.captured, actions := finishActions (some gesture) })

omit [TouchArith F] in
theorem finishContact_outcome (s : TouchGestureState F) (slot : Int) : LiftOutcome s slot (s.finishContact slot) := by
  unfold finishContact; split
  · rename_i hk; exact .absent hk
  rename_i contact hk; dsimp only; split
  · rename_i hs; exact .alone contact hk hs
  rename_i gesture hs; split
  · rename_i hn; rw [Bool.not_eq_true'] at hn
    exact .apart contact gesture hk hs hn
  · exact .ends contact gesture hk hs

end Deniald.Touch
