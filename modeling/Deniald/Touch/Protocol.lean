/-
What the recognizer does for each event: which contacts it captures, how its gesture goes on, and how the placements of
its windows begin and end.
-/
import Deniald.Touch.Capture

namespace Deniald.Touch

open Deniald.Lib
open Contacts

variable {F : Type}

/-! ## Placements -/

def openChange (windowId : UInt64) : Option (Gesture F) → Option WindowPlacementChange
  | some (.move _ id _ _ _ true _) => if id = windowId then some .move else none
  | some (.pinch _ id ..) => if id = windowId then some .resize else none
  | _ => none

def phaseStep (windowId : UInt64) (change : Option WindowPlacementChange) :
    TouchWindowAction F → Option (Option WindowPlacementChange)
  | .placement id phase next _ =>
    if id = windowId then
      match phase, change with
      | .begins, none => some (some next)
      | .updates, some change => if change = next then some (some change) else none
      | .ends, some change => if change = next then some none else none
      | _, _ => none
    else some change
  | _ => some change

def Places (windowId : UInt64) (actions : List (TouchWindowAction F)) (change change' : Option WindowPlacementChange) :
    Prop := actions.foldlM (phaseStep windowId) change = some change'

theorem places_nil (windowId : UInt64) (change : Option WindowPlacementChange) :
    Places (F := F) windowId [] change change := rfl

variable {windowId : UInt64} {s : TouchGestureState F}

theorem Places.append {as as' : List (TouchWindowAction F)} {a b c : Option WindowPlacementChange}
    (h : Places windowId as a b) (h' : Places windowId as' b c) : Places windowId (as ++ as') a c := by
  unfold Places at *
  rw [List.foldlM_append, h]; exact h'

theorem places_finish (windowId : UInt64) (ges : Option (Gesture F)) :
    Places windowId (TouchGestureState.finishActions ges) (openChange windowId ges) none := by
  cases ges with
  | none => rfl
  | some ges =>
    cases ges with
    | move slot id org geo lg started geometryLocked =>
      cases started with
      | false => rfl
      | true =>
        show ([_] : List (TouchWindowAction F)).foldlM _ (if id = windowId then some WindowPlacementChange.move else none) = _
        by_cases h : id = windowId <;> simp [phaseStep, h]
    | pinch slots id poss geo lg =>
      show ([_] : List (TouchWindowAction F)).foldlM _ (if id = windowId then some WindowPlacementChange.resize else none) = _
      by_cases h : id = windowId <;> simp [phaseStep, h]
    | _ => rfl

/-! ## Reactions -/

/-- What an event makes of the contacts and the gesture it finds: some slots are captured and listed, the gesture holds
its contacts if the one before did, and the actions take the change of the one before to its own. -/
structure Reaction (contacts : Contacts F) (gesture : Option (Gesture F))
    (r : TouchGestureState F × TouchGestureUpdate F) : Prop where
  captures : ∃ slots, r.1.contacts = (contacts.captureSlots slots).2 ∧ r.2.capturedSlots = (contacts.captureSlots slots).1
  held : (∀ g, gesture = some g → g.Held contacts) → ∀ g, r.1.gesture = some g → g.Held r.1.contacts
  placed : ∀ windowId, Places windowId r.2.actions (openChange windowId gesture) (openChange windowId r.1.gesture)

theorem Reaction.ignores (s : TouchGestureState F) (consume : Bool) :
    Reaction s.contacts s.gesture (s, { consume := consume }) :=
  ⟨⟨[], rfl, rfl⟩, fun h => h, fun windowId => places_nil windowId _⟩

theorem Reaction.captures_only (s : TouchGestureState F) (slots : List Int) :
    Reaction s.contacts s.gesture (s.capture slots) :=
  ⟨⟨slots, rfl, rfl⟩, fun h g hg => (h g hg).keeps (keeps_captureSlots s.contacts slots), fun windowId => places_nil windowId _⟩

theorem Gesture.held_of_captured {contacts : Contacts F} {ges : Gesture F} (hbl : ges.isBlocked = false)
    (hn : ges.slots ≠ []) (h : ∀ slot ∈ ges.slots, ∃ contact, contacts.lookup slot = some contact ∧
      contact.windowId = some ges.windowId ∧ contact.captured = true) : ges.Held contacts := by
  cases ges with
  | blocked windowId => cases hbl
  | pinchCandidate slots windowId poss geo m =>
    intro slot hs
    obtain ⟨contact, hk, hw, -⟩ := h slot hs; exact ⟨contact, hk, hw⟩
  | move slot windowId org geo lg started geometryLocked => exact ⟨hn, h⟩
  | pinch slots windowId poss geo lg => exact ⟨hn, h⟩
  | minimizeSwipe slots windowId org => exact ⟨hn, h⟩
  | threeFinger slots windowId org => exact ⟨hn, h⟩
  | fourFinger slots windowId center ini m => exact ⟨hn, h⟩

theorem Reaction.begins {ges : Gesture F} (hbl : ges.isBlocked = false) (hn : ges.slots ≠ [])
    (hs : ∀ slot ∈ ges.slots, slot ∈ s.contacts.windowSlots ges.windowId)
    (hqu : ∀ windowId, openChange windowId (some ges) = none) : Reaction s.contacts s.gesture (s.beginGesture ges) := by
  refine ⟨⟨ges.slots, rfl, rfl⟩, fun _ g hg => ?_, fun windowId => ?_⟩
  · cases hg
    exact Gesture.held_of_captured hbl hn (held_captureSlots hs)
  · have := places_finish windowId s.gesture
    rw [← hqu windowId] at this; exact this

theorem Reaction.waits {slots : Int × Int}
    (hs : ∀ slot ∈ [slots.1, slots.2], slot ∈ s.contacts.windowSlots windowId)
    (poss : Point F × Point F) (geo : WindowGeometry F) (m : Bool × Bool) :
    Reaction s.contacts s.gesture
      ({ s with gesture := some (.pinchCandidate slots windowId poss geo m) },
        { actions := TouchGestureState.finishActions s.gesture }) := by
  refine ⟨⟨[], rfl, rfl⟩, fun _ g hg => ?_, fun w => places_finish w s.gesture⟩; cases hg
  intro slot hsl
  exact mem_windowSlots.1 (hs slot hsl)

/-! ## A contact put down -/

/-- A contact that is put down is one of the first four of its window, where it makes a four-finger gesture begin. -/
def Fits (s : TouchGestureState F) (slot : Int) (windowId : UInt64) : Prop :=
  5 ≤ (s.contacts.windowSlots windowId).length →
    (s.gesture.all fun gesture =>
      decide (gesture.windowId = windowId) && !gesture.isBlocked && !gesture.isFourFinger) = true →
    slot ∈ (s.contacts.windowSlots windowId).take 4

inductive DownOutcome (s : TouchGestureState F) (slot : Int) (windowId : UInt64) :
    TouchGestureState F × TouchGestureUpdate F → Prop where
  | ignores (fits : Fits s slot windowId) : DownOutcome s slot windowId (s, {})
  | joins (fits : Fits s slot windowId) : DownOutcome s slot windowId (s.capture [slot])
  | begins (gesture : Gesture F) (blocked : gesture.isBlocked = false) (nonempty : gesture.slots ≠ [])
      (slots : ∀ k ∈ gesture.slots, k ∈ s.contacts.windowSlots gesture.windowId)
      (quiet : ∀ w, openChange w (some gesture) = none) (fits : slot ∈ gesture.slots ↔ Fits s slot windowId) :
      DownOutcome s slot windowId (s.beginGesture gesture)
  | waits (slots : Int × Int) (initialPositions : Point F × Point F) (initialGeometry : WindowGeometry F)
      (onWindow : ∀ k ∈ [slots.1, slots.2], k ∈ s.contacts.windowSlots windowId) (fits : Fits s slot windowId) :
      DownOutcome s slot windowId
        ({ s with gesture := some (.pinchCandidate slots windowId initialPositions initialGeometry (false, false)) },
          { actions := TouchGestureState.finishActions s.gesture })

variable {slot : Int} {r : TouchGestureState F × TouchGestureUpdate F}

theorem DownOutcome.reaction (h : DownOutcome s slot windowId r) : Reaction s.contacts s.gesture r := by
  cases h with
  | ignores fits => exact .ignores s false
  | joins fits => exact .captures_only s [slot]
  | begins gesture blocked n slots quiet fits => exact .begins blocked n slots quiet
  | waits slots poss geo onWindow fits => exact .waits onWindow ..

theorem DownOutcome.consumed (h : DownOutcome s slot windowId r)
    (hw : ∃ contact, s.contacts.lookup slot = some contact ∧ contact.captured = false) :
    (r.2.consume = true ↔ r.1.contacts.Captured slot) ↔ Fits s slot windowId := by
  obtain ⟨contact, hk, hca⟩ := hw
  have hn : ¬s.contacts.Captured slot := by
    rintro ⟨contact', hl', hc'⟩
    obtain rfl := Option.some.inj (hk.symm.trans hl')
    rw [hca] at hc'; cases hc'
  have hs : (s.contacts.lookup slot).isSome = true := by rw [hk]; rfl
  cases h with
  | ignores fits => exact iff_of_true (iff_of_false Bool.false_ne_true hn) fits
  | joins fits =>
    have hj : (s.contacts.captureSlots [slot]).2.Captured slot :=
      captured_captureSlots.2 (.inr ⟨List.mem_singleton_self _, hs⟩)
    exact iff_of_true (iff_of_true rfl hj) fits
  | begins gesture blocked nonempty slots quiet fits =>
    rw [← fits]
    show (true = true ↔ (s.contacts.captureSlots gesture.slots).2.Captured slot) ↔ _
    rw [captured_captureSlots]
    exact ⟨fun h => ((h.1 rfl).resolve_left hn).1, fun h => iff_of_true rfl (.inr ⟨h, hs⟩)⟩
  | waits slots initialPositions initialGeometry onWindow fits =>
    exact iff_of_true (iff_of_false Bool.false_ne_true hn) fits

theorem fits_of_few (h : ¬(4 ≤ (s.contacts.windowSlots windowId).length ∧
      (s.gesture.all fun gesture => gesture.windowId = windowId) = true)) : Fits s slot windowId := by
  intro hlen hs
  refine absurd ⟨by omega, ?_⟩ h
  cases hg : s.gesture with
  | none => rfl
  | some gesture =>
    rw [hg] at hs
    simp only [Option.all_some, Bool.and_eq_true] at hs ⊢; exact hs.1.1

theorem mapM_isSome {α β : Type} {f : α → Option β} : ∀ {l : List α}, (∀ a ∈ l, (f a).isSome = true) →
    (l.mapM f).isSome = true
  | [], _ => rfl
  | a :: l, h => by
    obtain ⟨b, hb⟩ := Option.isSome_iff_exists.1 (h a (List.mem_cons_self ..))
    obtain ⟨bs, hbs⟩ := Option.isSome_iff_exists.1 (mapM_isSome fun a ha => h a (List.mem_cons_of_mem _ ha))
    rw [List.mapM_cons, hb, hbs]; rfl

theorem Contacts.lookup_isSome {cs : Contacts F} (h : slot ∈ cs.windowSlots windowId) :
    (cs.lookup slot).isSome = true := by
  obtain ⟨contact, hk, -⟩ := mem_windowSlots.1 h
  rw [hk]; rfl

theorem beginPinchCandidate_outcome {a b : Int} (hmem : ∀ k ∈ [a, b], k ∈ s.contacts.windowSlots windowId)
    (hf : Fits s slot windowId) (geo : WindowGeometry F) : DownOutcome s slot windowId
      (s.beginPinchCandidate (a, b) geo, { actions := TouchGestureState.finishActions s.gesture }) := by
  obtain ⟨x, hx, hw⟩ := mem_windowSlots.1 (hmem a (by simp))
  obtain ⟨y, hy⟩ := Option.isSome_iff_exists.1 (lookup_isSome (hmem b (by simp)))
  unfold TouchGestureState.beginPinchCandidate
  simp only [contactPositions, hx, hy, Option.bind_eq_bind, Option.bind_some, pure, hw]
  exact .waits (a, b) _ _ hmem hf

section Arithmetic

variable [TouchArith F]

open TouchGestureState

variable {s : TouchGestureState F} {slot : Int} {target : TouchWindowTarget F}

theorem beginFourFinger_outcome (hsl : slot ∈ s.contacts.windowSlots target.windowId)
    (hlen : 4 ≤ (s.contacts.windowSlots target.windowId).length) (hs : (s.gesture.all fun gesture =>
      decide (gesture.windowId = target.windowId) && !gesture.isBlocked && !gesture.isFourFinger) = true) :
    DownOutcome s slot target.windowId (s.beginFourFinger (s.contacts.windowSlots target.windowId) target) := by
  have hmem : ∀ k ∈ (s.contacts.windowSlots target.windowId).take 4, k ∈ s.contacts.windowSlots target.windowId :=
    fun k hk => List.mem_of_mem_take hk
  obtain ⟨ini, hd⟩ := Option.isSome_iff_exists.1 (mapM_isSome (l :=
      (s.contacts.windowSlots target.windowId).take 4) (f := fun k => (s.contacts.lookup k).map fun contact =>
      pointDistance contact.position ⟨target.geometry.x + target.geometry.width * half,
        target.geometry.y + target.geometry.height * half⟩) fun k hk => by
    rw [Option.isSome_map]
    exact lookup_isSome (hmem k hk))
  unfold beginFourFinger; dsimp only
  rw [show s.contacts.contactDistances _ _ = some ini from hd]
  have hn : (s.contacts.windowSlots target.windowId).take 4 ≠ [] := by
    rw [← List.length_pos_iff, List.length_take]; omega
  refine .begins _ rfl hn hmem (fun _ => rfl) ⟨fun h _ _ => h, fun h => ?_⟩
  by_cases hf : 5 ≤ (s.contacts.windowSlots target.windowId).length
  · exact h hf hs
  · show slot ∈ (s.contacts.windowSlots target.windowId).take 4
    rwa [List.take_of_length_le (by omega)]

theorem beginThreeFinger_outcome {windowId : UInt64} (hs : slot ∈ s.contacts.windowSlots windowId)
    (hlen : (s.contacts.windowSlots windowId).length = 3) (hf : Fits s slot windowId) :
    DownOutcome s slot windowId (s.beginThreeFinger (s.contacts.windowSlots windowId) windowId) := by
  obtain ⟨a, b, c, hab⟩ := List.length_eq_three.1 hlen
  have hmem : ∀ k ∈ [a, b, c], k ∈ s.contacts.windowSlots windowId := fun k hk => hab ▸ hk
  obtain ⟨x, hx⟩ := Option.isSome_iff_exists.1 (lookup_isSome (hmem a (by simp)))
  obtain ⟨y, hy⟩ := Option.isSome_iff_exists.1 (lookup_isSome (hmem b (by simp)))
  obtain ⟨z, hz⟩ := Option.isSome_iff_exists.1 (lookup_isSome (hmem c (by simp)))
  unfold beginThreeFinger
  rw [hab] at hs ⊢
  simp only [threeContactCenter, hx, hy, hz, Option.bind_eq_bind, Option.bind_some, pure]
  exact .begins _ rfl (List.cons_ne_nil _ _) hmem (fun _ => rfl) (iff_of_true hs hf)

theorem beginMinimizeSwipe_outcome {a b : Int} {windowId : UInt64} (hs : slot ∈ [a, b])
    (hmem : ∀ k ∈ [a, b], k ∈ s.contacts.windowSlots windowId) (hf : Fits s slot windowId) :
    DownOutcome s slot windowId (s.beginMinimizeSwipe (a, b) windowId) := by
  obtain ⟨x, hx⟩ := Option.isSome_iff_exists.1 (lookup_isSome (hmem a (by simp)))
  obtain ⟨y, hy⟩ := Option.isSome_iff_exists.1 (lookup_isSome (hmem b (by simp)))
  unfold beginMinimizeSwipe
  simp only [contactCenter, contactPositions, hx, hy, Option.bind_eq_bind, Option.bind_some, pure,
    Option.map_some]
  exact .begins _ rfl (List.cons_ne_nil _ _) hmem (fun _ => rfl) (iff_of_true hs hf)

theorem promoteMoveToTwoFingers_outcome {a b : Int} {ges : Gesture F} (hge : s.gesture = some ges)
    (hs : slot ∈ [a, b]) (hmem : ∀ k ∈ [a, b], k ∈ s.contacts.windowSlots target.windowId)
    (hf : Fits s slot target.windowId) :
    DownOutcome s slot target.windowId (s.promoteMoveToTwoFingers ges (a, b) target) := by
  unfold promoteMoveToTwoFingers; dsimp only
  split
  · exact .ignores hf
  split
  · exact beginMinimizeSwipe_outcome hs hmem hf
  split
  · rw [← hge]; exact beginPinchCandidate_outcome hmem hf _
  · exact .ignores hf

theorem downFree_outcome {position : Point F} (hge : s.gesture = none)
    (hn : s.contacts.lookup slot = some ⟨position, some target, false⟩) (hf : Fits s slot target.windowId) :
    DownOutcome s slot target.windowId (s.downFree slot position target (s.contacts.windowSlots target.windowId)) := by
  have hs : slot ∈ s.contacts.windowSlots target.windowId := mem_windowSlots.2 ⟨_, hn, rfl⟩
  unfold downFree; dsimp only
  split
  · rename_i a b hfi
    have hmem : ∀ k ∈ [a, b], k ∈ s.contacts.windowSlots target.windowId := fun k hk =>
      (List.mem_filter.1 (hfi ▸ hk)).1
    have hs : slot ∈ [a, b] := by
      rw [← hfi, List.mem_filter, hn]; exact ⟨hs, rfl⟩
    split
    · exact beginMinimizeSwipe_outcome hs hmem hf
    split
    · exact .ignores hf
    · have := beginPinchCandidate_outcome hmem hf target.geometry
      rwa [hge] at this
  · split
    · refine .begins _ rfl (List.cons_ne_nil _ _) (fun k hk => ?_) (fun _ => rfl) (iff_of_true (List.mem_singleton_self _) hf)
      rwa [List.mem_singleton.1 hk]
    · exact .ignores hf

theorem downOn_outcome {position : Point F} (hn : s.contacts.lookup slot = some ⟨position, some target, false⟩) :
    DownOutcome s slot target.windowId (s.downOn slot position target) := by
  have hsl : slot ∈ s.contacts.windowSlots target.windowId := mem_windowSlots.2 ⟨_, hn, rfl⟩
  have hca : (s.contacts.lookup slot).any (·.captured) = false := by rw [hn]; rfl
  unfold downOn; dsimp only
  split
  · rename_i hbl
    refine .joins fun _ hs => ?_
    obtain ⟨gesture, hg, h⟩ := (Option.any_eq_true _ _).1 hbl
    simp [hg, (Bool.and_eq_true_iff.1 h).1] at hs
  rename_i hbl; split
  · rename_i hr; split
    · rename_i hff
      refine .joins fun _ hs => ?_
      obtain ⟨gesture, hg, h⟩ := (Option.any_eq_true _ _).1 hff
      simp [hg, h] at hs
    · rename_i hff
      refine beginFourFinger_outcome hsl hr.1 ?_
      cases hg : s.gesture with
      | none => rfl
      | some gesture =>
        simp only [hg, Option.any_some, Option.all_some, decide_eq_true_eq, Bool.and_eq_true, Bool.not_eq_true',
          not_and] at hbl hff hr ⊢
        have := hr.2
        grind
  · rename_i hw
    have hf : Fits s slot target.windowId := fits_of_few hw
    split
    · rename_i hh; split
      · exact .joins hf
      · refine beginThreeFinger_outcome hsl ?_ hf
        by_contra hlen; exact hw ⟨by omega, hh.2⟩
    split
    · rename_i gesture hs; rw [hca]; split
      · split
        · rename_i a b hm; split
          · exact promoteMoveToTwoFingers_outcome hs (hm ▸ hsl) (fun k hk => hm ▸ hk) hf
          · exact .ignores hf
        · exact .ignores hf
      · exact .ignores hf
    · rename_i hs; exact downFree_outcome hs hn hf

end Arithmetic

end Deniald.Touch
