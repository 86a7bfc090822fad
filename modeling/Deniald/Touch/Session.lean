/-
Touch sessions: the events of contacts in any order, and the protocol of captures and placements they keep
(touch_gestures.rs). One visible slip: a contact that begins a four-finger gesture without being one of its four is
consumed and not captured.
-/
import Deniald.Lib.Run
import Deniald.Touch.Motion

namespace Deniald.Touch

open Deniald.Lib
open TouchGestureState

variable {F : Type} [TouchArith F]

/-! ## Sessions -/

inductive TouchEvent (F : Type) where
  | down (slot : Int) (position : Point F) (target : Option (TouchWindowTarget F))
  | motion (slot : Int) (position : Point F)
  | up (slot : Int)
  | cancel (slot : Int)
  | cancelAll

namespace TouchGestureState

def handle (s : TouchGestureState F) : TouchEvent F → TouchGestureState F × TouchGestureUpdate F
  | .down slot position target => s.down slot position target
  | .motion slot position => s.motion slot position
  | .up slot | .cancel slot => s.finishContact slot
  | .cancelAll => (s.cancelAll.1, { actions := s.cancelAll.2 })

/-- The contacts when a slot has been put down, before anything is made of it. -/
def touched (s : TouchGestureState F) (slot : Int) (position : Point F) (target : Option (TouchWindowTarget F)) :
    TouchGestureState F := { s with contacts := s.contacts.insert slot ⟨position, target, false⟩ }

end TouchGestureState

/-- A recognizer with what it has reported: how often each contact has been listed since it was put down, and all
actions. -/
structure TouchSession (F : Type) where
  state : TouchGestureState F := {}
  listed : Int → Nat := fun _ => 0
  log : List (TouchWindowAction F) := []

namespace TouchSession

/-- The count of a slot begins anew with each contact. -/
def restart (listed : Int → Nat) : TouchEvent F → Int → Nat
  | .down slot _ _ => Function.update listed slot 0
  | _ => listed

def next (t : TouchSession F) (e : TouchEvent F) : TouchSession F :=
  let (state, update) := t.state.handle e
  { state
    listed := fun slot => restart t.listed e slot + update.capturedSlots.count slot
    log := t.log ++ update.actions }

/-- A slot is not put down twice without a lift. -/
def Fresh (t : TouchSession F) : TouchEvent F → Prop
  | .down slot _ _ => t.state.contacts.lookup slot = none
  | _ => True

instance (t : TouchSession F) (e : TouchEvent F) : Decidable (t.Fresh e) :=
  match e with
  | .down slot _ _ => decidable_of_iff ((t.state.contacts.lookup slot).isNone = true) Option.isNone_iff_eq_none
  | .motion .. | .up _ | .cancel _ | .cancelAll => inferInstanceAs (Decidable True)

/-- A contact that is put down as the fifth or a later one of its window, where no gesture is active but one of that
window that is neither blocked nor a four-finger one, is among the four lowest slots of the window. -/
def Fitting (t : TouchSession F) : TouchEvent F → Prop
  | .down slot position (some target) => Fits (t.state.touched slot position (some target)) slot target.windowId
  | _ => True

def Consumed (t : TouchSession F) : TouchEvent F → Prop
  | .down slot position target =>
    (t.state.down slot position target).2.consume = true ↔ (t.state.down slot position target).1.contacts.Captured slot
  | .motion slot position =>
    (t.state.motion slot position).2.consume = true ↔ (t.state.motion slot position).1.contacts.Captured slot
  | .up slot | .cancel slot => (t.state.finishContact slot).2.consume = true ↔ t.state.contacts.Captured slot
  | .cancelAll => True

def Unblocked (t : TouchSession F) (e : TouchEvent F) : Prop :=
  ∀ windowId, t.state.gesture = some (.blocked windowId) →
    ((t.next e).state.gesture = some (.blocked windowId) ↔
      (t.next e).state.contacts.hasCapturedWindowContact windowId = true)

/-- What every session keeps. -/
structure Tracked (t : TouchSession F) : Prop where
  held : ∀ gesture, t.state.gesture = some gesture → gesture.Held t.state.contacts
  listed : ∀ slot contact, t.state.contacts.lookup slot = some contact →
    t.listed slot = if contact.captured then 1 else 0
  placed : ∀ windowId, Places windowId t.log none (openChange windowId t.state.gesture)

omit [TouchArith F] in
theorem tracked_start : Tracked ({} : TouchSession F) := by
  refine ⟨fun gesture h => (nomatch h), fun slot contact h => ?_, fun windowId => places_nil windowId none⟩
  cases (AList.lookup_empty slot).symm.trans h

/-! ## Steps -/

variable {contacts : Contacts F} {slot : Int} {s : TouchGestureState F} {windowId : UInt64}

omit [TouchArith F] in
theorem tracked_of_reaction {ges : Option (Gesture F)} {r : TouchGestureState F × TouchGestureUpdate F}
    (h : Reaction contacts ges r) {l : Int → Nat} {log : List (TouchWindowAction F)}
    (hh : ∀ g, ges = some g → g.Held contacts)
    (hs : ∀ slot contact, contacts.lookup slot = some contact → l slot = if contact.captured then 1 else 0)
    (hpl : ∀ windowId, Places windowId log none (openChange windowId ges)) :
    Tracked ⟨r.1, fun slot => l slot + r.2.capturedSlots.count slot, log ++ r.2.actions⟩ := by
  refine ⟨h.held hh, fun slot contact hk => ?_, fun windowId => (hpl windowId).append (h.placed windowId)⟩
  obtain ⟨slots, hco, hca⟩ := h.captures
  dsimp only at hk ⊢; rw [hco, Contacts.captureSlots_lookup] at hk
  rw [hca, Contacts.captureSlots_count]
  cases hf : contacts.lookup slot with
  | none =>
    rw [hf] at hk
    split at hk <;> cases hk
  | some before =>
    rw [hf] at hk
    have hn := hs slot before hf
    by_cases hmem : slot ∈ slots
    · rw [if_pos hmem] at hk
      obtain rfl := Option.some.inj hk; rw [hn, Option.any_some]
      cases before.captured <;> simp [hmem]
    rw [if_neg hmem] at hk
    obtain rfl := Option.some.inj hk
    have hno : ¬(slot ∈ slots ∧ (some before).any (fun contact => !contact.captured) = true) := fun h => hmem h.1
    rw [if_neg hno]; exact hn

variable {t : TouchSession F}

theorem tracked_down (h : t.Tracked) {position : Point F} {target : Option (TouchWindowTarget F)}
    (hf : t.Fresh (.down slot position target)) : (t.next (.down slot position target)).Tracked := by
  have hke := Contacts.keeps_insert_new hf ⟨position, target, false⟩
  have hr : Reaction (t.state.touched slot position target).contacts t.state.gesture
      (t.state.down slot position target) := by
    cases target with
    | none => exact .ignores (t.state.touched slot position none) false
    | some target =>
      have hn : (t.state.touched slot position (some target)).contacts.lookup slot =
          some ⟨position, some target, false⟩ := AList.lookup_insert _
      exact (downOn_outcome hn).reaction
  refine tracked_of_reaction hr (fun g hg => (h.held g hg).keeps hke) (fun k contact hk => ?_) h.placed
  unfold touched at hk; rw [lookup_insert_eq] at hk
  by_cases hs : k = slot
  · rw [if_pos hs] at hk; cases hk
    rw [hs]; exact Function.update_self slot 0 t.listed
  · rw [if_neg hs] at hk
    rw [← h.listed k contact hk]; exact Function.update_of_ne hs 0 t.listed

theorem tracked_motion (h : t.Tracked) (slot : Int) (position : Point F) :
    (t.next (.motion slot position)).Tracked := by
  cases hlo : t.state.contacts.lookup slot with
  | none =>
    have hr : Reaction t.state.contacts t.state.gesture (t.state.motion slot position) := by
      unfold motion
      rw [hlo]; exact .ignores t.state false
    exact tracked_of_reaction hr h.held h.listed h.placed
  | some contact =>
    have hke := Contacts.keeps_insert_position hlo position
    have hr : Reaction (t.state.contacts.insert slot { contact with position := position }) t.state.gesture
        (t.state.motion slot position) := by
      unfold motion; rw [hlo]
      exact motionOf_reaction { t.state with contacts := t.state.contacts.insert slot { contact with position := position } }
        slot position contact.captured
    refine tracked_of_reaction hr (fun g hg => (h.held g hg).keeps hke) (fun k c hk => ?_) h.placed
    rw [lookup_insert_eq] at hk
    by_cases hs : k = slot
    · rw [if_pos hs] at hk; cases hk
      rw [hs]; exact h.listed slot contact hlo
    · rw [if_neg hs] at hk; exact h.listed k c hk

omit [TouchArith F] in
theorem held_erase {ges : Gesture F} (h : ges.Held contacts) (hn : ges.includes slot = false) :
    ges.Held (contacts.erase slot) := by
  have hne {k : Int} (hk : k ∈ ges.slots) (hbl : ges.includes slot = ges.slots.contains slot) :
      (contacts.erase slot).lookup k = contacts.lookup k := by
    refine AList.lookup_erase_ne fun heq => ?_; rw [hn, ← heq] at hbl
    exact Bool.false_ne_true (hbl.trans (List.contains_iff_mem.2 hk))
  have hal (hbl : ges.includes slot = ges.slots.contains slot) (h : ges.slots ≠ [] ∧
      ∀ k ∈ ges.slots, ∃ contact, contacts.lookup k = some contact ∧
        contact.windowId = some ges.windowId ∧ contact.captured = true) : ges.slots ≠ [] ∧
      ∀ k ∈ ges.slots, ∃ contact, (contacts.erase slot).lookup k = some contact ∧
        contact.windowId = some ges.windowId ∧ contact.captured = true := by
    refine ⟨h.1, fun k hk => ?_⟩
    rw [hne hk hbl]; exact h.2 k hk
  cases ges with
  | blocked windowId => cases hn
  | pinchCandidate slots windowId poss geo m =>
    intro k hk
    rw [hne hk rfl]; exact h k hk
  | move gs windowId org geo lg started geometryLocked => exact hal rfl h
  | pinch slots windowId poss geo lg => exact hal rfl h
  | minimizeSwipe slots windowId org => exact hal rfl h
  | threeFinger slots windowId org => exact hal rfl h
  | fourFinger slots windowId center ini m => exact hal rfl h

omit [TouchArith F] in
theorem held_lifted {ges g : Gesture F} (h : lifted contacts ges = some g) : g.Held contacts := by
  unfold lifted at h; split at h
  · rename_i hr; split at h
    · cases h
    · cases h
    · cases h; exact hr
  · cases h

omit [TouchArith F] in
theorem openChange_lifted (windowId : UInt64) (contacts : Contacts F) (ges : Gesture F) :
    openChange windowId (lifted contacts ges) = none := by
  unfold lifted; split
  · split <;> rfl
  · rfl

omit [TouchArith F] in
theorem lookup_of_erase {k : Int} {contact : Contact F} (h : (contacts.erase slot).lookup k = some contact) :
    contacts.lookup k = some contact := by
  by_cases hk : k = slot
  · rw [hk, AList.lookup_erase] at h; cases h
  · rwa [AList.lookup_erase_ne hk] at h

omit [TouchArith F] in
theorem tracked_finish (h : t.Tracked) (slot : Int) : Tracked ⟨(t.state.finishContact slot).1,
      fun k => t.listed k + (t.state.finishContact slot).2.capturedSlots.count k,
      t.log ++ (t.state.finishContact slot).2.actions⟩ := by
  have hs : ∀ k contact, (t.state.contacts.erase slot).lookup k = some contact →
      t.listed k = if contact.captured then 1 else 0 := fun k contact hk => h.listed k contact (lookup_of_erase hk)
  have ho := finishContact_outcome t.state slot
  generalize t.state.finishContact slot = r at ho ⊢
  cases ho with
  | absent none =>
    exact ⟨h.held, h.listed, fun w => (h.placed w).append (places_nil w _)⟩
  | alone contact f gesture =>
    refine ⟨fun g hg => (nomatch hg), hs, fun w => ?_⟩; have := h.placed w
    rw [gesture] at this; exact this.append (places_nil w none)
  | apart contact gesture f a includes =>
    refine ⟨fun g hg => ?_, hs, fun w => ?_⟩
    · cases hg; exact held_erase (h.held _ a) includes
    · have := h.placed w
      rw [a] at this; exact this.append (places_nil w _)
  | ends contact gesture f a =>
    refine ⟨fun g hg => held_lifted hg, hs, fun w => ?_⟩; have := h.placed w
    rw [a] at this
    rw [openChange_lifted]; exact this.append (places_finish w (some gesture))

theorem tracked_next (h : t.Tracked) {e : TouchEvent F} (hf : t.Fresh e) : (t.next e).Tracked := by
  cases e with
  | down slot position target => exact tracked_down h hf
  | motion slot position => exact tracked_motion h slot position
  | up slot => exact tracked_finish h slot
  | cancel slot => exact tracked_finish h slot
  | cancelAll =>
    refine ⟨fun g hg => (nomatch hg), fun k contact hk => ?_, fun w => (h.placed w).append (places_finish w t.state.gesture)⟩
    cases (AList.lookup_empty k).symm.trans hk

/-! ## What is consumed and what stays blocked -/

omit [TouchArith F] in
theorem captured_iff {contact : Contact F} (h : contacts.lookup slot = some contact) :
    contacts.Captured slot ↔ contact.captured = true := by
  unfold Contacts.Captured
  rw [h]; simp

omit [TouchArith F] in
theorem not_captured (h : contacts.lookup slot = none) : ¬contacts.Captured slot := by
  rintro ⟨contact, hk, -⟩
  rw [h] at hk; cases hk

omit [TouchArith F] in
theorem finishContact_consumed (s : TouchGestureState F) (slot : Int) :
    (s.finishContact slot).2.consume = true ↔ s.contacts.Captured slot := by
  have ho := finishContact_outcome s slot
  generalize s.finishContact slot = r at ho ⊢
  cases ho with
  | absent none => exact iff_of_false Bool.false_ne_true (not_captured none)
  | alone contact found gesture => exact (captured_iff found).symm
  | apart contact gesture found active includes => exact (captured_iff found).symm
  | ends contact gesture found active => exact (captured_iff found).symm

theorem consumed_iff (t : TouchSession F) (e : TouchEvent F) : t.Consumed e ↔ t.Fitting e := by
  cases e with
  | down slot position target =>
    cases target with
    | none =>
      refine iff_of_true (iff_of_false Bool.false_ne_true ?_) trivial
      rintro ⟨contact, hk, hca⟩
      cases (AList.lookup_insert t.state.contacts).symm.trans hk
      cases hca
    | some target =>
      have hn : (t.state.touched slot position (some target)).contacts.lookup slot =
          some ⟨position, some target, false⟩ := AList.lookup_insert _
      exact (downOn_outcome hn).consumed ⟨_, hn, rfl⟩
  | motion slot position =>
    refine iff_of_true ?_ trivial
    show (t.state.motion slot position).2.consume = true ↔ (t.state.motion slot position).1.contacts.Captured slot
    unfold motion; split
    · rename_i hk
      exact iff_of_false Bool.false_ne_true (not_captured hk)
    rename_i contact hk
    have hm : (t.state.contacts.insert slot { contact with position := position }).lookup slot =
        some { contact with position := position } := AList.lookup_insert _
    exact motionOf_consumed (s := { t.state with contacts := _ }) hm position
  | up slot => exact iff_of_true (finishContact_consumed t.state slot) trivial
  | cancel slot => exact iff_of_true (finishContact_consumed t.state slot) trivial
  | cancelAll => exact iff_of_true trivial trivial

theorem down_blocked (h : s.gesture = some (.blocked windowId)) (slot : Int) (position : Point F)
    (tgt : TouchWindowTarget F) : (s.downOn slot position tgt).1.gesture = some (.blocked windowId) := by
  unfold downOn; dsimp only
  rw [h, Option.any_some, Option.all_some]; split
  · exact h
  rename_i ho; split
  · rename_i hf; exact absurd hf.2 ho
  · split
    · rename_i hh; exact absurd hh.2 ho
    dsimp only; split
    · rename_i hw; exact absurd (decide_eq_true hw) ho
    · exact h

theorem motion_blocked (h : s.gesture = some (.blocked windowId)) (slot : Int) (position : Point F) :
    (s.motion slot position).1.gesture = some (.blocked windowId) := by
  unfold motion; split
  · exact h
  unfold motionOf; dsimp only
  rw [h]; dsimp only
  split <;> rfl

omit [TouchArith F] in
theorem finishContact_blocked (h : s.gesture = some (.blocked windowId))
    (hr : (s.finishContact slot).1.contacts.hasCapturedWindowContact windowId = true) :
    (s.finishContact slot).1.gesture = some (.blocked windowId) := by
  have ho := finishContact_outcome s slot
  generalize s.finishContact slot = r at ho hr ⊢
  cases ho with
  | absent none => exact h
  | alone contact f gesture => cases gesture.symm.trans h
  | apart contact gesture f a includes => exact a.symm.trans h
  | ends contact gesture f a =>
    cases a.symm.trans h
    exact if_pos hr

theorem unblocked_next (h : t.Tracked) {e : TouchEvent F} (hf : t.Fresh e) : t.Unblocked e := by
  intro windowId hbl
  refine ⟨fun hs => (tracked_next h hf).held _ hs, fun hr => ?_⟩
  cases e with
  | down slot position target =>
    cases target with
    | none => exact hbl
    | some target => exact down_blocked (s := t.state.touched slot position (some target)) hbl slot position target
  | motion slot position => exact motion_blocked hbl slot position
  | up slot => exact finishContact_blocked hbl hr
  | cancel slot => exact finishContact_blocked hbl hr
  | cancelAll => cases hr

/-! ## The protocol -/

/-- What holds in every state a session reaches: each contact has been listed once if it is captured, the placements of a
window are begun, updated and ended in turn, and without contacts no gesture or placement is left. -/
structure Settled (t : TouchSession F) : Prop where
  listed : ∀ slot contact, t.state.contacts.lookup slot = some contact →
    t.listed slot = if contact.captured then 1 else 0
  placed : ∀ windowId, ∃ change, Places windowId t.log none change
  quiet : (∀ slot, t.state.contacts.lookup slot = none) →
    t.state.gesture = none ∧ (∀ slot, ¬t.state.contacts.Captured slot) ∧ ∀ windowId, Places windowId t.log none none

/-- The protocol of captures and placements over a run. -/
structure Protocol (es : List (TouchEvent F)) : Prop where
  consumed : Along next Consumed ({} : TouchSession F) es
  unblocked : Along next Unblocked ({} : TouchSession F) es
  settled : ∀ before after, es = before ++ after → Settled (exec next ({} : TouchSession F) before)

omit [TouchArith F] in
theorem Tracked.settled (h : t.Tracked) : t.Settled := by
  refine ⟨h.listed, fun w => ⟨_, h.placed w⟩, fun he => ?_⟩
  have hs : t.state.gesture = none := by
    cases hg : t.state.gesture with
    | none => rfl
    | some gesture =>
      obtain ⟨slot, contact, hk⟩ := (h.held gesture hg).contact
      rw [he slot] at hk; cases hk
  refine ⟨hs, fun slot => not_captured (he slot), fun w => ?_⟩; have := h.placed w
  rwa [hs] at this

theorem tracked_exec {es : List (TouchEvent F)} (hf : Along next Fresh ({} : TouchSession F) es) :
    Tracked (exec next ({} : TouchSession F) es) :=
  exec_invariant_along (I := Tracked) (fun _ _ h hg => tracked_next h hg) tracked_start hf

def onWindow (windowId : UInt64) (inMoveCorner : Bool) : TouchWindowTarget Float :=
  { windowId, geometry := ⟨0, 0, 800, 600⟩, inGestureStrip := false, inMoveCorner, geometryLocked := false }

/-- In every session the protocol is kept exactly when every contact that is put down fits. -/
theorem capture_protocol {es : List (TouchEvent F)} (hfresh : Along next Fresh ({} : TouchSession F) es) :
    Protocol es ↔ Along next Fitting ({} : TouchSession F) es := by
  constructor
  · exact fun h => h.consumed.mono fun t e => (consumed_iff t e).1
  · intro hfit
    refine ⟨hfit.mono fun t e => (consumed_iff t e).2, ?_, fun before after heq => ?_⟩
    · exact hfresh.of_invariant (I := Tracked) (fun _ _ h hg => tracked_next h hg) (fun _ _ h hg => unblocked_next h hg)
        tracked_start
    · rw [heq] at hfresh
      exact (tracked_exec (along_append.1 hfresh).1).settled

theorem capture_protocol_two_contacts : Protocol [.down 0 ⟨0, 0⟩ (some (onWindow 1 true)), .up 0, .down 0 ⟨0, 0⟩ none] ↔
    Along next Fitting ({} : TouchSession Float)
      [.down 0 ⟨0, 0⟩ (some (onWindow 1 true)), .up 0, .down 0 ⟨0, 0⟩ none] :=
  capture_protocol ⟨AList.lookup_empty 0, trivial, by decide, trivial⟩

/-- Four contacts go down on the second window while the first is moved, and a fifth after the move has ended. -/
def fiveContacts : List (TouchEvent Float) :=
  [.down 0 ⟨0, 0⟩ (some (onWindow 1 true)), .down 1 ⟨0, 0⟩ (some (onWindow 2 false)),
    .down 2 ⟨0, 0⟩ (some (onWindow 2 false)), .down 3 ⟨0, 0⟩ (some (onWindow 2 false)),
    .down 4 ⟨0, 0⟩ (some (onWindow 2 false)), .up 0, .down 0 ⟨0, 0⟩ none]

theorem fifth_contact_consumed : Along next Fresh ({} : TouchSession Float)
    (fiveContacts ++ [.down 5 ⟨0, 0⟩ (some (onWindow 2 false))]) ∧
      ¬Protocol (fiveContacts ++ [.down 5 ⟨0, 0⟩ (some (onWindow 2 false))]) := by
  constructor
  · decide
  · intro h
    obtain ⟨contact, hlook, hcap⟩ := (along_append.1 h.consumed).2.1.1 (by decide)
    have hfree : ((((exec next ({} : TouchSession Float) fiveContacts).state.down 5 ⟨0, 0⟩
        (some (onWindow 2 false))).1.contacts.lookup 5).any (·.captured)) = false := by decide
    rw [hlook] at hfree
    exact Bool.false_ne_true (hfree.symm.trans hcap)

end TouchSession

end Deniald.Touch
