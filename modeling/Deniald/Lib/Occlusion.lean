/-
A stack searched from the front, in which some items stop the search and others may answer it. An item in front that
does neither is skipped; whether what stops the search also covers what lies behind it is then another matter.
-/

namespace Deniald.Lib

section Occlusion

variable {α β : Type} (stops : α → Bool) (answer : α → Option β)

/-- What the first item that stops the search or answers it says. -/
def frontAnswer (stack : List α) : Option β :=
  (stack.findSome? fun x => if stops x then some none else (answer x).map some).join

/-- The first answer, unless the item in front stops the search. -/
def answerPastFront (stack : List α) : Option β := if stack.head?.any stops then none else stack.findSome? answer

/-- No item that neither stops the search nor answers it lies in front of the first that stops it, unless nothing from
there on answers. -/
def Covering (stack : List α) : Prop :=
  ∀ before x after, stack = before ++ x :: after → stops x = true →
    (∀ y ∈ before, stops y = false ∧ answer y = none) → before = [] ∨ ∀ y ∈ x :: after, answer y = none

variable {stops answer} {stack : List α}

theorem frontAnswer_of_stops {before after : List α} {x : α} (hst : stack = before ++ x :: after)
    (hso : stops x = true) (hf : ∀ y ∈ before, stops y = false ∧ answer y = none) :
    frontAnswer stops answer stack = none := by
  have hs : (before.findSome? fun x => if stops x then some none else (answer x).map some) = none := by
    rw [List.findSome?_eq_none_iff]; intro y hy
    rw [(hf y hy).1, (hf y hy).2]; rfl
  unfold frontAnswer
  rw [hst, List.findSome?_append, hs, Option.none_or, List.findSome?_cons, if_pos hso]; rfl

theorem answerPastFront_of_stops {before after : List α} {x : α} (hs : stack = before ++ x :: after)
    (hst : stops x = true) (hbe : ∀ y ∈ before, stops y = false ∧ answer y = none) :
    answerPastFront stops answer stack = none ↔ before = [] ∨ ∀ y ∈ x :: after, answer y = none := by
  subst hs; unfold answerPastFront
  cases before with
  | nil =>
    have hf : (([] ++ x :: after).head?.any stops) = true := hst
    rw [hf, if_pos rfl]; exact ⟨fun _ => .inl rfl, fun _ => rfl⟩
  | cons y before =>
    have hf : (((y :: before) ++ x :: after).head?.any stops) = false := (hbe y List.mem_cons_self).1
    rw [hf, if_neg Bool.false_ne_true, List.findSome?_append, Option.or_eq_none_iff, List.findSome?_eq_none_iff,
      List.findSome?_eq_none_iff]
    constructor
    · intro h; exact .inr h.2
    · rintro (h | h)
      · cases h
      · exact ⟨fun z hz => (hbe z hz).2, h⟩

/-- The search that looks only at the front for what stops it agrees with the one that heeds all of it exactly where the
stack covers. -/
theorem answerPastFront_eq_iff :
    answerPastFront stops answer stack = frontAnswer stops answer stack ↔ Covering stops answer stack := by
  constructor
  · intro h before x after hs hst hf
    rw [frontAnswer_of_stops hs hst hf] at h
    exact (answerPastFront_of_stops hs hst hf).1 h
  · intro hv
    cases hn : stack.findSome? fun x => if stops x then some none else (answer x).map some with
    | none =>
      rw [List.findSome?_eq_none_iff] at hn
      have hsi : ∀ x ∈ stack, answer x = none := by
        intro x hx
        have hx := hn x hx; split at hx
        · cases hx
        · exact Option.map_eq_none_iff.1 hx
      unfold frontAnswer answerPastFront
      rw [List.findSome?_eq_none_iff.2 hn, List.findSome?_eq_none_iff.2 hsi, ite_self]; rfl
    | some f =>
      obtain ⟨before, x, after, hs, hx, hf⟩ := List.findSome?_eq_some_iff.1 hn
      have hf : ∀ y ∈ before, stops y = false ∧ answer y = none := by
        intro y hy
        have hy := hf y hy; split at hy
        · cases hy
        · exact ⟨Bool.eq_false_iff.2 ‹_›, Option.map_eq_none_iff.1 hy⟩
      split at hx
      · rename_i hst
        rw [frontAnswer_of_stops hs hst hf]
        exact (answerPastFront_of_stops hs hst hf).2 (hv before x after hs hst hf)
      rename_i hst
      obtain ⟨b, han, rfl⟩ := Option.map_eq_some_iff.1 hx
      have hr : stack.head?.any stops = false := by
        rw [hs]
        cases before with
        | nil => exact Bool.eq_false_iff.2 hst
        | cons y before => exact (hf y List.mem_cons_self).1
      have hfi : stack.findSome? answer = some b :=
        List.findSome?_eq_some_iff.2 ⟨before, x, after, hs, han, fun y hy => (hf y hy).2⟩
      unfold frontAnswer answerPastFront
      rw [hn, hr, if_neg Bool.false_ne_true, hfi]; rfl

theorem not_stops_of_frontAnswer {b : β} (h : frontAnswer stops answer stack = some b) :
    ∃ before x after, stack = before ++ x :: after ∧ answer x = some b ∧ stops x = false ∧
      ∀ y ∈ before, stops y = false := by
  obtain ⟨before, x, after, hs, hx, hf⟩ := List.findSome?_eq_some_iff.1 (Option.join_eq_some_iff.1 h)
  refine ⟨before, x, after, hs, ?_, ?_, fun y hy => ?_⟩
  · split at hx
    · cases hx
    · obtain ⟨b', hn, hb⟩ := Option.map_eq_some_iff.1 hx; rw [hn, hb]
  · split at hx
    · cases hx
    · exact Bool.eq_false_iff.2 ‹_›
  · have hy := hf y hy; split at hy
    · cases hy
    · exact Bool.eq_false_iff.2 ‹_›

end Occlusion

end Deniald.Lib
