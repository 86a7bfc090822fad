/-
The first least element of a list (`List.argmin`, and the source's `min_by`): what lies before and behind it, and when
it is among the elements of a kind, so that the others do not matter.
-/
import Mathlib.Data.List.MinMax

namespace Deniald.Lib

universe u v

variable {α : Type u} {β : Type v} [LinearOrder β] {f : α → β} {l : List α} {m : α}

theorem argmin_append_cons : ∀ {before after : List α}, (∀ x ∈ before, f m < f x) → (∀ x ∈ after, f m ≤ f x) →
    (before ++ m :: after).argmin f = some m
  | [], after, _, hf => by
    rw [List.nil_append, List.argmin_cons]
    cases hm : after.argmin f with
    | none => rfl
    | some c => exact if_neg (not_lt.2 (hf c (List.argmin_mem hm)))
  | b :: before, after, hbe, hf => by
    have ih := argmin_append_cons (fun x hx => hbe x (List.mem_cons_of_mem _ hx)) hf
    rw [List.cons_append, List.argmin_cons, ih]; exact if_pos (hbe b (List.mem_cons_self ..))

theorem argmin_eq_some_iff_append : l.argmin f = some m ↔
    ∃ before after, l = before ++ m :: after ∧ (∀ x ∈ before, f m < f x) ∧ ∀ x ∈ after, f m ≤ f x := by
  constructor
  · intro h
    induction l with
    | nil => cases h
    | cons a l ih =>
      rw [List.argmin_cons] at h
      cases hm : l.argmin f with
      | none =>
        rw [hm] at h; cases h
        obtain rfl := List.argmin_eq_none.1 hm
        exact ⟨[], [], rfl, List.forall_mem_nil _, List.forall_mem_nil _⟩
      | some c =>
        rw [hm] at h; dsimp only at h
        split at h
        · rename_i hlt; cases h
          obtain ⟨before, after, rfl, hbe, hf⟩ := ih hm
          exact ⟨a :: before, after, rfl, List.forall_mem_cons.2 ⟨hlt, hbe⟩, hf⟩
        rename_i hle; cases h
        refine ⟨[], l, rfl, List.forall_mem_nil _, fun x hx => ?_⟩
        exact le_trans (not_lt.1 hle) (List.le_of_mem_argmin hx hm)
  · rintro ⟨before, after, rfl, hbe, hf⟩; exact argmin_append_cons hbe hf

/-- Every element of another kind is beaten: by one before it that is no greater, or one behind it that is less. -/
def Unrivalled (f : α → β) (p : α → Prop) (l : List α) : Prop :=
  ∀ before x after, l = before ++ x :: after → ¬p x →
    (∃ y ∈ before, p y ∧ f y ≤ f x) ∨ ∃ y ∈ after, p y ∧ f y < f x

theorem unrivalled_iff {p : α → Prop} : Unrivalled f p l ↔ ∀ m, l.argmin f = some m → p m := by
  constructor
  · intro h m hn
    obtain ⟨before, after, rfl, hbe, hf⟩ := argmin_eq_some_iff_append.1 hn
    by_contra hm
    rcases h before m after rfl hm with ⟨y, hy, -, hle⟩ | ⟨y, hy, -, hlt⟩
    · exact absurd (hbe y hy) (not_lt.2 hle)
    · exact absurd (hf y hy) (not_le.2 hlt)
  · rintro h before x after rfl hx
    cases hn : (before ++ x :: after).argmin f with
    | none => exact absurd (List.argmin_eq_none.1 hn) (by simp)
    | some m =>
      have hm := h m hn
      obtain ⟨pre', after', hs, hbe, hf⟩ := argmin_eq_some_iff_append.1 hn
      have hne : x ≠ m := fun heq => hx (heq ▸ hm)
      -- where the least element stands, seen from the one of another kind
      rcases List.append_eq_append_iff.1 hs with ⟨md, rfl, hr⟩ | ⟨md, rfl, hr⟩
      · cases md with
        | nil => exact absurd (List.cons.inj hr).1 hne
        | cons y md =>
          obtain ⟨rfl, rfl⟩ := List.cons.inj hr
          refine .inr ⟨m, by simp, hm, hbe x (by simp)⟩
      · cases md with
        | nil => exact absurd (List.cons.inj hr).1.symm hne
        | cons y md =>
          obtain ⟨rfl, rfl⟩ := List.cons.inj hr; exact .inl ⟨m, by simp, hm, hf x (by simp)⟩

theorem argmin_filter_of_unrivalled {p : α → Prop} [DecidablePred p] (h : Unrivalled f p l) :
    (l.filter p).argmin f = l.argmin f := by
  cases hn : l.argmin f with
  | none =>
    rw [List.argmin_eq_none.1 hn]; rfl
  | some m =>
    have hm := unrivalled_iff.1 h m hn
    obtain ⟨before, after, rfl, hbe, hf⟩ := argmin_eq_some_iff_append.1 hn
    rw [List.filter_append, List.filter_cons_of_pos (by simpa using hm)]
    exact argmin_append_cons (fun x hx => hbe x (List.mem_of_mem_filter hx))
      fun x hx => hf x (List.mem_of_mem_filter hx)

end Deniald.Lib
