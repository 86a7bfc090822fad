/-
Fallible steps. An operation that fails ends what it was part of, so a machine that ignores a failed
step stays where it was: what a successful step preserves, `attempt` preserves.
-/
import Mathlib.Data.List.Forall2

namespace Deniald.Lib

universe u v

variable {ε : Type u} {α β : Type v}

variable {f : α → Except ε β}

theorem bind_ok {x : Except ε α} {b : β} : (x >>= f) = .ok b ↔ ∃ a, x = .ok a ∧ f a = .ok b := by
  constructor
  · intro h
    cases x with
    | error e => cases h
    | ok a => exact ⟨a, rfl, h⟩
  · rintro ⟨a, rfl, h⟩; exact h

theorem map_ok {x : Except ε α} {f : α → β} {b : β} : x.map f = .ok b ↔ ∃ a, x = .ok a ∧ f a = b := by
  constructor
  · intro h
    cases x with
    | error e => cases h
    | ok a => exact ⟨a, rfl, Except.ok.inj h⟩
  · rintro ⟨a, rfl, rfl⟩; rfl

/-- The state after a step, or the state before where the step fails. -/
def attempt {σ : Type v} (s : σ) (x : Except ε σ) : σ := x.toOption.getD s

theorem attempt_ok {σ : Type v} {s s' : σ} {x : Except ε σ} (h : x = .ok s') : attempt s x = s' := by
  rw [h]; rfl

theorem attempt_invariant {σ : Type v} {I : σ → Prop} {s : σ} {x : Except ε σ} (h : I s)
    (step : ∀ s', x = .ok s' → I s') : I (attempt s x) := by
  cases hx : x with
  | error e => exact h
  | ok s' => exact step s' hx

/-! ## Loops -/

theorem foldlM_rel {σ τ : Type v} {R : σ → σ → Prop} {f : σ → τ → Except ε σ} (refl : ∀ s, R s s)
    (trans : ∀ a b c, R a b → R b c → R a c) (step : ∀ s a s', f s a = .ok s' → R s s') :
    ∀ {l : List τ} {s s' : σ}, l.foldlM f s = .ok s' → R s s'
  | [], s, s', h => by
    cases h; exact refl s
  | a :: l, s, s', h => by
    obtain ⟨t, ht, hr⟩ := bind_ok.1 h
    exact trans _ _ _ (step s a t ht) (foldlM_rel refl trans step hr)

theorem foldlM_succeeds {σ τ : Type v} {I : σ → Prop} {f : σ → τ → Except ε σ} : ∀ {l : List τ} {s : σ},
    (∀ a ∈ l, ∀ s, I s → ∃ s', f s a = .ok s' ∧ I s') → I s → ∃ s', l.foldlM f s = .ok s' ∧ I s'
  | [], s, _, hs => ⟨s, rfl, hs⟩
  | a :: l, s, step, hs => by
    obtain ⟨t, ht, hi⟩ := step a (List.mem_cons_self ..) s hs
    obtain ⟨s', hs', hi'⟩ := foldlM_succeeds (fun b hb => step b (List.mem_cons_of_mem a hb)) hi
    exact ⟨s', bind_ok.2 ⟨t, ht, hs'⟩, hi'⟩

theorem foldlM_range_invariant {σ : Type v} {I : Nat → σ → Prop} {f : σ → Nat → Except ε σ}
    (step : ∀ n s s', I n s → f s n = .ok s' → I (n + 1) s') : ∀ {n : Nat} {s s' : σ}, I 0 s →
      (List.range n).foldlM f s = .ok s' → I n s'
  | 0, s, s', hs, h => by
    obtain rfl := Except.ok.inj h; exact hs
  | n + 1, s, s', hs, h => by
    rw [List.range_succ, List.foldlM_append] at h
    obtain ⟨t, ht, hla⟩ := bind_ok.1 h; rw [List.foldlM_cons] at hla
    obtain ⟨u, hu, hla⟩ := bind_ok.1 hla
    obtain rfl := Except.ok.inj hla
    exact step n t u (foldlM_range_invariant step hs ht) hu

theorem mapM_ok : ∀ {l : List α} {m : List β}, l.mapM f = .ok m →
    List.Forall₂ (fun a b => f a = .ok b) l m
  | [], m, h => by
    cases h; exact .nil
  | a :: l, m, h => by
    rw [List.mapM_cons] at h
    obtain ⟨b, hb, h⟩ := bind_ok.1 h
    obtain ⟨rest, hr, h⟩ := bind_ok.1 h
    cases h; exact .cons hb (mapM_ok hr)

theorem mapM_some {f : α → Option β} : ∀ {l : List α} {m : List β}, l.mapM f = some m ↔
    List.Forall₂ (fun a b => f a = some b) l m
  | [], m => by
    rw [List.mapM_nil, List.forall₂_nil_left_iff]
    exact ⟨fun h => (Option.some.inj h).symm, fun h => h ▸ rfl⟩
  | a :: l, m => by
    rw [List.mapM_cons]
    constructor
    · intro h
      obtain ⟨b, hb, h⟩ := Option.bind_eq_some_iff.1 h
      obtain ⟨rest, hr, h⟩ := Option.bind_eq_some_iff.1 h
      cases h; exact .cons hb (mapM_some.1 hr)
    · rintro (_ | ⟨hb, hr⟩)
      exact Option.bind_eq_some_iff.2 ⟨_, hb, Option.bind_eq_some_iff.2 ⟨_, mapM_some.2 hr, rfl⟩⟩

theorem mapM_some_related {f : α → Option β} {R : α → α → Prop} {S : β → β → Prop}
    (step : ∀ a a' b, R a a' → f a = some b → ∃ b', f a' = some b' ∧ S b b') : ∀ {l l' : List α} {m : List β},
    List.Forall₂ R l l' → List.Forall₂ (fun a b => f a = some b) l m →
    ∃ m', l'.mapM f = some m' ∧ List.Forall₂ S m m'
  | [], [], [], .nil, .nil => ⟨[], rfl, .nil⟩
  | _ :: _, _ :: _, _ :: _, .cons hab hr, .cons hb hm => by
    obtain ⟨b', hb', hbb'⟩ := step _ _ _ hab hb
    obtain ⟨m', hm', hmm'⟩ := mapM_some_related step hr hm
    exact ⟨b' :: m', mapM_some.2 (.cons hb' (mapM_some.1 hm')), .cons hbb' hmm'⟩

theorem mapM_succeeds : ∀ {l : List α}, (∀ a ∈ l, ∃ b, f a = .ok b) → ∃ m, l.mapM f = .ok m
  | [], _ => ⟨[], rfl⟩
  | a :: l, h => by
    obtain ⟨b, hb⟩ := h a (List.mem_cons_self ..)
    obtain ⟨m, hm⟩ := mapM_succeeds fun c hc => h c (List.mem_cons_of_mem a hc)
    refine ⟨b :: m, ?_⟩
    rw [List.mapM_cons]; exact bind_ok.2 ⟨b, hb, bind_ok.2 ⟨m, hm, rfl⟩⟩

theorem mapM_map_pure {m : Type v → Type u} [Monad m] [LawfulMonad m] {f : β → m α} {g : α → β} {l : List α}
    (h : ∀ a ∈ l, f (g a) = pure a) : (l.map g).mapM f = pure l := by
  induction l with
  | nil => rfl
  | cons a l ih =>
    rw [List.map_cons, List.mapM_cons, h a (List.mem_cons_self ..), ih fun b hb => h b (List.mem_cons_of_mem _ hb)]
    simp

end Deniald.Lib
