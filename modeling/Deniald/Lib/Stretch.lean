/-
Stretches of a run: how long a property of the state has held by now, and what happened since it came to hold.
-/
import Deniald.Lib.Run

namespace Deniald.Lib

universe u v

variable {σ : Type u} {ε : Type v} {next : σ → ε → σ}

variable (next) in
/-- After `before` the property does not hold, and from the first step of `during` on it does. -/
structure Stretch (H : σ → Prop) (s : σ) (before during : List ε) : Prop where
  start : ¬H (exec next s before)
  nonempty : during ≠ []
  held : ∀ past, past ≠ [] → past <+: during → H (exec next s (before ++ past))

variable (next) in
/-- A step of a list run from a state does `A`. -/
def Occurs (A : σ → ε → Prop) (s : σ) (es : List ε) : Prop := ∃ past e rest, es = past ++ e :: rest ∧ A (exec next s past) e

variable (next) in
/-- In the stretch of the property that lasts to the end of the run, some step did `A`. -/
def Happened (H : σ → Prop) (A : σ → ε → Prop) (s : σ) (es : List ε) : Prop :=
  ∃ before during, es = before ++ during ∧ Stretch next H s before during ∧ Occurs next A (exec next s before) during

variable {H : σ → Prop} {A : σ → ε → Prop} {s : σ}

variable {before es : List ε}

theorem occurs_snoc {e : ε} : Occurs next A s (es ++ [e]) ↔ Occurs next A s es ∨ A (exec next s es) e := by
  constructor
  · rintro ⟨past, e', rest, heq, hA⟩
    rcases List.eq_nil_or_concat rest with rfl | ⟨rest, last, rfl⟩
    · obtain ⟨rfl, hs⟩ := List.append_inj' heq rfl
      obtain rfl := List.head_eq_of_cons_eq hs; exact .inr hA
    · rw [List.concat_eq_append, ← List.cons_append, ← List.append_assoc] at heq
      exact .inl ⟨past, e', rest, (List.append_inj' heq rfl).1, hA⟩
  · rintro (⟨past, e', rest, rfl, hA⟩ | hA)
    · exact ⟨past, e', rest ++ [e], by simp, hA⟩
    · exact ⟨es, e, [], rfl, hA⟩

theorem Stretch.holds {d : List ε} (h : Stretch next H s before d) : H (exec next s (before ++ d)) :=
  h.held d h.nonempty (List.prefix_refl _)

theorem Happened.holds (h : Happened next H A s es) : H (exec next s es) := by
  obtain ⟨before, during, rfl, hs, -⟩ := h; exact hs.holds

theorem Stretch.snoc {d : List ε} {e : ε} (h : Stretch next H s before d)
    (he : H (next (exec next s (before ++ d)) e)) : Stretch next H s before (d ++ [e]) where
  start := h.start
  nonempty := by simp
  held := fun past hne hs => by
    rcases List.prefix_concat_iff.1 hs with rfl | hs
    · rwa [← List.append_assoc, exec_snoc]
    · exact h.held past hne hs

theorem stretch_singleton {e : ε} (hs : ¬H (exec next s before)) (he : H (next (exec next s before) e)) :
    Stretch next H s before [e] where
  start := hs
  nonempty := by simp
  held := fun past hne hpa => by
    obtain rfl : past = [e] := by
      rcases List.prefix_concat_iff.1 (show past <+: [] ++ [e] from hpa) with h | h
      · exact h
      · exact absurd (List.prefix_nil.1 h) hne
    rwa [exec_snoc]

theorem exists_stretch (hs : ¬H s) : ∀ {es : List ε}, H (exec next s es) →
    ∃ before during, es = before ++ during ∧ Stretch next H s before during := by
  intro es
  induction es using List.reverseRecOn with
  | nil => exact fun h => absurd h hs
  | append_singleton es e ih =>
    intro h; rw [exec_snoc] at h
    by_cases hla : H (exec next s es)
    · obtain ⟨before, during, rfl, hr⟩ := ih hla
      exact ⟨before, during ++ [e], List.append_assoc .., hr.snoc h⟩
    · exact ⟨es, [e], rfl, stretch_singleton hla h⟩

/-- What happened in the stretch that lasts to the last step: it happened before, or the last step did it. -/
theorem happened_snoc (hs : ¬H s) (hA : ∀ s e, ¬H s → H (next s e) → ¬A s e) {e : ε} : Happened next H A s (es ++ [e]) ↔
      H (next (exec next s es) e) ∧ (Happened next H A s es ∨ H (exec next s es) ∧ A (exec next s es) e) := by
  constructor
  · intro h
    have hla := h.holds; rw [exec_snoc] at hla
    refine ⟨hla, ?_⟩
    obtain ⟨before, during, heq, hr, ho⟩ := h
    obtain ⟨during, last, rfl⟩ := (List.eq_nil_or_concat during).resolve_left hr.nonempty
    rw [List.concat_eq_append] at heq hr ho; rw [← List.append_assoc] at heq
    obtain ⟨rfl, hn⟩ := List.append_inj' heq rfl
    obtain rfl := List.head_eq_of_cons_eq hn
    rcases List.eq_nil_or_concat during with rfl | ⟨during, last', rfl⟩
    · rcases occurs_snoc.1 ho with ⟨past, e', rest, hnil, -⟩ | hA'
      · cases past <;> cases hnil
      · rw [List.append_nil] at hla; exact absurd hA' (hA _ _ hr.start hla)
    rw [List.concat_eq_append] at hr ho ⊢
    have hf : Stretch next H s before (during ++ [last']) :=
      ⟨hr.start, by simp, fun past hne hpa => hr.held past hne (hpa.trans (List.prefix_append ..))⟩
    rcases occurs_snoc.1 ho with ho | hA'
    · exact .inl ⟨before, during ++ [last'], rfl, hf, ho⟩
    · refine .inr ⟨hf.holds, ?_⟩
      rwa [exec_append]
  · rintro ⟨hla, ⟨before, during, rfl, hr, ho⟩ | ⟨hh, hA'⟩⟩
    · exact ⟨before, during ++ [e], List.append_assoc .., hr.snoc hla, occurs_snoc.2 (.inl ho)⟩
    · obtain ⟨before, during, rfl, hr⟩ := exists_stretch hs hh
      refine ⟨before, during ++ [e], List.append_assoc .., hr.snoc hla, occurs_snoc.2 (.inr ?_)⟩
      rwa [exec_append] at hA'

end Deniald.Lib
