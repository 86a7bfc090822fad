/-
Eviction from a list, newest first, until the rest fits: the oldest element that is not pinned goes first, and the
oldest pinned ones only where there are no others. What is left of such a run is determined: an element that is not
pinned stays exactly if it fits together with all that are newer and the pinned that are older.
-/
import Mathlib.Data.List.Basic

namespace Deniald.Lib

variable {α : Type} {pinned : α → Bool} {fits : List α → Prop} {l m l' : List α}

inductive Evicts (pinned : α → Bool) : List α → List α → Prop where
  | loose (newer : List α) {x : α} {older : List α} : pinned x = false → (∀ y ∈ older, pinned y = true) →
      Evicts pinned (newer ++ x :: older) (newer ++ older)
  | last {l : List α} {x : α} : (∀ y ∈ l, pinned y = true) → pinned x = true → Evicts pinned (l ++ [x]) l

/-- Evictions until the rest fits. -/
inductive Settles (fits : List α → Prop) (pinned : α → Bool) : List α → List α → Prop where
  | done {l : List α} : fits l → Settles fits pinned l l
  | step {l m l' : List α} : ¬fits l → Evicts pinned l m → Settles fits pinned m l' → Settles fits pinned l l'

theorem Evicts.sublist (h : Evicts pinned l m) : m.Sublist l := by
  cases h with
  | loose n _ _ => exact (List.sublist_cons_self ..).append_left n
  | last _ _ => exact List.sublist_append_left ..

theorem Settles.settled (h : Settles fits pinned l l') : fits l' := by
  induction h with
  | done h => exact h
  | step _ _ _ ih => exact ih

theorem Settles.sublist (h : Settles fits pinned l l') : l'.Sublist l := by
  induction h with
  | done _ => exact .refl _
  | step _ he _ ih => exact ih.trans he.sublist

theorem filter_pinned (h : ∀ y ∈ l, pinned y = true) : l.filter pinned = l := List.filter_eq_self.2 h

theorem Evicts.filter_or (h : Evicts pinned l m) :
    m.filter pinned = l.filter pinned ∨ ∃ x, l = m ++ [x] ∧ l.filter pinned = l ∧ m.filter pinned = m := by
  cases h with
  | loose n hx _ =>
    refine .inl ?_
    rw [List.filter_append, List.filter_append, List.filter_cons_of_neg (by simp [hx])]
  | last hl hx =>
    refine .inr ⟨_, rfl, filter_pinned fun y hy => ?_, filter_pinned hl⟩
    rcases List.mem_append.1 hy with hy | hy
    · exact hl y hy
    · rw [List.mem_singleton.1 hy]; exact hx

theorem Settles.filter_eq (h : Settles fits pinned l l') (hn : fits (l.filter pinned)) :
    l'.filter pinned = l.filter pinned := by
  induction h with
  | done _ => rfl
  | step ho he _ ih =>
    rcases he.filter_or with heq | ⟨x, -, hal, -⟩
    · rw [ih (heq ▸ hn), heq]
    · exact absurd (hal ▸ hn) ho

section

variable (mono : ∀ l l' : List α, l'.Sublist l → fits l → fits l')
include mono

theorem Settles.take_of_not_fits (h : Settles fits pinned l l') (hpi : ¬fits (l.filter pinned)) :
    ∃ n, l' = (l.filter pinned).take n ∧ ¬fits ((l.filter pinned).take (n + 1)) := by
  induction h with
  | done hf => exact absurd (mono _ _ List.filter_sublist hf) hpi
  | @step l m l' ho he hr ih =>
    rcases he.filter_or with heq | ⟨x, rfl, hal, hm⟩
    · obtain ⟨n, hn⟩ := ih (heq ▸ hpi); exact ⟨n, heq ▸ hn⟩
    rw [hal]
    by_cases hf : fits m
    · -- this was the last eviction
      obtain rfl : l' = m := by
        cases hr with
        | done _ => rfl
        | step ho _ _ => exact absurd hf ho
      refine ⟨l'.length, List.take_left.symm, ?_⟩
      rw [List.take_of_length_le (by simp)]; exact ho
    · obtain ⟨n, hn, hne⟩ := ih (hm.symm ▸ hf)
      rw [hm] at hn hne
      have hlt : n < m.length := by
        by_contra hle
        rw [List.take_of_length_le (by omega)] at hne hn; exact absurd (hn ▸ hr.settled) hf
      refine ⟨n, ?_, ?_⟩
      · rw [List.take_append_of_le_length (Nat.le_of_lt hlt)]; exact hn
      · rw [List.take_append_of_le_length hlt]; exact hne

/-- An element that is not pinned stays if it fits with all that are newer and the pinned that are older; else it goes,
with all older ones that are not pinned. -/
theorem Settles.loose (h : Settles fits pinned l l') : ∀ (n : List α) (x : α) (older : List α),
    l = n ++ x :: older → pinned x = false →
      (fits (n ++ x :: older.filter pinned) → ∃ kept, kept.Sublist older ∧ l' = n ++ x :: kept) ∧
      (¬fits (n ++ x :: older.filter pinned) → l'.Sublist (n ++ older.filter pinned)) := by
  induction h with
  | done hf =>
    rintro n x older rfl _
    refine ⟨fun _ => ⟨older, .refl _, rfl⟩, fun ho => absurd (mono _ _ ?_ hf) ho⟩
    exact (List.filter_sublist.cons_cons x).append_left n
  | step ho he hr ih =>
    intro n x older hl hx
    cases he with
    | last hn hs =>
      have hmem : x ∈ n ++ x :: older := List.mem_append_right _ List.mem_cons_self
      rw [← hl] at hmem
      rcases List.mem_append.1 hmem with hmem | hmem
      · exact absurd (hn x hmem) (by simp [hx])
      · rw [List.mem_singleton.1 hmem] at hx; exact absurd hs (by simp [hx])
    | @loose n₀ x₀ o₀ hx₀ hn =>
      rcases List.append_eq_append_iff.1 hl with ⟨b, rfl, hbe⟩ | ⟨b, rfl, hbe⟩
      · cases b with
        | nil =>
          -- the element itself is evicted
          obtain ⟨rfl, rfl⟩ := List.cons.inj (hbe : x₀ :: o₀ = x :: older)
          rw [filter_pinned hn, List.append_nil] at *
          exact ⟨fun hf => absurd hf ho, fun _ => hr.sublist⟩
        | cons y b =>
          -- an element older than it is evicted before, so that it would be pinned
          obtain ⟨rfl, rfl⟩ := List.cons.inj hbe
          exact absurd (hn x (List.mem_append_right _ List.mem_cons_self)) (by simp [hx])
      · cases b with
        | nil =>
          obtain ⟨rfl, rfl⟩ := List.cons.inj (hbe : x :: older = x₀ :: o₀)
          rw [filter_pinned hn, List.append_nil] at *
          exact ⟨fun hf => absurd hf ho, fun _ => hr.sublist⟩
        | cons y b =>
          rw [List.cons_append, List.cons.injEq] at hbe
          obtain ⟨rfl, rfl⟩ := hbe
          have hfi : (b ++ x₀ :: o₀).filter pinned = (b ++ o₀).filter pinned := by
            rw [List.filter_append, List.filter_append, List.filter_cons_of_neg (by simp [hx₀])]
          obtain ⟨hk, hgo⟩ := ih n x (b ++ o₀) (by simp) hx; rw [hfi]
          refine ⟨fun hf => ?_, hgo⟩
          obtain ⟨kept, hsu, hl'⟩ := hk hf
          exact ⟨kept, hsu.trans ((List.sublist_cons_self ..).append_left b), hl'⟩

end

end Deniald.Lib
