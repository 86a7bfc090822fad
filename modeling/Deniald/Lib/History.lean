/-
Histories. A log is `EachAfter` a rule if every entry obeys it after those before it. Two threads on one shared state
write a log by an interleaving of their atomic steps, in any order: a thread is between calls or has some of a call
left to do; a call begins without touching the state, and each further step is one atomic operation, with what it
decides. What every operation keeps, every interleaving keeps.
-/
import Deniald.Lib.Run

namespace Deniald.Lib

/-! ## Logs -/

section

variable {α : Type} {P : List α → α → Prop} {log : List α}

/-- Every entry is as the entries before it allow. -/
def EachAfter (P : List α → α → Prop) (log : List α) : Prop :=
  ∀ earlier entry later, log = earlier ++ entry :: later → P earlier entry

theorem eachAfter_nil : EachAfter P [] := by
  intro e ent later h
  simp at h

theorem EachAfter.snoc {ent : α} (h : EachAfter P log) (he : P log ent) : EachAfter P (log ++ [ent]) := by
  intro e other later hs
  rcases List.eq_nil_or_concat later with rfl | ⟨later, last, rfl⟩
  · obtain ⟨rfl, hla⟩ := List.append_inj' hs rfl
    obtain rfl := List.head_eq_of_cons_eq hla; exact he
  · rw [List.concat_eq_append, ← List.cons_append, ← List.append_assoc] at hs
    exact h e other later (List.append_inj' hs rfl).1

end

/-! ## Interleavings -/

/-- What an atomic step does: the state, what the thread has left to do of its call, and what was decided. -/
structure Atomic (σ κ δ : Type) where
  state : σ
  left : Option κ
  decided : List δ := []

structure Thread (σ ι κ δ : Type) where
  call : ι → κ
  step : σ → κ → Atomic σ κ δ

/-- The shared state, what each of the threads is in the middle of, and what was decided so far. -/
structure Interleaving (σ κ₁ κ₂ δ : Type) where
  state : σ
  first : Option κ₁ := none
  second : Option κ₂ := none
  log : List δ := []

inductive ThreadEvent (ι₁ ι₂ : Type) where
  | callFirst (i : ι₁)
  | callSecond (i : ι₂)
  | stepFirst
  | stepSecond
  deriving DecidableEq

namespace Interleaving

variable {σ ι₁ ι₂ κ₁ κ₂ δ : Type} (first : Thread σ ι₁ κ₁ δ) (second : Thread σ ι₂ κ₂ δ)

/-- The interleaving after an event; a call that comes in the middle of another is not made. -/
def next (s : Interleaving σ κ₁ κ₂ δ) : ThreadEvent ι₁ ι₂ → Interleaving σ κ₁ κ₂ δ
  | .callFirst i => if s.first.isNone then { s with first := some (first.call i) } else s
  | .callSecond i => if s.second.isNone then { s with second := some (second.call i) } else s
  | .stepFirst =>
    match s.first with
    | none => s
    | some k =>
      let done := first.step s.state k
      { s with state := done.state, first := done.left, log := s.log ++ done.decided }
  | .stepSecond =>
    match s.second with
    | none => s
    | some k =>
      let done := second.step s.state k
      { s with state := done.state, second := done.left, log := s.log ++ done.decided }

variable {first second} {G : Interleaving σ κ₁ κ₂ δ → ThreadEvent ι₁ ι₂ → Prop} {I : Interleaving σ κ₁ κ₂ δ → Prop}

/-- What calls keep, and each atomic step that meets the guard, every interleaving keeps whose events meet the guard. -/
theorem invariant
    (callFirst : ∀ s i, I s → I { s with first := some (first.call i) })
    (callSecond : ∀ s i, I s → I { s with second := some (second.call i) })
    (stepFirst : ∀ s k, I s → G s .stepFirst → s.first = some k →
      I { s with
        state := (first.step s.state k).state
        first := (first.step s.state k).left
        log := s.log ++ (first.step s.state k).decided })
    (stepSecond : ∀ s k, I s → G s .stepSecond → s.second = some k →
      I { s with
        state := (second.step s.state k).state
        second := (second.step s.state k).left
        log := s.log ++ (second.step s.state k).decided })
    {s : Interleaving σ κ₁ κ₂ δ} {events : List (ThreadEvent ι₁ ι₂)} (h : I s)
    (hr : Along (next first second) G s events) : I (exec (next first second) s events) := by
  refine exec_invariant_along ?_ h hr; intro s e hs hg
  cases e with
  | callFirst i =>
    simp only [next]; split
    · exact callFirst s i hs
    · exact hs
  | callSecond i =>
    simp only [next]; split
    · exact callSecond s i hs
    · exact hs
  | stepFirst =>
    simp only [next]; split
    · exact hs
    · rename_i k hk; exact stepFirst s k hs hg hk
  | stepSecond =>
    simp only [next]; split
    · exact hs
    · rename_i k hk; exact stepSecond s k hs hg hk

end Interleaving

end Deniald.Lib
