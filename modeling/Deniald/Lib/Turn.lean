/-
One turn of a loop whose body may `continue` early or leave the loop: `Turn σ α` is `.ok a` where the body goes
on with `a`, `again s` where it continues with the next turn in `s`, and `leave` where the loop ends. A body
keeps an invariant when each of its phases does, wherever they stop.
-/

namespace Deniald.Lib

universe u v w

variable {σ α β : Type u}

/-- `.ok`: the body goes on. -/
abbrev Turn (σ α : Type u) := Except (Option σ) α

namespace Turn

/-- `continue`. -/
def again (s : σ) : Turn σ α := .error (some s)

/-- `return Err(..)`. -/
def leave : Turn σ α := .error none

/-- The state after a turn taken from `s`; `stop` marks the loop that was left. -/
def finish (stop : σ → σ) (s : σ) : Turn σ σ → σ
  | .ok s' => s'
  | .error (some s') => s'
  | .error none => stop s

/-- Where the body goes on it meets `P`, where it continues with the next turn it meets `I`. -/
def Keeps (I : σ → Prop) (P : α → Prop) : Turn σ α → Prop
  | .ok a => P a
  | .error (some s) => I s
  | .error none => True

variable {I : σ → Prop} {P Q : α → Prop} {R : β → Prop}

@[simp] theorem keeps_ok {a : α} : Keeps I P (.ok a) ↔ P a := Iff.rfl

@[simp] theorem keeps_leave : Keeps I P (leave : Turn σ α) := trivial

theorem Keeps.bind {t : Turn σ α} {f : α → Turn σ β} (ht : Keeps I P t) (hf : ∀ a, P a → Keeps I R (f a)) :
    Keeps I R (t >>= f) := by
  cases t with
  | ok a => exact hf a ht
  | error stopped => cases stopped <;> exact ht

theorem Keeps.reached {t : Turn σ α} (ht : Keeps I P t) : Keeps I (fun a => P a ∧ t = .ok a) t := by
  cases t with
  | ok a => exact ⟨ht, rfl⟩
  | error stopped => cases stopped <;> exact ht

theorem Keeps.finish {t : Turn σ σ} {stop : σ → σ} {s : σ} (ht : Keeps I I t) (hs : I (stop s)) :
    I (t.finish stop s) := by
  cases t with
  | ok s' => exact ht
  | error stopped =>
    cases stopped with
    | none => exact hs
    | some s' => exact ht

end Turn

end Deniald.Lib
