/-
Partial updates of what has fields. A field may be without a value; a patch gives some of the fields a value or takes it
away. What a patch says is put over values, what differs between values is a patch, patches are joined, and what was
written is taken out of a patch unless it says something else by now.
-/
import Mathlib.Data.Fintype.Basic

namespace Deniald.Lib

universe u v

/-- What fields have: a value or none. -/
abbrev Values (α : Type u) (β : Type v) := α → Option β

/-- What some of the fields are to have. -/
abbrev Patch (α : Type u) (β : Type v) := α → Option (Option β)

variable {α : Type u} {β : Type v}

namespace Patch

def empty : Patch α β := fun _ => none

def Empty (patch : Patch α β) : Prop := ∀ field, patch field = none

instance decidableEmpty [Fintype α] [DecidableEq β] (patch : Patch α β) : Decidable patch.Empty :=
  inferInstanceAs (Decidable (∀ field, patch field = none))

def Clears (patch : Patch α β) : Prop := ∃ field, patch field = some none

instance decidableClears [Fintype α] [DecidableEq β] (patch : Patch α β) : Decidable patch.Clears :=
  inferInstanceAs (Decidable (∃ field, patch field = some none))

def overlay (patch : Patch α β) (values : Values α β) : Values α β := fun field => (patch field).getD (values field)

def join (patch later : Patch α β) : Patch α β := fun field => (later field).or (patch field)

def without [DecidableEq β] (patch written : Patch α β) : Patch α β := fun field =>
  if patch field = written field then none else patch field

def Agrees (patch : Patch α β) (values : Values α β) : Prop := ∀ field value, patch field = some value →
    values field = value

variable {patch later written : Patch α β} {values : Values α β} {field : α}

@[simp] theorem overlay_none (h : patch field = none) : patch.overlay values field = values field := by
  simp [overlay, h]

@[simp] theorem overlay_some {value : Option β} (h : patch field = some value) :
patch.overlay values field = value := by
  simp [overlay, h]

theorem agrees_overlay : patch.Agrees (patch.overlay values) := fun _ _ h => overlay_some h

@[simp] theorem agrees_empty : (empty : Patch α β).Agrees values := fun _ _ h => nomatch h

theorem overlay_of_empty (h : patch.Empty) : patch.overlay values = values := by
  funext field; exact overlay_none (h field)

theorem join_none : patch.join later field = none ↔ later field = none ∧ patch field = none := by
  simp [join]

theorem join_eq_some {value : Option β} (h : patch.join later field = some value) :
    later field = some value ∨ later field = none ∧ patch field = some value := by
  unfold join at h
  cases hla : later field with
  | some other =>
    rw [hla] at h; exact .inl h
  | none =>
    rw [hla] at h; exact .inr ⟨rfl, h⟩

theorem Agrees.join {values' : Values α β} (h : patch.Agrees values) (hla : later.Agrees values')
    (hs : ∀ field, later field = none → values' field = values field) : (patch.join later).Agrees values' := by
  intro field value hv
  rcases join_eq_some hv with hn | ⟨hno, ho⟩
  · exact hla field value hn
  · exact (hs field hno).trans (h field value ho)

variable [DecidableEq β]

theorem without_some {value : Option β} (h : patch.without written field = some value) : patch field = some value := by
  unfold without at h; split at h
  · cases h
  · exact h

theorem Agrees.without (h : patch.Agrees values) : (patch.without written).Agrees values :=
  fun field value hv => h field value (without_some hv)

theorem eq_of_without_none (h : patch.without written field = none) : patch field = none ∨
    patch field = written field := by
  unfold Patch.without at h; split at h
  · rename_i heq; exact .inr heq
  · exact .inl h

end Patch
end Deniald.Lib
