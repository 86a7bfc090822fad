/-
Checked reads of a list and sums of machine integers: what lies past the end, or is too large, is the caller's error.
-/
import Mathlib.Algebra.Ring.Nat

namespace Deniald.Lib

variable {ε α : Type}

/-- The elements from one position up to another. -/
def part (data : List α) (first last : Nat) : List α := (data.drop first).take (last - first)

def partOr (fault : ε) (data : List α) (first last : Nat) : Except ε (List α) :=
  if first ≤ last ∧ last ≤ data.length then .ok (part data first last) else .error fault

def sumOr (fault : ε) (bits m n : Nat) : Except ε Nat := if m + n < 2 ^ bits then .ok (m + n) else .error fault

variable {fault : ε} {data : List α} {first middle last : Nat}

theorem ok_bind {β : Type} (a : α) (f : α → Except ε β) : (Except.ok a >>= f) = f a := rfl

theorem partOr_of_le (h : first ≤ last ∧ last ≤ data.length) : partOr fault data first last = .ok (part data first last) :=
  if_pos h

theorem sumOr_of_lt {bits m n : Nat} (h : m + n < 2 ^ bits) : sumOr fault bits m n = .ok (m + n) := if_pos h

theorem part_drop (data : List α) (start first last : Nat) :
    part (data.drop start) first last = part data (start + first) (start + last) := by
  unfold part; rw [List.drop_drop, Nat.add_sub_add_left]

@[simp] theorem length_part (h : last ≤ data.length) : (part data first last).length = last - first := by
  unfold part
  rw [List.length_take, List.length_drop]; omega

theorem part_append_drop (h : first ≤ last) : part data first last ++ data.drop last = data.drop first := by
  have hd : data.drop last = (data.drop first).drop (last - first) := by rw [List.drop_drop, Nat.add_sub_cancel' h]
  rw [hd]; exact List.take_append_drop _ _

theorem part_append_left (rest : List α) (h : first ≤ last ∧ last ≤ data.length) :
    part (data ++ rest) first last = part data first last := by
  unfold part
  rw [List.drop_append_of_le_length (by omega), List.take_append_of_le_length (by rw [List.length_drop]; omega)]

end Deniald.Lib
