/-
A `u64` counter that skips zero when it wraps, `n.wrapping_add(1).max(1)`: its values cycle through
`1 … 2⁶⁴ − 1`, so the `k`-th value allocated from a fresh counter is `(k − 1) mod (2⁶⁴ − 1) + 1`, and
two allocations get the same value exactly when a multiple of the cycle lies between them. A `u32`
counter of the same kind, and the search of a counter for a value that is not in use.
-/
import Mathlib.Data.Fintype.Card
import Mathlib.Data.Nat.ModEq

namespace Deniald.Lib

/-- `n.wrapping_add(1).max(1)` on `u64`. -/
def bump (n : UInt64) : UInt64 := max (n + 1) 1

/-- The number of values a bumped counter takes. -/
def cycle : Nat := 2 ^ 64 - 1

/-- The `k`-th value of a counter that starts at zero and is bumped for every allocation. -/
def serialOf : Nat → UInt64
  | 0 => 0
  | k + 1 => bump (serialOf k)

theorem bump_toNat (n : UInt64) : (bump n).toNat = n.toNat % cycle + 1 := by
  have hn := n.toNat_lt
  have hs : (n + 1).toNat = (n.toNat + 1) % 2 ^ 64 := by simp [UInt64.toNat_add]
  unfold bump cycle; rw [UInt64.max_def]
  split
  · rename_i h; rw [UInt64.le_iff_toNat_le, hs] at h
    simp only [UInt64.toNat_one] at h ⊢; omega
  rename_i h; rw [UInt64.le_iff_toNat_le, hs] at h
  simp only [UInt64.toNat_one] at h
  rw [hs]; omega

theorem bump_ne_zero (n : UInt64) : bump n ≠ 0 := by
  intro h; have := bump_toNat n
  rw [h] at this
  simp at this

theorem bump_ne_self (n : UInt64) : bump n ≠ n := by
  intro h; have := bump_toNat n
  rw [h] at this
  unfold cycle at this; omega

theorem serialOf_toNat (k : Nat) : (serialOf (k + 1)).toNat = k % cycle + 1 := by
  induction k with
  | zero => rfl
  | succ k ih =>
    show (bump (serialOf (k + 1))).toNat = _
    rw [bump_toNat, ih, Nat.add_mod (k % cycle), Nat.mod_mod, ← Nat.add_mod]

theorem serialOf_ne_zero (k : Nat) : serialOf (k + 1) ≠ 0 := bump_ne_zero _

theorem serialOf_inj {j k : Nat} (hj : 0 < j) (hjk : j ≤ k) (hk : k < j + cycle) (h : serialOf j = serialOf k) :
    j = k := by
  obtain ⟨a, rfl⟩ : ∃ a, j = a + 1 := ⟨j - 1, by omega⟩
  obtain ⟨b, rfl⟩ : ∃ b, k = b + 1 := ⟨k - 1, by omega⟩
  have h' := congrArg UInt64.toNat h
  rw [serialOf_toNat, serialOf_toNat] at h'
  have hm : a ≡ b [MOD cycle] := by unfold Nat.ModEq; omega
  have hd : cycle ∣ b - a := (Nat.modEq_iff_dvd' (by omega)).1 hm
  have : b - a = 0 := Nat.eq_zero_of_dvd_of_lt hd (by omega)
  omega

theorem serialOf_add_cycle (k : Nat) : serialOf (k + 1 + cycle) = serialOf (k + 1) := by
  apply UInt64.toNat_inj.1
  rw [show k + 1 + cycle = (k + cycle) + 1 by omega, serialOf_toNat, serialOf_toNat, Nat.add_mod_right]

/-! ## A search for a free value -/

section Search

variable {α : Type} (next : α → α) (used : α → Bool)

/-- The first value of a counter that is not in use, of so many after one. -/
def findFree : Nat → α → Option α
  | 0, _ => none
  | tries + 1, a => if used (next a) then findFree tries (next a) else some (next a)

variable {next used}

theorem findFree_some : ∀ {ts : Nat} {a b : α}, findFree next used ts a = some b →
    used b = false ∧ ∃ k, b = next (next^[k] a)
  | ts + 1, a, b, h => by
    unfold findFree at h; split at h
    · obtain ⟨hb, k, rfl⟩ := findFree_some h
      exact ⟨hb, k + 1, by rw [Function.iterate_succ_apply]⟩
    · rename_i hf; cases h; exact ⟨by simpa using hf, 0, rfl⟩

theorem used_of_findFree_none : ∀ {ts : Nat} {a : α}, findFree next used ts a = none →
    ∀ k < ts, used (next^[k + 1] a) = true
  | ts + 1, a, h, k, hk => by
    unfold findFree at h; split at h
    · rename_i hu
      cases k with
      | zero => exact hu
      | succ k =>
        rw [Function.iterate_succ_apply]; exact used_of_findFree_none h k (by omega)
    · cases h

theorem findFree_succeeds [DecidableEq α] {tries : Nat} {a : α} (iu : List α) (hu : ∀ b, used b = true → b ∈ iu)
    (hr : ∀ j < tries, ∀ k < tries, next^[j + 1] a = next^[k + 1] a → j = k) (hf : iu.length < tries) :
    ∃ b, findFree next used tries a = some b := by
  cases hn : findFree next used tries a with
  | some b => exact ⟨b, rfl⟩
  | none =>
    exfalso
    have hs : ∀ k ∈ Finset.range tries, next^[k + 1] a ∈ iu.toFinset := fun k hk =>
      List.mem_toFinset.2 (hu _ (used_of_findFree_none hn k (Finset.mem_range.1 hk)))
    have hca : iu.toFinset.card < (Finset.range tries).card := by
      rw [Finset.card_range]; exact lt_of_le_of_lt (List.toFinset_card_le _) hf
    obtain ⟨j, hj, k, hk, hne, heq⟩ := Finset.exists_ne_map_eq_of_card_lt_of_maps_to hca hs
    exact hne (hr j (Finset.mem_range.1 hj) k (Finset.mem_range.1 hk) heq)

theorem findFree_mono : ∀ {ts ts' : Nat} {a b : α}, ts ≤ ts' → findFree next used ts a = some b →
    findFree next used ts' a = some b
  | ts + 1, ts' + 1, a, b, hle, h => by
    unfold findFree at h ⊢; split at h
    · rename_i hu; rw [if_pos hu]; exact findFree_mono (by omega) h
    · rename_i hf; rw [if_neg hf]; exact h

end Search

/-! ## 32 bits -/

/-- `n.wrapping_add(1).max(1)` on `u32`. -/
def bump32 (n : UInt32) : UInt32 := max (n + 1) 1

/-- The number of values such a counter takes. -/
def cycle32 : Nat := 2 ^ 32 - 1

theorem bump32_toNat (n : UInt32) : (bump32 n).toNat = n.toNat % cycle32 + 1 := by
  have hn := n.toNat_lt
  have hs : (n + 1).toNat = (n.toNat + 1) % 2 ^ 32 := by simp [UInt32.toNat_add]
  unfold bump32 cycle32; rw [UInt32.max_def]
  split
  · rename_i h; rw [UInt32.le_iff_toNat_le, hs] at h
    simp only [UInt32.toNat_one] at h ⊢; omega
  rename_i h; rw [UInt32.le_iff_toNat_le, hs] at h
  simp only [UInt32.toNat_one] at h
  rw [hs]; omega

theorem bump32_ne_zero (n : UInt32) : bump32 n ≠ 0 := by
  intro h; have := bump32_toNat n
  rw [h] at this
  simp at this

theorem iterate_bump32_toNat (n : UInt32) (k : Nat) : (bump32^[k + 1] n).toNat = (n.toNat + k) % cycle32 + 1 := by
  induction k with
  | zero => rw [zero_add, Function.iterate_one, bump32_toNat, add_zero]
  | succ k ih =>
    rw [Function.iterate_succ_apply', bump32_toNat, ih, ← add_assoc, Nat.add_mod ((n.toNat + k) % cycle32), Nat.mod_mod,
      ← Nat.add_mod]

theorem iterate_bump32_inj {n : UInt32} {j k : Nat} (hj : j < cycle32) (hk : k < cycle32)
    (h : bump32^[j + 1] n = bump32^[k + 1] n) : j = k := by
  have h' := congrArg UInt32.toNat h
  rw [iterate_bump32_toNat, iterate_bump32_toNat] at h'
  have hm : n.toNat + j ≡ n.toNat + k [MOD cycle32] := by unfold Nat.ModEq; omega
  have := Nat.ModEq.add_left_cancel' _ hm
  rwa [Nat.ModEq, Nat.mod_eq_of_lt hj, Nat.mod_eq_of_lt hk] at this

end Deniald.Lib
