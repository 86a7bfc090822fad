/-
Machine numbers: clamping, saturating 32-bit integers, and doubles. A finite double is the rational
it denotes, and the result of an operation on doubles is rounded by a `Rounding`, of which only
monotonicity is used; the exact rationals are the rounding that changes nothing.
-/
import Mathlib.Data.Int.ConditionallyCompleteOrder
import Mathlib.Data.Rat.Floor
import Mathlib.Order.CompletePartialOrder

namespace Deniald.Lib

/-- `clamp`, with `lo ≤ hi`. -/
def clamp {α : Type} [LinearOrder α] (x lo hi : α) : α := if x < lo then lo else if hi < x then hi else x

theorem clamp_mem {α : Type} [LinearOrder α] {x lo hi : α} (h : lo ≤ hi) : lo ≤ clamp x lo hi ∧ clamp x lo hi ≤ hi := by
  unfold clamp; split
  · exact ⟨le_refl _, h⟩
  rename_i hlo; split
  · exact ⟨h, le_refl _⟩
  · rename_i hhi; exact ⟨not_lt.1 hlo, not_lt.1 hhi⟩

theorem clamp_of_mem {α : Type} [LinearOrder α] {x lo hi : α} (hlo : lo ≤ x) (hhi : x ≤ hi) : clamp x lo hi = x := by
  unfold clamp
  rw [if_neg (not_lt.2 hlo), if_neg (not_lt.2 hhi)]

/-! ## 32-bit integers -/

/-- A value brought into the range of `i32`, as the saturating operations and the cast from a double do. -/
def satI32 (x : Int) : Int := clamp x (-2 ^ 31) (2 ^ 31 - 1)

theorem satI32_of_mem {x : Int} (hlo : -2 ^ 31 ≤ x) (hhi : x ≤ 2 ^ 31 - 1) : satI32 x = x := by
  unfold satI32 clamp
  rw [if_neg (not_lt.2 hlo), if_neg (not_lt.2 hhi)]

/-- `i32::saturating_add`. -/
def satAdd (a b : Int) : Int := satI32 (a + b)

/-- `i32::saturating_sub`. -/
def satSub (a b : Int) : Int := satI32 (a - b)

/-! ## Doubles -/

/-- A double read from outside: the source tests these for finiteness before using them. -/
inductive F64 where
  | finite (q : ℚ)
  | infinite (negative : Bool)
  | nan
  deriving DecidableEq

namespace F64

def isFinite : F64 → Bool
  | .finite _ => true
  | .infinite _ | .nan => false

/-- `<`, of which no NaN is either side. -/
def lt : F64 → F64 → Bool
  | .finite a, .finite b => a < b
  | .infinite negative, .finite _ => negative
  | .finite _, .infinite negative => !negative
  | .infinite a, .infinite b => a && !b
  | .nan, _ | _, .nan => false

/-- `<=`. -/
def le : F64 → F64 → Bool
  | .finite a, .finite b => a ≤ b
  | .infinite negative, .finite _ => negative
  | .finite _, .infinite negative => !negative
  | .infinite a, .infinite b => a || !b
  | .nan, _ | _, .nan => false

@[simp] theorem isFinite_finite (q : ℚ) : (finite q).isFinite = true := rfl

@[simp] theorem lt_finite (a b : ℚ) : lt (.finite a) (.finite b) = decide (a < b) := rfl

@[simp] theorem le_finite (a b : ℚ) : le (.finite a) (.finite b) = decide (a ≤ b) := rfl

theorem finite_of_isFinite {x : F64} (h : x.isFinite = true) : ∃ q, x = .finite q := by
  cases x with
  | finite q => exact ⟨q, rfl⟩
  | infinite | nan => cases h

end F64

/-- The rounding of a double operation's exact result. -/
structure Rounding where
  fl : ℚ → ℚ
  mono : Monotone fl

/-- The sum of two doubles, infinite where it is beyond them. -/
def F64.add (r : Rounding) : F64 → F64 → F64
  | .finite a, .finite b =>
    let sum := r.fl (a + b)
    if 2 ^ 1024 ≤ sum then .infinite false else if sum ≤ -2 ^ 1024 then .infinite true else .finite sum
  | .infinite a, .infinite b => if a = b then .infinite a else .nan
  | .infinite negative, .finite _ | .finite _, .infinite negative => .infinite negative
  | .nan, _ | _, .nan => .nan

def Rounding.exact : Rounding := ⟨fun q => q, monotone_id⟩

/-- `f64::round`: to the nearest integer, half way cases away from zero. -/
def roundHalfAway (q : ℚ) : Int := if 0 ≤ q then ⌊q + 1 / 2⌋ else -⌊-q + 1 / 2⌋

theorem roundHalfAway_intCast (n : Int) : roundHalfAway (n : ℚ) = n := by
  unfold roundHalfAway; split
  · rw [Int.floor_eq_iff]
    constructor <;> linarith
  rw [neg_eq_iff_eq_neg, Int.floor_eq_iff]
  push_cast
  constructor <;> linarith

theorem roundHalfAway_monotone : Monotone roundHalfAway := by
  intro a b h; unfold roundHalfAway
  split_ifs with ha hb hb
  · exact Int.floor_le_floor (by linarith)
  · exact absurd (ha.trans h) hb
  · have hneg : 0 ≤ ⌊-a + 1 / 2⌋ := Int.floor_nonneg.2 (by linarith)
    have hpos : 0 ≤ ⌊b + 1 / 2⌋ := Int.floor_nonneg.2 (by linarith)
    omega
  · exact neg_le_neg (Int.floor_le_floor (by linarith))

/-- `f64::EPSILON`. -/
def epsilon : ℚ := 1 / 2 ^ 52

end Deniald.Lib
