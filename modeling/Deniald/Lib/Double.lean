/-
Arithmetic on doubles beyond their sums: quotients and differences, the lesser and the greater of two, each result
rounded. A rounding of coordinates keeps the whole numbers that doubles have.
-/
import Deniald.Lib.Number

namespace Deniald.Lib

/-- A rounding that keeps the integers up to the precision of doubles. -/
structure CoordinateRounding extends Rounding where
  integer : ∀ n : Int, |n| ≤ 2 ^ 53 → fl n = n

theorem exact_integer (n : Int) (_ : |n| ≤ 2 ^ 53) : Rounding.exact.fl n = n := rfl

/-- Exact arithmetic keeps them all. -/
def CoordinateRounding.exact : CoordinateRounding := ⟨Rounding.exact, exact_integer⟩

namespace F64

/-- The double of an exact result, infinite where it is beyond them. -/
def round (r : Rounding) (q : ℚ) : F64 :=
  if 2 ^ 1024 ≤ r.fl q then .infinite false else if r.fl q ≤ -2 ^ 1024 then .infinite true else .finite (r.fl q)

def neg : F64 → F64
  | .finite q => .finite (-q)
  | .infinite negative => .infinite !negative
  | .nan => .nan

def sub (r : Rounding) (a b : F64) : F64 := add r a (neg b)

/-- The quotient of two doubles; zero counts as positive. -/
def div (r : Rounding) : F64 → F64 → F64
  | .finite a, .finite b => if b = 0 then (if a = 0 then .nan else .infinite (a < 0)) else round r (a / b)
  | .finite _, .infinite _ => .finite 0
  | .infinite negative, .finite b => .infinite (negative != decide (b < 0))
  | .infinite _, .infinite _ => .nan
  | .nan, _ | _, .nan => .nan

/-- `f64::min`, which ignores a NaN. -/
def min (a b : F64) : F64 := if a = .nan then b else if b = .nan then a else if lt a b then a else b

/-- `f64::max`, which ignores a NaN. -/
def max (a b : F64) : F64 := if a = .nan then b else if b = .nan then a else if lt b a then a else b

theorem lt_round_eq_false {r : CoordinateRounding} {q : ℚ} {n m : Int} (hn : |n| ≤ 2 ^ 53) (hq : q ≤ n) (hm : n ≤ m) :
    lt (.finite m) (round r.toRounding q) = false := by
  have hle : r.fl q ≤ m := calc
    r.fl q ≤ r.fl n := r.mono hq
    _ = n := r.integer n hn
    _ ≤ m := by exact_mod_cast hm
  have hs : ¬(2 ^ 1024 : ℚ) ≤ r.fl q := by
    have hn' : (n : ℚ) ≤ 2 ^ 53 := by exact_mod_cast (abs_le.1 hn).2
    have hr : r.fl q ≤ n := (r.mono hq).trans_eq (r.integer n hn)
    have hw : (2 ^ 53 : ℚ) < 2 ^ 1024 := pow_lt_pow_right₀ (by norm_num) (by norm_num)
    exact not_le.2 ((hr.trans hn').trans_lt hw)
  unfold round; rw [if_neg hs]
  split
  · rfl
  · simpa using hle

end F64

end Deniald.Lib
