/-
Monotonic instants and durations, in nanoseconds: an instant is an `Int` (its epoch is private to the
clock), a duration a `Nat`. Differences saturate at zero or are taken signed.
-/
import Mathlib.Algebra.Group.Int.Defs

namespace Deniald.Lib

/-- `a.saturating_duration_since(b)`. -/
def saturatingDurationSince (a b : Int) : Nat := (a - b).toNat

theorem saturatingDurationSince_of_le {a b : Int} (h : b ≤ a) : (saturatingDurationSince a b : Int) = a - b := by
  unfold saturatingDurationSince; omega

/-- `a.checked_add(d)`: an instant counts its seconds in an `i64`. -/
def checkedAdd (a : Int) (d : Nat) : Option Int := if a + d < 2 ^ 63 * 1000000000 then some (a + d) else none

end Deniald.Lib
