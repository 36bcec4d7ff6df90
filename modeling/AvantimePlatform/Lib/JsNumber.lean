import Mathlib

/-!
# JavaScript numbers

A number of JavaScript, as exact as the checks on stored records need it: a
rational, or one of the values that are not finite.  `NaN` and the two infinities
are one value here, since each fails every check and is written as `null`.

Nothing here names a component of the platform.
-/

namespace AvantimePlatform

/-- A number, or one of those that are not finite. -/
inductive JsNumber where
  | finite (value : ℚ)
  | nonFinite
deriving DecidableEq

namespace JsNumber

/-- An integer as a number. -/
def ofInt (value : Int) : JsNumber := .finite value

/-- `Number.MAX_SAFE_INTEGER`. -/
def maxSafe : Nat := 9007199254740991

/-- `Number.isFinite(value)`. -/
def isFinite : JsNumber → Bool
  | .finite _ => true
  | .nonFinite => false

/-- `Number.isSafeInteger(value)`. -/
def isSafeInteger : JsNumber → Bool
  | .finite value => value.den == 1 && decide (value.num.natAbs ≤ maxSafe)
  | .nonFinite => false

/-- `value >= 0`, of a finite number. -/
def isNonNegative : JsNumber → Bool
  | .finite value => decide (0 ≤ value)
  | .nonFinite => false

/-- `value > 0`, of a finite number. -/
def isPositive : JsNumber → Bool
  | .finite value => decide (0 < value)
  | .nonFinite => false

/-- `0 <= value && value <= 1`. -/
def isUnit : JsNumber → Bool
  | .finite value => decide (0 ≤ value) && decide (value ≤ 1)
  | .nonFinite => false

theorem isNonNegative_of_isPositive {n : JsNumber} (h : n.isPositive = true) :
    n.isNonNegative = true := by
  cases n with
  | finite value =>
      have hpos : 0 < value := by simpa [isPositive] using h
      simpa [isNonNegative] using hpos.le
  | nonFinite => simp [isPositive] at h

theorem isFinite_of_isSafeInteger {n : JsNumber} (h : n.isSafeInteger = true) :
    n.isFinite = true := by
  cases n with
  | finite value => rfl
  | nonFinite => simp [isSafeInteger] at h

theorem isFinite_of_isUnit {n : JsNumber} (h : n.isUnit = true) : n.isFinite = true := by
  cases n with
  | finite value => rfl
  | nonFinite => simp [isUnit] at h

end JsNumber

end AvantimePlatform
