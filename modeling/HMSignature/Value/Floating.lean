/-!
# Floating-point numbers

The numbers of double precision. A finite one is a whole number of units, where the unit is the smallest positive
number: one is `2 ^ 1074` units. A magnitude keeps 53 binary digits, so the numbers around it are `spacing` units apart;
what lies between two of them is rounded to the nearer one, and to the even multiple of the spacing from the middle.

1. `roundedQuotient_mul`: a multiple of the divisor is divided exactly;
2. `roundedQuotient_near`: the rounded quotient is at most one half away from the exact one.
-/

namespace HMSignature

/-! ## Rounded division -/

/-- The whole number nearest to a quotient; of two that are equally near, the even one. -/
def roundedQuotient (a b : Nat) : Nat :=
  if 2 * (a % b) < b ∨ (2 * (a % b) = b ∧ a / b % 2 = 0) then a / b else a / b + 1

theorem roundedQuotient_mul {b : Nat} (positive : 0 < b) (q : Nat) :
    roundedQuotient (q * b) b = q := by
  simp [roundedQuotient, Nat.mul_div_cancel q positive, positive]

theorem roundedQuotient_near {b : Nat} (positive : 0 < b) (a : Nat) :
    2 * (roundedQuotient a b * b) ≤ 2 * a + b ∧ 2 * a ≤ 2 * (roundedQuotient a b * b) + b := by
  have parts := Nat.div_add_mod a b
  have small := Nat.mod_lt a positive
  rw [Nat.mul_comm] at parts
  unfold roundedQuotient
  split
  · omega
  · rw [Nat.add_mul]
    omega

/-! ## Numbers -/

/-- A number of double precision. Zero has a sign, too. -/
inductive Floating where
  | finite (negative : Bool) (units : Nat)
  | infinite (negative : Bool)
deriving DecidableEq, Repr

namespace Floating

/-- The number of binary digits that a magnitude keeps. -/
def precision : Nat := 53

/-- The number one, in units. -/
def one : Nat := Nat.pow 2 1074

/-- The first magnitude that is too large, in units. -/
def limit : Nat := Nat.pow 2 2098

/-- The distance between the numbers around a magnitude, in units. -/
def spacing (units : Nat) : Nat :=
  Nat.pow 2 (units.log2 + 1 - precision)

/-- The number nearest to a quotient. -/
def ofQuotient (negative : Bool) (a b : Nat) : Floating :=
  let step := spacing (a * one / b)
  let units := roundedQuotient (a * one) (b * step) * step
  if units < limit then finite negative units else infinite negative

/-- Powers of ten beyond this one are too large, and those below its inverse nearer to zero than to a number. -/
def largestPower : Nat := 400

/-- The number nearest to `digits * 10 ^ exponent`. -/
def ofDecimal (negative : Bool) (digits : Nat) (exponent : Int) : Floating :=
  if digits = 0 then finite negative 0
  else if exponent > largestPower then infinite negative
  else if exponent + digits.log2 + 1 < -largestPower then finite negative 0
  else
    match exponent with
    | .ofNat power => ofQuotient negative (digits * Nat.pow 10 power) 1
    | .negSucc power => ofQuotient negative digits (Nat.pow 10 (power + 1))

/-- A finite number in units, with its sign. -/
def units? : Floating → Option Int
  | finite negative units => some (if negative then -units else units)
  | infinite _ => none

/-- Equality as numbers: the sign of zero does not count. -/
def sameNumber : Floating → Floating → Bool
  | infinite a, infinite b => a == b
  | finite a x, finite b y => x == y && (a == b || x == 0)
  | _, _ => false

@[simp]
theorem sameNumber_self (x : Floating) : x.sameNumber x = true := by
  cases x <;> simp [sameNumber]

end Floating

end HMSignature
