import RealmAuth.Number.Power

namespace RealmAuth

/-!
Binary floating point numbers of double precision, held as exact integers.

A finite number is `± significand * 2 ^ exponent`.  It is kept in lowest form:
either the significand has 53 bits, or the exponent is the least one, `-1074`.
All rounding goes through one function, `Double.ofRatio`, which takes the
quotient of two natural numbers to the nearest double, ties to the even
significand; decimals, integers, sums and instants are quotients of that kind.
-/

/-- A number of double precision. -/
inductive Double where
  | nan
  | infinite (negative : Bool)
  | finite (negative : Bool) (significand : Nat) (exponent : Int)
  deriving DecidableEq

namespace Double

def leastExponent : Int := -1074

def greatestExponent : Int := 971

def zero (negative : Bool) : Double :=
  .finite negative 0 leastExponent

/-- The quotient rounded to the nearest integer, a half to the even one. -/
def roundDiv (num den : Nat) : Nat :=
  let quotient := num / den
  let rest := num % den
  if den < 2 * rest ∨ (2 * rest = den ∧ quotient % 2 = 1) then quotient + 1 else quotient

/-- The quotient is within half a unit of the exact value. -/
theorem roundDiv_mul_near (num den : Nat) (pos : 0 < den) :
    2 * (roundDiv num den * den) ≤ 2 * num + den ∧
      2 * num ≤ 2 * (roundDiv num den * den) + den := by
  have split := Nat.div_add_mod num den
  have bound := Nat.mod_lt num pos
  have product : den * (num / den) = num / den * den := Nat.mul_comm _ _
  unfold roundDiv
  simp only
  split
  · rw [Nat.add_mul, Nat.one_mul]
    omega
  · omega

/-- The least exponent at which the integer part of `num / den` has at most 53 bits. -/
def binade (num den : Nat) : Int :=
  let guess : Int := (Nat.log2 num : Int) - (Nat.log2 den : Int) - 53
  let fits :=
    if 0 ≤ guess then num < den * 2 ^ (53 + guess.toNat)
    else num * 2 ^ (-guess).toNat < den * 2 ^ 53
  if fits then guess else guess + 1

def ofRatio (negative : Bool) (num den : Nat) : Double :=
  if num = 0 then zero negative
  else
    let exponent := max leastExponent (binade num den)
    let significand :=
      if 0 ≤ exponent then roundDiv num (den * 2 ^ exponent.toNat)
      else roundDiv (num * 2 ^ (-exponent).toNat) den
    let carried := significand = 2 ^ 53
    let significand := if carried then 2 ^ 52 else significand
    let exponent := if carried then exponent + 1 else exponent
    if greatestExponent < exponent then .infinite negative
    else .finite negative significand exponent

def decimalSize (n : Nat) : Nat :=
  (Nat.toDigits 10 n).length

/--
The double nearest to `± digits * 10 ^ exponent`.  Beyond 310 places the value
is past every finite double and below 330 places it rounds to zero, so the
power is never formed there.
-/
def ofDecimal (negative : Bool) (digits : Nat) (exponent : Int) : Double :=
  let size : Int := (decimalSize digits : Int) + exponent
  if digits = 0 then zero negative
  else if 310 < size then .infinite negative
  else if size < -330 then zero negative
  else if 0 ≤ exponent then ofRatio negative (digits * 10 ^ exponent.toNat) 1
  else ofRatio negative digits (10 ^ (-exponent).toNat)

def ofInt (n : Int) : Double :=
  ofRatio (n < 0) n.natAbs 1

/-- The exact value of a finite double as a quotient. -/
def toRatio? : Double → Option (Int × Nat)
  | .finite negative significand exponent =>
      let signed : Int := if negative then -(significand : Int) else significand
      if 0 ≤ exponent then some (signed * 2 ^ exponent.toNat, 1)
      else some (signed, 2 ^ (-exponent).toNat)
  | _ => none

/-- Whether an integer is at most a double, compared exactly. -/
def intLe (n : Int) : Double → Bool
  | .nan => false
  | .infinite negative => !negative
  | .finite negative significand exponent =>
      match toRatio? (.finite negative significand exponent) with
      | some (num, den) => n * den ≤ num
      | none => false

/-- The exact difference of two doubles, rounded once. -/
def sub (x y : Double) : Double :=
  match x, y with
  | .nan, _ => .nan
  | _, .nan => .nan
  | .infinite a, .infinite b => if a == b then .nan else .infinite a
  | .infinite a, _ => .infinite a
  | _, .infinite b => .infinite !b
  | x, y =>
      match toRatio? x, toRatio? y with
      | some (xNum, xDen), some (yNum, yDen) =>
          let num := xNum * yDen - yNum * xDen
          ofRatio (num < 0) num.natAbs (xDen * yDen)
      | _, _ => .nan

/-- The integer part, toward zero; only finite numbers have one. -/
def truncate? (x : Double) : Option Int :=
  x.toRatio?.map fun ratio => ratio.1.tdiv ratio.2

/-- Equality of values: both zeros are equal and a `nan` equals nothing. -/
def same (x y : Double) : Bool :=
  match x, y with
  | .infinite a, .infinite b => a == b
  | x, y =>
      match x.toRatio?, y.toRatio? with
      | some (xNum, xDen), some (yNum, yDen) => xNum * yDen == yNum * xDen
      | _, _ => false

def sameInt (x : Double) (n : Int) : Bool :=
  match x.toRatio? with
  | some (num, den) => num == n * den
  | none => false

def isZero (x : Double) : Bool :=
  x.sameInt 0

end Double
end RealmAuth
