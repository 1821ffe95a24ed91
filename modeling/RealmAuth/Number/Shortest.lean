import RealmAuth.Number.Double

namespace RealmAuth
namespace Double

/-!
The shortest decimal text of a double: the fewest digits that read back as the
same number, and of two such decimals the nearer one.  `Layout` records how the
digits are then written.
-/

/-- A decimal `digits * 10 ^ exponent`. -/
structure Decimal where
  digits : Nat
  exponent : Int
  deriving DecidableEq

/-- The number of places of `num / den` before the point; negative counts zeros after it. -/
def places (num den : Nat) : Int :=
  if den ≤ num then decimalSize (num / den)
  else 1 - (decimalSize (den / num) : Int)

/-- Of two neighbouring decimals, the one that reads back as `x`; of two, the nearer. -/
def readingBack? (x : Double) (negative : Bool) (lower : Nat) (step : Int)
    (upperNearer : Bool) : Option Decimal :=
  if ofDecimal negative (lower + 1) step = x ∧
      (upperNearer ∨ ofDecimal negative lower step ≠ x) then some ⟨lower + 1, step⟩
  else if ofDecimal negative lower step = x then some ⟨lower, step⟩
  else none

/-- The neighbours of `num / den` on the grid of `count` digits, read back as `x`. -/
def neighbour? (x : Double) (negative : Bool) (num den count : Nat) : Option Decimal :=
  let step : Int := places num den - count
  let scaledNum := if 0 ≤ step then num else num * 10 ^ (-step).toNat
  let scaledDen := if 0 ≤ step then den * 10 ^ step.toNat else den
  let lower := scaledNum / scaledDen
  let rest := scaledNum % scaledDen
  readingBack? x negative lower step
    (scaledDen < 2 * rest || (2 * rest == scaledDen && lower % 2 == 1))

/-- The shortest decimal of a positive quotient that reads back as `x`. -/
def shortest? (x : Double) (negative : Bool) (num den : Nat) : Option Decimal :=
  (List.range 17).findSome? fun index => neighbour? x negative num den (index + 1)

/-- How the digits of a number are laid out. -/
structure Layout where
  /-- The least exponent that is written without an exponent mark. -/
  positionalFrom : Int
  /-- The first exponent that is written with an exponent mark again. -/
  positionalUntil : Int
  /-- What follows an integral positional number. -/
  integralTail : String
  /-- The mark before the exponent. -/
  exponentMark : String
  /-- The least number of digits of an exponent. -/
  exponentWidth : Nat
  nanText : String
  infiniteText : String

def padZeros (width : Nat) (digits : List Char) : List Char :=
  List.replicate (width - digits.length) '0' ++ digits

def Decimal.text (layout : Layout) (d : Decimal) : List Char :=
  let all := Nat.toDigits 10 d.digits
  let digits := (all.reverse.dropWhile (· == '0')).reverse
  let size : Int := all.length
  let exponent : Int := d.exponent + size - 1
  if layout.positionalFrom ≤ exponent ∧ exponent < layout.positionalUntil then
    if exponent < 0 then
      '0' :: '.' :: (List.replicate (-exponent - 1).toNat '0' ++ digits)
    else
      let whole := exponent.toNat + 1
      if digits.length ≤ whole then
        digits ++ List.replicate (whole - digits.length) '0' ++ layout.integralTail.toList
      else
        digits.take whole ++ '.' :: digits.drop whole
  else
    let head := digits.take 1
    let tail := digits.drop 1
    let sign := if exponent < 0 then '-' else '+'
    head ++ (if tail.isEmpty then [] else '.' :: tail) ++ layout.exponentMark.toList ++
      sign :: padZeros layout.exponentWidth (Nat.toDigits 10 exponent.natAbs)

def text (layout : Layout) (x : Double) : String :=
  match x with
  | .nan => layout.nanText
  | .infinite negative => (if negative then "-" else "") ++ layout.infiniteText
  | .finite negative significand exponent =>
      let sign := if negative then "-" else ""
      if significand = 0 then sign ++ "0" ++ layout.integralTail
      else
        let num := if 0 ≤ exponent then significand * 2 ^ exponent.toNat else significand
        let den := if 0 ≤ exponent then 1 else 2 ^ (-exponent).toNat
        match shortest? x negative num den with
        | some d => sign ++ String.ofList (d.text layout)
        | none => sign

/--
The layout of claim values: positional for exponents from -4 up to 15, always
with a point, and an exponent of at least two digits otherwise.
-/
def claimLayout : Layout where
  positionalFrom := -4
  positionalUntil := 16
  integralTail := ".0"
  exponentMark := "e"
  exponentWidth := 2
  nanText := "nan"
  infiniteText := "inf"

end Double
end RealmAuth
