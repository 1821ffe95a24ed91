import RealmAuth.Octets
import RealmAuth.Rsa.Modular

namespace RealmAuth

/-!
Elliptic curves over the residues of a prime, and the points that keys are made
of.  A private key is a multiplier; its public key is that multiple of the base
point of the curve.
-/

/-- The curve `y ^ 2 = x ^ 3 + a x + b` modulo a prime, with a base point. -/
structure Curve where
  prime : Nat
  a : Nat
  b : Nat
  baseX : Nat
  baseY : Nat
  /-- How often the base point is added to itself until nothing is left. -/
  order : Nat
  /-- The octets that the second coefficient was derived from, where they are known. -/
  seed : Octets

namespace Curve

/-- A point of a curve; none is the point at infinity. -/
abbrev Point := Option (Nat × Nat)

def base (curve : Curve) : Point := some (curve.baseX, curve.baseY)

def width (curve : Curve) : Nat := Octets.byteLength curve.prime

def inverse (curve : Curve) (n : Nat) : Nat :=
  Rsa.powMod n (curve.prime - 2) curve.prime

def minus (curve : Curve) (m n : Nat) : Nat :=
  (m + (curve.prime - n % curve.prime)) % curve.prime

/-- The third point on a line of given slope through two points, mirrored. -/
def reflected (curve : Curve) (slope x₁ y₁ x₂ : Nat) : Point :=
  let x := curve.minus (slope * slope) (x₁ + x₂)
  some (x, curve.minus (slope * curve.minus x₁ x) y₁)

def add (curve : Curve) : Point → Point → Point
  | none, other => other
  | point, none => point
  | some (x₁, y₁), some (x₂, y₂) =>
      if x₁ ≠ x₂ then
        let slope := curve.minus y₂ y₁ * curve.inverse (curve.minus x₂ x₁) % curve.prime
        curve.reflected slope x₁ y₁ x₂
      else if (y₁ + y₂) % curve.prime = 0 then none
      else
        let slope := (3 * x₁ * x₁ + curve.a) * curve.inverse (2 * y₁ % curve.prime) % curve.prime
        curve.reflected slope x₁ y₁ x₂

def multiple (curve : Curve) (n : Nat) (point : Point) : Point :=
  if n = 0 then none
  else
    let half := curve.multiple (n / 2) (curve.add point point)
    if n % 2 = 1 then curve.add half point else half
termination_by n

/-- The square of the ordinate of a point with a given abscissa. -/
def ordinateSquare (curve : Curve) (x : Nat) : Nat :=
  (x * x * x + curve.a * x + curve.b) % curve.prime

def isSquare (curve : Curve) (n : Nat) : Bool :=
  Rsa.powMod n ((curve.prime - 1) / 2) curve.prime ≤ 1

/-- How octets write a point, by the first of them. -/
inductive Form where
  /-- The abscissa alone, with a bit of the ordinate. -/
  | compressed (odd : Bool)
  /-- Both coordinates. -/
  | full
  /-- Both coordinates, and the bit of the ordinate besides. -/
  | hybrid (odd : Bool)

def form? (octet : UInt8) : Option Form :=
  match octet.toNat with
  | 2 => some (.compressed false)
  | 3 => some (.compressed true)
  | 4 => some .full
  | 6 => some (.hybrid false)
  | 7 => some (.hybrid true)
  | _ => none

/-- Whether octets write a point of the curve other than the one at infinity. -/
def isPoint (curve : Curve) : Octets → Bool
  | [] => false
  | first :: rest =>
      let x := Octets.toNat (rest.take curve.width)
      let y := Octets.toNat (rest.drop curve.width)
      let square := curve.ordinateSquare x
      let isFull :=
        rest.length == 2 * curve.width && x < curve.prime && y < curve.prime &&
          y * y % curve.prime == square
      match form? first with
      | none => false
      | some .full => isFull
      | some (.hybrid odd) => isFull && (y % 2 == 1) == odd
      | some (.compressed _) =>
          rest.length == curve.width && x < curve.prime && curve.isSquare square

def writes (curve : Curve) : Point → Octets → Bool
  | none, _ => false
  | _, [] => false
  | some (x, y), first :: rest =>
      let inFull := rest == Octets.ofNat curve.width x ++ Octets.ofNat curve.width y
      match form? first with
      | none => false
      | some .full => inFull
      | some (.hybrid odd) => inFull && (y % 2 == 1) == odd
      | some (.compressed odd) => rest == Octets.ofNat curve.width x && (y % 2 == 1) == odd

def baseOctets (curve : Curve) : Octets :=
  0x04 :: (Octets.ofNat curve.width curve.baseX ++ Octets.ofNat curve.width curve.baseY)

/-- Whether octets write a private key in full width: a multiplier below the order. -/
def isMultiplier (curve : Curve) (octets : Octets) : Bool :=
  let n := Octets.toNat octets
  octets.length == Octets.byteLength curve.order && 0 < n && n < curve.order

def publicPoint (curve : Curve) (octets : Octets) : Point :=
  curve.multiple (Octets.toNat octets) curve.base

end Curve
end RealmAuth
