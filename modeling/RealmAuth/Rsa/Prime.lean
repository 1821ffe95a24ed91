import RealmAuth.Rsa.Modular

namespace RealmAuth
namespace Rsa

/-!
Primality by repeated squaring.  The bases are small primes and a scattered
sequence that is drawn from the number itself, so the answer for a number never
changes; a prime passes at every base, and a composite number passes at most at
a quarter of all bases.
-/

def bases : List Nat :=
  [
    2, 3, 5, 7, 11, 13, 17, 19, 23, 29, 31, 37, 41, 43, 47, 53, 59, 61, 67, 71,
    73, 79, 83, 89, 97, 101, 103, 107, 109, 113, 127, 131, 137, 139, 149, 151, 157, 163, 167, 173
  ]

/-- How often two divides a number, and what is left. -/
def halvings (n : Nat) : Nat × Nat :=
  if n = 0 ∨ n % 2 = 1 then (0, n)
  else
    let (count, rest) := halvings (n / 2)
    (count + 1, rest)
termination_by n

def squares (modulus : Nat) : Nat → Nat → List Nat
  | 0, _ => []
  | count + 1, x => x :: squares modulus count (x * x % modulus)

def passes (n base : Nat) : Bool :=
  let (count, rest) := halvings (n - 1)
  let start := powMod base rest n
  start == 1 || (squares n count start).contains (n - 1)

def scatteredCount : Nat := 24

def scatterFactor : Nat := 6364136223846793005

def scatterStep : Nat := 1442695040888963407

/-- The next `count` scattered bases after one of them. -/
def scattered (n : Nat) : Nat → Nat → List Nat
  | 0, _ => []
  | count + 1, base =>
      let following := (base * scatterFactor + scatterStep) % n
      following :: scattered n count following

/-- Whether a number looks prime from a base that it does not divide. -/
def acceptsBase (n base : Nat) : Bool :=
  base % n == 0 || passes n base

def isPrime (n : Nat) : Bool :=
  if bases.contains n then true
  else
    1 < n && (bases.all fun base => n % base != 0) && bases.all (passes n) &&
      (scattered n scatteredCount (n / 3)).all (acceptsBase n)

end Rsa
end RealmAuth
