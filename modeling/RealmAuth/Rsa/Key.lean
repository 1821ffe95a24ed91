import RealmAuth.Octets
import RealmAuth.Rsa.Prime

namespace RealmAuth
namespace Rsa

/-!
RSA keys.  The numbers of a public key keep to a range; those of a private key have
to belong together.
-/

/-- A key that verifies signatures. -/
structure PublicKey where
  modulus : Nat
  exponent : Nat
  deriving DecidableEq

def PublicKey.bits (key : PublicKey) : Nat :=
  Octets.bitLength key.modulus

def PublicKey.size (key : PublicKey) : Nat :=
  Octets.byteLength key.modulus

/-- Whether the numbers of a public key are in the range that public keys have to keep. -/
def PublicKey.inRange (key : PublicKey) : Bool :=
  3 ≤ key.modulus && 3 ≤ key.exponent && key.exponent < key.modulus && key.exponent % 2 == 1

/-- The two primes of a private key and the values that shorten its computations. -/
structure Factors where
  p : Nat
  q : Nat
  /-- The private exponent modulo `p - 1`. -/
  dp : Nat
  /-- The private exponent modulo `q - 1`. -/
  dq : Nat
  /-- The inverse of `q` modulo `p`. -/
  qInverse : Nat

/-- A key that makes signatures. -/
structure PrivateKey where
  publicKey : PublicKey
  exponent : Nat
  p : Nat
  q : Nat

/-- Whether the primes and both exponents of a private key belong together. -/
def PrivateKey.consistent (key : PrivateKey) : Bool :=
  3 ≤ key.publicKey.exponent && key.publicKey.exponent % 2 == 1 &&
    key.p * key.q == key.publicKey.modulus &&
    key.p % 2 == 1 && key.q % 2 == 1 && isPrime key.p && isPrime key.q && key.p != key.q &&
    key.exponent * key.publicKey.exponent % orderOf key.p key.q == 1

/-- Whether both exponents of a private key are in the range that key entries have to keep. -/
def PrivateKey.inRange (key : PrivateKey) : Bool :=
  key.publicKey.inRange && key.exponent < key.publicKey.modulus

/-- Whether the shortening values agree with a private exponent. -/
def Factors.agree (factors : Factors) (exponent : Nat) : Bool :=
  factors.dp == exponent % (factors.p - 1) && factors.dq == exponent % (factors.q - 1) &&
    factors.qInverse < factors.p && factors.qInverse * factors.q % factors.p == 1

def PrivateKey.ofFactors? (publicKey : PublicKey) (exponent : Nat) (factors : Factors) :
    Option PrivateKey :=
  let key : PrivateKey := ⟨publicKey, exponent, factors.p, factors.q⟩
  if key.consistent && factors.agree exponent then some key else none

/-- A factor of the modulus that one base reveals: a square root of one that is not trivial. -/
def factorFrom? (modulus count rest base : Nat) : Option Nat :=
  let roots := squares modulus count (powMod base rest modulus)
  (roots.find? fun root => root != 1 && root != modulus - 1 && root * root % modulus == 1).map
    fun root => Nat.gcd (root + 1) modulus

/-- The private key of two exponents; the primes are found from them. -/
def PrivateKey.ofExponents? (publicKey : PublicKey) (exponent : Nat) : Option PrivateKey := do
  let product := exponent * publicKey.exponent
  if exponent ≤ 1 ∨ publicKey.exponent ≤ 1 ∨ publicKey.modulus ≤ 17 then none
  else if powMod 17 product publicKey.modulus ≠ 17 then none
  else
    let (count, rest) := halvings (product - 1)
    let factor ← bases.findSome? (factorFrom? publicKey.modulus count rest)
    let key : PrivateKey := ⟨publicKey, exponent, factor, publicKey.modulus / factor⟩
    if key.consistent then some key else none

/-- What a key document holds. -/
inductive Key where
  | verifying (key : PublicKey)
  | signing (key : PrivateKey)

def Key.publicKey : Key → PublicKey
  | verifying key => key
  | signing key => key.publicKey

def Key.isPrivate : Key → Bool
  | verifying _ => false
  | signing _ => true

end Rsa
end RealmAuth
