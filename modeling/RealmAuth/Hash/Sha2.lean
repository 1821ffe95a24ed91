import RealmAuth.Octets
import RealmAuth.Rows

namespace RealmAuth
namespace Hash

/-!
The SHA-2 hash functions.  The two word sizes share one round function; they
differ in their rotations, in the number of rounds, and in how much of each
constant they keep.  SHA-384 is SHA-512 from other starting words, cut short.
-/

/-- The cube roots of the first eighty primes, behind the point. -/
def cubeRoots : List Nat :=
  [
    0x428a2f98d728ae22, 0x7137449123ef65cd, 0xb5c0fbcfec4d3b2f, 0xe9b5dba58189dbbc,
    0x3956c25bf348b538, 0x59f111f1b605d019, 0x923f82a4af194f9b, 0xab1c5ed5da6d8118,
    0xd807aa98a3030242, 0x12835b0145706fbe, 0x243185be4ee4b28c, 0x550c7dc3d5ffb4e2,
    0x72be5d74f27b896f, 0x80deb1fe3b1696b1, 0x9bdc06a725c71235, 0xc19bf174cf692694,
    0xe49b69c19ef14ad2, 0xefbe4786384f25e3, 0x0fc19dc68b8cd5b5, 0x240ca1cc77ac9c65,
    0x2de92c6f592b0275, 0x4a7484aa6ea6e483, 0x5cb0a9dcbd41fbd4, 0x76f988da831153b5,
    0x983e5152ee66dfab, 0xa831c66d2db43210, 0xb00327c898fb213f, 0xbf597fc7beef0ee4,
    0xc6e00bf33da88fc2, 0xd5a79147930aa725, 0x06ca6351e003826f, 0x142929670a0e6e70,
    0x27b70a8546d22ffc, 0x2e1b21385c26c926, 0x4d2c6dfc5ac42aed, 0x53380d139d95b3df,
    0x650a73548baf63de, 0x766a0abb3c77b2a8, 0x81c2c92e47edaee6, 0x92722c851482353b,
    0xa2bfe8a14cf10364, 0xa81a664bbc423001, 0xc24b8b70d0f89791, 0xc76c51a30654be30,
    0xd192e819d6ef5218, 0xd69906245565a910, 0xf40e35855771202a, 0x106aa07032bbd1b8,
    0x19a4c116b8d2d0c8, 0x1e376c085141ab53, 0x2748774cdf8eeb99, 0x34b0bcb5e19b48a8,
    0x391c0cb3c5c95a63, 0x4ed8aa4ae3418acb, 0x5b9cca4f7763e373, 0x682e6ff3d6b2b8a3,
    0x748f82ee5defb2fc, 0x78a5636f43172f60, 0x84c87814a1f0ab72, 0x8cc702081a6439ec,
    0x90befffa23631e28, 0xa4506cebde82bde9, 0xbef9a3f7b2c67915, 0xc67178f2e372532b,
    0xca273eceea26619c, 0xd186b8c721c0c207, 0xeada7dd6cde0eb1e, 0xf57d4f7fee6ed178,
    0x06f067aa72176fba, 0x0a637dc5a2c898a6, 0x113f9804bef90dae, 0x1b710b35131c471b,
    0x28db77f523047d84, 0x32caab7b40c72493, 0x3c9ebe0a15c9bebc, 0x431d67c49c100d4c,
    0x4cc5d4becb3e42b6, 0x597f299cfc657e2a, 0x5fcb6fab3ad6faec, 0x6c44198c4a475817]

/-- The square roots of the first eight primes, behind the point. -/
def squareRoots : List Nat :=
  [
    0x6a09e667f3bcc908, 0xbb67ae8584caa73b, 0x3c6ef372fe94f82b, 0xa54ff53a5f1d36f1,
    0x510e527fade682d1, 0x9b05688c2b3e6c1f, 0x1f83d9abfb41bd6b, 0x5be0cd19137e2179]

/-- The square roots of the next eight primes, behind the point. -/
def laterSquareRoots : List Nat :=
  [
    0xcbbb9d5dc1059ed8, 0x629a292a367cd507, 0x9159015a3070dd17, 0x152fecd8f70e5939,
    0x67332667ffc00b31, 0x8eb44a8768581511, 0xdb0c2e0d64f98fa7, 0x47b5481dbefa4fa4]

/-- Three amounts of a mixing function: two rotations, then a rotation or a shift. -/
structure Amounts where
  first : Nat
  second : Nat
  third : Nat

/-- What the round function takes from the word size `w`. -/
structure Rounds (w : Nat) where
  /-- One constant for each round. -/
  constants : List (BitVec w)
  /-- Mixing of the first working word. -/
  upper : Amounts
  /-- Mixing of the fifth working word. -/
  lower : Amounts
  /-- Mixing of the word fifteen places back in the schedule. -/
  far : Amounts
  /-- Mixing of the word two places back in the schedule. -/
  near : Amounts

def narrow : Rounds 32 where
  constants := (cubeRoots.take 64).map fun root => BitVec.ofNat 32 (root / 2 ^ 32)
  upper := ⟨2, 13, 22⟩
  lower := ⟨6, 11, 25⟩
  far := ⟨7, 18, 3⟩
  near := ⟨17, 19, 10⟩

def wide : Rounds 64 where
  constants := cubeRoots.map (BitVec.ofNat 64)
  upper := ⟨28, 34, 39⟩
  lower := ⟨14, 18, 41⟩
  far := ⟨1, 8, 7⟩
  near := ⟨19, 61, 6⟩

variable {w : Nat}

def Amounts.turn (amounts : Amounts) (x : BitVec w) : BitVec w :=
  x.rotateRight amounts.first ^^^ x.rotateRight amounts.second ^^^ x.rotateRight amounts.third

def Amounts.shift (amounts : Amounts) (x : BitVec w) : BitVec w :=
  x.rotateRight amounts.first ^^^ x.rotateRight amounts.second ^^^ (x >>> amounts.third)

/-- The eight working words. -/
structure Chain (w : Nat) where
  a : BitVec w
  b : BitVec w
  c : BitVec w
  d : BitVec w
  e : BitVec w
  f : BitVec w
  g : BitVec w
  h : BitVec w

def Chain.words (s : Chain w) : List (BitVec w) :=
  [s.a, s.b, s.c, s.d, s.e, s.f, s.g, s.h]

def Chain.ofList (words : List (BitVec w)) : Chain w :=
  let word i := words.getD i 0
  ⟨word 0, word 1, word 2, word 3, word 4, word 5, word 6, word 7⟩

def Chain.add (s t : Chain w) : Chain w :=
  ⟨s.a + t.a, s.b + t.b, s.c + t.c, s.d + t.d, s.e + t.e, s.f + t.f, s.g + t.g, s.h + t.h⟩

/-- One round with its constant and its schedule word. -/
def Rounds.step (rounds : Rounds w) (s : Chain w) (input : BitVec w × BitVec w) : Chain w :=
  let choice := (s.e &&& s.f) ^^^ (~~~s.e &&& s.g)
  let majority := (s.a &&& s.b) ^^^ (s.a &&& s.c) ^^^ (s.b &&& s.c)
  let first := s.h + rounds.lower.turn s.e + choice + input.1 + input.2
  let second := rounds.upper.turn s.a + majority
  ⟨first + second, s.a, s.b, s.c, s.d + first, s.e, s.f, s.g⟩

/-- The next `count` words of the schedule, from the sixteen words before them. -/
def Rounds.schedule (rounds : Rounds w) : Nat → List (BitVec w) → List (BitVec w)
  | 0, _ => []
  | count + 1, window =>
      let word i := window.getD i 0
      let next := rounds.near.shift (word 14) + word 9 + rounds.far.shift (word 1) + word 0
      word 0 :: rounds.schedule count (window.drop 1 ++ [next])

def Rounds.absorb (rounds : Rounds w) (s : Chain w) (block : List (BitVec w)) : Chain w :=
  let schedule := rounds.schedule rounds.constants.length block
  s.add ((rounds.constants.zip schedule).foldl rounds.step s)

/-- A message up to a whole number of blocks: a mark, zeros, and the count of its bits. -/
def padMessage (w : Nat) (message : Octets) : Octets :=
  let tail := w / 4
  let block := w * 2
  let zeros := (block - (message.length + 1 + tail) % block) % block
  message ++ 0x80 :: (List.replicate zeros 0 ++ Octets.ofNat tail (message.length * 8))

def Rounds.run (rounds : Rounds w) (start : Chain w) (message : Octets) : Chain w :=
  let words := (rows (w / 8 - 1) (padMessage w message)).map fun octets =>
    BitVec.ofNat w (Octets.toNat octets)
  (rows 15 words).foldl rounds.absorb start

def wordOctets (words : List (BitVec w)) : Octets :=
  words.flatMap fun word => Octets.ofNat (w / 8) word.toNat

end Hash

/-- The hash functions of the signature algorithms. -/
inductive Sha2 where
  | sha256
  | sha384
  | sha512
  deriving DecidableEq

namespace Sha2

open Hash

def size : Sha2 → Nat
  | sha256 => 32
  | sha384 => 48
  | sha512 => 64

def blockSize : Sha2 → Nat
  | sha256 => 64
  | sha384 => 128
  | sha512 => 128

def digest (hash : Sha2) (message : Octets) : Octets :=
  match hash with
  | sha256 =>
      let start := squareRoots.map fun root => BitVec.ofNat 32 (root / 2 ^ 32)
      wordOctets (narrow.run (Chain.ofList start) message).words
  | sha384 =>
      let start := laterSquareRoots.map (BitVec.ofNat 64)
      wordOctets ((wide.run (Chain.ofList start) message).words.take 6)
  | sha512 =>
      let start := squareRoots.map (BitVec.ofNat 64)
      wordOctets (wide.run (Chain.ofList start) message).words

end Sha2
end RealmAuth
