import RealmAuth.Octets

namespace RealmAuth
namespace Base64

/-!
The sextets behind every base 64 form.  Three octets are four sextets; one or
two octets at the end are two or three sextets whose spare bits are zero.  The
two alphabets differ in the letters of the last two sextets.
-/

/-- The letters of the sextets 62 and 63. -/
structure Alphabet where
  sixtyTwo : Char
  sixtyThree : Char

def standard : Alphabet := ⟨'+', '/'⟩

def url : Alphabet := ⟨'-', '_'⟩

def pad : Char := '='

def Alphabet.sextet? (alphabet : Alphabet) (c : Char) : Option Nat :=
  let n := c.toNat
  if 65 ≤ n ∧ n ≤ 90 then some (n - 65)
  else if 97 ≤ n ∧ n ≤ 122 then some (n - 71)
  else if 48 ≤ n ∧ n ≤ 57 then some (n + 4)
  else if c = alphabet.sixtyTwo then some 62
  else if c = alphabet.sixtyThree then some 63
  else none

def Alphabet.letter (alphabet : Alphabet) (sextet : Nat) : Char :=
  if sextet < 26 then Char.ofNat (sextet + 65)
  else if sextet < 52 then Char.ofNat (sextet + 71)
  else if sextet < 62 then Char.ofNat (sextet - 4)
  else if sextet = 62 then alphabet.sixtyTwo
  else alphabet.sixtyThree

/-- The octets of sextets; spare bits have to be zero and a single sextet is none. -/
def octets? : List Nat → Option Octets
  | [] => some []
  | [_] => none
  | [a, b] =>
      if b % 16 = 0 then some [UInt8.ofNat (a * 4 + b / 16)] else none
  | [a, b, c] =>
      if c % 4 = 0 then
        some [UInt8.ofNat (a * 4 + b / 16), UInt8.ofNat (b % 16 * 16 + c / 4)]
      else none
  | a :: b :: c :: d :: rest =>
      (octets? rest).map fun octets =>
        UInt8.ofNat (a * 4 + b / 16) :: UInt8.ofNat (b % 16 * 16 + c / 4) ::
          UInt8.ofNat (c % 4 * 64 + d) :: octets

def sextets : Octets → List Nat
  | [] => []
  | [x] => [x.toNat / 4, x.toNat % 4 * 16]
  | [x, y] => [x.toNat / 4, x.toNat % 4 * 16 + y.toNat / 16, y.toNat % 16 * 4]
  | x :: y :: z :: rest =>
      x.toNat / 4 :: (x.toNat % 4 * 16 + y.toNat / 16) :: (y.toNat % 16 * 4 + z.toNat / 64) ::
        z.toNat % 64 :: sextets rest

theorem octets?_sextets (octets : Octets) : octets? (sextets octets) = some octets := by
  have back : ∀ (x : UInt8) (n : Nat), n = x.toNat → UInt8.ofNat n = x := by
    intro x n h
    subst h
    simp
  fun_induction sextets octets with
  | case1 => rfl
  | case2 x =>
      have := x.toNat_lt
      simp only [octets?]
      rw [if_pos (by omega)]
      simp only [Option.some.injEq, List.cons.injEq, and_true]
      exact back x _ (by omega)
  | case3 x y =>
      have := x.toNat_lt
      have := y.toNat_lt
      simp only [octets?]
      rw [if_pos (by omega)]
      simp only [Option.some.injEq, List.cons.injEq, and_true]
      exact ⟨back x _ (by omega), back y _ (by omega)⟩
  | case4 x y z rest ih =>
      have := x.toNat_lt
      have := y.toNat_lt
      have := z.toNat_lt
      simp only [octets?, ih, Option.map_some, Option.some.injEq, List.cons.injEq, and_true]
      exact ⟨back x _ (by omega), back y _ (by omega), back z _ (by omega)⟩

/-- A text without its padding, at most two letters of it, and their number. -/
def unpad (cs : List Char) : List Char × Nat :=
  match cs.reverse with
  | a :: b :: rest =>
      if a = pad then
        if b = pad then (rest.reverse, 2) else ((b :: rest).reverse, 1)
      else (cs, 0)
  | [a] => if a = pad then ([], 1) else (cs, 0)
  | [] => (cs, 0)

def Alphabet.letters? (alphabet : Alphabet) (cs : List Char) : Option Octets :=
  (cs.mapM alphabet.sextet?).bind octets?

/-- The octets of a text that has to be padded to full groups of four. -/
def Alphabet.padded? (alphabet : Alphabet) (cs : List Char) : Option Octets :=
  if cs.length % 4 = 0 then alphabet.letters? (unpad cs).1 else none

/-- The octets of a text that is padded to full groups of four or not at all. -/
def Alphabet.decode? (alphabet : Alphabet) (cs : List Char) : Option Octets :=
  if (unpad cs).2 = 0 then alphabet.letters? cs else alphabet.padded? cs

def Alphabet.encode (alphabet : Alphabet) (octets : Octets) : List Char :=
  (sextets octets).map alphabet.letter

end Base64
end RealmAuth
