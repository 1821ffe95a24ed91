import RealmAuth.Number.Power

namespace RealmAuth

/-!
Octet strings and the numbers they write, most significant octet first.
-/

/-- A string of octets. -/
abbrev Octets := List UInt8

namespace Octets

def toNat (octets : Octets) : Nat :=
  octets.foldl (fun value octet => value * 256 + octet.toNat) 0

def ofNat (width n : Nat) : Octets :=
  match width with
  | 0 => []
  | width + 1 => UInt8.ofNat (n / 256 ^ width) :: ofNat width n

@[simp] theorem length_ofNat (width n : Nat) : (ofNat width n).length = width := by
  induction width with
  | zero => rfl
  | succ width ih => simp [ofNat, ih]

theorem foldl_toNat (start : Nat) (octets : Octets) :
    octets.foldl (fun value octet => value * 256 + octet.toNat) start =
      start * 256 ^ octets.length + toNat octets := by
  induction octets generalizing start with
  | nil => simp [toNat]
  | cons octet octets ih =>
      simp only [List.foldl_cons, List.length_cons, toNat]
      rw [ih, ih (0 * 256 + octet.toNat)]
      rw [Nat.pow_succ, Nat.add_mul]
      simp only [Nat.zero_mul, Nat.zero_add]
      rw [Nat.mul_assoc, Nat.mul_comm 256, Nat.add_assoc]

theorem toNat_cons (octet : UInt8) (octets : Octets) :
    toNat (octet :: octets) = octet.toNat * 256 ^ octets.length + toNat octets := by
  simp [toNat, foldl_toNat octet.toNat octets]

/-- Octets write a number below the power of their count. -/
theorem toNat_lt (octets : Octets) : toNat octets < 256 ^ octets.length := by
  induction octets with
  | nil => decide
  | cons octet octets ih =>
      rw [toNat_cons, List.length_cons, Nat.pow_succ]
      have small := octet.toNat_lt
      calc
        octet.toNat * 256 ^ octets.length + toNat octets
            < octet.toNat * 256 ^ octets.length + 256 ^ octets.length := by omega
        _ = (octet.toNat + 1) * 256 ^ octets.length := by rw [Nat.add_mul, Nat.one_mul]
        _ ≤ 256 * 256 ^ octets.length := Nat.mul_le_mul_right _ (by omega)
        _ = 256 ^ octets.length * 256 := Nat.mul_comm _ _

def bitLength (n : Nat) : Nat :=
  if n = 0 then 0 else Nat.log2 n + 1

def byteLength (n : Nat) : Nat :=
  (bitLength n + 7) / 8

/-- Octets combined place by place with exclusive or. -/
def xor (a b : Octets) : Octets :=
  List.zipWith (· ^^^ ·) a b

end Octets
end RealmAuth
