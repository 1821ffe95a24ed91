import RealmAuth.Number.Power

namespace RealmAuth
namespace Rsa

/-!
Powers modulo a number, by repeated squaring.
-/

def powMod (base exponent modulus : Nat) : Nat :=
  if exponent = 0 then 1 % modulus
  else
    let half := powMod (base * base % modulus) (exponent / 2) modulus
    if exponent % 2 = 1 then half * base % modulus else half
termination_by exponent

theorem powMod_eq (base exponent modulus : Nat) :
    powMod base exponent modulus = base ^ exponent % modulus := by
  fun_induction powMod base exponent modulus with
  | case1 base => simp
  | case2 base exponent nonzero half odd ih =>
      have split : exponent = 2 * (exponent / 2) + 1 := by omega
      simp only [half]
      rw [ih, ← Nat.pow_mod, Nat.mod_mul_mod]
      conv => rhs; rw [split, Nat.pow_succ, Nat.pow_mul, Nat.pow_two]
  | case3 base exponent nonzero half even ih =>
      have split : exponent = 2 * (exponent / 2) := by omega
      simp only [half]
      rw [ih, ← Nat.pow_mod]
      conv => rhs; rw [split, Nat.pow_mul, Nat.pow_two]

/-- The least common multiple of the group orders that two primes give. -/
def orderOf (p q : Nat) : Nat :=
  Nat.lcm (p - 1) (q - 1)

end Rsa
end RealmAuth
