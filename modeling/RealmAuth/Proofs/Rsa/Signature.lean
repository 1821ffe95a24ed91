import RealmAuth.Jws.Algorithm
import RealmAuth.Rsa.Signature

namespace RealmAuth
namespace Rsa

/-!
What it means for a signature to be valid.  Verification works on octet strings
of fixed sizes; here they are numbers again, and opening a signature is raising
it to the power of the key.  A key is of use for two families of algorithms, and
under an algorithm of any other family no signature is valid.
-/

theorem lt_pow_byteLength (n : Nat) : n < 256 ^ Octets.byteLength n := by
  have base : (256 : Nat) = 2 ^ 8 := by decide
  rw [Octets.byteLength, Octets.bitLength, base, ← Nat.pow_mul]
  split
  · rename_i zero
    subst zero
    decide
  · calc
      n < 2 ^ (Nat.log2 n + 1) := Nat.lt_log2_self
      _ ≤ 2 ^ (8 * ((Nat.log2 n + 1 + 7) / 8)) := Nat.pow_le_pow_right (by decide) (by omega)

theorem toNat_ofNat (width n : Nat) : Octets.toNat (Octets.ofNat width n) = n % 256 ^ width := by
  induction width with
  | zero => simp [Octets.ofNat, Octets.toNat, Nat.mod_one]
  | succ width ih =>
      have octet : (UInt8.ofNat (n / 256 ^ width)).toNat = n / 256 ^ width % 256 := by
        simp
      rw [Octets.ofNat, Octets.toNat_cons, ih, Octets.length_ofNat, octet, Nat.pow_succ,
        Nat.mod_mul, Nat.mul_comm, Nat.add_comm]

/-- Octet strings of one length that write the same number are the same. -/
theorem toNat_injective {a b : Octets} (length : a.length = b.length)
    (same : Octets.toNat a = Octets.toNat b) : a = b := by
  induction a generalizing b with
  | nil =>
      cases b with
      | nil => rfl
      | cons y b => simp at length
  | cons x a ih =>
      cases b with
      | nil => simp at length
      | cons y b =>
          simp only [List.length_cons, Nat.add_right_cancel_iff] at length
          rw [Octets.toNat_cons, Octets.toNat_cons, length] at same
          have boundA : Octets.toNat a < 256 ^ b.length := length ▸ Octets.toNat_lt a
          have boundB := Octets.toNat_lt b
          have positive : 0 < 256 ^ b.length := Nat.pow_pos (by decide)
          have first : x.toNat = y.toNat := by
            have quotients := congrArg (· / 256 ^ b.length) same
            simp only [Nat.mul_comm _ (256 ^ b.length), Nat.mul_add_div positive,
              Nat.div_eq_of_lt boundA, Nat.div_eq_of_lt boundB, Nat.add_zero] at quotients
            exact quotients
          have rest : Octets.toNat a = Octets.toNat b := by
            rw [first] at same
            exact Nat.add_left_cancel same
          rw [UInt8.toNat_inj.1 first, ih length rest]

namespace PublicKey

variable {key : PublicKey} {hash : Sha2} {message signature encoded : Octets}

/-- The encoded message that a signature is opened to: its power, as an octet string. -/
structure Opens (key : PublicKey) (signature encoded : Octets) : Prop where
  usable : key.usable
  below : Octets.toNat signature < key.modulus
  length : encoded.length = key.size
  power : Octets.toNat encoded = Octets.toNat signature ^ key.exponent % key.modulus

theorem open?_eq_some_iff : key.open? signature = some encoded ↔ key.Opens signature encoded := by
  have fits : Octets.toNat signature < key.modulus →
      Octets.toNat (Octets.ofNat key.size
        (powMod (Octets.toNat signature) key.exponent key.modulus)) =
        Octets.toNat signature ^ key.exponent % key.modulus := by
    intro below
    have positive : 0 < key.modulus := by omega
    rw [toNat_ofNat, powMod_eq]
    apply Nat.mod_eq_of_lt
    exact Nat.lt_trans (Nat.mod_lt _ positive) (lt_pow_byteLength key.modulus)
  unfold open?
  simp only
  constructor
  · intro found
    split at found
    · rename_i able
      cases found
      exact ⟨able.1, able.2, Octets.length_ofNat .., fits able.2⟩
    · cases found
  · intro given
    rcases given with ⟨usable, below, length, power⟩
    rw [if_pos ⟨usable, below⟩, Option.some.injEq]
    apply toNat_injective
    · rw [Octets.length_ofNat, length]
    · rw [fits below, power]

/-- A signature has the deterministic encoding of a message. -/
def SignsFixed (key : PublicKey) (hash : Sha2) (message signature : Octets) : Prop :=
  signature.length = key.size ∧
    ∃ encoded, key.Opens signature encoded ∧ fixedEncoding? hash key.size message = some encoded

/-- A signature has a salted encoding of a message, and the key has room for one. -/
def SignsSalted (key : PublicKey) (hash : Sha2) (message signature : Octets) : Prop :=
  hash.size + 2 ≤ key.size ∧ signature.length ≤ key.size ∧
    ∃ encoded, key.Opens signature encoded ∧ saltedEncodes hash key.bits message encoded

theorem verifyFixed_iff :
    key.verifyFixed hash message signature = true ↔ key.SignsFixed hash message signature := by
  rw [verifyFixed, SignsFixed, Bool.and_eq_true, beq_iff_eq]
  apply and_congr_right
  intro length
  constructor
  · intro accepted
    split at accepted
    · rename_i opened expected found encoding
      rw [beq_iff_eq] at accepted
      exact ⟨opened, open?_eq_some_iff.1 found, by rw [encoding, accepted]⟩
    · cases accepted
  · intro given
    rcases given with ⟨encoded, opens, encoding⟩
    rw [open?_eq_some_iff.2 opens, encoding]
    exact beq_self_eq_true encoded

theorem verifySalted_iff :
    (key.holdsDigest hash = true ∧ key.verifySalted hash message signature = true) ↔
      key.SignsSalted hash message signature := by
  unfold verifySalted SignsSalted holdsDigest
  rw [Bool.and_eq_true, decide_eq_true_iff, decide_eq_true_iff]
  apply and_congr_right
  intro room
  apply and_congr_right
  intro length
  constructor
  · intro accepted
    split at accepted
    · rename_i encoded found
      exact ⟨encoded, open?_eq_some_iff.1 found, accepted⟩
    · cases accepted
  · intro given
    rcases given with ⟨encoded, opens, salted⟩
    rw [open?_eq_some_iff.2 opens]
    exact salted

/-- A signature is valid under an RSA key; the algorithms of other families have no such key. -/
def Signs (key : PublicKey) (algorithm : Algorithm) (message signature : Octets) : Prop :=
  match algorithm with
  | .rsaFixed hash => key.SignsFixed hash message signature
  | .rsaSalted hash => key.SignsSalted hash message signature
  | _ => False

end PublicKey
end Rsa
end RealmAuth
