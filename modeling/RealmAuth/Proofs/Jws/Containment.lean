import RealmAuth.Proofs.Jws.Exactness

namespace RealmAuth

/-!
What can come out of decoding besides claims.  Every check of a token refuses for a
fault of its own, and all faults are reported as refusals of the header or of the
token.  Two causes are no faults of any check and leave decoding as they are.  A
signing key has no operation that verifies, and an RSA algorithm asks it for one;
and a leeway may be too great for a double, which shows as soon as an expiry is
compared.
-/

/-- A refusal that the decoding of a token text is answered with. -/
inductive AuthError.OfDecoding : AuthError → Prop
  | header (cause : Cause) : OfDecoding (.headerDecode cause)
  | token (cause : Cause) : OfDecoding (.tokenDecode cause)

namespace Jws

open Outcome

/-- An algorithm that takes RSA keys. -/
def OfRsa (algorithm : Algorithm) : Prop :=
  algorithm.scheme = .rsaFixed ∨ algorithm.scheme = .rsaSalted

/-- A policy whose leeway has to be a double and is too great for one. -/
def LeewayBeyond (policy : Policy) : Prop :=
  ∃ seconds : Int, policy = ⟨.whole seconds, .binary⟩ ∧ Double.integerLimit ≤ seconds.natAbs

/-- A text that a key cannot decode by a policy, for a cause that is no fault of the text. -/
inductive Stuck [Platform] (policy : Policy) (text : String) : Rsa.Key → Prop
  /-- The text asks a signing key to verify. -/
  | signing (key : Rsa.PrivateKey) (parts : Parts) (written : parts.Of text)
      (attached : isDetached parts.header = false) (rsa : OfRsa parts.algorithm) :
      Stuck policy text (.signing key)
  /-- The text is signed, and has an expiry that cannot be compared. -/
  | leeway (key : Rsa.PublicKey) (claims : Json.Fields) (expiry : Int)
      (beyond : LeewayBeyond policy) (signed : Signed key text claims)
      (expires : Expires claims expiry) :
      Stuck policy text (.verifying key)

/-! ## The checks -/

/-- A check of verification that stops for a fault only. -/
def Contained {α : Type} (x : Except (Halt VerificationFault) α) : Prop :=
  Refuses (fun _ => True) x

theorem contained_checkAttached (header : Json.Fields) : Contained (checkAttached header) := by
  unfold checkAttached
  split
  · split
    · split <;> trivial
    · trivial
  · trivial

theorem checkLeeway_of_beyond {policy : Policy} (beyond : LeewayBeyond policy) :
    checkLeeway policy = escape .leewayRange := by
  rcases beyond with ⟨seconds, rfl, great⟩
  have infinite : ¬ (Double.ofInt seconds).toRatio?.isSome = true := by
    rw [Double.toRatio?_ofInt_isSome_iff]
    exact Nat.not_lt.2 great
  have none : (Double.ofInt seconds).toRatio?.isNone = true := by
    simpa using infinite
  unfold checkLeeway
  simp only [none, if_true]

theorem contained_checkLeeway {policy : Policy} (within : ¬ LeewayBeyond policy) :
    Contained (checkLeeway policy) := by
  unfold checkLeeway
  split
  · rename_i seconds precise chosen
    split
    · rename_i none
      refine absurd ⟨seconds, ?_, ?_⟩ within
      · rw [← chosen, ← precise]
      · apply Nat.not_lt.1
        rw [← Double.toRatio?_ofInt_isSome_iff]
        simpa using none
    · trivial
  · trivial
  · trivial

theorem contained_checkAudience (expected : List Json) (claims : Json.Fields) :
    Contained (checkAudience expected claims) := by
  unfold checkAudience
  simp only
  split
  · trivial
  · split
    · trivial
    · split <;> trivial

theorem contained_checkText (name : Text) (fault : VerificationFault) (claims : Json.Fields) :
    Contained (checkText name fault claims) := by
  unfold checkText
  split <;> trivial

variable [Platform]

/-- A verifying key either verifies or is refused, whatever the algorithm is. -/
theorem contained_checkSignature (key : Rsa.PublicKey) (parts : Parts) :
    Contained (checkSignature (.rsa (.verifying key)) parts) := by
  have decided : ∀ accepted : Bool, Contained (if accepted = true then pure () else
      refuse VerificationFault.signature : Except (Halt VerificationFault) Unit) := by
    intro accepted
    cases accepted <;> trivial
  unfold checkSignature
  cases parts.algorithm with
  | rsaFixed hash => exact decided _
  | rsaSalted hash =>
      simp only [ready, Algorithm.scheme, readyRsa, verify, ok_bind]
      by_cases room : key.holdsDigest hash
      · rw [if_pos room]
        exact decided _
      · rw [if_neg room]
        trivial
  | _ => trivial

/-- A signing key is stuck at the RSA algorithms and refused by all others. -/
theorem checkSignature_signing (key : Rsa.PrivateKey) (parts : Parts) :
    (OfRsa parts.algorithm ∧
      checkSignature (.rsa (.signing key)) parts = escape .missingOperation) ∨
    (¬ OfRsa parts.algorithm ∧
      ∃ fault, checkSignature (.rsa (.signing key)) parts = refuse fault) := by
  unfold checkSignature OfRsa
  cases parts.algorithm with
  | rsaFixed hash => exact Or.inl ⟨Or.inl rfl, rfl⟩
  | rsaSalted hash => exact Or.inl ⟨Or.inr rfl, rfl⟩
  | _ => exact Or.inr ⟨by simp [Algorithm.scheme], _, rfl⟩

theorem contained_checkExpiry {policy : Policy} {claims : Json.Fields} (now : Instant)
    (free : ∀ expiry, Expires claims expiry → ¬ LeewayBeyond policy) :
    Contained (checkExpiry policy now claims) := by
  by_cases expiring : ∃ expiry, Expires claims expiry
  · rcases expiring with ⟨expiry, expires⟩
    rw [checkExpiry_of_expires expires]
    apply (contained_checkLeeway (free expiry expires)).bind
    intro _ _
    split <;> trivial
  · unfold checkExpiry
    split
    · trivial
    · trivial
    · rename_i value other given
      split
      · trivial
      · rename_i expiry read
        exact absurd ⟨expiry, value, given, read⟩ expiring

theorem contained_checkClaims {policy : Policy} {claims : Json.Fields} (now : Instant)
    (expected : List Json) (free : ∀ expiry, Expires claims expiry → ¬ LeewayBeyond policy) :
    Contained (checkClaims policy now expected claims) := by
  unfold checkClaims
  apply (contained_checkExpiry now free).bind
  intro _ _
  apply (contained_checkAudience expected claims).bind
  intro _ _
  apply (contained_checkText ..).bind
  intro _ _
  exact contained_checkText ..

/-- Octets that are read, or not, are never a cause to leave decoding. -/
theorem contained_payload (octets : Octets) :
    Contained ((readObject VerificationFault.payloadText .payloadNotObject octets).mapError
      Halt.refused) := by
  cases readObject VerificationFault.payloadText .payloadNotObject octets <;> trivial

/-! ## Decoding -/

variable {policy : Policy} {key : Rsa.Key} {text : String}

/-- A key that a text does not leave stuck decodes it, or refuses its header or the text. -/
theorem refuses_decode (now : Instant) (expected : List Json) (free : ¬ Stuck policy text key) :
    Refuses AuthError.OfDecoding (decode policy now text (.rsa key) (.array expected)) := by
  have header : Refuses AuthError.OfDecoding (readHeader text) := by
    unfold readHeader
    simp only
    cases read text with
    | ok parts => trivial
    | error fault => exact .header _
  apply header.bind
  intro parts found
  have written := readHeader_eq_ok_iff.1 found
  suffices verified : Contained (verifyParts policy now (.rsa key) (.array expected) parts) from
    verified.mapError fun fault _ => .token _
  unfold verifyParts
  simp only [Json.items?]
  apply (contained_checkAttached parts.header).bind
  intro _ passed
  have attached := checkAttached_eq_ok_iff.1 passed
  cases key with
  | signing key =>
      rcases checkSignature_signing key parts with ⟨rsa, _⟩ | ⟨_, fault, refused⟩
      · exact absurd (.signing key parts written attached rsa) free
      · rw [refused]
        trivial
  | verifying key =>
      apply (contained_checkSignature key parts).bind
      intro _ verified
      unfold claimsOf
      apply (contained_payload parts.payload).bind
      intro claims object
      have signed : Signed key text claims :=
        ⟨parts, written, ⟨attached, checkSignature_eq_ok_iff.1 verified⟩,
          readObject_eq_ok_iff.1 (mapError_eq_ok_iff.1 object)⟩
      have within : ∀ expiry, Expires claims expiry → ¬ LeewayBeyond policy := by
        intro expiry expires beyond
        exact free (.leeway key claims expiry beyond signed expires)
      exact (contained_checkClaims now expected within).bind fun _ _ => trivial

/-- A signing key that is asked to verify lacks the operation, and decoding does not catch it. -/
theorem decode_of_signing {key : Rsa.PrivateKey} {parts : Parts} (now : Instant)
    (expected : List Json) (written : parts.Of text) (attached : isDetached parts.header = false)
    (rsa : OfRsa parts.algorithm) :
    decode policy now text (.rsa (.signing key)) (.array expected) = escape .missingOperation := by
  rcases checkSignature_signing key parts with ⟨_, stopped⟩ | ⟨other, _⟩
  · unfold decode verifyParts
    rw [readHeader_eq_ok_iff.2 written, ok_bind]
    simp only [Json.items?]
    rw [checkAttached_eq_ok_iff.2 attached, ok_bind, stopped]
    rfl
  · exact absurd rsa other

/-- A key that a text leaves stuck lets a cause out of decoding. -/
theorem decode_of_stuck (now : Instant) (expected : List Json) (stuck : Stuck policy text key) :
    ∃ cause, decode policy now text (.rsa key) (.array expected) = escape cause := by
  cases stuck with
  | signing key parts written attached rsa =>
      exact ⟨.missingOperation, decode_of_signing now expected written attached rsa⟩
  | leeway key claims expiry beyond signed expires =>
      refine ⟨.leewayRange, ?_⟩
      have stopped : checkExpiry policy now claims = escape .leewayRange := by
        rw [checkExpiry_of_expires expires, checkLeeway_of_beyond beyond]
        rfl
      exact decode_of_checkExpiry signed stopped

theorem refuses_decode_iff (now : Instant) (expected : List Json) :
    Refuses AuthError.OfDecoding (decode policy now text (.rsa key) (.array expected)) ↔
      ¬ Stuck policy text key := by
  constructor
  · intro bounded stuck
    rcases decode_of_stuck now expected stuck with ⟨cause, escaped⟩
    rw [escaped] at bounded
    exact bounded
  · exact refuses_decode now expected

/-- By the standard policy no text leaves a verifying key stuck. -/
theorem not_stuck_verifying (text : String) (key : Rsa.PublicKey) :
    ¬ Stuck .standard text (.verifying key) := by
  intro stuck
  cases stuck with
  | leeway _ claims expiry beyond signed expires =>
      rcases beyond with ⟨seconds, chosen, great⟩
      cases chosen
      have small : ¬ Double.integerLimit ≤ Int.natAbs 60 := by decide +kernel
      exact small great

/-- What is signed under some key leaves every signing key stuck, that of the signer included. -/
theorem stuck_of_signed {verifying : Rsa.PublicKey} {claims : Json.Fields}
    (signed : Signed verifying text claims) (signing : Rsa.PrivateKey) :
    Stuck policy text (.signing signing) := by
  rcases signed with ⟨parts, written, closed, _⟩
  have rsa : OfRsa parts.algorithm := by
    have signs := closed.signs
    revert signs
    unfold Rsa.PublicKey.Signs OfRsa
    cases parts.algorithm with
    | rsaFixed hash => exact fun _ => Or.inl rfl
    | rsaSalted hash => exact fun _ => Or.inr rfl
    | _ => exact False.elim
  exact .signing signing parts written closed.attached rsa

end Jws
end RealmAuth
