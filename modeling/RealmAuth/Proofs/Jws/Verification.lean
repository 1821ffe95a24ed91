import RealmAuth.Jws.Decoder
import RealmAuth.Proofs.Jws.Header
import RealmAuth.Proofs.Rsa.Signature

namespace RealmAuth
namespace Jws

/-!
What verification establishes.  A token is signed if its parts carry a payload and
a signature of it that is valid under the key by the algorithm of the header; this
does not depend on the clock.  The claims in the payload are then in order, or
not, whatever the signature is.  Decoding succeeds exactly when both hold, and its
result is the payload itself.
-/

variable [Platform]

/-! ## The signature -/

/-- The parts of a token that carries its payload and a valid signature of it. -/
structure Sealed (key : Rsa.PublicKey) (parts : Parts) : Prop where
  attached : isDetached parts.header = false
  signs : key.Signs parts.algorithm parts.signed parts.signature

/-- A token that is signed under a key, and the claims in its payload. -/
def Signed (key : Rsa.PublicKey) (token : Text) (claims : Json.Fields) : Prop :=
  ∃ parts : Parts, parts.Of token ∧ Sealed key parts ∧
    Json.readOctets? parts.payload = some (.object claims)

omit [Platform] in
theorem checkAttached_eq_ok_iff {header : Json.Fields} :
    checkAttached header = .ok () ↔ isDetached header = false := by
  unfold checkAttached
  cases detached : isDetached header with
  | false => simp
  | true =>
      simp only [if_true, reduceCtorEq, iff_false]
      split
      · split <;> exact Outcome.refuse_ne_ok
      · exact Outcome.refuse_ne_ok

/-- An RSA key is made ready for the RSA algorithms only, and then its signatures are judged. -/
theorem checkSignature_eq_ok_iff {key : Rsa.PublicKey} {parts : Parts} :
    checkSignature (.rsa (.verifying key)) parts = .ok () ↔
      key.Signs parts.algorithm parts.signed parts.signature := by
  have decided : ∀ accepted : Bool,
      (if accepted = true then pure () else refuse VerificationFault.signature :
        Except (Halt VerificationFault) Unit) = .ok () ↔ accepted = true := by
    intro accepted
    cases accepted
    · simp
    · simp [pure, Except.pure]
  unfold checkSignature
  cases algorithm : parts.algorithm with
  | rsaFixed hash =>
      simp only [ready, Algorithm.scheme, readyRsa, verify, Outcome.ok_bind, decided]
      exact Rsa.PublicKey.verifyFixed_iff
  | rsaSalted hash =>
      simp only [ready, Algorithm.scheme, readyRsa, verify, Outcome.ok_bind]
      rw [Rsa.PublicKey.Signs, ← Rsa.PublicKey.verifySalted_iff]
      by_cases room : key.holdsDigest hash
      · simp only [room, if_true, Outcome.ok_bind, decided, true_and]
      · simp [room, refuse]
  | secret hash => simp [ready, Algorithm.scheme, readySecret, refuse, Rsa.PublicKey.Signs]
  | edDsa => simp [ready, Algorithm.scheme, readyEdwards, refuse, Rsa.PublicKey.Signs]
  | _ => simp [ready, Algorithm.scheme, readyCurve, refuse, Rsa.PublicKey.Signs]

/-! ## The claims -/

/-- The second up to which claims say that their token is of use. -/
def Expires (claims : Json.Fields) (expiry : Int) : Prop :=
  ∃ value, claims.get? "exp" = some value ∧ expiryOf? value = some expiry

/-- An expiry is not past by a policy that can compare it with the clock. -/
def Lasts (policy : Policy) (now : Instant) (expiry : Int) : Prop :=
  checkLeeway policy = .ok () ∧ isPast policy now expiry = false

/-- Claims name one of the expected audiences, as a text or among texts. -/
inductive Addressed (expected : List Text) (claims : Json.Fields) : Prop where
  | one (name : Text) (given : claims.get? "aud" = some (.string name)) (nonempty : name ≠ .plain "")
      (member : name ∈ expected)
  | many (names : List Text) (given : claims.get? "aud" = some (.array (names.map .string)))
      (name : Text) (named : name ∈ names) (member : name ∈ expected)

/-- A claim is a text, if it is there at all. -/
def TextIfAny (name : Text) (claims : Json.Fields) : Prop :=
  ∀ value, claims.get? name = some value → ∃ text, value = .string text

omit [Platform] in
theorem textIfAny_of_get? {name text : Text} {claims : Json.Fields}
    (given : claims.get? name = some (.string text)) : TextIfAny name claims := by
  intro value found
  rw [given, Option.some.injEq] at found
  exact ⟨text, found.symm⟩

/-- The claims that verification looks at are in order. -/
structure InOrder (policy : Policy) (now : Instant) (expected : List Text)
    (claims : Json.Fields) : Prop where
  current : ∃ expiry, Expires claims expiry ∧ Lasts policy now expiry
  addressed : Addressed expected claims
  subject : TextIfAny "sub" claims
  identifier : TextIfAny "jti" claims

/-- The expiry of claims is compared with the clock, if there is one at all. -/
theorem checkExpiry_of_expires {policy : Policy} {now : Instant} {claims : Json.Fields}
    {expiry : Int} (expires : Expires claims expiry) :
    checkExpiry policy now claims =
      checkLeeway policy >>= fun _ =>
        if isPast policy now expiry then refuse .expired else .ok () := by
  rcases expires with ⟨value, given, read⟩
  unfold checkExpiry
  cases value with
  | null => simp [expiryOf?] at read
  | _ =>
      simp only [given, read]
      congr 1

theorem checkExpiry_eq_ok_iff {policy : Policy} {now : Instant} {claims : Json.Fields} :
    checkExpiry policy now claims = .ok () ↔
      ∃ expiry, Expires claims expiry ∧ Lasts policy now expiry := by
  constructor
  · intro passed
    have known : ∃ expiry, Expires claims expiry := by
      unfold checkExpiry at passed
      split at passed
      · cases passed
      · cases passed
      · rename_i value other given
        cases read : expiryOf? value with
        | none => simp [read] at passed
        | some expiry => exact ⟨expiry, value, given, read⟩
    rcases known with ⟨expiry, expires⟩
    rw [checkExpiry_of_expires expires, Outcome.bind_eq_ok_iff] at passed
    rcases passed with ⟨_, leeway, compared⟩
    refine ⟨expiry, expires, leeway, ?_⟩
    cases past : isPast policy now expiry with
    | false => rfl
    | true => simp [past] at compared
  · intro holds
    rcases holds with ⟨expiry, expires, leeway, current⟩
    rw [checkExpiry_of_expires expires, leeway, current]
    rfl

omit [Platform] in
theorem mapM_text?_eq_some_iff {items : List Json} {names : List Text} :
    items.mapM Json.text? = some names ↔ items = names.map .string := by
  induction items generalizing names with
  | nil => cases names <;> simp
  | cons item items ih =>
      rw [List.mapM_cons]
      simp only [Option.bind_eq_bind, Option.bind_eq_some_iff, Option.pure_def, Option.some.injEq]
      constructor
      · intro given
        rcases given with ⟨name, text, others, rest, rfl⟩
        cases item with
        | string value =>
            simp only [Json.text?, Option.some.injEq] at text
            rw [List.map_cons, text, ih.1 rest]
        | _ => simp [Json.text?] at text
      · intro same
        cases names with
        | nil => simp at same
        | cons name names =>
            simp only [List.map_cons, List.cons.injEq] at same
            exact ⟨name, by rw [same.1]; rfl, names, ih.2 same.2, rfl⟩

omit [Platform] in
/-- Expected names are looked for among the names that a token gives. -/
theorem any_same_iff {expected names : List Text} :
    ((expected.map Json.string).any fun item =>
      names.any fun name => item.same (.string name)) = true ↔
      ∃ name ∈ names, name ∈ expected := by
  simp only [List.any_map, List.any_eq_true, Function.comp_apply, Json.same, beq_iff_eq]
  constructor
  · intro given
    rcases given with ⟨wanted, member, name, named, rfl⟩
    exact ⟨wanted, named, member⟩
  · intro given
    rcases given with ⟨name, named, member⟩
    exact ⟨name, member, name, named, rfl⟩

omit [Platform] in
/-- A claim names an audience by a text, or some audiences by a list of texts. -/
theorem audiencesOf?_eq_some_iff {value : Json} {names : List Text} :
    audiencesOf? value = some names ↔
      (∃ name, value = .string name ∧ names = [name]) ∨ value = .array (names.map .string) := by
  cases value with
  | string name => simp [audiencesOf?, eq_comm]
  | array items => simp [audiencesOf?, mapM_text?_eq_some_iff]
  | _ => simp [audiencesOf?]

omit [Platform] in
/-- The names that claims give are checked, if they give any. -/
theorem checkAudience_eq_ok_iff_any {expected : List Json} {claims : Json.Fields} :
    checkAudience expected claims = .ok () ↔
      ∃ value names, claims.get? "aud" = some value ∧ value.truthy = true ∧
        audiencesOf? value = some names ∧
        (expected.any fun item => names.any fun name => item.same (.string name)) = true := by
  unfold checkAudience
  cases given : claims.get? "aud" with
  | none => simp [Json.truthy]
  | some value =>
      cases truthy : value.truthy with
      | false => simp [truthy]
      | true =>
          cases listed : audiencesOf? value with
          | none => simp [truthy, listed]
          | some names => simp [truthy, listed]

omit [Platform] in
theorem checkAudience_eq_ok_iff {expected : List Text} {claims : Json.Fields} :
    checkAudience (expected.map .string) claims = .ok () ↔ Addressed expected claims := by
  simp only [checkAudience_eq_ok_iff_any, any_same_iff, audiencesOf?_eq_some_iff]
  constructor
  · rintro ⟨value, names, given, truthy, ⟨name, rfl, rfl⟩ | rfl, found⟩
    · refine Addressed.one name given ?_ ?_
      · rintro rfl
        cases truthy
      · simpa only [List.mem_singleton, exists_eq_left] using found
    · rcases found with ⟨name, named, member⟩
      exact Addressed.many names given name named member
  · intro addressed
    cases addressed with
    | one name given nonempty member =>
        have truthy : (Json.string name).truthy = true := by simpa [Json.truthy] using nonempty
        exact ⟨_, [name], given, truthy, Or.inl ⟨name, rfl, rfl⟩, name, List.mem_singleton_self _,
          member⟩
    | many names given name named member =>
        have truthy : (Json.array (names.map .string)).truthy = true := by
          cases names with
          | nil => cases named
          | cons first names => rfl
        exact ⟨_, names, given, truthy, Or.inr rfl, name, named, member⟩

omit [Platform] in
/-- Only texts among the expected audiences can be named. -/
theorem checkAudience_texts (expected : List Json) (claims : Json.Fields) :
    checkAudience ((expected.filterMap Json.text?).map .string) claims =
      checkAudience expected claims := by
  have same : ∀ names : List Text,
      (((expected.filterMap Json.text?).map Json.string).any fun item =>
        names.any fun name => item.same (.string name)) =
      expected.any fun item => names.any fun name => item.same (.string name) := by
    intro names
    rw [List.any_map, List.any_filterMap]
    congr 1
    funext item
    cases item <;> simp [Json.text?, Json.same, Json.sameNumber]
  unfold checkAudience
  simp only [same]

omit [Platform] in
theorem checkText_eq_ok_iff {name : Text} {fault : VerificationFault} {claims : Json.Fields} :
    checkText name fault claims = .ok () ↔ TextIfAny name claims := by
  unfold checkText TextIfAny
  split
  · rename_i absent
    simp [absent]
  · rename_i text found
    simp [found]
  · rename_i value other found
    simp only [found, Option.some.injEq, forall_eq', Outcome.refuse_ne_ok, false_iff, not_exists]
    exact other

theorem checkClaims_eq_ok_iff {policy : Policy} {now : Instant} {expected : List Text}
    {claims : Json.Fields} :
    checkClaims policy now (expected.map .string) claims = .ok () ↔
      InOrder policy now expected claims := by
  unfold checkClaims
  simp only [Outcome.bind_eq_ok_iff]
  constructor
  · intro given
    rcases given with ⟨_, current, _, addressed, _, subject, identifier⟩
    exact ⟨checkExpiry_eq_ok_iff.1 current, checkAudience_eq_ok_iff.1 addressed,
      checkText_eq_ok_iff.1 subject, checkText_eq_ok_iff.1 identifier⟩
  · intro given
    rcases given with ⟨current, addressed, subject, identifier⟩
    exact ⟨(), checkExpiry_eq_ok_iff.2 current, (), checkAudience_eq_ok_iff.2 addressed,
      (), checkText_eq_ok_iff.2 subject, checkText_eq_ok_iff.2 identifier⟩

/-! ## Decoding -/

/-- A signing key verifies nothing, whatever algorithm is asked of it. -/
theorem checkSignature_signing_ne_ok {key : Rsa.PrivateKey} {parts : Parts} :
    checkSignature (.rsa (.signing key)) parts ≠ .ok () := by
  unfold checkSignature
  cases parts.algorithm <;>
    simp [ready, Algorithm.scheme, readyRsa, readySecret, readyEdwards, readyCurve, verify, refuse,
      escape]

/-- Parts are verified exactly when they are sealed under a key that verifies and in order. -/
theorem verifyParts_eq_ok_iff {policy : Policy} {now : Instant} {key : Rsa.Key}
    {expected : List Json} {parts : Parts} {claims : Json.Fields} :
    verifyParts policy now (.rsa key) (.array expected) parts = .ok claims ↔
      ∃ verifying, key = .verifying verifying ∧ Sealed verifying parts ∧
        Json.readOctets? parts.payload = some (.object claims) ∧
        InOrder policy now (expected.filterMap Json.text?) claims := by
  unfold verifyParts claimsOf
  simp only [Json.items?, Outcome.bind_eq_ok_iff, Outcome.mapError_eq_ok_iff,
    readObject_eq_ok_iff, ← checkClaims_eq_ok_iff, checkClaims, checkAudience_texts]
  constructor
  · intro given
    rcases given with ⟨_, attached, _, signature, found, object, _, order, same⟩
    cases same
    cases key with
    | signing key => exact absurd signature checkSignature_signing_ne_ok
    | verifying key =>
        exact ⟨key, rfl, ⟨checkAttached_eq_ok_iff.1 attached,
          checkSignature_eq_ok_iff.1 signature⟩, object, order⟩
  · intro given
    rcases given with ⟨key, rfl, closed, object, order⟩
    exact ⟨(), checkAttached_eq_ok_iff.2 closed.attached, (),
      checkSignature_eq_ok_iff.2 closed.signs, claims, object, (), order, rfl⟩

/-- A fault of verification, as it is reported of a token. -/
def rejected (fault : VerificationFault) : AuthError :=
  .tokenDecode (.verification fault)

theorem readHeader_eq_ok_iff {token : Text} {parts : Parts} :
    readHeader token = .ok parts ↔ parts.Of token := by
  cases token with
  | plain token => rw [readHeader, Outcome.mapError_eq_ok_iff, read_eq_ok_iff]
  | broken => exact iff_of_false Outcome.escape_ne_ok id

/-- All that is decided about a sealed token is decided by its payload. -/
theorem decode_of_sealed {policy : Policy} {now : Instant} {token : Text} {key : Rsa.PublicKey}
    {expected : List Json} {parts : Parts} (written : parts.Of token)
    (closed : Sealed key parts) :
    decode policy now token (.rsa (.verifying key)) (.array expected) =
      (claimsOf policy now expected parts.payload).mapError (Halt.map rejected) := by
  unfold decode verifyParts
  rw [readHeader_eq_ok_iff.2 written, Outcome.ok_bind]
  simp only [Json.items?]
  rw [checkAttached_eq_ok_iff.2 closed.attached, checkSignature_eq_ok_iff.2 closed.signs]
  rfl

/-- All that is decided about a signed token is decided by its claims. -/
theorem decode_of_signed {policy : Policy} {now : Instant} {token : Text}
    {key : Rsa.PublicKey} {expected : List Json} {claims : Json.Fields}
    (signed : Signed key token claims) :
    decode policy now token (.rsa (.verifying key)) (.array expected) =
      (checkClaims policy now expected claims >>= fun _ => .ok claims).mapError
        (Halt.map rejected) := by
  rcases signed with ⟨parts, written, closed, payload⟩
  have object : (readObject VerificationFault.payloadText .payloadNotObject
      parts.payload) = .ok claims := readObject_eq_ok_iff.2 payload
  rw [decode_of_sealed written closed, claimsOf, object]
  rfl

/-- Where a sealed payload is no data value, its token is refused before any claim is looked at. -/
theorem decode_of_unreadable {policy : Policy} {now : Instant} {token : Text}
    {key : Rsa.PublicKey} {expected : List Json} {parts : Parts} (written : parts.Of token)
    (closed : Sealed key parts) (unreadable : Json.readOctets? parts.payload = none) :
    decode policy now token (.rsa (.verifying key)) (.array expected) =
      refuse (rejected (.payloadText parts.payload)) := by
  rw [decode_of_sealed written closed, claimsOf, readObject, unreadable]
  rfl

/-- A token is decoded to claims exactly when it is signed and these claims are in order. -/
theorem decode_ok_iff {policy : Policy} {now : Instant} {token : Text}
    {key : Rsa.PublicKey} {expected : List Text} {claims : Json.Fields} :
    decode policy now token (.rsa (.verifying key)) (.array (expected.map .string)) = .ok claims ↔
      Signed key token claims ∧ InOrder policy now expected claims := by
  have texts : (expected.map Json.string).filterMap Json.text? = expected := by
    rw [List.filterMap_map]
    exact List.filterMap_some
  unfold decode Signed
  simp only [Outcome.bind_eq_ok_iff, Outcome.mapError_eq_ok_iff, readHeader_eq_ok_iff,
    verifyParts_eq_ok_iff, texts, Rsa.Key.verifying.injEq]
  constructor
  · intro given
    rcases given with ⟨parts, written, _, rfl, closed, object, order⟩
    exact ⟨⟨parts, written, closed, object⟩, order⟩
  · intro given
    rcases given with ⟨⟨parts, written, closed, object⟩, order⟩
    exact ⟨parts, written, key, rfl, closed, object, order⟩

end Jws
end RealmAuth
