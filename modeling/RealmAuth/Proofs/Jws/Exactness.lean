import RealmAuth.Json.Equality
import RealmAuth.Proofs.Clock.Rounding
import RealmAuth.Proofs.Jws.Verification

namespace RealmAuth
namespace Jws

/-!
Exactness of decoding under an RSA key that verifies.  The algorithm is chosen by
the token, so acceptance has to be excluded for every algorithm that the key does
not fit, and for every other way in which a text can fall short of a signed token.
What is left over is one description of the token texts that are decoded, and of
the claims they are decoded to.  The one place where the arithmetic of the clock
shows is the expiry: in double precision its comparison is exact in the first
centuries only.
-/

/-- A whole leeway that the numbers of a precision can hold. -/
def Holds (precision : Precision) (leeway : Int) : Prop :=
  precision = .binary → leeway.natAbs < Double.integerLimit

/-- An expiry is current by a whole leeway, in the arithmetic of a precision. -/
def Outlasts (precision : Precision) (leeway : Int) (now : Instant) (expiry : Int) : Prop :=
  match precision with
  | .exact => now.micros < (expiry + leeway) * Instant.perSecond
  | .binary => Double.intLe expiry (now.toDouble.sub (Double.ofInt leeway)) = false

theorem holds_exact (leeway : Int) : Holds .exact leeway := by
  intro binary
  cases binary

theorem lasts_whole_iff {leeway : Int} {precision : Precision} (held : Holds precision leeway)
    {now : Instant} {expiry : Int} :
    Lasts ⟨.whole leeway, precision⟩ now expiry ↔ Outlasts precision leeway now expiry := by
  unfold Lasts Outlasts
  cases precision with
  | exact =>
      simp only [checkLeeway, isPast, true_and, decide_eq_false_iff_not, Int.add_mul]
      omega
  | binary =>
      have finite := (Double.toRatio?_ofInt_isSome_iff leeway).2 (held rfl)
      simp only [checkLeeway, isPast, Option.isNone_eq_false_iff.2 finite, Bool.false_eq_true,
        if_false, true_and]

/-- In the first centuries, and by a leeway within the past, the comparison is exact. -/
theorem outlasts_iff {precision : Precision} {leeway : Int} {now : Instant} {expiry : Int}
    (nonnegative : 0 ≤ leeway) (within : leeway * Instant.perSecond ≤ now.micros)
    (early : now.micros < 2 ^ 34 * Instant.perSecond) :
    Outlasts precision leeway now expiry ↔
      now.micros < (expiry + leeway) * Instant.perSecond := by
  cases precision with
  | exact => exact Iff.rfl
  | binary =>
      rcases Int.eq_ofNat_of_zero_le nonnegative with ⟨seconds, rfl⟩
      rw [Instant.perSecond] at within early ⊢
      rcases Int.eq_ofNat_of_zero_le (show 0 ≤ now.micros by omega) with ⟨micros, since⟩
      have compared := Instant.intLe_toDouble_sub since (by omega) seconds (by omega) expiry
      rw [Outlasts, Bool.eq_false_iff, ne_eq, compared, since]
      omega

section

variable [Platform]

/--
By a leeway that the precision holds, a token text is decoded to claims exactly when it is
signed under the key, its payload is these claims, their expiry is current, they name an
expected audience, and their subject and identifier are texts where they are there.
-/
theorem decode_eq_ok_iff (leeway : Int) (precision : Precision) (held : Holds precision leeway)
    (now : Instant) (token : Text) (key : Rsa.PublicKey) (audiences : List Text)
    (claims : Json.Fields) :
    (decode ⟨.whole leeway, precision⟩ now token (.rsa (.verifying key))
        (.array (audiences.map .string)) = .ok claims ↔
      Signed key token claims ∧
        (∃ expiry, Expires claims expiry ∧ Outlasts precision leeway now expiry) ∧
        Addressed audiences claims ∧ TextIfAny "sub" claims ∧ TextIfAny "jti" claims) ∧
      (0 ≤ leeway ∧ leeway * Instant.perSecond ≤ now.micros ∧
          now.micros < 2 ^ 34 * Instant.perSecond →
        ∀ expiry, Outlasts precision leeway now expiry ↔
          now.micros < (expiry + leeway) * Instant.perSecond) := by
  constructor
  · rw [decode_ok_iff]
    apply and_congr_right
    intro _
    constructor
    · intro given
      rcases given with ⟨⟨expiry, expires, lasts⟩, addressed, subject, identifier⟩
      exact ⟨⟨expiry, expires, (lasts_whole_iff held).1 lasts⟩, addressed, subject, identifier⟩
    · intro given
      rcases given with ⟨⟨expiry, expires, outlasts⟩, addressed, subject, identifier⟩
      exact ⟨⟨expiry, expires, (lasts_whole_iff held).2 outlasts⟩, addressed, subject, identifier⟩
  · rintro ⟨nonnegative, within, early⟩ expiry
    exact outlasts_iff nonnegative within early

/-- The expiry of a signed token decides alone when it cannot be compared or is past. -/
theorem decode_of_checkExpiry {policy : Policy} {now : Instant} {token : Text}
    {key : Rsa.PublicKey} {expected : List Json} {claims : Json.Fields}
    {halt : Halt VerificationFault} (signed : Signed key token claims)
    (stopped : checkExpiry policy now claims = .error halt) :
    decode policy now token (.rsa (.verifying key)) (.array expected) =
      .error (halt.map rejected) := by
  rw [decode_of_signed signed]
  rw [checkClaims, stopped]
  rfl

end

/-! ## A token at the end of the calendar -/

/-- The text of parts: each of them in base 64, with dots between them. -/
def textOf (header payload signature : Octets) : String :=
  String.ofList (Base64.url.encode header ++ '.' :: Base64.url.encode payload ++
    '.' :: Base64.url.encode signature)

theorem dot_not_mem_encode (octets : Octets) : '.' ∉ Base64.url.encode octets := by
  have letter : ∀ sextet, sextet < 64 → Base64.url.letter sextet ≠ '.' := by decide
  intro member
  rcases List.mem_map.1 member with ⟨sextet, listed, same⟩
  exact letter sextet (Base64.lt_of_mem_sextets listed) same

section

variable [Platform] {key : Rsa.PublicKey} {algorithm : Algorithm} {header claims : Json.Fields}
  {headerOctets payload signature : Octets}

/-- Octets that write a header make a text whose reading is down to this header. -/
theorem read_textOf (object : Json.readOctets? headerOctets = some (.object header))
    (attached : isDetached header = false) :
    read (textOf headerOctets payload signature) =
      checkKeyId header >>= fun _ => checkCritical header >>= fun _ =>
        algorithmOf header >>= fun algorithm =>
          .ok ⟨header, algorithm, payload, signature,
            Text.toUtf8 (Base64.url.encode headerOctets ++ '.' :: Base64.url.encode payload)⟩ := by
  have made : Segments.Of ⟨Base64.url.encode headerOctets, Base64.url.encode payload,
      Base64.url.encode signature⟩ (textOf headerOctets payload signature).toList := by
    refine ⟨?_, dot_not_mem_encode headerOctets, dot_not_mem_encode signature⟩
    rw [textOf, String.toList_ofList]
    rfl
  have decoded : ∀ octets, Base64.url.decode? (Base64.url.encode octets) = some octets :=
    fun octets => Base64.url_lawful.decode?_eq_some_iff.2 (Or.inl rfl)
  have readable : readObject HeaderFault.headerText .headerNotObject headerOctets = .ok header :=
    readObject_eq_ok_iff.2 object
  unfold read
  rw [Segments.ofText?_eq_some_iff.2 made]
  simp only [orFault, Outcome.ok_bind, decoded, readable, payloadOf, attached, Bool.false_eq_true,
    if_false]
  rfl

/-- Octets that write a usable header make a token of any payload and signature. -/
theorem parts_textOf (object : Json.readOctets? headerOctets = some (.object header))
    (chooses : Chooses header algorithm) (attached : isDetached header = false) :
    Parts.Of ⟨header, algorithm, payload, signature,
        Text.toUtf8 (Base64.url.encode headerOctets ++ '.' :: Base64.url.encode payload)⟩
      (textOf headerOctets payload signature) := by
  rcases chooses_iff.1 chooses with ⟨keyId, critical, named⟩
  rw [← read_eq_ok_iff, read_textOf object attached, keyId, critical, named]
  rfl

/-- Such a token with some claims for its payload is signed where its signature is valid. -/
theorem signed_textOf (object : Json.readOctets? headerOctets = some (.object header))
    (chooses : Chooses header algorithm) (attached : isDetached header = false)
    (written : Json.readOctets? payload = some (.object claims))
    (signs : key.Signs algorithm
      (Text.toUtf8 (Base64.url.encode headerOctets ++ '.' :: Base64.url.encode payload))
      signature) :
    Signed key (textOf headerOctets payload signature) claims :=
  ⟨_, parts_textOf object chooses attached, ⟨attached, signs⟩, written⟩

end

end Jws

namespace Platform

/-- The usual bound on the digits of integers, and nothing said of a fault. -/
scoped instance usual : Platform where
  digitLimit := some 4300
  words _ := ""
  kinds _ := ""
  excerpt _ _ _ := ""
  hint _ := ""

end Platform

namespace Jws

open Platform

/-- A key of 512 bits. -/
def smallKey : Rsa.PublicKey where
  modulus :=
    0xD6BA681E1C415204F2DB7F0E2F2952A10DA6BFC9335A7617AE5C738B333F94E3 * 2 ^ 256 +
      0x06B0875ED69E59E20F70DEAE97DF141F2B953745E4242C4C5D27DCF8B6E0C6C7
  exponent := 3

/-- The header of a token that is signed with the deterministic encoding. -/
def lastHeader : Octets :=
  Text.toUtf8 "\x7b\x22alg\x22:\x22RS256\x22\x7d".toList

/-- The text of claims that last until the end of the calendar. -/
def lastPayload : Octets :=
  Text.toUtf8 ([
    "\x7b\x22exp\x22:253402300799,\x22iat\x22:1700000000,",
    "\x22jti\x22:\x22token\x22,\x22iss\x22:\x22realm\x22,\x22aud\x22:\x22service\x22,",
    "\x22sub\x22:\x22user\x22,\x22typ\x22:\x22Bearer\x22,\x22azp\x22:\x22app\x22,",
    "\x22given_name\x22:\x22given\x22,\x22family_name\x22:\x22family\x22,",
    "\x22name\x22:\x22full\x22,\x22preferred_username\x22:\x22login\x22,",
    "\x22email\x22:\x22mail\x22,\x22email_verified\x22:true\x7d"
  ].flatMap String.toList)

/-- The claims that last until the end of the calendar. -/
def lastClaims : Json.Fields :=
  [
    ("exp", .int 253402300799), ("iat", .int 1700000000), ("jti", .string "token"),
    ("iss", .string "realm"), ("aud", .string "service"), ("sub", .string "user"),
    ("typ", .string "Bearer"), ("azp", .string "app"), ("given_name", .string "given"),
    ("family_name", .string "family"), ("name", .string "full"),
    ("preferred_username", .string "login"), ("email", .string "mail"),
    ("email_verified", .bool true)
  ]

/-- The signature of the claims that last, as a number. -/
def lastSignature : Nat :=
  0x2DEEC02760257A28F905AD970CAA3385CE4B623DBE713A35AD18E53760B02CA7 * 2 ^ 256 +
    0xBF326EEAB810544F7EBA9D76FF00C98D7818D2D249A4F5636EBCBB590F5BDEAE

/-- A token that lasts until the end of the calendar. -/
def lastToken : String :=
  textOf lastHeader lastPayload (Octets.ofNat 64 lastSignature)

open Json.Reader in
/-- The header is read on every platform, since there is no number in it. -/
theorem readOctets?_lastHeader [Platform] :
    Json.readOctets? lastHeader = some (.object [("alg", .string "RS256")]) := by
  have decoded : Text.Encoding.decodeAny lastHeader =
      some ("\x7b\x22alg\x22:\x22RS256\x22\x7d".toList.map .char) := by
    decide +kernel
  rw [Json.readOctets?, decoded, Option.bind_some]
  simp [Json.read?, value?, fields?, skip, isSpace, stringRest?, piece?, quoteMark, escapeMark,
    Text.ofPoints, Text.ofPointsBehind, Json.Fields.put]

theorem chooses_lastHeader : Chooses [("alg", .string "RS256")] (.rsaFixed .sha256) :=
  chooses_iff.2 ⟨rfl, rfl, algorithmOf_eq_ok_iff.2 (by decide +kernel)⟩

/-- A payload under the small key and the header of its tokens makes a signed token. -/
theorem signed_small {payload : Octets} {claims : Json.Fields} {signature : Nat}
    (written : Json.readOctets? payload = some (.object claims))
    (valid : smallKey.verifyFixed .sha256
      (Text.toUtf8 (Base64.url.encode lastHeader ++ '.' :: Base64.url.encode payload))
      (Octets.ofNat 64 signature) = true) :
    Signed smallKey (textOf lastHeader payload (Octets.ofNat 64 signature)) claims :=
  signed_textOf readOctets?_lastHeader chooses_lastHeader rfl written
    (Rsa.PublicKey.verifyFixed_iff.1 valid)

theorem signed_lastToken : Signed smallKey lastToken lastClaims := by
  have payload : Json.readOctets? lastPayload = some (.object lastClaims) := by
    decide +kernel
  have valid : smallKey.verifyFixed .sha256
      (Text.toUtf8 (Base64.url.encode lastHeader ++ '.' :: Base64.url.encode lastPayload))
      (Octets.ofNat 64 lastSignature) = true := by
    decide +kernel
  exact signed_small payload valid

theorem expires_lastClaims : Expires lastClaims 253402300799 :=
  ⟨.int 253402300799, rfl, rfl⟩

theorem addressed_lastClaims : Addressed ["service"] lastClaims :=
  Addressed.one "service" rfl (by decide) (by decide)

theorem textIfAny_lastClaims : TextIfAny "sub" lastClaims ∧ TextIfAny "jti" lastClaims :=
  ⟨textIfAny_of_get? rfl, textIfAny_of_get? rfl⟩

/-- The last claims are in order wherever their expiry is current. -/
theorem inOrder_lastClaims {policy : Policy} {now : Instant}
    (lasts : Lasts policy now 253402300799) : InOrder policy now ["service"] lastClaims where
  current := ⟨253402300799, expires_lastClaims, lasts⟩
  addressed := addressed_lastClaims
  subject := textIfAny_lastClaims.1
  identifier := textIfAny_lastClaims.2

/-- The standard leeway is held, and by it the token is decoded at an early time. -/
theorem decode_lastToken :
    Holds .binary 60 ∧
      decode ⟨.whole 60, .binary⟩ ⟨1700000000000000⟩ lastToken (.rsa (.verifying smallKey))
        (.array [.string "service"]) = .ok lastClaims := by
  have held : Holds .binary 60 := fun _ => by decide +kernel
  rcases decode_eq_ok_iff 60 .binary held ⟨1700000000000000⟩ lastToken smallKey ["service"]
    lastClaims with ⟨decoded, early⟩
  have current := (early (by decide) 253402300799).2 (by decide)
  exact ⟨held, decoded.2 ⟨signed_lastToken, ⟨_, expires_lastClaims, current⟩,
    addressed_lastClaims, textIfAny_lastClaims⟩⟩

/--
A microsecond before its end a token of use is refused as expired, because the clock is
rounded to that end.
-/
theorem decode_lastToken_rounds :
    (Signed smallKey lastToken lastClaims ∧ Expires lastClaims 253402300799 ∧
      Addressed ["service"] lastClaims ∧ TextIfAny "sub" lastClaims ∧
      TextIfAny "jti" lastClaims) ∧
    (253402300798999999 : Int) < (253402300799 + 0) * Instant.perSecond ∧
    decode ⟨.whole 0, .binary⟩ ⟨253402300798999999⟩ lastToken
        (.rsa (.verifying smallKey)) (.array [.string "service"]) =
      .error (.refused (rejected .expired)) := by
  refine ⟨⟨signed_lastToken, expires_lastClaims, addressed_lastClaims, textIfAny_lastClaims⟩,
    by decide +kernel, ?_⟩
  have finite : (Double.ofInt 0).toRatio?.isNone = false := by decide +kernel
  have past : isPast ⟨.whole 0, .binary⟩ ⟨253402300798999999⟩ 253402300799 = true := by
    decide +kernel
  have stopped : checkExpiry ⟨.whole 0, .binary⟩ ⟨253402300798999999⟩ lastClaims =
      .error (.refused .expired) := by
    rw [checkExpiry_of_expires expires_lastClaims, past]
    simp only [checkLeeway, finite, if_true, Bool.false_eq_true, if_false]
    rfl
  exact decode_of_checkExpiry signed_lastToken stopped

end Jws
end RealmAuth
