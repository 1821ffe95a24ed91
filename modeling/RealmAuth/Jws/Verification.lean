import RealmAuth.Clock.Instant
import RealmAuth.Hash.Hmac
import RealmAuth.Jws.Header
import RealmAuth.Jws.Key
import RealmAuth.Number.Numeral
import RealmAuth.Rsa.Signature

namespace RealmAuth

/-- The time by which a token may be past its expiry and still be verified. -/
inductive Leeway where
  | whole (seconds : Int)
  | fraction (seconds : Double)
  /-- What is given as the time is no number. -/
  | foreign

/-- The leeway that is granted unless another one is chosen. -/
def Leeway.standard : Leeway := .whole 60

/-- How an expiry is compared with the clock. -/
inductive Precision where
  /-- The clock's seconds and the leeway are taken as numbers of double precision. -/
  | binary
  /-- Microseconds are counted without rounding. -/
  | exact
  deriving DecidableEq

/-- How tokens are verified. -/
structure Policy where
  leeway : Leeway
  precision : Precision

def Policy.standard : Policy := ⟨.standard, .binary⟩

namespace Jws

/-!
Verification of a token: the signature under a key, then the payload and the few
claims that decide whether the token is for this realm and still of use.
-/

variable [Platform]

/-- What an algorithm makes of a signature and a key that fits it. -/
def verify (algorithm : Algorithm) (key : ReadyKey) (signed signature : Octets) :
    Except (Halt VerificationFault) Bool :=
  match key, algorithm with
  | .rsa (.verifying key), .rsaFixed hash => .ok (key.verifyFixed hash signed signature)
  | .rsa (.verifying key), .rsaSalted hash =>
      if key.holdsDigest hash then .ok (key.verifySalted hash signed signature)
      else refuse .keyTooSmall
  | .rsa (.signing _), _ => escape .missingOperation
  | .secret octets, .secret hash => .ok (hash.mac octets signed == signature)
  | _, _ => .ok false

def checkSignature (key : DecodingKey) (parts : Parts) : Except (Halt VerificationFault) Unit := do
  let key ← ready parts.algorithm key
  if ← verify parts.algorithm key parts.signed parts.signature then return ()
  else refuse .signature

def checkAttached (header : Json.Fields) : Except (Halt VerificationFault) Unit :=
  if isDetached header then
    match header.get? "crit" with
    | some (.array extensions) =>
        if extensions.any fun extension => extension.same (.string "b64") then
          refuse .detachedAbsent
        else refuse .detachedNotCritical
    | _ => refuse .detachedNotCritical
  else .ok ()

/-- The integer that an expiry stands for: numbers lose their fraction, texts are read. -/
def expiryOf? : Json → Option Int
  | .bool value => some (if value then 1 else 0)
  | .int value => some value
  | .double value => value.truncate?
  | .string text => text.chars?.bind Numeral.read?
  | _ => none

/-- Whether an expiry is not after the clock less the leeway. -/
def isPast (policy : Policy) (now : Instant) (expiry : Int) : Bool :=
  match policy.precision, policy.leeway with
  | .exact, .whole leeway => expiry * Instant.perSecond ≤ now.micros - leeway * Instant.perSecond
  | .exact, .fraction leeway =>
      match leeway.toRatio? with
      | some (num, den) =>
          (expiry * Instant.perSecond - now.micros) * den ≤ -num * Instant.perSecond
      | none => false
  | .binary, .whole leeway => Double.intLe expiry (now.toDouble.sub (Double.ofInt leeway))
  | .binary, .fraction leeway => Double.intLe expiry (now.toDouble.sub leeway)
  | _, .foreign => false

/-- The leeway of a policy is a number, and within those in which the policy compares. -/
def checkLeeway (policy : Policy) : Except (Halt VerificationFault) Unit :=
  match policy.precision, policy.leeway with
  | .binary, .whole leeway =>
      if (Double.ofInt leeway).toRatio?.isNone then escape .leewayRange else .ok ()
  | _, .foreign => refuse .leewayNotNumber
  | _, _ => .ok ()

def checkExpiry (policy : Policy) (now : Instant) (claims : Json.Fields) :
    Except (Halt VerificationFault) Unit :=
  match claims.get? "exp" with
  | none => refuse .expiryAbsent
  | some .null => refuse .expiryAbsent
  | some value =>
      match expiryOf? value with
      | none => refuse .expiryNotInteger
      | some expiry => do
          checkLeeway policy
          if isPast policy now expiry then refuse .expired

/-- The audiences that a token names: one text, or a list of texts. -/
def audiencesOf? : Json → Option (List Text)
  | .string audience => some [audience]
  | .array items => items.mapM Json.text?
  | _ => none

def checkAudience (expected : List Json) (claims : Json.Fields) :
    Except (Halt VerificationFault) Unit :=
  let value := (claims.get? "aud").getD .null
  if !value.truthy then refuse .audienceAbsent
  else
    match audiencesOf? value with
    | none => refuse .audienceFormat
    | some audiences =>
        if expected.any fun item => audiences.any fun audience => item.same (.string audience) then
          .ok ()
        else refuse .audienceMismatch

def checkText (name : Text) (fault : VerificationFault) (claims : Json.Fields) :
    Except (Halt VerificationFault) Unit :=
  match claims.get? name with
  | none => .ok ()
  | some (.string _) => .ok ()
  | some _ => refuse fault

/-- The claims that verification looks at are in order. -/
def checkClaims (policy : Policy) (now : Instant) (expected : List Json) (claims : Json.Fields) :
    Except (Halt VerificationFault) Unit := do
  checkExpiry policy now claims
  checkAudience expected claims
  checkText "sub" .subjectNotText claims
  checkText "jti" .identifierNotText claims

/-- The claims in the payload of a token, if they are in order. -/
def claimsOf (policy : Policy) (now : Instant) (expected : List Json) (payload : Octets) :
    Except (Halt VerificationFault) Json.Fields := do
  let claims ←
    (readObject VerificationFault.payloadText .payloadNotObject payload).mapError Halt.refused
  checkClaims policy now expected claims
  return claims

/-- The claims of a token whose parts were read, if it is verified. -/
def verifyParts (policy : Policy) (now : Instant) (key : DecodingKey) (audiences : Json)
    (parts : Parts) : Except (Halt VerificationFault) Json.Fields := do
  match audiences.items? with
  | none => refuse (.audiencesNotList audiences)
  | some expected =>
      checkAttached parts.header
      checkSignature key parts
      claimsOf policy now expected parts.payload

end Jws
end RealmAuth
