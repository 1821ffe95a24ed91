import RealmAuth.Json.Literal
import RealmAuth.Key.Fault

namespace RealmAuth

/-!
What can be wrong with a signed token: first with its parts and its header, then
with its signature, its payload and the claims that verification looks at.
-/

/-- Why the parts of a token could not be read or used. -/
inductive HeaderFault where
  | notEnoughSegments
  | headerPadding
  /-- The header is no data value. -/
  | headerText (octets : Octets)
  | headerNotObject
  /-- The payload is declared to be elsewhere, but there is one. -/
  | payloadPresent
  | payloadPadding
  | signaturePadding
  | keyIdNotText
  | criticalNotList
  | criticalNotText
  | criticalUnknown (name : Text)
  | criticalAbsent (name : Text)
  /-- The algorithm is not a supported one, or is not given at all. -/
  | algorithm (given : Json)

def HeaderFault.message [Platform] : HeaderFault → Text
  | notEnoughSegments => "Not enough segments"
  | headerPadding => "Invalid header padding"
  | headerText octets => "Invalid header string: " ++ Platform.words (.octets octets)
  | headerNotObject => "Invalid header string: must be a json object"
  | payloadPresent => "Payload segment must be empty when 'b64' is false."
  | payloadPadding => "Invalid payload padding"
  | signaturePadding => "Invalid crypto padding"
  | keyIdNotText => "Key ID header parameter must be a string"
  | criticalNotList => "Invalid 'crit' header: must be a non-empty list"
  | criticalNotText => "Invalid 'crit' header: values must be strings"
  | criticalUnknown name => .plain "Unsupported critical extension: " ++ name
  | criticalAbsent name =>
      .plain "Critical extension '" ++ name ++ .plain "' is missing from headers"
  | algorithm given => "Unsupported signing algorithm: " ++ given.literal

/-- Why a token was not verified. -/
inductive VerificationFault where
  /-- The expected audiences cannot be listed. -/
  | audiencesNotList (audiences : Json)
  | detachedNotCritical
  | detachedAbsent
  /-- The key is of no use for an algorithm that needs a key document. -/
  | documentExpected
  /-- The key is no text, but the algorithm needs a shared secret. -/
  | secretExpected
  | secretEmpty
  /-- The shared secret looks like a public key or a certificate. -/
  | secretAsymmetric
  /-- The shared secret looks like a key entry. -/
  | secretEntry
  /-- A text is no key document of any form. -/
  | keyUnreadable
  /-- A document does not have the form of a key. -/
  | keyMalformed (document : List Char)
  /-- A document is encrypted and there is no password. -/
  | keyLocked (document : List Char)
  /-- A text that is to be a key is one that no octets write. -/
  | keyBroken (text : Text)
  /-- A text does not even look like a key document. -/
  | keyNotDocument
  /-- A key of one kind is offered to a family of algorithms that takes another kind. -/
  | keyKind (found family : String)
  /-- A key has no room for the digests of its algorithm. -/
  | keyTooSmall
  | signature
  /-- The payload is no data value. -/
  | payloadText (octets : Octets)
  | payloadNotObject
  | expiryAbsent
  | expiryNotInteger
  | leewayNotNumber
  | expired
  | audienceAbsent
  | audienceFormat
  | audienceMismatch
  | subjectNotText
  | identifierNotText

def VerificationFault.message [Platform] : VerificationFault → String
  | audiencesNotList audiences => Platform.words (.items audiences)
  | detachedNotCritical =>
      "The 'b64' header parameter requires 'b64' to be listed in 'crit'."
  | detachedAbsent =>
      "It is required that you pass in a value for the \x22detached_payload\x22 argument to "
        ++ "decode a message having the b64 header set to false."
  | documentExpected => "Expecting a PEM-formatted key."
  | secretExpected => "Expected a string or bytes value"
  | secretEmpty => "HMAC key must not be empty."
  | secretAsymmetric =>
      "The specified key is an asymmetric key or x509 certificate and should not be used "
        ++ "as an HMAC secret."
  | secretEntry =>
      "The specified key looks like a JWK and should not be used directly as an HMAC secret. "
        ++ "Load it via PyJWK / HMACAlgorithm.from_jwk first."
  | keyUnreadable => KeyFault.unreadable.message
  | keyMalformed document => Platform.words (.document document)
  | keyLocked document => Platform.words (.document document)
  | keyBroken text => Platform.words (.text text)
  | keyNotDocument => "Not a public or private key"
  | keyKind found family => Platform.wrongKey found family
  | keyTooSmall => Platform.words .room
  | signature => "Signature verification failed"
  | payloadText octets => "Invalid payload string: " ++ Platform.words (.octets octets)
  | payloadNotObject => "Invalid payload string: must be a json object"
  | expiryAbsent => "Token is missing the \x22exp\x22 claim"
  | expiryNotInteger => "Expiration Time claim (exp) must be an integer."
  | leewayNotNumber => Platform.words .leeway
  | expired => "Signature has expired"
  | audienceAbsent => "Token is missing the \x22aud\x22 claim"
  | audienceFormat => "Invalid claim format in token"
  | audienceMismatch => "Audience doesn't match"
  | subjectNotText => "Subject must be a string"
  | identifierNotText => "JWT ID must be a string"

end RealmAuth
