import RealmAuth.AuthError
import RealmAuth.Jws.Verification

namespace RealmAuth

/-!
Decoding of tokens: from a token text to the claims in its payload, or to the
refusal of the first stage that fails.
-/

/--
What decodes tokens: the claims of a token under a key, for one of some audiences,
at an instant.
-/
abbrev Decoder := Instant → Text → DecodingKey → Json → Except Failure Json

namespace Jws

variable [Platform]

/-- The parts of a token, or the refusal of its header; a broken text is no token at all. -/
def readHeader : Text → Except Failure Parts
  | .plain token => (read token).mapError fun fault => .refused (.headerDecode (.header fault))
  | .broken .. => escape .brokenText

/-- The claims of a token that is verified by a policy. -/
def decode (policy : Policy) (now : Instant) (token : Text) (key : DecodingKey)
    (audiences : Json) : Except Failure Json.Fields := do
  let parts ← readHeader token
  (verifyParts policy now key audiences parts).mapError
    (Halt.map fun fault => .tokenDecode (.verification fault))

def decoder (policy : Policy) : Decoder := fun now token key audiences =>
  (decode policy now token key audiences).map .object

end Jws

/-- The decoder that takes every token for one with the given claims. -/
def Decoder.fixed (claims : Json) : Decoder := fun _ _ _ _ => .ok claims

/-- The key of a realm from its text, or the refusal of the text. -/
def decodingKeyOfText (text : Text) : Except Failure Rsa.Key :=
  (RealmKey.ofText text).mapError (Halt.map fun fault => .decodingKey (.key fault))

/-- The key of a realm from a published entry, or the refusal of the entry. -/
def decodingKeyOfEntry (entry : Json) : Except Failure Rsa.Key :=
  (KeyEntry.key entry).mapError fun fault => .refused (.decodingKey (.key fault))

end RealmAuth
