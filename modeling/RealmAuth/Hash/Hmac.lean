import RealmAuth.Hash.Sha2

namespace RealmAuth
namespace Sha2

/-!
Message authentication with a shared secret.  The secret is brought to the
length of one block, by hashing it if it is longer, and enters the hash twice.
-/

def blockKey (hash : Sha2) (secret : Octets) : Octets :=
  let key := if hash.blockSize < secret.length then hash.digest secret else secret
  key ++ List.replicate (hash.blockSize - key.length) 0

/-- The authentication code of a message under a secret. -/
def mac (hash : Sha2) (secret message : Octets) : Octets :=
  let key := hash.blockKey secret
  let inner := hash.digest (key.map (· ^^^ 0x36) ++ message)
  hash.digest (key.map (· ^^^ 0x5C) ++ inner)

end Sha2
end RealmAuth
