import RealmAuth.Hash.Sha2
import RealmAuth.Text.Basic

namespace RealmAuth

/-!
The signature algorithms that a token may name.
-/

/-- How a family of algorithms signs. -/
inductive Scheme where
  /-- RSA with the deterministic encoding. -/
  | rsaFixed
  /-- RSA with the salted encoding. -/
  | rsaSalted
  /-- A shared secret. -/
  | secret
  /-- An elliptic curve. -/
  | curve
  /-- An Edwards curve. -/
  | edwards
  deriving DecidableEq

/-- A signature algorithm. -/
inductive Algorithm where
  | rsaFixed (hash : Sha2)
  | rsaSalted (hash : Sha2)
  | secret (hash : Sha2)
  | es256
  | es256k
  | es384
  | es512
  | es521
  | edDsa
  deriving DecidableEq

namespace Algorithm

def all : List Algorithm :=
  [
    es256, es256k, es384, es512, es521, edDsa,
    secret .sha256, secret .sha384, secret .sha512,
    rsaSalted .sha256, rsaSalted .sha384, rsaSalted .sha512,
    rsaFixed .sha256, rsaFixed .sha384, rsaFixed .sha512
  ]

/-- The number that names a hash function inside the name of an algorithm. -/
def hashName : Sha2 → String
  | .sha256 => "256"
  | .sha384 => "384"
  | .sha512 => "512"

def name : Algorithm → String
  | rsaFixed hash => "RS" ++ hashName hash
  | rsaSalted hash => "PS" ++ hashName hash
  | secret hash => "HS" ++ hashName hash
  | es256 => "ES256"
  | es256k => "ES256K"
  | es384 => "ES384"
  | es512 => "ES512"
  | es521 => "ES521"
  | edDsa => "EdDSA"

def ofName? (name : Text) : Option Algorithm :=
  all.find? fun algorithm => .plain algorithm.name == name

def scheme : Algorithm → Scheme
  | rsaFixed _ => .rsaFixed
  | rsaSalted _ => .rsaSalted
  | secret _ => .secret
  | edDsa => .edwards
  | _ => .curve

theorem ofName?_name (algorithm : Algorithm) : ofName? algorithm.name = some algorithm := by
  cases algorithm <;> (try rename_i hash; cases hash) <;> decide +kernel

end Algorithm
end RealmAuth
