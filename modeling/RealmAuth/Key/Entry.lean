import RealmAuth.Base64.Lenient
import RealmAuth.Json.Basic
import RealmAuth.Key.Fault
import RealmAuth.Rsa.Key

namespace RealmAuth
namespace KeyEntry

/-!
Keys given as an object of numbers, as a realm publishes them, or as a list of the
pairs that make one up.  With a private exponent beside the public numbers the
entry is a private key, whose primes are either all given or recovered.
-/

/-- The number that a text writes in base 64. -/
def numberOf (text : Text) : Except KeyFault Nat :=
  match text.chars? with
  | none => .error (.broken text)
  | some cs =>
      match Base64.lenient? cs with
      | some octets => .ok (Octets.toNat octets)
      | none => .error (.numberNotBase64 text)

def number (fields : Json.Fields) (name : Text) : Except KeyFault Nat :=
  match fields.get? name with
  | some (.string text) => numberOf text
  | _ => .error .numberNotText

/-- The fields of the primes and of the values that go with them. -/
def factorNames : List Text := ["p", "q", "dp", "dq", "qi"]

def publicNumbers (fields : Json.Fields) : Except KeyFault Rsa.PublicKey := do
  let exponent ← number fields "e"
  let modulus ← number fields "n"
  return ⟨modulus, exponent⟩

def consistent {α : Type} (fields : Json.Fields) : Option α → Except KeyFault α
  | some key => .ok key
  | none => .error (.inconsistent (.object fields))

def privateKey (fields : Json.Fields) : Except KeyFault Rsa.PrivateKey := do
  if fields.has "oth" then throw .manyPrimes
  let present := factorNames.filter fields.has
  if !present.isEmpty && present.length != factorNames.length then throw .partialNumbers
  let publicKey ← publicNumbers fields
  let exponent ← number fields "d"
  if present.isEmpty then
    consistent fields ((Rsa.PrivateKey.ofExponents? publicKey exponent).filter Rsa.PrivateKey.inRange)
  else
    let p ← number fields "p"
    let q ← number fields "q"
    let dp ← number fields "dp"
    let dq ← number fields "dq"
    let qInverse ← number fields "qi"
    consistent fields <|
      (Rsa.PrivateKey.ofFactors? publicKey exponent ⟨p, q, dp, dq, qInverse⟩).filter
        Rsa.PrivateKey.inRange

def publicKey (fields : Json.Fields) : Except KeyFault Rsa.PublicKey := do
  let key ← publicNumbers fields
  consistent fields (if key.inRange then some key else none)

def isRsaName : Option Json → Bool
  | some (.string name) => name == "RSA"
  | _ => false

def keyOfFields (fields : Json.Fields) : Except KeyFault Rsa.Key :=
  if !isRsaName (fields.get? "kty") then .error .notRsa
  else if fields.has "e" && fields.has "n" then
    if fields.has "d" then (privateKey fields).map .signing
    else (publicKey fields).map .verifying
  else .error .noNumbers

def isName : Json → Bool
  | .array _ => false
  | .object _ => false
  | _ => true

/--
The fields with one more, given as a pair of an entry; a name that is no text names
nothing here.
-/
def putPair (entry : Json) (fields : Json.Fields) (pair : Json) : Except KeyFault Json.Fields :=
  match pair.items? with
  | none => .error (.notEntry entry)
  | some [name, value] =>
      if !isName name then .error (.notEntry entry)
      else
        match name with
        | .string name => .ok (fields.put name value)
        | _ => .ok fields
  | some _ => .error (.notPairs entry)

def fields : Json → Except KeyFault Json.Fields
  | .object fields => .ok fields
  | entry =>
      match entry.items? with
      | none => .error (.notEntry entry)
      | some pairs => pairs.foldlM (putPair entry) []

def key (entry : Json) : Except KeyFault Rsa.Key := do
  keyOfFields (← fields entry)

end KeyEntry
end RealmAuth
