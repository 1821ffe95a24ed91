import RealmAuth.Key.Algorithm
import RealmAuth.Key.Pem
import RealmAuth.Rsa.Key

namespace RealmAuth

/-!
Key documents: the keys that textual sections and their encoded contents hold.
RSA keys are read in full.  Of other keys only the kind is kept, since it is named
when such a key is refused; but they too have to be keys of their kind.
-/

/-- What a key document holds. -/
inductive KeyDocument where
  | rsa (key : Rsa.Key)
  | other (kind : OtherKey) (isPrivate : Bool)

/-- Why a text is no key document. -/
inductive DocumentError where
  /-- The text or its content does not have the form of a key. -/
  | malformed
  /-- The key can only be read with a password. -/
  | locked
  /-- The content names an algorithm or a curve that is not known. -/
  | unsupported
  /-- The content has a point in another form than the full one, the only one read there. -/
  | pointForm
  /-- The content has nothing where its point belongs. -/
  | pointAbsent
  deriving DecidableEq

namespace KeyDocument

open Der

/-- The kind of key in a document, as it is named in messages. -/
def kind : KeyDocument → String
  | rsa key => if key.isPrivate then "RSAPrivateKey" else "RSAPublicKey"
  | other kind isPrivate => kind.name ++ if isPrivate then "PrivateKey" else "PublicKey"

def required {α : Type} : Option α → Except DocumentError α
  | none => .error .malformed
  | some value => .ok value

def requiredCurve (element : Option Element) : Except DocumentError Curve :=
  match element.bind KeyAlgorithm.curve? with
  | none => .error .unsupported
  | some curve => .ok curve

/-! ## RSA keys -/

/-- A bare RSA public key: modulus and exponent, both in range. -/
def rsaPublic? (octets : Octets) : Option Rsa.PublicKey := do
  let key ← octets |> Der.structure? do
    let modulus ← next Element.natural?
    let exponent ← next Element.natural?
    return (⟨modulus, exponent⟩ : Rsa.PublicKey)
  if key.inRange then some key else none

/-- A bare RSA private key: a version, then the nine numbers of a key with two primes. -/
def rsaPrivate? (octets : Octets) : Option Rsa.PrivateKey :=
  match (single? octets).bind fun element =>
      element.sequence?.bind fun elements => elements.mapM Element.natural? with
  | some [0, modulus, publicExponent, exponent, p, q, dp, dq, qInverse] =>
      Rsa.PrivateKey.ofFactors? ⟨modulus, publicExponent⟩ exponent ⟨p, q, dp, dq, qInverse⟩
  | _ => none

/-! ## Keys of other kinds -/

/-- The private key of an elliptic curve before its parts are compared. -/
structure CurveSecret where
  version : Nat
  number : Octets
  parameters : Option Element
  point : Option Bits

/-- The parts of the private key of an elliptic curve. -/
def curveSecret : Reading CurveSecret := do
  let version ← next (Element.naturalBelow? (2 ^ 8))
  let number ← next Element.octets?
  let parameters ← optional (partTag 0) fun element =>
    (element.part? 0).bind (Element.onlyIf? KeyAlgorithm.isCurve)
  let point ← optional (partTag 1) fun element => (element.part? 1).bind Element.bits?
  return { version, number, parameters, point }

/--
The private key of an elliptic curve.  The curve is told by the algorithm or by the
key, and if by both then alike; a public point beside the number belongs to it.
-/
def curvePrivate (outer : Option Element) (octets : Octets) : Except DocumentError KeyDocument := do
  let secret ← required (Der.structure? curveSecret octets)
  if secret.version ≠ 1 then .error .malformed
  else if outer.isNone ∧ secret.parameters.isNone then .error .malformed
  else if outer.isSome ∧ secret.parameters.isSome ∧ outer ≠ secret.parameters then
    .error .malformed
  else
    let curve ← requiredCurve (outer.or secret.parameters)
    if curve.isMultiplier secret.number ∧
        secret.point.all fun point =>
          curve.writes (curve.publicPoint secret.number) point.octets then
      return .other .ellipticCurve true
    else .error .malformed

def latticeModulus : Nat := 3329

/-- Whether octets write coefficients in range, two in every three octets. -/
def areCoefficients : Octets → Bool
  | a :: b :: c :: rest =>
      a.toNat + b.toNat % 16 * 256 < latticeModulus &&
        b.toNat / 16 + c.toNat * 16 < latticeModulus && areCoefficients rest
  | rest => rest.isEmpty

/-- The size of the seed at the end of a public lattice key for an exchange. -/
def latticeSeedSize : Nat := 32

/-- Whether octets are a public key of a kind whose keys have a fixed size. -/
def isPublicString (kind : OtherKey) (octets : Octets) : Bool :=
  match kind with
  | .ed25519 => octets.length == 32
  | .x25519 => octets.length == 32
  | .ed448 => octets.length == 57
  | .x448 => octets.length == 56
  | .latticeSignature level =>
      octets.length == (if level = 44 then 1312 else if level = 65 then 1952 else 2592)
  | .latticeExchange level =>
      let size := if level = 768 then 1152 else 1536
      octets.length == size + latticeSeedSize && areCoefficients (octets.take size)
  | _ => false

/-- The string inside the private key of a kind whose keys have a fixed size. -/
def secretString? (kind : OtherKey) (octets : Octets) : Option Octets :=
  let inner := fun (tag size : Nat) =>
    ((single? octets).bind (Element.contentOf? tag)).filter fun found => found.length = size
  match kind with
  | .ed25519 => inner octetStringTag 32
  | .x25519 => inner octetStringTag 32
  | .ed448 => inner octetStringTag 57
  | .x448 => inner octetStringTag 56
  | .latticeSignature _ => inner 0x80 32
  | .latticeExchange _ => inner 0x80 64
  | _ => none

def numericKind? (path : Octets) : Option OtherKey :=
  if path = KeyAlgorithm.dsaPath then some .dsa
  else if path = KeyAlgorithm.exchangePath ∨ path = KeyAlgorithm.orderedExchangePath then
    some .diffieHellman
  else none

def number? (octets : Octets) : Option Nat :=
  (single? octets).bind Element.natural?

/-- A bare private key of the digital signature algorithm. -/
def dsaPrivate? (octets : Octets) : Option KeyDocument := do
  let version ← octets |> Der.structure? do
    let version ← next (Element.naturalBelow? (2 ^ 8))
    let _ ← KeyAlgorithm.threeNumbers
    let _ ← next Element.natural?
    let _ ← next Element.natural?
    return version
  if version = 0 then some (.other .dsa true) else none

/-! ## Keys together with their algorithm -/

def publicParts : Reading ((Octets × Option Element) × Bits) := do
  let algorithm ← next Element.algorithm?
  let key ← next Element.bits?
  return (algorithm, key)

def publicInfo (octets : Octets) : Except DocumentError KeyDocument := do
  let ((path, parameters), bits) ← required (Der.structure? publicParts octets)
  let key := bits.octets
  if bits.unused ≠ 0 then .error .malformed
  else if path = KeyAlgorithm.rsaPath ∨ path = KeyAlgorithm.saltedPath then
    return .rsa (.verifying (← required (rsaPublic? key)))
  else if path = KeyAlgorithm.curvePath then
    let curve ← requiredCurve parameters
    if curve.isPoint key then return .other .ellipticCurve false else .error .malformed
  else
    match numericKind? path, KeyAlgorithm.plainPaths.lookup path with
    | some kind, _ => (required (number? key)).map fun _ => .other kind false
    | none, some kind =>
        if isPublicString kind key then return .other kind false else .error .malformed
    | none, none => .error .unsupported

/-- A note beside a private key: an identifier and the set of its values. -/
def isNote (element : Element) : Bool :=
  element |> KeyAlgorithm.reads do
    let _ ← next Element.identifier?
    let _ ← next fun values => (values.contentOf? setTag).bind members?

/-- Whether an element holds the notes beside a private key. -/
def areNotes (element : Element) : Bool :=
  ((element.contentOf? (partTag 0)).bind members?).any fun notes => notes.all isNote

/-- A private key behind a version and its algorithm, perhaps with notes. -/
def privateParts : Reading (Nat × (Octets × Option Element) × Octets) := do
  let version ← next (Element.naturalBelow? (2 ^ 8))
  let algorithm ← next Element.algorithm?
  let key ← next Element.octets?
  let _ ← optional (partTag 0) (Element.onlyIf? areNotes)
  return (version, algorithm, key)

def privateInfo (octets : Octets) : Except DocumentError KeyDocument := do
  let (version, (path, parameters), key) ← required (Der.structure? privateParts octets)
  if version ≠ 0 then .error .malformed
  else if path = KeyAlgorithm.rsaPath ∨ path = KeyAlgorithm.saltedPath then
    return .rsa (.signing (← required (rsaPrivate? key)))
  else if path = KeyAlgorithm.curvePath then curvePrivate parameters key
  else
    match numericKind? path, KeyAlgorithm.plainPaths.lookup path with
    | some kind, _ => (required (number? key)).map fun _ => .other kind true
    | none, some kind => (required (secretString? kind key)).map fun _ => .other kind true
    | none, none => .error .unsupported

/-- What an encrypted private key is to a reader without a password. -/
def encryptedInfo (octets : Octets) : DocumentError :=
  let parts : Option Octets := octets |> Der.structure? do
    let _ ← next Element.algorithm?
    next Element.octets?
  if parts.isSome then .locked else .malformed

/-! ## Documents -/

def privateLabels : List String :=
  ["PRIVATE KEY", "ENCRYPTED PRIVATE KEY", "RSA PRIVATE KEY", "EC PRIVATE KEY", "DSA PRIVATE KEY"]

/-- The private key in the first section of a text that holds one. -/
def readPrivate (cs : List Char) : Except DocumentError KeyDocument := do
  let sections ← required (Pem.sections? cs)
  let found ← required <| sections.find? fun part =>
    privateLabels.contains (String.ofList part.label)
  match found.header? "Proc-Type" with
  | some value =>
      if String.ofList value = "4,ENCRYPTED" ∧
          ((found.header? "DEK-Info").map fun info => info.contains ',') = some true then
        .error .locked
      else .error .malformed
  | none =>
      match String.ofList found.label with
      | "PRIVATE KEY" => privateInfo found.content
      | "RSA PRIVATE KEY" =>
          (required (rsaPrivate? found.content)).map fun key => .rsa (.signing key)
      | "EC PRIVATE KEY" => curvePrivate none found.content
      | "DSA PRIVATE KEY" => required (dsaPrivate? found.content)
      | _ => .error (encryptedInfo found.content)

def readPublic (cs : List Char) : Except DocumentError KeyDocument := do
  let found ← required (Pem.first? cs)
  match String.ofList found.label with
  | "PUBLIC KEY" => publicInfo found.content
  | "RSA PUBLIC KEY" =>
      match rsaPublic? found.content, publicInfo found.content with
      | some key, _ => return .rsa (.verifying key)
      | none, .ok (.rsa key) => return .rsa key
      | none, _ => .error .malformed
  | _ => .error .malformed

/-- Whether octets are an encoded public key, with its algorithm or bare. -/
def isPublicEncoding (octets : Octets) : Bool :=
  (publicInfo octets).toBool || (rsaPublic? octets).isSome

end KeyDocument
end RealmAuth
