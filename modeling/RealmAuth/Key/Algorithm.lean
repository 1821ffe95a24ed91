import RealmAuth.Curve.Named
import RealmAuth.Key.Der

namespace RealmAuth

/-!
Algorithm identifiers, as they stand in front of keys: an object identifier and
perhaps one element of parameters.  For many identifiers the form of the
parameters is laid down, and an identifier with other parameters is malformed
even where the algorithm itself is of no use.
-/

/-- Keys that are not RSA keys. -/
inductive OtherKey where
  | ellipticCurve
  | ed25519
  | ed448
  | x25519
  | x448
  | dsa
  | diffieHellman
  | latticeSignature (level : Nat)
  | latticeExchange (level : Nat)
  deriving DecidableEq

/-- The kind of a key, as its name in messages starts. -/
def OtherKey.name : OtherKey → String
  | ellipticCurve => "EC"
  | ed25519 => "Ed25519"
  | ed448 => "Ed448"
  | x25519 => "X25519"
  | x448 => "X448"
  | dsa => "DSA"
  | diffieHellman => "DH"
  | latticeSignature level => "MLDSA" ++ toString level
  | latticeExchange level => "MLKEM" ++ toString level

namespace KeyAlgorithm

open Der

/-! ## Identifiers -/

def rsaPath : Octets := [0x2A, 0x86, 0x48, 0x86, 0xF7, 0x0D, 0x01, 0x01, 0x01]

def saltedPath : Octets := [0x2A, 0x86, 0x48, 0x86, 0xF7, 0x0D, 0x01, 0x01, 0x0A]

def curvePath : Octets := [0x2A, 0x86, 0x48, 0xCE, 0x3D, 0x02, 0x01]

def primeFieldPath : Octets := [0x2A, 0x86, 0x48, 0xCE, 0x3D, 0x01, 0x01]

def dsaPath : Octets := [0x2A, 0x86, 0x48, 0xCE, 0x38, 0x04, 0x01]

/-- Keys for an exchange whose group is given by a prime and a generator. -/
def exchangePath : Octets := [0x2A, 0x86, 0x48, 0x86, 0xF7, 0x0D, 0x01, 0x03, 0x01]

/-- Keys for an exchange whose group is given with the order of its generator. -/
def orderedExchangePath : Octets := [0x2A, 0x86, 0x48, 0xCE, 0x3E, 0x02, 0x01]

def maskPath : Octets := [0x2A, 0x86, 0x48, 0x86, 0xF7, 0x0D, 0x01, 0x01, 0x08]

/-- An algorithm of the standards for public key cryptography. -/
def publicKeyPath (path : Octets) : Octets := [0x2A, 0x86, 0x48, 0x86, 0xF7, 0x0D] ++ path

def nationalPath (path : Octets) : Octets := [0x60, 0x86, 0x48, 0x01, 0x65, 0x03, 0x04] ++ path

/-- The kinds of keys whose identifiers take no parameters. -/
def plainPaths : List (Octets × OtherKey) :=
  [ ([0x2B, 0x65, 0x6E], .x25519),
    ([0x2B, 0x65, 0x6F], .x448),
    ([0x2B, 0x65, 0x70], .ed25519),
    ([0x2B, 0x65, 0x71], .ed448),
    (nationalPath [0x03, 0x11], .latticeSignature 44),
    (nationalPath [0x03, 0x12], .latticeSignature 65),
    (nationalPath [0x03, 0x13], .latticeSignature 87),
    (nationalPath [0x04, 0x02], .latticeExchange 768),
    (nationalPath [0x04, 0x03], .latticeExchange 1024) ]

/-! ## Forms of parameters -/

/-- The form that the parameters of an algorithm have to take. -/
inductive Form where
  /-- No parameters. -/
  | absent
  /-- No parameters, or the absent value. -/
  | null
  /-- A string of octets of a given size. -/
  | initial (size : Nat)
  /-- The parameters of salted signatures. -/
  | salted
  /-- An object identifier, the absent value or a sequence of constants. -/
  | curve
  /-- Three numbers. -/
  | group
  /-- A prime, a generator, and perhaps the size of the secrets. -/
  | exchange
  /-- A prime, a generator, its order, and perhaps a cofactor and a proof. -/
  | orderedExchange
  /-- An algorithm for the key and one for the text. -/
  | password
  /-- A salt, a count, perhaps a size, and perhaps an algorithm. -/
  | stretched
  /-- A salt, three costs, and perhaps a size. -/
  | costly
  /-- A salt, of a given size where there is one, and a count. -/
  | counted (size : Option Nat)
  /-- Perhaps a version, and eight octets. -/
  | versioned

/-- The algorithms of digests, signatures and ciphers whose parameters have a known form. -/
def otherForms : List (Octets × Form) :=
  [ ([0x2B, 0x0E, 0x03, 0x02, 0x1A], .null),
    ([0x2B, 0x0E, 0x03, 0x02, 0x1D], .null),
    ([0x2B, 0x06, 0x01, 0x04, 0x01, 0xDA, 0x47, 0x04, 0x0B], .costly),
    ([0x2A, 0x86, 0x48, 0xCE, 0x38, 0x04, 0x03], .null) ] ++
  ([1, 2, 3, 4, 7, 8, 9, 10].map fun n => (nationalPath [0x02, n], .null)) ++
  ([1, 2, 3, 4, 13, 14, 15, 16].map fun n => (nationalPath [0x03, n], .null)) ++
  ([9, 10, 11, 12].map fun n => (nationalPath [0x03, n], .absent)) ++
  ([5, 11, 12, 13, 14].map fun n => (publicKeyPath [0x01, 0x01, n], .null)) ++
  ([1, 2, 3, 4].map fun n => ([0x2A, 0x86, 0x48, 0xCE, 0x3D, 0x04, 0x03, n], .null)) ++
  ([7, 8, 9, 10, 11].map fun n => (publicKeyPath [0x02, n], .null)) ++
  ([2, 22, 42].map fun n => (nationalPath [0x01, n], .initial 16)) ++
  [ (publicKeyPath [0x03, 0x07], .initial 8),
    (publicKeyPath [0x03, 0x02], .versioned),
    (publicKeyPath [0x01, 0x05, 0x03], .counted (some 8)),
    (publicKeyPath [0x01, 0x05, 0x0C], .stretched),
    (publicKeyPath [0x01, 0x05, 0x0D], .password),
    (publicKeyPath [0x01, 0x0C, 0x01, 0x03], .counted none),
    (publicKeyPath [0x01, 0x0C, 0x01, 0x06], .counted none) ]

/-- The form of the parameters of an algorithm, where one is laid down. -/
def form? (path : Octets) : Option Form :=
  if path = rsaPath then some .null
  else if path = saltedPath then some .salted
  else if path = curvePath then some .curve
  else if path = dsaPath then some .group
  else if path = exchangePath then some .exchange
  else if path = orderedExchangePath then some .orderedExchange
  else if (plainPaths.lookup path).isSome then some .absent
  else otherForms.lookup path

/-- The algorithm that an identifier with the absent value names. -/
def withNull (path : Octets) : Element :=
  ⟨sequenceTag, Element.write ⟨identifierTag, path⟩ ++ Element.write ⟨nullTag, []⟩⟩

def defaultDigest : Element := withNull [0x2B, 0x0E, 0x03, 0x02, 0x1A]

def defaultMask : Element :=
  ⟨sequenceTag, Element.write ⟨identifierTag, maskPath⟩ ++ defaultDigest.write⟩

/-- The function that stretches passwords where none is named. -/
def defaultStretch : Element := withNull (publicKeyPath [0x02, 0x07])

/-- An element inside a numbered part, if it is of some class and not the one left out. -/
def part (number : Nat) (test : Element → Bool) : Reading (Option Element) :=
  optional (partTag number) fun element => (element.part? number).bind (Element.onlyIf? test)

def isMask (nested : Element → Bool) (element : Element) : Bool :=
  (element.structure? do
    let _ ← next Element.identifier?
    let _ ← next (Element.onlyIf? nested)).isSome

/-- The parameters of salted signatures; a part that is as if left out has to be left out. -/
def saltedParameters (nested : Element → Bool) : Reading Unit := do
  let _ ← part 0 fun element => nested element && element != defaultDigest
  let _ ← part 1 fun element => isMask nested element && element != defaultMask
  let _ ← part 2 fun element => ((element.naturalBelow? (2 ^ 16)).filter (· ≠ 20)).isSome
  let _ ← part 3 fun element => (element.naturalBelow? (2 ^ 8)).isSome

def threeNumbers : Reading (Nat × Nat × Nat) := do
  let first ← next Element.natural?
  let second ← next Element.natural?
  let third ← next Element.natural?
  return (first, second, third)

def reads {α : Type} (reading : Reading α) (element : Element) : Bool :=
  (element.structure? reading).isSome

/-- The constants of a curve, given in place of its name. -/
structure Constants where
  version : Nat
  field : Octets
  prime : Element
  a : Octets
  b : Octets
  seed : Option Bits
  base : Octets
  order : Nat
  cofactor : Option Nat

/-- The coefficients of a curve, and perhaps what the second one was derived from. -/
def coefficients : Reading (Octets × Octets × Option Bits) := do
  let a ← next Element.octets?
  let b ← next Element.octets?
  let seed ← optional bitStringTag Element.bits?
  return (a, b, seed)

/-- A field: the identifier of its kind and what tells it from others of the kind. -/
def fieldParts : Reading (Octets × Element) := do
  let kind ← next Element.identifier?
  let prime ← next some
  return (kind, prime)

def constants : Reading Constants := do
  let version ← next (Element.naturalBelow? (2 ^ 8))
  let (field, prime) ← next (Element.structure? fieldParts)
  let (a, b, seed) ← next (Element.structure? coefficients)
  let base ← next Element.octets?
  let order ← next Element.natural?
  let cofactor ← optional integerTag (Element.naturalBelow? (2 ^ 8))
  return { version, field, prime, a, b, seed, base, order, cofactor }

def Constants.describe (constants : Constants) (curve : Curve) : Bool :=
  constants.version == 1 && constants.field == primeFieldPath &&
    constants.prime.natural? == some curve.prime &&
    constants.a == Octets.ofNat curve.width curve.a &&
    constants.b == Octets.ofNat curve.width curve.b &&
    constants.seed.all (fun seed => seed == ⟨0, curve.seed⟩) &&
    constants.base == curve.baseOctets && constants.order == curve.order &&
    constants.cofactor == some 1

/-- Whether an element tells a curve: by its name, by its constants, or not at all. -/
def isCurve (element : Element) : Bool :=
  element.identifier?.isSome || element.isNull || reads constants element

/-- The curve that an element tells, if it is a known one. -/
def curve? (element : Element) : Option Curve :=
  match element.identifier? with
  | some path => Curve.find? path
  | none =>
      (element.structure? constants).bind fun constants =>
        Curve.known.find? constants.describe

/-- Whether one parameter has a form; `nested` tells which elements are algorithms. -/
def Form.fitsOne (nested : Element → Bool) (element : Element) : Form → Bool
  | absent => false
  | null => element.isNull
  | initial size => (element.octetsOf? size).isSome
  | salted => reads (saltedParameters nested) element
  | curve => isCurve element
  | group => reads threeNumbers element
  | exchange =>
      element |> reads do
        let _ ← next Element.natural?
        let _ ← next Element.natural?
        let _ ← optional integerTag (Element.naturalBelow? (2 ^ 32))
  | orderedExchange =>
      element |> reads do
        let _ ← threeNumbers
        let _ ← optional integerTag Element.natural?
        let _ ← optional sequenceTag (Element.contentOf? sequenceTag)
  | password =>
      element |> reads do
        let _ ← next (Element.onlyIf? nested)
        let _ ← next (Element.onlyIf? nested)
  | stretched =>
      element |> reads do
        let _ ← next Element.octets?
        let _ ← next (Element.naturalBelow? (2 ^ 64))
        let _ ← optional integerTag (Element.naturalBelow? (2 ^ 64))
        let _ ← optional sequenceTag
          (Element.onlyIf? fun inner => nested inner && inner != defaultStretch)
  | costly =>
      element |> reads do
        let _ ← next Element.octets?
        let _ ← next (Element.naturalBelow? (2 ^ 64))
        let _ ← next (Element.naturalBelow? (2 ^ 64))
        let _ ← next (Element.naturalBelow? (2 ^ 64))
        let _ ← optional integerTag (Element.naturalBelow? (2 ^ 32))
  | counted size =>
      element |> reads do
        let _ ← next fun salt => salt.octets?.filter fun octets => size.all (octets.length = ·)
        let _ ← next (Element.naturalBelow? (2 ^ 64))
  | versioned =>
      element |> reads do
        let _ ← optional integerTag (Element.naturalBelow? (2 ^ 32))
        let _ ← next (Element.octetsOf? 8)

def Form.fits (nested : Element → Bool) (form : Form) : List Element → Bool
  | [] =>
      match form with
      | absent => true
      | null => true
      | salted => true
      | _ => false
  | [element] => form.fitsOne nested element
  | _ => false

/-- The object identifier and the parameters of an algorithm, `depth` levels deep at most. -/
def read? : Nat → Element → Option (Octets × Option Element)
  | 0, _ => none
  | depth + 1, element =>
      match element.sequence? with
      | some (name :: parameters) =>
          match name.identifier? with
          | none => none
          | some path =>
              let nested := fun inner => (read? depth inner).isSome
              let isInForm := (form? path).all fun form => form.fits nested parameters
              if parameters.length ≤ 1 ∧ isInForm then
                some (path, parameters.head?)
              else none
      | _ => none

end KeyAlgorithm

/-- The object identifier and the parameters of the algorithm that an element names. -/
def Der.Element.algorithm? (element : Der.Element) : Option (Octets × Option Der.Element) :=
  KeyAlgorithm.read? (element.content.length + 1) element

end RealmAuth
