import RealmAuth.Base64.Lenient
import RealmAuth.Key.Document
import RealmAuth.Text.Encoding

namespace RealmAuth
namespace SecureShell

/-!
Public keys written on one line: the name of the kind, blanks, and a base 64 body
that repeats the name before the key itself.  A certificate is written alike; its
key is taken, and the rest of it only has to be well formed.
-/

def isSpace (c : Char) : Bool :=
  let n := c.toNat
  n == 0x20 || (9 ≤ n && n ≤ 13)

/-- The first word of a line and the word after the blanks behind it. -/
def words? (cs : List Char) : Option (List Char × List Char) :=
  let first := cs.takeWhile fun c => !isSpace c
  let blanks := (cs.drop first.length).takeWhile fun c => c == ' ' || c == '\t'
  let second := (cs.drop (first.length + blanks.length)).takeWhile fun c => !isSpace c
  if first.isEmpty ∨ blanks.isEmpty ∨ second.isEmpty then none else some (first, second)

/-! ## Fields of the body -/

/-- A reading of octets from their start on. -/
abbrev Reading (α : Type) := StateT Octets (Except DocumentError) α

def take (size : Nat) : Reading Octets := fun octets =>
  if octets.length < size then .error .malformed
  else .ok (octets.take size, octets.drop size)

def string : Reading Octets := do
  take (Octets.toNat (← take 4))

def number : Reading Nat := do
  let octets ← string
  if octets.head?.any Der.continues then throw .malformed else return Octets.toNat octets

/-- What a reading makes of octets, none of which may be left. -/
def Reading.all {α : Type} (reading : Reading α) (octets : Octets) : Except DocumentError α :=
  match reading.run octets with
  | .ok (value, []) => .ok value
  | .ok _ => .error .malformed
  | .error cause => .error cause

def ensure (test : Bool) : Reading Unit :=
  if test then return () else throw .malformed

/-! ## Kinds of keys -/

/-- The kinds of keys that lines hold. -/
inductive Kind where
  | rsa
  | dsa
  | ed25519
  | curve (group : Curve) (name : String)

def kinds : List (String × Kind) :=
  [ ("ssh-rsa", .rsa),
    ("ssh-dss", .dsa),
    ("ssh-ed25519", .ed25519),
    ("ecdsa-sha2-nistp256", .curve .p256 "nistp256"),
    ("ecdsa-sha2-nistp384", .curve .p384 "nistp384"),
    ("ecdsa-sha2-nistp521", .curve .p521 "nistp521") ]

/-- The sizes of the smaller prime of keys for the digital signature algorithm, in bits. -/
def smallPrimeSizes : List Nat := [160, 224, 256]

/-- A point is written in full, which its first octet tells. -/
def ensureFull : Octets → Reading Unit
  | [] => throw .pointAbsent
  | first :: _ => if first = 4 then return () else throw .pointForm

def Kind.key : Kind → Reading KeyDocument
  | rsa => do
      let exponent ← number
      let modulus ← number
      let key : Rsa.PublicKey := ⟨modulus, exponent⟩
      ensure key.inRange
      return .rsa (.verifying key)
  | dsa => do
      let large ← number
      let small ← number
      let generator ← number
      let _ ← number
      ensure (Octets.bitLength large == 1024 && smallPrimeSizes.contains (Octets.bitLength small))
      ensure (1 < generator && generator < large)
      return .other .dsa false
  | ed25519 => do
      let key ← string
      ensure (key.length == 32)
      return .other .ed25519 false
  | curve group name => do
      let given ← string
      let point ← string
      ensure (given == Text.toUtf8 name.toList)
      ensureFull point
      ensure (group.isPoint point)
      return .other .ellipticCurve false

/-! ## Certificates -/

def certificateEnd : List Char := "-cert-v01@openssh.com".toList

/-- The name of the kind of key in a certificate, where a name is that of one. -/
def certified? (name : List Char) : Option (List Char) :=
  let size := name.length - certificateEnd.length
  if name.drop size = certificateEnd then some (name.take size) else none

/-- The strings that fill octets; the count bounds the steps. -/
def stringsWithin : Nat → Octets → Except DocumentError (List Octets)
  | _, [] => .ok []
  | 0, _ => .error .malformed
  | count + 1, octets => do
      let (first, rest) ← string.run octets
      let others ← stringsWithin count rest
      return first :: others

def strings : Reading (List Octets) := do
  let octets ← string
  stringsWithin octets.length octets

/-- Whether the value of an option is empty or one string. -/
def isOptionValue (octets : Octets) : Bool :=
  octets.isEmpty || (string.all octets).toBool

/-- Whether strings are names in their order, each once and before a value. -/
def areOptions : Option Octets → List Octets → Bool
  | _, [] => true
  | _, [_] => false
  | last, name :: value :: rest =>
      last.all (fun last => last != name && Der.precede last name) && isOptionValue value &&
        areOptions (some name) rest

def certificateOptions : Reading Unit := do
  ensure (areOptions none (← strings))

def rsaSignatures : List String := ["rsa-sha2-256", "rsa-sha2-512", "ssh-rsa"]

/-- Whether a signature is of a kind that a key of another kind makes. -/
def signsAs (signer signature : Octets) : Bool :=
  let named := fun name => Text.toUtf8 (String.toList name)
  if signer == named "ssh-rsa" then rsaSignatures.any fun name => signature == named name
  else signer == signature

/-- The kind of a signature, which stands before its octets. -/
def signatureKind : Reading Octets := do
  let kind ← string
  let _ ← string
  return kind

def certificateRest : Reading Unit := do
  let _ ← take 8
  let _ ← take 4
  let _ ← string
  let _ ← strings
  let _ ← take 8
  let _ ← take 8
  certificateOptions
  certificateOptions
  let _ ← string
  let authority ← string
  let signature ← string
  let (signer, _) ← string.run authority
  let made ← signatureKind.all signature
  ensure (signsAs signer made)

def body (name : List Char) (kind : Kind) (isCertificate : Bool) : Reading KeyDocument := do
  let inner ← string
  ensure (inner == Text.toUtf8 name)
  if isCertificate then
    let _ ← string
  let key ← kind.key
  if isCertificate then certificateRest
  return key

def read (cs : List Char) : Except DocumentError KeyDocument :=
  match words? cs with
  | none => .error .malformed
  | some (name, text) =>
      match kinds.lookup (String.ofList ((certified? name).getD name)) with
      | none => .error .unsupported
      | some kind =>
          match Base64.lenientStandard? text with
          | none => .error .malformed
          | some octets => (body name kind (certified? name).isSome).all octets

end SecureShell
end RealmAuth
