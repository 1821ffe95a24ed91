import RealmAuth.Hash.Sha2
import RealmAuth.Rsa.Key

namespace RealmAuth
namespace Rsa

/-!
Verification of RSA signatures.  A signature is opened with the public key to an
encoded message.  In the first scheme the encoding of a message is one fixed
octet string, so verification is equality; in the second it hides a salt, and
the hash of message and salt has to come out again.
-/

/-- The moduli beyond which only short exponents are used, in bits. -/
def smallModulusBits : Nat := 3072

/-- The greatest size of an exponent beside a large modulus, in bits. -/
def largeExponentBits : Nat := 64

def greatestModulusBits : Nat := 16384

def PublicKey.usable (key : PublicKey) : Bool :=
  key.modulus % 2 == 1 && key.exponent < key.modulus && key.bits ≤ greatestModulusBits &&
    (key.bits ≤ smallModulusBits || Octets.bitLength key.exponent ≤ largeExponentBits)

def PublicKey.open? (key : PublicKey) (signature : Octets) : Option Octets :=
  let value := Octets.toNat signature
  if key.usable ∧ value < key.modulus then
    some (Octets.ofNat key.size (powMod value key.exponent key.modulus))
  else none

/-- The octets that name a hash function in front of its digest. -/
def digestLabel : Sha2 → Octets
  | .sha256 =>
      [0x30, 0x31, 0x30, 0x0D, 0x06, 0x09, 0x60, 0x86, 0x48, 0x01, 0x65, 0x03, 0x04, 0x02, 0x01,
        0x05, 0x00, 0x04, 0x20]
  | .sha384 =>
      [0x30, 0x41, 0x30, 0x0D, 0x06, 0x09, 0x60, 0x86, 0x48, 0x01, 0x65, 0x03, 0x04, 0x02, 0x02,
        0x05, 0x00, 0x04, 0x30]
  | .sha512 =>
      [0x30, 0x51, 0x30, 0x0D, 0x06, 0x09, 0x60, 0x86, 0x48, 0x01, 0x65, 0x03, 0x04, 0x02, 0x03,
        0x05, 0x00, 0x04, 0x40]

/-- The deterministic encoding of a message in `size` octets; at least eight of them are filling. -/
def fixedEncoding? (hash : Sha2) (size : Nat) (message : Octets) : Option Octets :=
  let content := digestLabel hash ++ hash.digest message
  if content.length + 11 ≤ size then
    some (0x00 :: 0x01 :: (List.replicate (size - 3 - content.length) 0xFF ++ 0x00 :: content))
  else none

/-- Whether a signature has the deterministic encoding of a message. -/
def PublicKey.verifyFixed (key : PublicKey) (hash : Sha2) (message signature : Octets) : Bool :=
  signature.length == key.size &&
    match key.open? signature, fixedEncoding? hash key.size message with
    | some opened, some expected => opened == expected
    | _, _ => false

/-- The first `length` octets of the mask that a seed generates. -/
def mask (hash : Sha2) (seed : Octets) (length : Nat) : Octets :=
  let blocks := (length + hash.size - 1) / hash.size
  ((List.range blocks).flatMap fun counter =>
    hash.digest (seed ++ Octets.ofNat 4 counter)).take length

/-- The octet without all but its lowest `bits` bits, all of them if `bits` is zero. -/
def keepBits (bits : Nat) (octet : UInt8) : UInt8 :=
  if bits = 0 then octet else UInt8.ofNat (octet.toNat % 2 ^ bits)

/-- The salt behind the filling of an unmasked block: zeros, a one, then the salt. -/
def salt? : Octets → Option Octets
  | [] => none
  | octet :: rest => if octet = 0 then salt? rest else if octet = 1 then some rest else none

/-- Whether an encoded message is a salted encoding of a message, the salt as long as a digest. -/
def saltedEncodes (hash : Sha2) (modulusBits : Nat) (message encoded : Octets) : Bool :=
  let topBits := (modulusBits - 1) % 8
  let top := encoded.headD 0
  let block := if topBits = 0 then encoded.drop 1 else encoded
  let maskedLength := block.length - hash.size - 1
  let masked := block.take maskedLength
  let inner := (block.drop maskedLength).take hash.size
  let unmasked := Octets.xor masked (mask hash inner maskedLength)
  top.toNat / 2 ^ topBits == 0 && 2 * hash.size + 2 ≤ block.length &&
    block.getLast? == some 0xBC &&
    match unmasked with
    | [] => false
    | first :: rest =>
        match salt? (keepBits topBits first :: rest) with
        | none => false
        | some salt =>
            salt.length == hash.size &&
              hash.digest (List.replicate 8 0 ++ hash.digest message ++ salt) == inner

def PublicKey.holdsDigest (key : PublicKey) (hash : Sha2) : Bool :=
  hash.size + 2 ≤ key.size

/-- Whether a signature has a salted encoding of a message. -/
def PublicKey.verifySalted (key : PublicKey) (hash : Sha2) (message signature : Octets) : Bool :=
  signature.length ≤ key.size &&
    match key.open? signature with
    | some encoded => saltedEncodes hash key.bits message encoded
    | none => false

end Rsa
end RealmAuth
