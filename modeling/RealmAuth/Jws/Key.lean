import RealmAuth.Jws.Algorithm
import RealmAuth.Jws.Fault
import RealmAuth.Json.Reader
import RealmAuth.Key.Realm
import RealmAuth.Text.Encoding

namespace RealmAuth

/-!
Keys made ready for an algorithm.  The token chooses the algorithm, so every kind
of key may meet every algorithm; each family takes its own kind and refuses the
others, and a shared secret must not be a public key in disguise.
-/

/-- The key that a token is verified with: an RSA key, or a value taken as it is. -/
inductive DecodingKey where
  | rsa (key : Rsa.Key)
  | plain (value : Json)

def DecodingKey.kind : DecodingKey → String
  | rsa key => (KeyDocument.rsa key).kind
  | plain .null => "NoneType"
  | plain (.bool _) => "bool"
  | plain (.int _) => "int"
  | plain (.double _) => "float"
  | plain (.string _) => "str"
  | plain (.array _) => "list"
  | plain (.object _) => "dict"

namespace Jws

/-- A key that fits its algorithm. -/
inductive ReadyKey where
  | rsa (key : Rsa.Key)
  | secret (octets : Octets)
  /-- A key of another kind, with which nothing is verified. -/
  | inert

/-- The characters of a text that is to be a key. -/
def keyText (text : Text) : Except (Halt VerificationFault) (List Char) :=
  match text.chars? with
  | some characters => .ok characters
  | none => refuse (.keyBroken text)

/-- A fault of the key material in a text, as a fault of verification. -/
def keyFault (text : List Char) : KeyFault → VerificationFault
  | .locked document => .keyLocked document
  | .wrongKind found => .keyKind found "RSAAlgorithm"
  | .unreadable => .keyUnreadable
  | _ => .keyMalformed text

/-- The reading of the document in a text, its errors as faults of verification. -/
def documentOf (text : List Char) (reading : Except DocumentError KeyDocument) :
    Except (Halt VerificationFault) KeyDocument :=
  match reading with
  | .ok document => .ok document
  | .error .malformed => refuse (.keyMalformed text)
  | .error .locked => refuse (.keyLocked text)
  | .error .unsupported => escape .unsupportedKey
  | .error .pointForm => escape .pointForm
  | .error .pointAbsent => escape .pointAbsent

def readyRsa : DecodingKey → Except (Halt VerificationFault) ReadyKey
  | .rsa key => .ok (.rsa key)
  | .plain (.string text) => do
      let characters ← keyText text
      match RealmKey.read characters with
      | .ok key => return .rsa key
      | .error halt => .error (halt.map (keyFault characters))
  | .plain _ => refuse .documentExpected

/-- The start of the one line form of a public key for the elliptic curve algorithms. -/
def curveLineStart : List Char := "ecdsa-sha2-".toList

/-- The public key of a text, on one line or in a document, or else its private key. -/
def curveDocument (text : List Char) : Except (Halt VerificationFault) KeyDocument :=
  let reading :=
    if Text.startsWith curveLineStart text then SecureShell.read text
    else KeyDocument.readPublic text
  match reading with
  | .error .malformed => documentOf text (KeyDocument.readPrivate text)
  | reading => documentOf text reading

def readyCurve : DecodingKey → Except (Halt VerificationFault) ReadyKey
  | .plain (.string text) => do
      match ← curveDocument (← keyText text) with
      | .other .ellipticCurve _ => return .inert
      | document => refuse (.keyKind document.kind "ECAlgorithm")
  | _ => refuse .documentExpected

/-- The document that a text for the Edwards curve algorithm announces. -/
def announcedDocument (text : List Char) : Except (Halt VerificationFault) KeyDocument :=
  if Text.holds "-----BEGIN PUBLIC".toList text then documentOf text (KeyDocument.readPublic text)
  else if Text.holds "-----BEGIN PRIVATE".toList text then
    documentOf text (KeyDocument.readPrivate text)
  else if Text.startsWith "ssh-".toList text then documentOf text (SecureShell.read text)
  else refuse .keyNotDocument

def readyEdwards : DecodingKey → Except (Halt VerificationFault) ReadyKey
  | .plain (.string text) => do
      match ← announcedDocument (← keyText text) with
      | .other .ed25519 _ => return .inert
      | .other .ed448 _ => return .inert
      | document => refuse (.keyKind document.kind "OKPAlgorithm")
  | key => refuse (.keyKind key.kind "OKPAlgorithm")

/-- The labels of documents that are no shared secrets. -/
def publicLabels : List String :=
  [
    "CERTIFICATE", "TRUSTED CERTIFICATE", "PRIVATE KEY", "PUBLIC KEY", "ENCRYPTED PRIVATE KEY",
    "OPENSSH PRIVATE KEY", "DSA PRIVATE KEY", "RSA PRIVATE KEY", "RSA PUBLIC KEY",
    "EC PRIVATE KEY", "DH PARAMETERS", "NEW CERTIFICATE REQUEST", "CERTIFICATE REQUEST",
    "SSH2 PUBLIC KEY", "SSH2 ENCRYPTED PRIVATE KEY", "X509 CRL"
  ]

def publicStarts : List String :=
  [
    "ssh-ed25519", "ssh-rsa", "ssh-dss", "ecdsa-sha2-nistp256", "ecdsa-sha2-nistp384",
    "ecdsa-sha2-nistp521"
  ]

/-- The text after one of the two characters that may stand beside the dashes of a frame. -/
def afterEdge? : List Char → Option (List Char)
  | '-' :: rest => some rest
  | ' ' :: rest => some rest
  | _ => none

def after? (start cs : List Char) : Option (List Char) :=
  if Text.startsWith start cs then some (cs.drop start.length) else none

def afterFrame? (word label : String) (cs : List Char) : Option (List Char) :=
  (after? "----".toList cs).bind afterEdge? |>.bind (after? word.toList)
    |>.bind (after? label.toList) |>.bind afterEdge? |>.bind (after? "----".toList)

/-- The mark at the start or at the end of a framed document. -/
structure Mark where
  opens : Bool
  label : String
  /-- How many characters the mark takes. -/
  size : Nat

def markOf? (cs : List Char) (label : String) : Option Mark :=
  let mark := fun opens rest => Mark.mk opens label (cs.length - List.length rest)
  match afterFrame? "BEGIN " label cs with
  | some rest => some (mark true rest)
  | none => (afterFrame? "END " label cs).map (mark false)

def mark? (cs : List Char) : Option Mark :=
  if Text.startsWith "----".toList cs then publicLabels.findSome? (markOf? cs) else none

/--
Whether a text holds a mark that closes a frame.  `skip` characters belong to the
last mark, `opened` are the labels of frames with something in them, and `fresh`
is the label of a frame that was opened just here.
-/
def closesFrame (skip : Nat) (opened : List String) (fresh : Option String) : List Char → Bool
  | [] => false
  | c :: cs =>
      if 0 < skip then closesFrame (skip - 1) opened fresh cs
      else
        let before := fresh.toList ++ opened
        match mark? (c :: cs) with
        | none => closesFrame 0 before none cs
        | some mark =>
            if mark.opens then
              closesFrame (mark.size - 1) (before.filter (· != mark.label)) (some mark.label) cs
            else opened.contains mark.label || closesFrame (mark.size - 1) before none cs

/-- Whether a text holds a framed document: two marks of one label and something between. -/
def holdsDocument (cs : List Char) : Bool :=
  closesFrame 0 [] none cs

mutual

/-- Whether a value is, or holds, an object that gives a key type. -/
def holdsEntry : Json → Bool
  | .object fields => (Json.Fields.has fields "kty") || holdsEntryFields fields
  | .array items => holdsEntryItems items
  | _ => false

def holdsEntryItems : List Json → Bool
  | [] => false
  | item :: items => holdsEntry item || holdsEntryItems items

/-- Whether the value of one of some fields holds a key entry. -/
def holdsEntryFields : List (Text × Json) → Bool
  | [] => false
  | (_, value) :: fields => holdsEntry value || holdsEntryFields fields

end

variable [Platform]

def readySecret : DecodingKey → Except (Halt VerificationFault) ReadyKey
  | .plain (.string text) => do
      let cs ← keyText text
      let octets := Text.toUtf8 cs
      if cs.isEmpty then refuse .secretEmpty
      else if holdsDocument cs ∨ KeyDocument.isPublicEncoding octets ∨
          publicStarts.any fun start => Text.startsWith start.toList cs then
        refuse .secretAsymmetric
      else if ((Json.readOctets? octets).map holdsEntry).getD false then refuse .secretEntry
      else .ok (.secret octets)
  | _ => refuse .secretExpected

def ready (algorithm : Algorithm) (key : DecodingKey) :
    Except (Halt VerificationFault) ReadyKey :=
  match algorithm.scheme with
  | .rsaFixed => readyRsa key
  | .rsaSalted => readyRsa key
  | .secret => readySecret key
  | .curve => readyCurve key
  | .edwards => readyEdwards key

end Jws
end RealmAuth
