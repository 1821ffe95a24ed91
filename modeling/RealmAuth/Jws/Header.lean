import RealmAuth.Base64.Basic
import RealmAuth.Json.Reader
import RealmAuth.Jws.Algorithm
import RealmAuth.Jws.Fault
import RealmAuth.Text.Split

namespace RealmAuth
namespace Jws

/-!
The parts of a signed token.  A token is three segments between dots, of which the
middle one may hold dots itself; each is base 64.  The header says how the token
is signed, and nothing in it is trusted before the signature is verified.
-/

/-- The segments of a token. -/
structure Segments where
  header : List Char
  payload : List Char
  signature : List Char
  deriving DecidableEq

/-- The segments of a text: up to the first dot, up to the last dot, and after it. -/
def Segments.ofText? (token : List Char) : Option Segments := do
  let (signed, signature) ← Text.cutLast? '.' token
  let (header, payload) ← Text.cut? '.' signed
  return ⟨header, payload, signature⟩

/-- The text that is signed, all before the last dot. -/
def Segments.signed (segments : Segments) : List Char :=
  segments.header ++ '.' :: segments.payload

/-- A token whose parts were read and whose header was accepted. -/
structure Parts where
  header : Json.Fields
  algorithm : Algorithm
  payload : Octets
  signature : Octets
  /-- The octets that the signature is over. -/
  signed : Octets

def orFault {ε α : Type} (fault : ε) : Option α → Except ε α
  | some value => .ok value
  | none => .error fault

/-- The fields of an octet string that writes an object. -/
def readObject [Platform] {ε : Type} (unreadable : Octets → ε) (notObject : ε)
    (octets : Octets) : Except ε Json.Fields :=
  match Json.readOctets? octets with
  | none => .error (unreadable octets)
  | some (.object fields) => .ok fields
  | some _ => .error notObject

/-- Whether a header declares that the payload stands elsewhere. -/
def isDetached (header : Json.Fields) : Bool :=
  match header.get? "b64" with
  | some (.bool false) => true
  | _ => false

def payloadOf (header : Json.Fields) (segment : List Char) : Except HeaderFault Octets :=
  if isDetached header then
    if segment.isEmpty then .ok [] else .error .payloadPresent
  else orFault .payloadPadding (Base64.url.decode? segment)

def checkKeyId (header : Json.Fields) : Except HeaderFault Unit :=
  match header.get? "kid" with
  | none => .ok ()
  | some (.string _) => .ok ()
  | some _ => .error .keyIdNotText

def knownExtensions : List Text := ["b64"]

/-- A critical extension is named by a text, known, and present. -/
def checkExtension (header : Json.Fields) : Json → Except HeaderFault Unit
  | .string name =>
      if !knownExtensions.contains name then .error (.criticalUnknown name)
      else if !header.has name then .error (.criticalAbsent name)
      else .ok ()
  | _ => .error .criticalNotText

/-- Critical extensions are listed, at least one of them, where there is a list. -/
def checkCritical (header : Json.Fields) : Except HeaderFault Unit :=
  match header.get? "crit" with
  | none => .ok ()
  | some (.array (extension :: extensions)) =>
      (extension :: extensions).forM (checkExtension header)
  | some _ => .error .criticalNotList

def algorithmOf (header : Json.Fields) : Except HeaderFault Algorithm :=
  let given := (header.get? "alg").getD .null
  match given.text?.bind Algorithm.ofName? with
  | some algorithm => .ok algorithm
  | none => .error (.algorithm given)

/-- The parts of a token, its signature not yet verified. -/
def read [Platform] (token : String) : Except HeaderFault Parts := do
  let segments ← orFault .notEnoughSegments (Segments.ofText? token.toList)
  let headerOctets ← orFault .headerPadding (Base64.url.decode? segments.header)
  let header ← readObject .headerText .headerNotObject headerOctets
  let payload ← payloadOf header segments.payload
  let signature ← orFault .signaturePadding (Base64.url.decode? segments.signature)
  checkKeyId header
  checkCritical header
  let algorithm ← algorithmOf header
  return ⟨header, algorithm, payload, signature, Text.toUtf8 segments.signed⟩

end Jws
end RealmAuth
