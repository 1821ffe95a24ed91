import RealmAuth.AuthError
import RealmAuth.Json.Basic
import RealmAuth.Octets
import RealmAuth.Text.Blank
import RealmAuth.Text.Encoding
import RealmAuth.Text.Split

namespace RealmAuth

/-!
Bearer tokens in request headers.  The header is found by its name in any case.
Its value is visible ASCII: a word, one space, and the token.
-/

/-- The value of a header: text, octets, or data that is no header value. -/
inductive HeaderValue where
  | text (value : String)
  | octets (value : Octets)
  | foreign (value : Json)

/-- The headers of a request. -/
inductive Headers where
  /-- Headers under the names as they were given, which differ from each other. -/
  | named (entries : List (String × HeaderValue))
  /-- Headers in the order of a request, their names in any case. -/
  | sent (entries : List (String × HeaderValue))

namespace Headers

def name : String := "Authorization"

def bearer : List Char := "Bearer ".toList

def isName (other : String) : Bool :=
  Text.lowerAscii other.toList == Text.lowerAscii name.toList

/-- The first value under a name that is the wanted one in some case. -/
def findFolded (entries : List (String × HeaderValue)) : Option HeaderValue :=
  (entries.find? fun entry => isName entry.1).map Prod.snd

def given? : HeaderValue → Option HeaderValue
  | .foreign .null => none
  | value => some value

/-- A value as a request delivers it: octets are read as the text that they are in Latin-1. -/
def delivered : HeaderValue → HeaderValue
  | .octets value => .text (String.ofList (Text.latin1 value))
  | value => value

/-- The value of the authorization header; among named headers the exact name comes first. -/
def find? : Headers → Option HeaderValue
  | named entries =>
      match (entries.lookup name).bind given? with
      | some value => some value
      | none => (findFolded entries).bind given?
  | sent entries => ((findFolded entries).bind given?).map delivered

/-- Whether a character may stand in the header's value. -/
def isVisible (c : Char) : Bool :=
  c == '\t' || (0x20 ≤ c.toNat && c.toNat ≤ 0x7E)

def invalid : AuthError := .headerInvalid "failed to convert header to a str"

def visible (cs : List Char) : Except Failure (List Char) :=
  if cs.all isVisible then .ok cs else refuse invalid

/-- Passes over the items of data that is no header value, as if they were characters. -/
def passItems : List Json → Except Failure Unit
  | [] => .ok ()
  | .string item :: items =>
      if item = "\t" ∨ (¬ item.isBefore " " ∧ ¬ Text.isBefore "~" item) then passItems items
      else refuse invalid
  | _ :: _ => escape .wrongType

def valueText : HeaderValue → Except Failure (List Char)
  | .text value => visible value.toList
  | .octets value =>
      match Text.ascii? value with
      | some characters => visible characters
      | none => refuse invalid
  | .foreign value => do
      match value.items? with
      | none => escape .wrongType
      | some items =>
          passItems items
          escape .missingOperation

def tokenOf (value : List Char) : Except Failure String :=
  if Text.startsWith bearer value then .ok (String.ofList (value.drop bearer.length))
  else refuse .bearerMissing

def bearerToken (headers : Headers) : Except Failure String :=
  match headers.find? with
  | none => refuse .headerMissing
  | some value => valueText value >>= tokenOf

end Headers
end RealmAuth
