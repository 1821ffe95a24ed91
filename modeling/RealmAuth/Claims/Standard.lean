import RealmAuth.Claims.Report
import RealmAuth.Json.Basic

namespace RealmAuth

/-!
The claims of an access token.  Types are strict: a truth value or a number with a
point is no integer, and nothing is converted.  Claims of other names are ignored.
-/

/-- The audience of a token, in the shape in which it was issued. -/
inductive Audience where
  | one (name : Text)
  | many (names : List Text)
  deriving DecidableEq

/-- The names of the roles that a realm grants, in order. -/
structure RealmAccess where
  roles : List Text
  deriving DecidableEq

/-- The names of the roles that each client grants, clients and names in order. -/
structure ResourceAccess where
  clients : List (Text × List Text)
  deriving DecidableEq

def RealmAccess.count (access : RealmAccess) : Nat :=
  access.roles.length

def ResourceAccess.count (access : ResourceAccess) : Nat :=
  access.clients.foldl (fun count client => count + client.2.length) 0

/-- The claims that every access token carries. -/
structure StandardClaims where
  /-- When the token expires, in seconds. -/
  exp : Int
  /-- When the token was issued, in seconds. -/
  iat : Int
  /-- The identifier of the token. -/
  jti : Text
  /-- Who issued the token. -/
  iss : Text
  /-- Whom the token is for. -/
  aud : Audience
  /-- The identifier of the user. -/
  sub : Text
  /-- The type of the token. -/
  typ : Text
  /-- The party that the token was issued to. -/
  azp : Text
  realmAccess : Option RealmAccess
  resourceAccess : Option ResourceAccess
  givenName : Text
  familyName : Text
  name : Text
  preferredUsername : Text
  email : Text
  emailVerified : Bool
  deriving DecidableEq

namespace Claims

open Checked

def leastTime : Int := -2 ^ 63

def greatestTime : Int := 2 ^ 63 - 1

def time : Json → Checked Int
  | .int value =>
      if value < leastTime then fault .belowRange
      else if greatestTime < value then fault .aboveRange
      else good value
  | _ => fault .notInteger

def text : Json → Checked Text
  | .string value => good value
  | _ => fault .notText

def truth : Json → Checked Bool
  | .bool value => good value
  | _ => fault .notTruth

def textsFrom (position : Nat) : List Json → Checked (List Text)
  | [] => good []
  | item :: items =>
      List.cons <$> (text item).within (toString position) <*> textsFrom (position + 1) items

def texts : Json → Checked (List Text)
  | .array items => textsFrom 0 items
  | _ => fault .notList

/-- An audience: a text or a list of texts; of any other value both readings are reported. -/
def audience : Json → Checked Audience
  | .string name => good (.one name)
  | value =>
      match (texts value).within "list[str]" with
      | good names => good (.many names)
      | faulty first others => faulty ⟨["str"], .notText⟩ (first :: others)

def required {α : Type} (fields : Json.Fields) (name : String) (read : Json → Checked α) :
    Checked α :=
  match fields.get? name with
  | some value => (read value).within name
  | none => (fault .missing).within name

def optional {α : Type} (fields : Json.Fields) (name : String) (read : Json → Checked α) :
    Checked (Option α) :=
  match fields.get? name with
  | none => good none
  | some .null => good none
  | some value => some <$> (read value).within name

/-- The role names of an access object of the given kind. -/
def roleNames (kind : String) : Json → Checked (List Text)
  | .object fields => required fields "roles" texts
  | _ => fault (.notObject kind)

def realmAccess (value : Json) : Checked RealmAccess :=
  RealmAccess.mk <$> roleNames "RealmAccess" value

/-- The roles of each client; in a place, only characters can be shown of a client's name. -/
def clientRoles : List (Text × Json) → Checked (List (Text × List Text))
  | [] => good []
  | (client, value) :: rest =>
      (fun names clients => (client, names) :: clients) <$>
        (roleNames "Access" value).within client.shown <*> clientRoles rest

def resourceAccess : Json → Checked ResourceAccess
  | .object fields => ResourceAccess.mk <$> clientRoles fields
  | _ => fault .notDictionary

/-- The standard claims among the fields of a payload. -/
def ofFields (fields : Json.Fields) : Checked StandardClaims :=
  StandardClaims.mk <$> required fields "exp" time
    <*> required fields "iat" time
    <*> required fields "jti" text
    <*> required fields "iss" text
    <*> required fields "aud" audience
    <*> required fields "sub" text
    <*> required fields "typ" text
    <*> required fields "azp" text
    <*> optional fields "realm_access" realmAccess
    <*> optional fields "resource_access" resourceAccess
    <*> required fields "given_name" text
    <*> required fields "family_name" text
    <*> required fields "name" text
    <*> required fields "preferred_username" text
    <*> required fields "email" text
    <*> required fields "email_verified" truth

def check : Json → Checked StandardClaims
  | .object fields => ofFields fields
  | _ => fault (.notObject "StandardClaims")

/-- The standard claims of a value, or the report on it. -/
def read (value : Json) : Except Report StandardClaims :=
  (check value).result "StandardClaims" value

/-- The roles that a realm grants, read on their own. -/
def readRealmAccess (value : Json) : Except Report RealmAccess :=
  (realmAccess value).result "RealmAccess" value

def readResourceAccess (value : Json) : Except Report ResourceAccess :=
  (resourceAccess value).result "ResourceAccess" value

end Claims
end RealmAuth
