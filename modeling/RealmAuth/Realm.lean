import RealmAuth.Http.Headers
import RealmAuth.Jws.Decoder
import RealmAuth.Settings
import RealmAuth.Token.Check

namespace RealmAuth

/-!
A realm as an application sees it: what authenticates the bearer of a token.  Every
authenticated token carries the roles that the settings require; what else is
required of a token is checked on the token itself.
-/

/-- A realm, set up for an application whose role values are of type `R`. -/
structure Realm (R : Type) where
  decoder : Decoder
  key : Rsa.Key
  audiences : List Json
  roleParser : RoleParser R
  /-- The roles that every token has to carry. -/
  requiredRoles : List R
  /-- Whether answers name the role that is missing. -/
  debug : Bool

/-- The standard claims among decoded claims, or the refusal of them. -/
def standardClaims (claims : Json) : Except Failure StandardClaims :=
  (Claims.read claims).mapError fun report => .refused (.claimsParse (.claims report))

namespace Realm

/-- The key that settings hold; only a text can be one. -/
def keyOf : Json → Except Failure Rsa.Key
  | .string text => decodingKeyOfText text
  | _ => escape .missingOperation

def listed (setting : Json) : Except Failure (List Json) :=
  match setting.items? with
  | some items => .ok items
  | none => escape .wrongType

def ofSettings {R : Type} [ConfiguredRole R] (settings : Settings) (roleParser : RoleParser R)
    (decoder : Decoder) : Except Failure (Realm R) := do
  let key ← keyOf settings.realmPublicKey
  let audiences ← listed settings.expectedAudiences
  let requiredRoles ← listed settings.requiredRoles
  return {
    decoder := decoder
    key := key
    audiences := audiences
    roleParser := roleParser
    requiredRoles := requiredRoles.map ConfiguredRole.ofData
    debug := settings.debug.truthy }

variable {R : Type}

/-- The token of a text that is verified, read and not expired, whatever its roles. -/
def accept (realm : Realm R) (now : Instant) (token : Text) : Traced (Token R) := do
  let claims ← Traced.lift (realm.decoder now token (.rsa realm.key) (.array realm.audiences))
  let claims ← Traced.lift (standardClaims claims)
  let token ← Token.ofClaims realm.roleParser claims
  Traced.lift (token.checkLifetime now)
  return token

/-- The token of the text that headers bear, whatever its roles. -/
def acceptHeaders (realm : Realm R) (now : Instant) (headers : Headers) : Traced (Token R) := do
  let token ← Traced.lift headers.bearerToken
  realm.accept now token

variable [RoleValue R]

/-- The token of a text; it carries the required roles. -/
def authenticate (realm : Realm R) (now : Instant) (token : Text) : Traced (Token R) := do
  let token ← realm.accept now token
  token.expectRoles realm.requiredRoles
  return token

/-- The token of headers; it carries the required roles as well. -/
def authenticateHeaders (realm : Realm R) (now : Instant) (headers : Headers) :
    Traced (Token R) := do
  let token ← realm.acceptHeaders now headers
  token.expectRoles realm.requiredRoles
  return token

end Realm
end RealmAuth
