import RealmAuth.Clock.Calendar
import RealmAuth.Role.Grant
import RealmAuth.Role.Requirement

namespace RealmAuth

/-!
Access tokens whose claims were verified and read.
-/

/-- An access token; its roles are values of type `R`. -/
structure Token (R : Type) where
  expiresAt : Instant
  issuedAt : Instant
  /-- The identifier of the token. -/
  identifier : Text
  issuer : Text
  audience : Audience
  subject : Text
  authorizedParty : Text
  /-- All grants, those of the realm first. -/
  roles : List (Grant Text R)
  givenName : Text
  familyName : Text
  fullName : Text
  preferredUsername : Text
  email : Text
  emailVerified : Bool
  /-- What reads the role names that a check is asked for. -/
  roleParser : RoleParser R

namespace Token

variable {R : Type}

def instantOf (seconds : Int) (claim label : String) : Except Failure Instant :=
  (Calendar.instant seconds).mapError fun reason =>
    .refused (.tokenInvalid
      ("Could not parse '" ++ claim ++ "' (" ++ label ++ ") field as unix timestamp: " ++ reason))

/-- The token of some claims; its times are read before its roles. -/
def ofClaims (parser : RoleParser R) (claims : StandardClaims) : Traced (Token R) := do
  let expiresAt ← Traced.lift (instantOf claims.exp "exp" "expires_at")
  let issuedAt ← Traced.lift (instantOf claims.iat "iat" "issued_at")
  let roles ← Grant.extract parser claims.realmAccess claims.resourceAccess
  return {
    expiresAt := expiresAt
    issuedAt := issuedAt
    identifier := claims.jti
    issuer := claims.iss
    audience := claims.aud
    subject := claims.sub
    authorizedParty := claims.azp
    roles := roles
    givenName := claims.givenName
    familyName := claims.familyName
    fullName := claims.name
    preferredUsername := claims.preferredUsername
    email := claims.email
    emailVerified := claims.emailVerified
    roleParser := parser }

/-- Equality of tokens; their role parsers are not compared. -/
def same [RoleValue R] (a b : Token R) : Bool :=
  a.expiresAt == b.expiresAt && a.issuedAt == b.issuedAt && a.identifier == b.identifier &&
    a.issuer == b.issuer && a.audience == b.audience && a.subject == b.subject &&
    a.authorizedParty == b.authorizedParty && Grant.sameList (· == ·) a.roles b.roles &&
    a.givenName == b.givenName && a.familyName == b.familyName && a.fullName == b.fullName &&
    a.preferredUsername == b.preferredUsername && a.email == b.email &&
    a.emailVerified == b.emailVerified

def isExpired (token : Token R) (now : Instant) : Bool :=
  token.expiresAt.micros < now.micros

def checkLifetime (token : Token R) (now : Instant) : Except Failure Unit :=
  if token.isExpired now then refuse .tokenExpired else .ok ()

def realmRoles (token : Token R) : List R :=
  token.roles.filterMap Grant.realmRole?

/-- The roles that a client grants, or all clients, in order. -/
def clientRoles (token : Token R) (client : Option Text) : List R :=
  token.roles.filterMap <| Grant.clientRole? fun name => (client.map (· == name)).getD true

end Token
end RealmAuth
