import RealmAuth.Token.Basic

namespace RealmAuth
namespace Token

/-!
Changes that an application makes to a token it holds.
-/

variable {R : Type}

def withExpiry (token : Token R) (expiresAt : Instant) : Token R :=
  { token with expiresAt := expiresAt }

/-- Another parser for the names that checks are asked for; the roles stay as they are. -/
def withParser (token : Token R) (parser : RoleParser R) : Token R :=
  { token with roleParser := parser }

/-- A further grant behind the others, its role taken as it is. -/
def withGrant (token : Token R) (grant : Grant Text R) : Token R :=
  { token with roles := token.roles ++ [grant] }

end Token
end RealmAuth
