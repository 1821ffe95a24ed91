import RealmAuth.Token.Basic

namespace RealmAuth
namespace Token

/-!
Checks of the roles of a token.  A role is asked for by a value or by a name; a
name is read by the token's parser, once for every time it is asked for.
-/

variable {R : Type} [RoleValue R]

def wanted (token : Token R) (role : R) : Traced R :=
  match RoleValue.name? role with
  | some name => token.roleParser.run name
  | none => pure role

/-- Whether a token carries a role value, from whatever origin. -/
def carries (token : Token R) (role : R) : Bool :=
  token.roles.any fun grant => RoleValue.same grant.role role

def hasRole (token : Token R) (role : R) : Traced Bool := do
  return token.carries (← token.wanted role)

/-- All of some roles are required; the first one that is missing is reported. -/
def expectRoles (token : Token R) : List R → Traced Unit
  | [] => pure ()
  | role :: roles => do
      let role ← token.wanted role
      if token.carries role then token.expectRoles roles
      else Traced.refuse (.roleMissing (RoleValue.text role))

/-- One of some roles is required, behind a role that was found missing. -/
def containedAfter (token : Token R) (missing : Option R) : List R → Traced Unit
  | [] =>
      match missing with
      | none => pure ()
      | some role => Traced.refuse (.roleMissing (RoleValue.text role))
  | role :: roles => do
      let role ← token.wanted role
      if token.carries role then pure () else token.containedAfter (some role) roles

/-- One of some roles is required, if there are any; the last one is reported. -/
def containedRoles (token : Token R) (roles : List R) : Traced Unit :=
  token.containedAfter none roles

def notExpectRoles (token : Token R) : List R → Traced Unit
  | [] => pure ()
  | role :: roles => do
      if ← token.hasRole role then Traced.refuse .roleUnexpected
      else token.notExpectRoles roles

/-- A requirement is met: first its required roles, then one of its roles, then none. -/
def meets (token : Token R) (requirement : Requirement R) : Traced Unit := do
  token.expectRoles requirement.allOf
  token.containedRoles requirement.anyOf
  token.notExpectRoles requirement.noneOf

def authorize (token : Token R) : List (Requirement R) → Traced (Token R)
  | [] => pure token
  | requirement :: requirements => do
      token.meets requirement
      token.authorize requirements

end Token
end RealmAuth
