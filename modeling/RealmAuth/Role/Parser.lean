import RealmAuth.Role.Traced
import RealmAuth.Role.Value

namespace RealmAuth
namespace RoleParser

/-!
Role parsers of an application.  All of them read every name, but for `strict`,
which knows two names and fails at the others.
-/

/-- The names that are known where only some names are. -/
def knownNames : List Text := ["admin", "reader"]

def plain : RoleParser AppRole := fun name =>
  .ok (.data (.string name))

def known : RoleParser AppRole := fun name =>
  .ok (.data (.string (if knownNames.contains name then name else "unknown")))

def marked : RoleParser AppRole := fun name =>
  .ok (.data (.string (.plain "r:" ++ name)))

def length : RoleParser AppRole := fun name =>
  .ok (.data (.int name.length))

def caseless : RoleParser AppRole := fun name =>
  .ok (.caseless name)

def strict : RoleParser AppRole := fun name =>
  if knownNames.contains name then .ok (.data (.string name))
  else escape (.roleName (.plain "unknown role: " ++ name))

end RoleParser
end RealmAuth
