import RealmAuth.Claims.Standard
import RealmAuth.Role.Traced
import RealmAuth.Role.Value

namespace RealmAuth

/-!
Grants: role values with their origin, the realm as a whole or one client of it.
-/

/-- A role granted by the realm, or by a client. -/
inductive Grant (C R : Type) where
  | realm (role : R)
  | client (client : C) (role : R)

namespace Grant

variable {C R : Type}

def role : Grant C R → R
  | realm role => role
  | client _ role => role

def realmRole? : Grant C R → Option R
  | realm role => some role
  | client _ _ => none

/-- The role of a grant by a client, if the client is among the wanted ones. -/
def clientRole? (wanted : C → Bool) : Grant C R → Option R
  | realm _ => none
  | client name role => if wanted name then some role else none

/-- Equality of grants: the same origin, the same client and the same role. -/
def same [RoleValue R] (sameClient : C → C → Bool) : Grant C R → Grant C R → Bool
  | realm a, realm b => RoleValue.same a b
  | client c a, client d b => sameClient c d && RoleValue.same a b
  | _, _ => false

def sameList [RoleValue R] (sameClient : C → C → Bool) :
    List (Grant C R) → List (Grant C R) → Bool
  | [], [] => true
  | a :: as, b :: bs => same sameClient a b && sameList sameClient as bs
  | _, _ => false

/-- A role name that a token grants, with its origin. -/
abbrev Named := Grant Text Text

def ofRealm (access : RealmAccess) : List Named :=
  access.roles.map realm

def ofClients (access : ResourceAccess) : List Named :=
  access.clients.flatMap fun entry => entry.2.map (client entry.1)

def named (realmAccess : Option RealmAccess) (resourceAccess : Option ResourceAccess) :
    List Named :=
  (realmAccess.map ofRealm).getD [] ++ (resourceAccess.map ofClients).getD []

/-- Names read one after the other; their grants stand behind those that were gathered before. -/
def gather (parser : RoleParser R) (origin : R → Grant Text R) :
    List (Grant Text R) → List Text → Traced (List (Grant Text R))
  | gathered, [] => pure gathered
  | gathered, name :: names => do
      let role ← parser.run name
      gather parser origin (gathered ++ [origin role]) names

/-- The names of one client after the other. -/
def gatherClients (parser : RoleParser R) :
    List (Grant Text R) → List (Text × List Text) → Traced (List (Grant Text R))
  | gathered, [] => pure gathered
  | gathered, (owner, names) :: clients => do
      let gathered ← gather parser (client owner) gathered names
      gatherClients parser gathered clients

/-- The grants of a token with their role names read, those of the realm first. -/
def extract (parser : RoleParser R) (realmAccess : Option RealmAccess)
    (resourceAccess : Option ResourceAccess) : Traced (List (Grant Text R)) := do
  let gathered ← realmAccess.elim (pure []) fun access => gather parser realm [] access.roles
  resourceAccess.elim (pure gathered) fun access => gatherClients parser gathered access.clients

end Grant
end RealmAuth
