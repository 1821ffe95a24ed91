import RealmAuth.Halt
import RealmAuth.Json.Basic
import RealmAuth.Role.Value

namespace RealmAuth

/-!
Requirements on the roles of a token: roles that it has to carry, roles of which it
has to carry one, and roles that it must not carry.  A requirement is made of what is
offered for each of the three kinds.
-/

/-- A requirement. -/
structure Requirement (R : Type) where
  /-- Roles all of which are required. -/
  allOf : List R
  /-- Roles one of which is required, if there are any. -/
  anyOf : List R
  /-- Roles none of which is allowed. -/
  noneOf : List R

/-- The roles that a value offers one after the other. -/
def AppRole.each {ε : Type} (value : Json) : Except (Halt ε) (List AppRole) :=
  match value.items? with
  | some items => .ok (items.map .data)
  | none => escape .wrongType

/-- A text as a role value. -/
def AppRole.ofText (name : Text) : AppRole :=
  .data (.string name)

/-- What is offered where roles are wanted: a text, or roles one after the other. -/
inductive Offer (R : Type) where
  | text (name : Text)
  | listed (roles : List R)

namespace Offer

variable {R : Type}

/-- The offer of one who offers nothing. -/
def nothing : Offer R := listed []

def isEmpty : Offer R → Bool
  | text name => name.isEmpty
  | listed roles => roles.isEmpty

/-- The roles of an offer, a text being one role. -/
def normalize (ofText : Text → R) : Offer R → List R
  | text name => [ofText name]
  | listed roles => roles

/-- The roles that an offer stands for; one that is empty counts as absent. -/
def roles (ofText : Text → R) (offer : Offer R) : List R :=
  (if offer.isEmpty then nothing else offer).normalize ofText

/--
What a value offers.  A text is offered as it is; any other value that counts as absent
offers nothing, and one that counts as given offers its items.
-/
def ofValue {ε : Type} : Json → Except (Halt ε) (Offer AppRole)
  | .string name => .ok (text name)
  | value =>
      if value.truthy then (AppRole.each value).map listed
      else .ok nothing

end Offer

namespace Requirement

variable {R : Type}

def requireAll (roles : List R) : Requirement R := ⟨roles, [], []⟩

def requireAny (roles : List R) : Requirement R := ⟨[], roles, []⟩

def forbid (roles : List R) : Requirement R := ⟨[], [], roles⟩

def sameRoles [RoleValue R] : List R → List R → Bool
  | [], [] => true
  | a :: as, b :: bs => RoleValue.same a b && sameRoles as bs
  | _, _ => false

def same [RoleValue R] (a b : Requirement R) : Bool :=
  sameRoles a.allOf b.allOf && sameRoles a.anyOf b.anyOf && sameRoles a.noneOf b.noneOf

/-- The requirement that is made of three offers. -/
def ofOffers (ofText : Text → R) (allOf anyOf noneOf : Offer R) : Requirement R :=
  ⟨allOf.roles ofText, anyOf.roles ofText, noneOf.roles ofText⟩

def ofValues {ε : Type} (allOf anyOf noneOf : Json) :
    Except (Halt ε) (Requirement AppRole) := do
  let allOf ← Offer.ofValue allOf
  let anyOf ← Offer.ofValue anyOf
  let noneOf ← Offer.ofValue noneOf
  return ofOffers AppRole.ofText allOf anyOf noneOf

end Requirement
end RealmAuth
