import RealmAuth.Proofs.Role.Reading
import RealmAuth.Token.Check

namespace RealmAuth

/-!
Role parsers that read every name.  With such a parser the grants of a token are
the names that were granted, each of them read, and a role that is asked for is
held or not.
-/

/-- The role parser that reads every name, as a function does. -/
def RoleParser.total {R : Type} (reading : Text → R) : RoleParser R := fun name =>
  .ok (reading name)

/-- The same grant of another role. -/
def Grant.mapRole {C R S : Type} (f : R → S) : Grant C R → Grant C S
  | realm role => realm (f role)
  | client name role => client name (f role)

namespace Grant

variable {R : Type} {reading : Text → R}

theorem eq_mapRole_of_reads {granted : Named} {grant : Grant Text R}
    (reads : Reads (.total reading) granted grant) : grant = granted.mapRole reading := by
  cases reads with
  | realm read =>
      cases read
      rfl
  | client read =>
      cases read
      rfl

theorem eq_map_of_reads {granted : List Named} {grants : List (Grant Text R)}
    (read : List.Forall₂ (Reads (.total reading)) granted grants) :
    grants = granted.map (mapRole reading) := by
  induction read with
  | nil => rfl
  | cons first _ ih => rw [List.map_cons, ← ih, eq_mapRole_of_reads first]

/-- Every name that is granted is read, in order. -/
theorem result_extract (realmAccess : Option RealmAccess)
    (resourceAccess : Option ResourceAccess) :
    (extract (.total reading) realmAccess resourceAccess).result =
      .ok ((named realmAccess resourceAccess).map (mapRole reading)) := by
  have ends := EndsReading.extract (.total reading) realmAccess resourceAccess
  generalize named realmAccess resourceAccess = granted at ends ⊢
  generalize extract (.total reading) realmAccess resourceAccess = outcome at ends ⊢
  cases ends with
  | complete read => rw [eq_map_of_reads read, List.nil_append]
  | stopped _ failing => cases failing

end Grant

variable {R : Type} [RoleValue R]

/-- The names among roles, which are read as the roles come up. -/
def Roles.names (roles : List R) : List Text :=
  roles.filterMap RoleValue.name?

theorem Roles.names_append (first second : List R) :
    names (first ++ second) = names first ++ names second :=
  List.filterMap_append

namespace Token

open Roles

variable {reading : Text → R} {token : Token R}

/-- The role that is meant where a role is asked for: a textual value is read as a name. -/
def meant (reading : Text → R) (role : R) : R :=
  match RoleValue.name? role with
  | some name => reading name
  | none => role

/-- A token holds a role, from whatever origin. -/
def Holds (token : Token R) (reading : Text → R) (role : R) : Prop :=
  ∃ grant ∈ token.roles, RoleValue.same grant.role (meant reading role) = true

/-- A token meets a requirement. -/
structure Meets (token : Token R) (reading : Text → R) (requirement : Requirement R) : Prop where
  allOf : ∀ role ∈ requirement.allOf, token.Holds reading role
  anyOf : requirement.anyOf = [] ∨ ∃ role ∈ requirement.anyOf, token.Holds reading role
  noneOf : ∀ role ∈ requirement.noneOf, ¬ token.Holds reading role

/-- A refusal for a role. -/
def ForRole (error : AuthError) : Prop :=
  (∃ role, error = .roleMissing role) ∨ error = .roleUnexpected

theorem carries_meant_iff {role : R} :
    token.carries (meant reading role) = true ↔ token.Holds reading role := by
  simp [carries, Holds, List.any_eq_true]

instance (token : Token R) (reading : Text → R) (role : R) :
    Decidable (token.Holds reading role) :=
  decidable_of_iff _ carries_meant_iff

theorem wanted_eq (total : token.roleParser = .total reading) (role : R) :
    token.wanted role = ⟨names [role], .ok (meant reading role)⟩ := by
  rw [wanted, meant, total]
  cases named : RoleValue.name? role <;> simp [names, named, RoleParser.run, RoleParser.total]

theorem hasRole_eq (total : token.roleParser = .total reading) (role : R) :
    token.hasRole role = ⟨names [role], .ok (token.carries (meant reading role))⟩ := by
  rw [hasRole, wanted_eq total]
  simp

end Token
end RealmAuth
