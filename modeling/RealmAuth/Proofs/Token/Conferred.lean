import RealmAuth.Proofs.Role.Walk
import RealmAuth.Proofs.Token.Issued

namespace RealmAuth

/-!
The roles that claims confer.  Claims grant names, by the realm or by some client, and
the token of claims holds a role exactly when a granted name is read as this role; where
the name was granted makes no difference.  With this the checks of a token made of
claims are described by the claims: what each of them finds, where it stops, which role
it reports and which names it has read until then.
-/

open Outcome

/-- Claims grant a name, by the realm or by some client. -/
def StandardClaims.Grants (claims : StandardClaims) (name : Text) : Prop :=
  (∃ access, claims.realmAccess = some access ∧ name ∈ access.roles) ∨
    ∃ access, claims.resourceAccess = some access ∧ ∃ client ∈ access.clients, name ∈ client.2

namespace Grant

theorem map_role_ofRealm (access : RealmAccess) : (ofRealm access).map role = access.roles := by
  simp [ofRealm, role, Function.comp_def]

theorem map_role_ofClients (access : ResourceAccess) :
    (ofClients access).map role = access.clients.flatMap Prod.snd := by
  simp [ofClients, role, Function.comp_def, List.map_flatMap]

/-- The names among the grants of claims are those that the claims grant. -/
theorem mem_map_role_named_iff {claims : StandardClaims} {name : Text} :
    name ∈ (named claims.realmAccess claims.resourceAccess).map role ↔ claims.Grants name := by
  unfold named StandardClaims.Grants
  rw [List.map_append, List.mem_append]
  cases claims.realmAccess <;> cases claims.resourceAccess <;>
    simp [map_role_ofRealm, map_role_ofClients]

theorem role_mapRole {C R S : Type} (f : R → S) (grant : Grant C R) :
    (grant.mapRole f).role = f grant.role := by
  cases grant <;> rfl

end Grant

variable {R : Type} [RoleValue R]

/-- A granted name is read as the role that is asked for; a role that is a text is read as well. -/
def StandardClaims.Confers (claims : StandardClaims) (reading : Text → R) (role : R) : Prop :=
  ∃ name, claims.Grants name ∧
    RoleValue.same (reading name) (Token.meant reading role) = true

namespace Token

/-- The token of claims holds the roles that the claims confer. -/
theorem holds_issued_iff {reading : Text → R} {claims : StandardClaims} {role : R} :
    (issued reading claims).Holds reading role ↔ claims.Confers reading role := by
  unfold Holds StandardClaims.Confers
  simp only [issued, ← Grant.mem_map_role_named_iff, List.mem_map]
  constructor
  · rintro ⟨_, ⟨grant, member, rfl⟩, same⟩
    rw [Grant.role_mapRole] at same
    exact ⟨grant.role, ⟨grant, member, rfl⟩, same⟩
  · rintro ⟨_, ⟨grant, member, rfl⟩, same⟩
    refine ⟨grant.mapRole reading, ⟨grant, member, rfl⟩, ?_⟩
    rwa [Grant.role_mapRole]

/--
The checks of a token of claims, with a parser that reads every name.  A role is held
exactly when the claims confer it.  Each check ends in its own way: the one that wants
all roles at the first that is not held, which it reports; the one that wants some role
at the first that is held, or it reports the last; the one that wants none at the first
that is held.  A check reads every name once, in order, up to the role at which it ends.
Of some roles, if there are any, either one is held or none is.
-/
theorem checks_of_claims (reading : Text → R) (claims : StandardClaims) (token : Token R)
    (made : (ofClaims (.total reading) claims).result = .ok token) (roles : List R) :
    (∀ role, (token.hasRole role).names = Roles.names [role] ∧
      ((token.hasRole role).result = .ok true ↔ claims.Confers reading role) ∧
      ((token.hasRole role).result = .ok false ↔ ¬ claims.Confers reading role)) ∧
    (EndsAll (claims.Confers reading) reading roles (token.expectRoles roles) ∧
      ((token.expectRoles roles).result = .ok () ↔ ∀ role ∈ roles, claims.Confers reading role)) ∧
    (EndsAny (claims.Confers reading) reading roles (token.containedRoles roles) ∧
      ((token.containedRoles roles).result = .ok () ↔
        roles = [] ∨ ∃ role ∈ roles, claims.Confers reading role)) ∧
    (EndsNone (claims.Confers reading) roles (token.notExpectRoles roles) ∧
      ((token.notExpectRoles roles).result = .ok () ↔
        ∀ role ∈ roles, ¬ claims.Confers reading role)) ∧
    (roles ≠ [] →
      ((token.containedRoles roles).result = .ok () ↔
        ¬ (token.notExpectRoles roles).result = .ok ())) := by
  rcases ofClaims_ok_iff.1 made with ⟨_, _, rfl⟩
  have total : (issued reading claims).roleParser = .total reading := rfl
  have held : (issued reading claims).Holds reading = claims.Confers reading := by
    funext role
    exact propext holds_issued_iff
  simp only [← held]
  refine ⟨?_, ⟨endsAll_expectRoles total roles, expectRoles_ok_iff total⟩,
    ⟨endsAny_containedRoles total roles, containedRoles_ok_iff total⟩,
    ⟨endsNone_notExpectRoles total roles, notExpectRoles_ok_iff total⟩, ?_⟩
  · intro role
    rw [hasRole_eq total, ← carries_meant_iff]
    simp
  · intro some
    rw [containedRoles_ok_iff total, notExpectRoles_ok_iff total]
    simp [some]

/-- Claims by which the realm grants one name and a client another. -/
def editorClaims : StandardClaims where
  exp := 1700000060
  iat := 1700000000
  jti := "token"
  iss := "realm"
  aud := .one "service"
  sub := "user"
  typ := "Bearer"
  azp := "app"
  realmAccess := some ⟨["Reader"]⟩
  resourceAccess := some ⟨[("app", ["Editor"])]⟩
  givenName := "given"
  familyName := "family"
  name := "full"
  preferredUsername := "login"
  email := "mail"
  emailVerified := true

/--
Names are read without regard to case here.  A number is no name, and is not held; a name
that a client granted is held in capitals as well, so a check for one of the two finds it.
-/
theorem checks_of_claims_editor :
    let token : Token AppRole := issued .caseless editorClaims
    let roles : List AppRole := [.data (.int 7), .data (.string "EDITOR")]
    (ofClaims (.total AppRole.caseless) editorClaims).result = .ok token ∧
      (token.hasRole (.data (.int 7))).result = .ok false ∧
      (token.hasRole (.data (.string "EDITOR"))).result = .ok true ∧
      EndsAll (editorClaims.Confers .caseless) .caseless roles (token.expectRoles roles) ∧
      (token.containedRoles roles).result = .ok () ∧
      (token.notExpectRoles roles).result ≠ .ok () := by
  intro token roles
  have made : (ofClaims (.total AppRole.caseless) editorClaims).result = .ok token :=
    result_ofClaims_of_covers (by decide) (by decide)
  have editor : editorClaims.Confers AppRole.caseless (.data (.string "EDITOR")) :=
    ⟨"Editor", Or.inr ⟨_, rfl, _, List.mem_singleton_self _, List.mem_singleton_self _⟩,
      by decide⟩
  have seven : ¬ editorClaims.Confers AppRole.caseless (.data (.int 7)) := by
    rintro ⟨name, _, same⟩
    cases same
  rcases checks_of_claims AppRole.caseless editorClaims token made roles
      with ⟨has, ⟨all, _⟩, ⟨_, any⟩, _, either⟩
  have found : (token.containedRoles roles).result = .ok () :=
    any.2 (Or.inr ⟨_, by simp [roles], editor⟩)
  have other : (token.notExpectRoles roles).result ≠ .ok () :=
    (either (by simp [roles])).1 found
  exact ⟨made, (has _).2.2.2 seven, (has _).2.1.2 editor, all, found, other⟩

end Token
end RealmAuth
