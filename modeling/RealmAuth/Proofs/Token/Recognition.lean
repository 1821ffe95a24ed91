import RealmAuth.Proofs.Token.Authorization
import RealmAuth.Role.Parser

namespace RealmAuth

/-!
Role values as arguments.  A check takes a text for a role name and reads it, whether
it is a name or a role value that happens to be a text; any other value is compared as
it is.  So a role value that is no text is recognised without further ado, while one
that is a text is recognised exactly when it survives being read a second time.  What
a parser does to its own texts is therefore all that the recognition of role values
depends on, and whether roles may be required by their values instead of their names.
-/

open Outcome

namespace Token

variable {R : Type} [RoleValue R] {reading : Text → R} {role : R}

theorem meant_of_textual {text : Text} (textual : RoleValue.name? role = some text) :
    meant reading role = reading text := by
  rw [meant, textual]

theorem meant_of_not_textual (other : RoleValue.name? role = none) :
    meant reading role = role := by
  rw [meant, other]

end Token

namespace RoleParser

open Token

variable {R : Type} [RoleValue R] {reading : Text → R}

/-- A text that is read from a name is read as the same role again. -/
def Steady (reading : Text → R) : Prop :=
  ∀ name text, RoleValue.name? (reading name) = some text →
    RoleValue.same (reading name) (reading text) = true

/-- No role that is read tells a role that is asked for from the role that is meant by it. -/
def Settled (reading : Text → R) : Prop :=
  ∀ role name, RoleValue.same (reading name) (meant reading (meant reading role)) =
    RoleValue.same (reading name) (meant reading role)

/-- What is read is handed in as itself, or as a text that is read as the same role. -/
theorem Steady.same_meant (steady : Steady reading)
    (reflexive : ∀ role : R, RoleValue.same role role = true) (name : Text) :
    RoleValue.same (reading name) (meant reading (reading name)) = true := by
  cases textual : RoleValue.name? (reading name) with
  | none =>
      rw [meant_of_not_textual textual]
      exact reflexive (reading name)
  | some text =>
      rw [meant_of_textual textual]
      exact steady name text textual

/-- Where equality is an equivalence, a steady parser leaves nothing to tell apart. -/
theorem Steady.settled (steady : Steady reading)
    (equivalence : Equivalence fun a b : R => RoleValue.same a b = true) : Settled reading := by
  intro role name
  cases textual : RoleValue.name? role with
  | none => rw [meant_of_not_textual textual, meant_of_not_textual textual]
  | some asked =>
      have again := steady.same_meant equivalence.refl asked
      rw [meant_of_textual textual, Bool.eq_iff_iff]
      exact ⟨fun same => equivalence.trans same (equivalence.symm again),
        fun same => equivalence.trans same again⟩

/-- Role values that are no texts are compared as they are, whatever their equality is. -/
theorem settled_of_not_textual (others : ∀ name, RoleValue.name? (reading name) = none) :
    Settled reading := by
  intro role name
  cases textual : RoleValue.name? role with
  | none => rw [meant_of_not_textual textual, meant_of_not_textual textual]
  | some asked => rw [meant_of_textual textual, meant_of_not_textual (others asked)]

end RoleParser

/-- The same requirement of the values that the names among its roles are read as. -/
def Requirement.read {R : Type} [RoleValue R] (reading : Text → R)
    (requirement : Requirement R) : Requirement R :=
  ⟨requirement.allOf.map (Token.meant reading), requirement.anyOf.map (Token.meant reading),
    requirement.noneOf.map (Token.meant reading)⟩

namespace Token

variable {R : Type} {reading : Text → R} {claims : StandardClaims}

/-- The stored role values of claims are what their granted names are read as. -/
theorem forall_roles_issued_iff {property : R → Prop} :
    (∀ grant ∈ (issued reading claims).roles, property grant.role) ↔
      ∀ name, claims.Grants name → property (reading name) := by
  simp only [issued, ← Grant.mem_map_role_named_iff, List.forall_mem_map, Grant.role_mapRole]

/-- Claims that grant one name, and this by the realm. -/
def granting (name : Text) : StandardClaims :=
  { editorClaims with realmAccess := some ⟨[name]⟩, resourceAccess := none }

theorem grants_granting_iff {name other : Text} :
    (granting name).Grants other ↔ other = name := by
  simp [StandardClaims.Grants, granting]

theorem result_ofClaims_granting (reading : Text → R) (name : Text) :
    (ofClaims (.total reading) (granting name)).result = .ok (issued reading (granting name)) := by
  have exp : Calendar.Covers editorClaims.exp := by decide
  have iat : Calendar.Covers editorClaims.iat := by decide
  exact result_ofClaims_of_covers exp iat

variable [RoleValue R] {token : Token R}

/-- A token recognises the role values that are stored in it, in every check of roles. -/
structure RecognisesOwn (token : Token R) : Prop where
  hasRole : ∀ grant ∈ token.roles, (token.hasRole grant.role).result = .ok true
  expectRoles : (token.expectRoles (token.roles.map Grant.role)).result = .ok ()
  containedRoles : ∀ grant ∈ token.roles, (token.containedRoles [grant.role]).result = .ok ()
  notExpectRoles : ∀ grant ∈ token.roles,
    (token.notExpectRoles [grant.role]).result = refuse .roleUnexpected

theorem recognisesOwn_iff (total : token.roleParser = .total reading) :
    token.RecognisesOwn ↔ ∀ grant ∈ token.roles, token.Holds reading grant.role := by
  constructor
  · intro recognised grant member
    have held := recognised.hasRole grant member
    rw [hasRole_eq total] at held
    exact carries_meant_iff.1 (Except.ok.inj held)
  · intro held
    constructor
    · intro grant member
      rw [hasRole_eq total, carries_meant_iff.2 (held grant member)]
    · rw [expectRoles_ok_iff total, List.forall_mem_map]
      exact held
    · intro grant member
      rw [containedRoles_ok_iff total]
      exact Or.inr ⟨_, List.mem_singleton_self _, held grant member⟩
    · intro grant member
      exact (notExpectRoles_error_iff total).2
        ⟨⟨_, List.mem_singleton_self _, held grant member⟩, rfl⟩

/-- A textual value of the token has to be read as some role value of the token. -/
theorem recognisesOwn_issued_iff (reflexive : ∀ role : R, RoleValue.same role role = true) :
    (issued reading claims).RecognisesOwn ↔
      ∀ name text, claims.Grants name → RoleValue.name? (reading name) = some text →
        ∃ other, claims.Grants other ∧ RoleValue.same (reading other) (reading text) = true := by
  rw [recognisesOwn_iff rfl, forall_roles_issued_iff]
  simp only [holds_issued_iff, StandardClaims.Confers]
  constructor
  · intro recognised name text granted textual
    have found := recognised name granted
    rwa [meant_of_textual textual] at found
  · intro recognised name granted
    cases textual : RoleValue.name? (reading name) with
    | none =>
        rw [meant_of_not_textual textual]
        exact ⟨name, granted, reflexive (reading name)⟩
    | some text =>
        rw [meant_of_textual textual]
        exact recognised name text granted textual

theorem recognisesOwn_granting_iff (reflexive : ∀ role : R, RoleValue.same role role = true)
    (name : Text) :
    (issued reading (granting name)).RecognisesOwn ↔
      ∀ text, RoleValue.name? (reading name) = some text →
        RoleValue.same (reading name) (reading text) = true := by
  rw [recognisesOwn_issued_iff reflexive]
  simp only [grants_granting_iff, exists_eq_left]
  constructor
  · intro recognised text
    exact recognised name text rfl
  · rintro recognised _ text rfl
    exact recognised text

/-! ## Requirements by names and by values -/

/-- To require one role of a token with one role is to compare the two. -/
theorem authorize_granting_iff {name : Text} {role : R} :
    ((issued reading (granting name)).authorize [.requireAll [role]]).result =
        .ok (issued reading (granting name)) ↔
      RoleValue.same (reading name) (meant reading role) = true := by
  rw [authorize_ok_iff rfl, List.forall_mem_singleton, ← meets_ok_iff rfl, meets_requireAll,
    expectRoles_ok_iff rfl, List.forall_mem_singleton, and_iff_left rfl, holds_issued_iff]
  simp only [StandardClaims.Confers, grants_granting_iff, exists_eq_left]

theorem holds_meant_iff (settled : RoleParser.Settled reading) {role : R} :
    (issued reading claims).Holds reading (meant reading role) ↔
      (issued reading claims).Holds reading role := by
  simp only [holds_issued_iff, StandardClaims.Confers, settled role]

theorem meets_read_iff (settled : RoleParser.Settled reading) {requirement : Requirement R} :
    (issued reading claims).Meets reading (requirement.read reading) ↔
      (issued reading claims).Meets reading requirement := by
  have same : ∀ role, (issued reading claims).Holds reading (meant reading role) ↔
      (issued reading claims).Holds reading role := fun role => holds_meant_iff settled
  have some : (∃ role ∈ requirement.anyOf.map (meant reading),
      (issued reading claims).Holds reading role) ↔
        ∃ role ∈ requirement.anyOf, (issued reading claims).Holds reading role := by
    simp only [List.mem_map, exists_exists_and_eq_and, same]
  constructor
  · rintro ⟨all, any, none⟩
    simp only [Requirement.read, List.forall_mem_map, List.map_eq_nil_iff, some, same]
      at all any none
    exact ⟨all, any, none⟩
  · rintro ⟨all, any, none⟩
    constructor <;>
      simpa only [Requirement.read, List.forall_mem_map, List.map_eq_nil_iff, some, same]

/--
A parser that reads every name has the role values of all its tokens recognised exactly
when it is steady.  The values of one token are recognised exactly when each of them that
is a text is read again as some value of the token.  To require roles by their names and
by the values that are read from these names comes to the same decision, for every token
and all requirements, exactly when the parser is settled.  A steady parser is settled where
equality is an equivalence, and one that gives no texts is both.
-/
theorem recognition_of_values (reflexive : ∀ role : R, RoleValue.same role role = true)
    (reading : Text → R) :
    ((∀ claims token, (ofClaims (.total reading) claims).result = .ok token →
        token.RecognisesOwn) ↔ RoleParser.Steady reading) ∧
    (∀ claims token, (ofClaims (.total reading) claims).result = .ok token →
      (token.RecognisesOwn ↔
        ∀ name text, claims.Grants name → RoleValue.name? (reading name) = some text →
          ∃ other, claims.Grants other ∧ RoleValue.same (reading other) (reading text) = true)) ∧
    ((∀ claims token, (ofClaims (.total reading) claims).result = .ok token →
        ∀ requirements : List (Requirement R),
          (token.authorize (requirements.map (.read reading))).result = .ok token ↔
            (token.authorize requirements).result = .ok token) ↔ RoleParser.Settled reading) ∧
    ((Equivalence fun a b : R => RoleValue.same a b = true) →
      RoleParser.Steady reading → RoleParser.Settled reading) ∧
    ((∀ name, RoleValue.name? (reading name) = none) →
      RoleParser.Steady reading ∧ RoleParser.Settled reading) := by
  refine ⟨⟨?_, ?_⟩, ?_, ⟨?_, ?_⟩, ?_, ?_⟩
  · intro recognised name text textual
    exact (recognisesOwn_granting_iff reflexive name).1
      (recognised _ _ (result_ofClaims_granting reading name)) text textual
  · intro steady claims token made
    rcases ofClaims_ok_iff.1 made with ⟨_, _, rfl⟩
    apply (recognisesOwn_issued_iff reflexive).2
    intro name text granted textual
    exact ⟨name, granted, steady name text textual⟩
  · intro claims token made
    rcases ofClaims_ok_iff.1 made with ⟨_, _, rfl⟩
    exact recognisesOwn_issued_iff reflexive
  · intro agree role name
    have decided := agree _ _ (result_ofClaims_granting reading name) [.requireAll [role]]
    have values : [Requirement.requireAll [role]].map (Requirement.read reading) =
        [Requirement.requireAll [meant reading role]] := rfl
    rw [values, authorize_granting_iff, authorize_granting_iff] at decided
    exact Bool.eq_iff_iff.2 decided
  · intro settled claims token made requirements
    rcases ofClaims_ok_iff.1 made with ⟨_, _, rfl⟩
    rw [authorize_ok_iff rfl, authorize_ok_iff rfl, List.forall_mem_map]
    simp only [meets_read_iff settled]
  · intro equivalence steady
    exact steady.settled equivalence
  · intro others
    refine ⟨?_, RoleParser.settled_of_not_textual others⟩
    intro name text textual
    rw [others name] at textual
    cases textual

/-! ## Texts as role values -/

theorem equivalence_text : Equivalence fun a b : Text => RoleValue.same a b = true := by
  have equality : (fun a b : Text => RoleValue.same a b = true) = Eq := by
    funext a b
    exact propext beq_iff_eq
  rw [equality]
  exact eq_equivalence

/-- Names in a text of their own, with a mark before each. -/
def markedName (name : Text) : Text :=
  "r:" ++ name

/-- A marked name gets a second mark when it is handed in again, and is not recognised. -/
theorem marked_values_not_recognised :
    let token : Token Text := issued markedName (granting "admin")
    (∀ role : Text, RoleValue.same role role = true) ∧
      (ofClaims (.total markedName) (granting "admin")).result = .ok token ∧
      token.roles = [.realm "r:admin"] ∧
      (token.hasRole "r:admin").result = .ok false ∧
      (token.expectRoles ["r:admin"]).result = refuse (.roleMissing "r:r:admin") ∧
      (token.containedRoles ["r:admin"]).result = refuse (.roleMissing "r:r:admin") ∧
      (token.notExpectRoles ["r:admin"]).result = .ok () ∧
      (token.authorize [.requireAll ["admin"]]).result = .ok token ∧
      (token.authorize [.requireAll ["r:admin"]]).result = refuse (.roleMissing "r:r:admin") :=
  ⟨equivalence_text.refl, result_ofClaims_granting markedName "admin", rfl, rfl, rfl, rfl, rfl,
    rfl, rfl⟩

/-- Known names as they are, and one text for all others. -/
def knownName (name : Text) : Text :=
  if RoleParser.knownNames.contains name then name else "unknown"

theorem knownName_knownName (name : Text) : knownName (knownName name) = knownName name := by
  unfold knownName
  split <;> rfl

/-- A name that is not known is recognised by the text for it, and required by it as well. -/
theorem recognition_of_values_known :
    let token : Token Text := issued knownName (granting "editor")
    RoleParser.Steady knownName ∧ token.RecognisesOwn ∧
      (token.authorize [.requireAll ["editor"]]).result = .ok token ∧
      (token.authorize [.requireAll ["unknown"]]).result = .ok token := by
  intro token
  have steady : RoleParser.Steady knownName := by
    intro name text read
    cases read
    exact beq_iff_eq.2 (knownName_knownName name).symm
  rcases recognition_of_values equivalence_text.refl knownName with
    ⟨recognised, _, decided, settled, _⟩
  have made := result_ofClaims_granting knownName "editor"
  have byValue : (token.authorize [.requireAll ["unknown"]]).result = .ok token := rfl
  refine ⟨steady, recognised.2 steady _ _ made, ?_, byValue⟩
  exact (decided.2 (settled equivalence_text steady) _ _ made [.requireAll ["editor"]]).1 byValue

end Token
end RealmAuth
