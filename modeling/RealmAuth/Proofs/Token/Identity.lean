import RealmAuth.Proofs.Claims.Pruning
import RealmAuth.Proofs.Json.Naming
import RealmAuth.Proofs.Role.Origin
import RealmAuth.Proofs.Token.Conferred
import RealmAuth.Token.Update

namespace RealmAuth

/-!
What two tokens of claims have to share to be equal.  Where a parser reads different names
as different roles, equal tokens come from claims that agree on everything a token keeps
and that grant the same names by the same origins in the same order.  So a token forgets
no more of its claims than their type and the clients that grant nothing.  The parser that
it keeps for later checks is no part of the comparison.
-/

/--
A parser that reads two names as the same role exactly where they are one name.  So what
it reads a name as has to be the same as itself; an equality of role values need not be
reflexive otherwise.
-/
def RoleParser.TellsApart {R : Type} [RoleValue R] (reading : Text → R) : Prop :=
  ∀ first second, RoleValue.same (reading first) (reading second) = true ↔ first = second

/-- Claims that agree on all that a token keeps of them besides its roles. -/
structure StandardClaims.AgreeButRoles (first second : StandardClaims) : Prop where
  exp : first.exp = second.exp
  iat : first.iat = second.iat
  jti : first.jti = second.jti
  iss : first.iss = second.iss
  aud : first.aud = second.aud
  sub : first.sub = second.sub
  azp : first.azp = second.azp
  givenName : first.givenName = second.givenName
  familyName : first.familyName = second.familyName
  name : first.name = second.name
  preferredUsername : first.preferredUsername = second.preferredUsername
  email : first.email = second.email
  emailVerified : first.emailVerified = second.emailVerified

namespace StandardClaims

theorem map_fst_of_written {access : ResourceAccess} {fields : Json.Fields}
    (written : List.Forall₂
      (fun client field => client.1 = field.1 ∧ Claims.WritesRoles client.2 field.2)
      access.clients fields) :
    access.clients.map Prod.fst = fields.names := by
  rw [Json.Fields.names, ← List.forall₂_eq_eq_eq, List.forall₂_map_left_iff,
    List.forall₂_map_right_iff]
  exact written.imp fun _ _ entry => entry.1

/-- The clients of claims are a mapping if the claims were read from a text. -/
theorem isMapping_of_read [Platform] {text : List CodePoint} {value : Json}
    {claims : StandardClaims} (read : Json.read? text = some value) (valid : standardClaims value = .ok claims) :
    claims.IsMapping := by
  rcases Claims.standardClaims_eq_ok_iff_written.1 valid with ⟨fields, rfl, written⟩
  have written := written.resourceAccess
  unfold IsMapping clients
  cases given : claims.resourceAccess with
  | none => exact List.nodup_nil
  | some access =>
      rw [given] at written
      rcases written with ⟨_, found, fields, rfl, entries⟩
      have distinct := ((Json.namesOnce_of_read? read).of_get? found).distinct
      rw [← map_fst_of_written entries] at distinct
      exact distinct

end StandardClaims

/-- Whole seconds are told apart by their instants. -/
theorem Instant.ofUnix_inj {first second : Int} :
    ofUnix first 0 = ofUnix second 0 ↔ first = second := by
  constructor
  · intro same
    rw [← seconds_ofUnix first 0 (by decide), same, seconds_ofUnix second 0 (by decide)]
  · rintro rfl
    rfl

namespace Grant

variable {R : Type} [RoleValue R] {reading : Text → R}

/-- Grants are the same where their origin is one and their roles are the same. -/
theorem same_iff {first second : Grant Text R} :
    same (· == ·) first second = true ↔
      first.owner? = second.owner? ∧ RoleValue.same first.role second.role = true := by
  cases first <;> cases second <;> simp [same, owner?, role]

theorem owner?_mapRole {C S T : Type} (f : S → T) (grant : Grant C S) :
    (grant.mapRole f).owner? = grant.owner? := by
  cases grant <;> rfl

theorem eq_of_owner?_role {C S : Type} {first second : Grant C S}
    (owner : first.owner? = second.owner?) (role : first.role = second.role) : first = second := by
  cases first <;> cases second <;> simp_all [owner?, Grant.role]

/-- Granted names that are read as the same grants are the same names by the same origins. -/
theorem sameList_map_iff (apart : RoleParser.TellsApart reading) {first second : List Named} :
    sameList (· == ·) (first.map (mapRole reading)) (second.map (mapRole reading)) = true ↔
      first = second := by
  induction first generalizing second with
  | nil => cases second <;> simp [sameList]
  | cons grant first ih =>
      cases second with
      | nil => simp [sameList]
      | cons other second =>
          have one : same (· == ·) (grant.mapRole reading) (other.mapRole reading) = true ↔
              grant = other := by
            rw [same_iff, owner?_mapRole, owner?_mapRole, role_mapRole, role_mapRole, apart]
            constructor
            · rintro ⟨owner, role⟩
              exact eq_of_owner?_role owner role
            · rintro rfl
              exact ⟨rfl, rfl⟩
          rw [List.map_cons, List.map_cons, sameList, Bool.and_eq_true, one, ih, List.cons.injEq]

end Grant

namespace Token

variable {R : Type} [RoleValue R] {reading : Text → R} {first second : StandardClaims}

/-- Tokens of claims are equal where the claims agree on what is kept and grant the same. -/
theorem same_issued_iff (apart : RoleParser.TellsApart reading) :
    (issued reading first).same (issued reading second) = true ↔
      first.AgreeButRoles second ∧
        Grant.named first.realmAccess first.resourceAccess =
          Grant.named second.realmAccess second.resourceAccess := by
  simp only [same, issued, Bool.and_eq_true, beq_iff_eq, Instant.ofUnix_inj,
    Grant.sameList_map_iff apart]
  constructor
  · rintro ⟨⟨⟨⟨⟨⟨⟨⟨⟨⟨⟨⟨⟨exp, iat⟩, jti⟩, iss⟩, aud⟩, sub⟩, azp⟩, granted⟩, givenName⟩, familyName⟩,
      name⟩, preferredUsername⟩, email⟩, emailVerified⟩
    exact ⟨{ exp, iat, jti, iss, aud, sub, azp, givenName, familyName, name, preferredUsername,
             email, emailVerified }, granted⟩
  · rintro ⟨agree, granted⟩
    exact ⟨⟨⟨⟨⟨⟨⟨⟨⟨⟨⟨⟨⟨agree.exp, agree.iat⟩, agree.jti⟩, agree.iss⟩, agree.aud⟩, agree.sub⟩,
      agree.azp⟩, granted⟩, agree.givenName⟩, agree.familyName⟩, agree.name⟩,
      agree.preferredUsername⟩, agree.email⟩, agree.emailVerified⟩

/--
Equality of the tokens of two claims, with a parser that tells all names apart.  The tokens
are equal exactly when the claims agree on what is kept and grant the same names by the
same origins in one order.  Where their clients are mappings, and they are in claims that
were read from a text, this means that the realms grant the same names, and that the
clients that grant any are the same in one order, with the same names.  The parsers that
the tokens keep do not matter, nor do the types of the claims.  Grants of the realm and of
different clients are never the same, whatever the role.
-/
theorem tokens_equal_iff (reading : Text → R) (apart : RoleParser.TellsApart reading)
    (first second : StandardClaims)
    (dated : Calendar.Covers first.exp ∧ Calendar.Covers first.iat)
    (dated' : Calendar.Covers second.exp ∧ Calendar.Covers second.iat) :
    ∃ token other, (ofClaims (.total reading) first).result = .ok token ∧
      (ofClaims (.total reading) second).result = .ok other ∧
      (token.same other = true ↔ first.AgreeButRoles second ∧
        Grant.named first.realmAccess first.resourceAccess =
          Grant.named second.realmAccess second.resourceAccess) ∧
      (first.IsMapping → second.IsMapping →
        (token.same other = true ↔ first.AgreeButRoles second ∧
          first.realmNames = second.realmNames ∧ first.granting = second.granting)) ∧
      (∀ parser later, (token.withParser parser).same (other.withParser later) =
        token.same other) ∧
      (∀ typ, (ofClaims (.total reading) { first with typ := typ }).result = .ok token) ∧
      (∀ grant different : Grant Text R, grant.owner? ≠ different.owner? →
        Grant.same (· == ·) grant different = false) ∧
      (∀ [Platform] text value claims, Json.read? text = some value → standardClaims value = .ok claims →
        claims.IsMapping) := by
  refine ⟨issued reading first, issued reading second, result_ofClaims_of_covers dated.1 dated.2,
    result_ofClaims_of_covers dated'.1 dated'.2, same_issued_iff apart, ?_, ?_, ?_, ?_, ?_⟩
  · intro mapping mapping'
    rw [same_issued_iff apart, Grant.named_eq_iff mapping mapping']
  · intro parser later
    rfl
  · intro typ
    exact result_ofClaims_of_covers dated.1 dated.2
  · intro grant different origin
    rw [Bool.eq_false_iff, Ne, Grant.same_iff]
    exact fun same => origin same.1
  · intro _ text value claims read valid
    exact StandardClaims.isMapping_of_read read valid

/-- Claims by which two clients grant one name, behind a client that grants none. -/
def sharedClaims : StandardClaims :=
  { editorClaims with
    realmAccess := none
    resourceAccess := some ⟨[("idle", []), ("web", ["Reader"]), ("app", ["Reader"])]⟩ }

/-- The same claims of another type, with a realm that grants none and without the idle client. -/
def trimmedClaims : StandardClaims :=
  { sharedClaims with
    typ := "ID"
    realmAccess := some ⟨[]⟩
    resourceAccess := some ⟨[("web", ["Reader"]), ("app", ["Reader"])]⟩ }

/-- The same names, one of them granted by the realm. -/
def movedClaims : StandardClaims :=
  { sharedClaims with
    realmAccess := some ⟨["Reader"]⟩
    resourceAccess := some ⟨[("app", ["Reader"])]⟩ }

/-- The idle client is forgotten; the origin of a name and the shape of the audience are not. -/
theorem tokens_equal_iff_shared :
    RoleParser.TellsApart (id : Text → Text) ∧
      (Calendar.Covers sharedClaims.exp ∧ Calendar.Covers sharedClaims.iat) ∧
      (∃ token other, (ofClaims (.total id) sharedClaims).result = .ok token ∧
        (ofClaims (.total id) trimmedClaims).result = .ok other ∧ token.same other = true) ∧
      (∃ token other, (ofClaims (.total id) sharedClaims).result = .ok token ∧
        (ofClaims (.total id) movedClaims).result = .ok other ∧ token.same other = false) ∧
      (∃ token other, (ofClaims (.total id) sharedClaims).result = .ok token ∧
        (ofClaims (.total id) { sharedClaims with aud := .many ["service"] }).result = .ok other ∧
        token.same other = false) := by
  have apart : RoleParser.TellsApart (id : Text → Text) := fun _ _ => beq_iff_eq
  have dated : Calendar.Covers sharedClaims.exp ∧ Calendar.Covers sharedClaims.iat := by decide
  refine ⟨apart, dated, ?_, ?_, ?_⟩
  · rcases tokens_equal_iff id apart sharedClaims trimmedClaims dated dated
      with ⟨token, other, made, made', _, equal, _⟩
    refine ⟨token, other, made, made', (equal (by decide) (by decide)).2 ⟨?_, rfl, rfl⟩⟩
    constructor <;> rfl
  · rcases tokens_equal_iff id apart sharedClaims movedClaims dated dated
      with ⟨token, other, made, made', _, equal, _⟩
    refine ⟨token, other, made, made', Bool.eq_false_iff.2 fun same => ?_⟩
    have realms := ((equal (by decide) (by decide)).1 same).2.1
    cases realms
  · rcases tokens_equal_iff id apart sharedClaims { sharedClaims with aud := .many ["service"] }
      dated dated with ⟨token, other, made, made', equal, _⟩
    refine ⟨token, other, made, made', Bool.eq_false_iff.2 fun same => ?_⟩
    have audience := (equal.1 same).1.aud
    cases audience

end Token
end RealmAuth
