import RealmAuth.Proofs.Token.Conferred

namespace RealmAuth

/-!
What a list of requirements asks of a token.  The requirements are checked in order, and
each of them in three parts; the first part that is not met decides the outcome.  So a
requirement says no more than its three parts one behind the other, and parts of one
kind that stand next to each other say no more than one part.  A token has a part in the
outcome by the way in which it reads names and by the set of its role values.
-/

open Outcome

variable {R : Type} [RoleValue R]

/-- The requirements of one kind that a requirement consists of, in the order of their checks. -/
def Requirement.parts {R : Type} (requirement : Requirement R) : List (Requirement R) :=
  [requireAll requirement.allOf, requireAny requirement.anyOf, forbid requirement.noneOf]

namespace Token

open Roles

variable {token other : Token R} {reading : Text → R} {requirement : Requirement R}
  {requirements : List (Requirement R)}

/-! ## One requirement -/

/-- How a token fails a requirement: the first of its three parts that is not met is reported. -/
inductive Fails (token : Token R) (reading : Text → R) (requirement : Requirement R) :
    AuthError → Prop where
  /-- Where all roles are required, the first one that is lacking is named. -/
  | allOf {before after : List R} {role : R} (split : requirement.allOf = before ++ role :: after)
      (earlier : ∀ other ∈ before, token.Holds reading other)
      (lacking : ¬ token.Holds reading role) :
      Fails token reading requirement (missing (meant reading role))
  /-- Where one role is required and all are lacking, the last one is named. -/
  | anyOf {before : List R} {last : R} (all : ∀ role ∈ requirement.allOf, token.Holds reading role)
      (split : requirement.anyOf = before ++ [last])
      (lacking : ∀ role ∈ requirement.anyOf, ¬ token.Holds reading role) :
      Fails token reading requirement (missing (meant reading last))
  /-- Where no role is allowed, none is named. -/
  | noneOf (all : ∀ role ∈ requirement.allOf, token.Holds reading role)
      (any : requirement.anyOf = [] ∨ ∃ role ∈ requirement.anyOf, token.Holds reading role)
      (held : ∃ role ∈ requirement.noneOf, token.Holds reading role) :
      Fails token reading requirement .roleUnexpected

theorem meets_error_iff (total : token.roleParser = .total reading) {failure : Failure} :
    (token.meets requirement).result = .error failure ↔
      ∃ error, token.Fails reading requirement error ∧ failure = .refused error := by
  unfold meets
  simp only [Traced.result_bind, bind_eq_error_iff, expectRoles_ok_iff total,
    expectRoles_error_iff total, containedRoles_ok_iff total, containedRoles_error_iff total,
    notExpectRoles_error_iff total]
  constructor
  · rintro (⟨before, role, after, split, earlier, lacking, rfl⟩ |
      ⟨_, all, ⟨before, last, split, lacking, rfl⟩ | ⟨_, any, held, rfl⟩⟩)
    · exact ⟨_, .allOf split earlier lacking, rfl⟩
    · exact ⟨_, .anyOf all split lacking, rfl⟩
    · exact ⟨_, .noneOf all any held, rfl⟩
  · rintro ⟨error, fails, rfl⟩
    cases fails with
    | allOf split earlier lacking => exact Or.inl ⟨_, _, _, split, earlier, lacking, rfl⟩
    | anyOf all split lacking => exact Or.inr ⟨(), all, Or.inl ⟨_, _, split, lacking, rfl⟩⟩
    | noneOf all any held => exact Or.inr ⟨(), all, Or.inr ⟨(), any, held, rfl⟩⟩

theorem meets_requireAll (token : Token R) (roles : List R) :
    token.meets (.requireAll roles) = token.expectRoles roles :=
  bind_pure (token.expectRoles roles)

theorem meets_requireAny (token : Token R) (roles : List R) :
    token.meets (.requireAny roles) = token.containedRoles roles :=
  (pure_bind () _).trans (bind_pure (token.containedRoles roles))

theorem meets_forbid (token : Token R) (roles : List R) :
    token.meets (.forbid roles) = token.notExpectRoles roles :=
  (pure_bind () _).trans (pure_bind () fun _ => token.notExpectRoles roles)

/-! ## Several requirements -/

theorem authorize_append (token : Token R) (first second : List (Requirement R)) :
    token.authorize (first ++ second) =
      token.authorize first >>= fun _ => token.authorize second := by
  induction first with
  | nil => exact (pure_bind token fun _ => token.authorize second).symm
  | cons requirement requirements ih =>
      rw [List.cons_append, authorize, authorize, ih, bind_assoc]

/-- A list of requirements fails where the first of them does that is not met. -/
theorem authorize_error_iff (total : token.roleParser = .total reading) {failure : Failure} :
    (token.authorize requirements).result = .error failure ↔
      ∃ before requirement after, requirements = before ++ requirement :: after ∧
        (∀ earlier ∈ before, token.Meets reading earlier) ∧
          (token.meets requirement).result = .error failure := by
  constructor
  · intro stopped
    have failing : ¬ ∀ requirement ∈ requirements, token.Meets reading requirement := by
      intro met
      rw [(authorize_ok_iff total).2 ⟨met, rfl⟩] at stopped
      cases stopped
    rcases exists_first failing with ⟨before, requirement, after, rfl, met, failing⟩
    refine ⟨before, requirement, after, rfl, met, ?_⟩
    rw [authorize_append, Traced.result_bind, (authorize_ok_iff total).2 ⟨met, rfl⟩, ok_bind,
      authorize, Traced.result_bind] at stopped
    rcases bind_eq_error_iff.1 stopped with first | ⟨_, passed, _⟩
    · exact first
    · exact absurd ((meets_ok_iff total).1 passed) failing
  · intro given
    rcases given with ⟨before, requirement, after, rfl, met, stopped⟩
    rw [authorize_append, Traced.result_bind, (authorize_ok_iff total).2 ⟨met, rfl⟩, ok_bind,
      authorize, Traced.result_bind, stopped]
    rfl

/-- Requirements may stand in the place of others that are checked in the same way. -/
theorem authorize_replace {first second : List (Requirement R)}
    (same : token.authorize first = token.authorize second)
    (before after : List (Requirement R)) :
    token.authorize (before ++ first ++ after) = token.authorize (before ++ second ++ after) := by
  simp only [authorize_append, same]

theorem authorize_parts (token : Token R) (requirement : Requirement R) :
    token.authorize requirement.parts = token.authorize [requirement] := by
  simp only [Requirement.parts, authorize, meets_requireAll, meets_requireAny, meets_forbid]
  rw [meets]
  simp only [bind_assoc]

theorem authorize_requireAll_append (token : Token R) (first second : List R) :
    token.authorize [.requireAll first, .requireAll second] =
      token.authorize [.requireAll (first ++ second)] := by
  simp only [authorize, meets_requireAll, expectRoles_append, bind_assoc]

theorem authorize_forbid_append (token : Token R) (first second : List R) :
    token.authorize [.forbid first, .forbid second] =
      token.authorize [.forbid (first ++ second)] := by
  simp only [authorize, meets_forbid, notExpectRoles_append, bind_assoc]

/-! ## Tokens with the same role values -/

theorem Alike.authorize (alike : token.Alike other) (requirements : List (Requirement R)) :
    other.authorize requirements = (fun _ => other) <$> token.authorize requirements := by
  induction requirements with
  | nil => rfl
  | cons requirement requirements ih =>
      rw [Token.authorize, Token.authorize, map_bind, alike.meets, ih]

/-- Every role value of one token is the same as some role value of another one. -/
def RolesAmong (token other : Token R) : Prop :=
  ∀ grant ∈ token.roles, ∃ found ∈ other.roles, RoleValue.same grant.role found.role = true

instance (token other : Token R) : Decidable (token.RolesAmong other) :=
  inferInstanceAs (Decidable (∀ grant ∈ token.roles, ∃ found ∈ other.roles,
    RoleValue.same grant.role found.role = true))

theorem RolesAmong.carries
    (equivalence : Equivalence fun a b : R => RoleValue.same a b = true)
    (among : token.RolesAmong other) {role : R} (carried : token.carries role = true) :
    other.carries role = true := by
  unfold Token.carries at carried ⊢
  rw [List.any_eq_true] at carried ⊢
  rcases carried with ⟨grant, member, same⟩
  rcases among grant member with ⟨found, foundMember, equal⟩
  exact ⟨found, foundMember, equivalence.trans (equivalence.symm equal) same⟩

theorem alike_of_rolesAmong
    (equivalence : Equivalence fun a b : R => RoleValue.same a b = true)
    (parser : other.roleParser = token.roleParser) (among : token.RolesAmong other)
    (back : other.RolesAmong token) : token.Alike other := by
  refine ⟨parser, ?_⟩
  intro role
  rw [Bool.eq_iff_iff]
  exact ⟨back.carries equivalence, among.carries equivalence⟩

/-! ## The outcome -/

/--
Authorization with a parser that reads every name.  A token that meets all requirements
is handed on as it is, so their order and repetitions do not matter to success.  Any other
token is refused for the first requirement that it does not meet, and there for the
first part that is not met.  A requirement may be cut into its three parts at any place
of the list, and neighbours that require all their roles, or none, may be joined; what is
refused, for which role and after which names, stays as it was.  Another token that
reads names in the same way has the same outcome if it has the same role values,
whatever their order, repetitions and origins.
-/
theorem authorize_by_requirements (token : Token R) (reading : Text → R)
    (total : token.roleParser = .total reading) (requirements : List (Requirement R)) :
    (∀ handed, (token.authorize requirements).result = .ok handed ↔
      handed = token ∧ ∀ requirement ∈ requirements, token.Meets reading requirement) ∧
    (∀ others : List (Requirement R), (∀ requirement, requirement ∈ others ↔
      requirement ∈ requirements) →
        ((token.authorize others).result = .ok token ↔
          (token.authorize requirements).result = .ok token)) ∧
    (∀ failure, (token.authorize requirements).result = .error failure ↔
      ∃ before requirement after error, requirements = before ++ requirement :: after ∧
        (∀ earlier ∈ before, token.Meets reading earlier) ∧
          token.Fails reading requirement error ∧ failure = .refused error) ∧
    (∀ before requirement after, requirements = before ++ [requirement] ++ after →
      token.authorize (before ++ requirement.parts ++ after) = token.authorize requirements) ∧
    (∀ before first second after,
      (requirements = before ++ [.requireAll first, .requireAll second] ++ after →
        token.authorize (before ++ [.requireAll (first ++ second)] ++ after) =
          token.authorize requirements) ∧
      (requirements = before ++ [.forbid first, .forbid second] ++ after →
        token.authorize (before ++ [.forbid (first ++ second)] ++ after) =
          token.authorize requirements)) ∧
    (∀ other : Token R, other.roleParser = token.roleParser →
      (Equivalence fun a b : R => RoleValue.same a b = true) →
      token.RolesAmong other → other.RolesAmong token →
        other.authorize requirements = (fun _ => other) <$> token.authorize requirements) := by
  refine ⟨?_, ?_, ?_, ?_, ?_, ?_⟩
  · intro handed
    rw [authorize_ok_iff total, and_comm, eq_comm]
  · intro others members
    simp only [authorize_ok_iff total, members]
  · intro failure
    rw [authorize_error_iff total]
    simp only [meets_error_iff total, exists_and_left]
  · rintro before requirement after rfl
    exact authorize_replace (authorize_parts token requirement) before after
  · intro before first second after
    constructor
    · rintro rfl
      exact (authorize_replace (authorize_requireAll_append token first second) before after).symm
    · rintro rfl
      exact (authorize_replace (authorize_forbid_append token first second) before after).symm
  · intro other parser equivalence among back
    exact (alike_of_rolesAmong equivalence parser among back).authorize requirements

/-- The token of the claims of an editor, its names taken as they are. -/
def editor : Token Text :=
  issued id editorClaims

/-- The same roles in another order and repeated, from other origins. -/
def otherEditor : Token Text :=
  { editor with roles := [.client "web" "Editor", .realm "Editor", .client "web" "Reader"] }

/-- A requirement that editors meet, and one that they fail in two of its parts. -/
def editorRequirements : List (Requirement Text) :=
  [⟨["Reader"], ["Owner", "Editor"], ["Guest"]⟩, ⟨["Editor"], ["Owner", "Guest"], ["Reader"]⟩]

/-- Both editors are refused for the last role of which one is required, also part by part. -/
theorem authorize_by_requirements_editor :
    editor.roleParser = .total id ∧
      (editor.authorize editorRequirements).result = refuse (.roleMissing "Guest") ∧
      (otherEditor.authorize editorRequirements).result = refuse (.roleMissing "Guest") ∧
      editor.authorize (editorRequirements.take 1 ++
          [.requireAll ["Editor"], .requireAny ["Owner", "Guest"], .forbid ["Reader"]]) =
        editor.authorize editorRequirements := by
  rcases authorize_by_requirements editor id rfl editorRequirements
      with ⟨_, _, fails, parts, _, alike⟩
  have met : editor.Meets id ⟨["Reader"], ["Owner", "Editor"], ["Guest"]⟩ :=
    ⟨by decide, Or.inr (by decide), by decide⟩
  have missed : editor.Fails id ⟨["Editor"], ["Owner", "Guest"], ["Reader"]⟩
      (.roleMissing "Guest") :=
    .anyOf (by decide) (List.append_cons [] (Text.plain "Owner") [.plain "Guest"]) (by decide)
  have refused : (editor.authorize editorRequirements).result = refuse (.roleMissing "Guest") :=
    (fails _).2 ⟨[_], _, [], _, rfl, List.forall_mem_singleton.2 met, missed, rfl⟩
  have equivalence : Equivalence fun a b : Text => RoleValue.same a b = true := by
    have equality : (fun a b : Text => RoleValue.same a b = true) = Eq := by
      funext a b
      exact propext beq_iff_eq
    rw [equality]
    exact ⟨Eq.refl, Eq.symm, Eq.trans⟩
  have also : otherEditor.authorize editorRequirements =
      (fun _ => otherEditor) <$> editor.authorize editorRequirements :=
    alike otherEditor rfl equivalence (by decide) (by decide)
  refine ⟨rfl, refused, ?_, ?_⟩
  · rw [also, Traced.result_map, refused]
    rfl
  · exact parts (editorRequirements.take 1) _ [] rfl

end Token
end RealmAuth
