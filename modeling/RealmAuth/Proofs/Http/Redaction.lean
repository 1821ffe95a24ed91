import RealmAuth.Proofs.Realm.Admission
import RealmAuth.Proofs.Role.Refusal

namespace RealmAuth

/-!
Role names in answers.  A request whose token is accepted is refused by one of four
checks of its roles, unless the role parser itself refuses to read a role.  Three of
them look for roles, and what they report differs in the role alone; this role is
written into an answer while the application is debugged and nowhere else.  So without
debugging an answer tells on which side of the roles the fault was, and neither the
role, nor which check failed or where in its list, nor anything about the token.  Every
other refusal reads the same in both modes.
-/

open Outcome

/-- A check of roles behind the acceptance of a token. -/
inductive RoleCheck where
  /-- The roles that the realm requires. -/
  | required
  /-- The roles of a requirement that all have to be held. -/
  | allOf
  /-- The roles of a requirement of which one has to be held. -/
  | anyOf
  /-- The roles of a requirement that must not be held. -/
  | noneOf

namespace RoleCheck

/-- A check that looks for roles, and not the one that excludes them. -/
def Positive (check : RoleCheck) : Prop :=
  check ≠ noneOf

/-- The checks before a check. -/
def earlier : RoleCheck → List RoleCheck
  | required => []
  | allOf => [required]
  | anyOf => [required, allOf]
  | noneOf => [required, allOf, anyOf]

/-- What a check does with the roles that it is about. -/
def apply {R : Type} [RoleValue R] (token : Token R) (roles : List R) : RoleCheck → Traced Unit
  | required | allOf => token.expectRoles roles
  | anyOf => token.containedRoles roles
  | noneOf => token.notExpectRoles roles

end RoleCheck

namespace Visit

variable {R : Type}

/-- The roles that a check is about: those of the realm, or those of the route's guard. -/
def asked (visit : Visit R) (check : RoleCheck) : List R :=
  match check, visit.route.guard with
  | .required, _ => visit.realm.requiredRoles
  | .allOf, .requirement needed => needed.allOf
  | .anyOf, .requirement needed => needed.anyOf
  | .noneOf, .requirement needed => needed.noneOf
  | _, _ => []

/-- A request reaches the checks of roles with a token. -/
def Reaches (visit : Visit R) (token : Token R) : Prop :=
  (visit.realm.acceptHeaders visit.now visit.headers).result = .ok token

/-- The same request while the application is debugged, or while it is not. -/
def debugging (visit : Visit R) (debug : Bool) : Visit R :=
  { visit with realm := { visit.realm with debug := debug } }

variable [RoleValue R]

/-- What a check says of a token that reaches it. -/
def verdict (visit : Visit R) (token : Token R) (check : RoleCheck) : Except Failure Unit :=
  (check.apply token (visit.asked check)).result

/-- A request reaches a check of roles with a token and is refused by it. -/
structure RejectedBy (visit : Visit R) (check : RoleCheck) (token : Token R)
    (error : AuthError) : Prop where
  reaches : visit.Reaches token
  passed : ∀ other ∈ check.earlier, visit.verdict token other = .ok ()
  failed : visit.verdict token check = refuse error

/-- A request fails at a check of roles: the refusal is for the roles of its token. -/
structure FailsAt (visit : Visit R) (check : RoleCheck) (token : Token R) (error : AuthError) :
    Prop extends RejectedBy visit check token error where
  /-- The role parser itself does not refuse to read a role of the check in this way. -/
  own : ¬ token.Declines (visit.asked check) error

variable {visit : Visit R} {token : Token R} {check : RoleCheck} {error : AuthError}

/-- Behind the acceptance the four checks follow one another. -/
theorem outcome_of_reaches (reaches : visit.Reaches token) :
    visit.outcome = visit.verdict token .required >>= fun _ => visit.verdict token .allOf >>=
      fun _ => visit.verdict token .anyOf >>= fun _ => visit.verdict token .noneOf >>= fun _ =>
        .ok (some token) := by
  have demanded : visit.route.guard.demands token = visit.verdict token .allOf >>= fun _ =>
      visit.verdict token .anyOf >>= fun _ => visit.verdict token .noneOf := by
    unfold verdict asked
    cases visit.route.guard with
    | requirement needed =>
        simp only [Guard.demands, Token.meets, Traced.result_bind, RoleCheck.apply]
    | _ => rfl
  rw [outcome_eq, Realm.authenticateHeaders, Traced.result_bind,
    reaches, ok_bind, Traced.result_bind, bind_assoc]
  congr 1
  funext _
  change visit.route.guard.demands token >>= (fun _ => .ok (some token)) = _
  rw [demanded]
  simp only [bind_assoc]

/-- A request that reaches the checks of roles is refused exactly by one of them. -/
theorem outcome_eq_refuse_iff (reaches : visit.Reaches token) :
    visit.outcome = refuse error ↔ ∃ check, visit.RejectedBy check token error := by
  rw [outcome_of_reaches reaches]
  constructor
  · intro refused
    rcases bind_eq_error_iff.1 refused with failed | ⟨_, required, refused⟩
    · exact ⟨.required, reaches, by simp [RoleCheck.earlier], failed⟩
    rcases bind_eq_error_iff.1 refused with failed | ⟨_, allOf, refused⟩
    · exact ⟨.allOf, reaches, by simpa [RoleCheck.earlier] using required, failed⟩
    rcases bind_eq_error_iff.1 refused with failed | ⟨_, anyOf, refused⟩
    · exact ⟨.anyOf, reaches, by simpa [RoleCheck.earlier] using ⟨required, allOf⟩, failed⟩
    rcases bind_eq_error_iff.1 refused with failed | ⟨_, _, impossible⟩
    · exact ⟨.noneOf, reaches, by simpa [RoleCheck.earlier] using ⟨required, allOf, anyOf⟩, failed⟩
    · cases impossible
  · intro given
    rcases given with ⟨check, _, passed, failed⟩
    cases check with
    | required => rw [failed]; rfl
    | allOf =>
        rw [passed .required (by simp [RoleCheck.earlier]), failed]
        rfl
    | anyOf =>
        rw [passed .required (by simp [RoleCheck.earlier]),
          passed .allOf (by simp [RoleCheck.earlier]), failed]
        rfl
    | noneOf =>
        rw [passed .required (by simp [RoleCheck.earlier]),
          passed .allOf (by simp [RoleCheck.earlier]),
          passed .anyOf (by simp [RoleCheck.earlier]), failed]
        rfl

/-- A check that looks for roles names one that it is about and that the token lacks. -/
theorem FailsAt.misses (fails : visit.FailsAt check token error)
    (positive : check.Positive) : token.Misses (visit.asked check) error := by
  have failed := fails.failed
  cases check with
  | required | allOf => exact Token.misses_of_expectRoles fails.own failed
  | anyOf => exact Token.misses_of_containedRoles fails.own failed
  | noneOf => exact absurd rfl positive

theorem FailsAt.unexpected (fails : visit.FailsAt check token error)
    (negative : ¬ check.Positive) : error = .roleUnexpected := by
  rcases Classical.not_not.1 negative with rfl
  exact Token.unexpected_of_notExpectRoles fails.own fails.failed

/-- Whether the application is debugged has no part in the outcome. -/
theorem outcome_debugging (debug : Bool) : (visit.debugging debug).outcome = visit.outcome := by
  unfold outcome debugging
  rcases visit with ⟨realm, ⟨path, guard⟩, needed, now, headers⟩
  cases guard <;> rfl

/-- Only a missing role reads differently while the application is debugged. -/
theorem refused_eq_of_ne [Platform] (unnamed : ∀ role, error ≠ .roleMissing role) (first second : Bool) :
    Response.refused first error = Response.refused second error := by
  cases error with
  | roleMissing role => exact absurd rfl (unnamed role)
  | _ => rfl

theorem answer_debugging [Platform] (debug : Bool)
    (unnamed : ∀ role, visit.outcome ≠ refuse (.roleMissing role)) :
    (visit.debugging debug).answer = visit.answer := by
  change Response.ofOutcome debug (visit.debugging debug).outcome =
    Response.ofOutcome visit.realm.debug visit.outcome
  rw [outcome_debugging]
  revert unnamed
  rcases visit.outcome with (error | cause) | granted
  · intro unnamed
    refine congrArg Except.ok (refused_eq_of_ne ?_ _ _)
    rintro role rfl
    exact unnamed role rfl
  · intro _
    rfl
  · intro _
    rfl

theorem RejectedBy.outcome (rejected : visit.RejectedBy check token error) :
    visit.outcome = refuse error :=
  (outcome_eq_refuse_iff rejected.reaches).2 ⟨check, rejected⟩

section

variable [Platform]

theorem RejectedBy.answer (rejected : visit.RejectedBy check token error) (debug : Bool) :
    (visit.debugging debug).answer = .ok (Response.refused debug error) := by
  apply answer_of_outcome
  rw [outcome_debugging]
  exact rejected.outcome

theorem RejectedBy.reply (rejected : visit.RejectedBy check token error) (debug : Bool)
    (whole : (error.publicMessage debug).isWhole = true) :
    (visit.debugging debug).reply = (visit.debugging debug).answer := by
  have refused : (visit.debugging debug).outcome = refuse error := by
    rw [outcome_debugging]
    exact rejected.outcome
  rw [reply_of_outcome refused]
  exact if_pos whole

/-- Without debugging a failure is told in words that octets write. -/
theorem FailsAt.isWhole (fails : visit.FailsAt check token error) :
    (error.publicMessage false).isWhole = true := by
  by_cases positive : check.Positive
  · rcases fails.misses positive with ⟨_, _, _, _, _, rfl⟩
    rfl
  · rw [fails.unexpected positive]
    rfl

end

/-- On one side of the roles all failures have one text and one answer without debugging. -/
theorem FailsAt.same [Platform] {S : Type} [RoleValue S] {other : Visit S} {another : Token S}
    {second : RoleCheck} {fault : AuthError} (fails : visit.FailsAt check token error)
    (alike : other.FailsAt second another fault) (side : check.Positive ↔ second.Positive) :
    error.message = fault.message ∧
      Response.refused false error = Response.refused false fault := by
  by_cases positive : check.Positive
  · rcases fails.misses positive with ⟨_, _, _, _, _, rfl⟩
    rcases alike.misses (side.1 positive) with ⟨_, _, _, _, _, rfl⟩
    exact ⟨rfl, rfl⟩
  · rw [fails.unexpected positive, alike.unexpected (fun given => positive (side.2 given))]
    exact ⟨rfl, rfl⟩

/--
Role names are kept out of answers.  Two requests to any two applications, which read
roles in their own ways, reach the checks of roles and fail there on the same side: then
their refusals have the same text, and without debugging their answers are the same.
While debugging, a check that looks for roles adds the one that its refusal records, which
is one of its own that the token lacks.  Whatever else a request meets is answered the
same whether the application is debugged or not.  What is answered is also sent: without
debugging always, and while debugging where octets write the role.
-/
theorem answers_keep_roles [Platform] {R S : Type} [RoleValue R] [RoleValue S] (one : Visit R)
    (other : Visit S) :
    (∀ token error, one.Reaches token →
      (one.outcome = refuse error ↔ ∃ check, one.RejectedBy check token error)) ∧
    (∀ first second token another error fault,
      one.FailsAt first token error → other.FailsAt second another fault →
      (first.Positive ↔ second.Positive) →
        error.message = fault.message ∧
        (one.debugging false).answer = (other.debugging false).answer ∧
        (one.debugging false).reply = (one.debugging false).answer ∧
        (other.debugging false).reply = (other.debugging false).answer) ∧
    (∀ check token error, one.FailsAt check token error → check.Positive →
      ∃ role, error = .roleMissing role ∧ token.Misses (one.asked check) error ∧
        (one.debugging true).answer =
          .ok ⟨401, .object [("error", .string (.plain "Missing expected role: " ++ role))]⟩ ∧
        (role.isWhole = true → (one.debugging true).reply = (one.debugging true).answer)) ∧
    (∀ debug, (∀ role, one.outcome ≠ refuse (.roleMissing role)) →
      (one.debugging debug).answer = one.answer) ∧
    ∀ error first second, (∀ role, error ≠ .roleMissing role) →
      Response.refused first error = Response.refused second error := by
  refine ⟨fun token error => outcome_eq_refuse_iff, ?_, ?_, fun debug => answer_debugging debug,
    fun error first second unnamed => refused_eq_of_ne unnamed first second⟩
  · intro first second token another error fault fails alike side
    rcases fails.same alike side with ⟨message, response⟩
    refine ⟨message, ?_, fails.reply false fails.isWhole,
      alike.reply false alike.isWhole⟩
    rw [fails.answer, alike.answer, response]
  · intro check token error fails positive
    rcases fails.misses positive with ⟨role, member, value, read, absent, rfl⟩
    refine ⟨_, rfl, ⟨role, member, value, read, absent, rfl⟩, fails.answer true, ?_⟩
    intro whole
    apply fails.reply true
    generalize RoleValue.text value = shown at whole
    cases shown with
    | plain => rfl
    | broken => cases whole

/-! ## Two applications that ask for different roles -/

open Platform

/-- A request to an application that requires a role of every token. -/
def adminVisit : Visit Text where
  realm :=
    { decoder := .fixed (.object Jws.lastClaims)
      key := .verifying ⟨15, 3⟩
      audiences := []
      roleParser := fun name => .ok name
      requiredRoles := ["admin"]
      debug := false }
  route := ⟨"/", .token⟩
  needed := by simp
  now := ⟨0⟩
  headers := .sent [("authorization", .text "Bearer x")]

/-- A request to an application whose route asks for one of two roles in any case. -/
def editorVisit : Visit AppRole where
  realm :=
    { decoder := .fixed (.object Jws.lastClaims)
      key := .verifying ⟨15, 3⟩
      audiences := []
      roleParser := fun name => .ok (.caseless name)
      requiredRoles := []
      debug := false }
  route := ⟨"/edit", .requirement ⟨[], [.data (.string "editor"), .data (.int 7)], []⟩⟩
  needed := by simp
  now := ⟨0⟩
  headers := .sent [("authorization", .text "Bearer x")]

/-- What the two requests lack differs, and they are told the same. -/
theorem answers_keep_roles_of_two :
    ∃ token another,
      adminVisit.FailsAt .required token (.roleMissing "admin") ∧
      editorVisit.FailsAt .anyOf another (.roleMissing "7") ∧
      RoleCheck.required.Positive ∧
      (adminVisit.debugging false).answer = (editorVisit.debugging false).answer ∧
      (adminVisit.debugging true).answer =
        .ok ⟨401, .object [("error", .string "Missing expected role: admin")]⟩ := by
  have lacksAdmin : adminVisit.FailsAt .required (.issued id Realm.lastStandard)
      (.roleMissing "admin") :=
    ⟨⟨rfl, by simp [RoleCheck.earlier], rfl⟩, Token.not_declines rfl _ _⟩
  have lacksBoth : editorVisit.FailsAt .anyOf (.issued AppRole.caseless Realm.lastStandard)
      (.roleMissing "7") := by
    refine ⟨⟨rfl, ?_, rfl⟩, Token.not_declines rfl _ _⟩
    intro check member
    cases check with
    | required | allOf => rfl
    | anyOf | noneOf => simp [RoleCheck.earlier] at member
  have looks : RoleCheck.required.Positive := by simp [RoleCheck.Positive]
  have alsoLooks : RoleCheck.anyOf.Positive := by simp [RoleCheck.Positive]
  rcases answers_keep_roles adminVisit editorVisit with ⟨_, hidden, told, _⟩
  rcases told _ _ _ lacksAdmin looks with ⟨role, same, _, answered⟩
  cases same
  exact ⟨_, _, lacksAdmin, lacksBoth, looks,
    (hidden _ _ _ _ _ _ lacksAdmin lacksBoth (iff_of_true looks alsoLooks)).2.1,
    answered.1⟩

end Visit
end RealmAuth
