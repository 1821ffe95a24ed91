import RealmAuth.Proofs.Http.Passage
import RealmAuth.Proofs.Realm.Lifetime
import RealmAuth.Proofs.Realm.Taxonomy

namespace RealmAuth

/-!
Which stage answers a refused request.  Each stage refuses in a way of its own, so its
status is known from the stage, and the first stage that has something to say is the
one that is heard: the answer has its status and its message, and it is the same for
every other request that shows the same to the stages up to that one.  Whatever only
later stages look at, such as the roles of a token that has expired, cannot be told
from the answer.  The answer is sent if octets write its message; only where the message
repeats a text of the token's header, or the name of a role, can it happen that none do.
-/

open Outcome

namespace Stage

/-- The refusals of a stage. -/
def Gives : Stage → AuthError → Prop
  | lookup, error => error = .headerMissing
  | characters, error => ∃ reason, error = .headerInvalid reason
  | scheme, error => error = .bearerMissing
  | header, error => ∃ fault, error = .headerDecode (.header fault)
  | verification, error => ∃ fault, error = .tokenDecode (.verification fault)
  | claims, error => ∃ report, error = .claimsParse (.claims report)
  | expiryDate, error => ∃ reason, error = .tokenInvalid reason
  | issueDate, error => ∃ reason, error = .tokenInvalid reason
  | lifetime, error => error = .tokenExpired
  | requiredRoles, error => ∃ role, error = .roleMissing role
  | guard, error => Token.ForRole error

theorem Gives.status {stage : Stage} {error : AuthError} (given : stage.Gives error) :
    error.status = stage.status := by
  cases stage with
  | lookup | scheme | lifetime =>
      cases given
      rfl
  | guard => rcases given with ⟨_, rfl⟩ | rfl <;> rfl
  | _ =>
      rcases given with ⟨_, rfl⟩
      rfl

/-- Octets write whatever a stage says, unless the message repeats what it was given. -/
theorem Gives.isWhole [Platform] {stage : Stage} {error : AuthError} (given : stage.Gives error)
    (read : stage ≠ header) : (error.publicMessage false).isWhole = true := by
  cases stage with
  | header => exact absurd rfl read
  | lookup | scheme | lifetime =>
      cases given
      rfl
  | guard => rcases given with ⟨_, rfl⟩ | rfl <;> rfl
  | _ =>
      rcases given with ⟨_, rfl⟩
      rfl

/-- Only its lifetime is given as the reason that a token is past it. -/
theorem Gives.eq_lifetime {stage : Stage} (given : stage.Gives .tokenExpired) :
    stage = lifetime := by
  cases stage with
  | lifetime => rfl
  | lookup | scheme => cases given
  | guard => rcases given with ⟨_, impossible⟩ | impossible <;> cases impossible
  | _ =>
      rcases given with ⟨_, impossible⟩
      cases impossible

/-- Only the header is given as the reason that it cannot be read or used. -/
theorem Gives.eq_header {stage : Stage} {fault : HeaderFault}
    (given : stage.Gives (.headerDecode (.header fault))) : stage = header := by
  cases stage with
  | header => rfl
  | lookup | scheme | lifetime => cases given
  | guard => rcases given with ⟨_, impossible⟩ | impossible <;> cases impossible
  | _ =>
      rcases given with ⟨_, impossible⟩
      cases impossible

theorem verification_mem_upTo {stage : Stage} (later : lifetime ∈ stage.upTo) :
    verification ∈ stage.upTo := by
  revert later
  cases stage <;> decide

theorem requiredRoles_mem_upTo {stage : Stage} (later : guard ∈ stage.upTo) :
    requiredRoles ∈ stage.upTo := by
  revert later
  cases stage <;> decide

end Stage

namespace View

variable {R : Type}

/-- Whether a role may be named in an answer, where what is looked at are roles. -/
def debug : View R → Bool
  | requiredRoles _ _ debug => debug
  | guard _ _ debug => debug
  | _ => false

variable [Platform] [RoleValue R]

theorem gives_of_failure? {view : View R} {error : AuthError}
    (refused : view.failure? = some (.refused error)) : view.stage.Gives error := by
  cases view with
  | lookup present =>
      simp only [failure?] at refused
      split at refused
      · cases refused
      · cases refused
        rfl
  | characters value =>
      simp only [failure?, failure?_eq_some_iff] at refused
      exact ⟨_, Headers.invalid_of_valueText refused⟩
  | scheme value =>
      simp only [failure?, failure?_eq_some_iff] at refused
      unfold Headers.tokenOf at refused
      split at refused
      · cases refused
      · cases refused
        rfl
  | header text =>
      simp only [failure?, failure?_eq_some_iff, Jws.readHeader, mapError_eq_error_iff] at refused
      rcases refused with ⟨fault, _, same⟩
      cases same
      exact ⟨fault, rfl⟩
  | verification policy now key audiences parts =>
      simp only [failure?, failure?_eq_some_iff, mapError_eq_error_iff] at refused
      rcases refused with ⟨halt, _, same⟩
      cases halt with
      | escaped cause => cases same
      | refused fault =>
          cases same
          exact ⟨fault, rfl⟩
  | claims payload =>
      simp only [failure?, failure?_eq_some_iff, standardClaims, mapError_eq_error_iff] at refused
      rcases refused with ⟨report, _, same⟩
      cases same
      exact ⟨report, rfl⟩
  | expiryDate seconds | issueDate seconds =>
      simp only [failure?, failure?_eq_some_iff, Token.instantOf, mapError_eq_error_iff] at refused
      rcases refused with ⟨reason, _, same⟩
      cases same
      exact ⟨_, rfl⟩
  | lifetime exp now =>
      simp only [failure?] at refused
      split at refused
      · cases refused
      · cases refused
        rfl
  | requiredRoles held wanted debug =>
      rcases Option.map_eq_some_iff.1 refused with ⟨_, fault, same⟩
      cases same
      exact Roles.missing_of_allFault? fault
  | guard held needed debug =>
      rcases Option.map_eq_some_iff.1 refused with ⟨_, fault, same⟩
      cases same
      exact Roles.forRole_of_fault? fault

end View

namespace Attempt

variable [Platform] {R : Type} [RoleValue R] {attempt other : Attempt R} {stage : Stage}

/-- What a stage says against a request is a refusal of this stage. -/
theorem gives_of_failure? {error : AuthError}
    (refused : attempt.failure? stage = some (.refused error)) : stage.Gives error := by
  rcases Option.bind_eq_some_iff.1 refused with ⟨view, seen, against⟩
  rw [← stage_of_view seen]
  exact View.gives_of_failure? against

/-- A request stops at a stage: the stage has something against it, and no earlier one has. -/
structure StopsAt (attempt : Attempt R) (stage : Stage) (failure : Failure) : Prop where
  fails : attempt.failure? stage = some failure
  first : ∀ other ∈ stage.earlier, attempt.failure? other = none

/-- A stage is the first one that is shown a view that does not pass. -/
structure FailsFirstAt (attempt : Attempt R) (stage : Stage) : Prop where
  fails : ∃ view, attempt.Shows view ∧ view.stage = stage ∧ ¬ view.Passes
  first : ∀ view, attempt.Shows view → view.stage ∈ stage.earlier → view.Passes

/-- A stage has nothing against a request exactly when all that it is shown passes. -/
theorem failure?_eq_none_iff :
    attempt.failure? stage = none ↔ ∀ view, attempt.Shows view → view.stage = stage → view.Passes := by
  simp only [failure?, Option.bind_eq_none_iff, view_eq_some_iff, View.failure?_eq_none_iff,
    and_imp]

/-- A request stops for something at a stage exactly when this stage is the first to fail. -/
theorem exists_stopsAt_iff :
    (∃ failure, attempt.StopsAt stage failure) ↔ attempt.FailsFirstAt stage := by
  have fails : (∃ failure, attempt.failure? stage = some failure) ↔
      ∃ view, attempt.Shows view ∧ view.stage = stage ∧ ¬ view.Passes := by
    rw [← Option.ne_none_iff_exists', ne_eq, failure?_eq_none_iff]
    simp only [not_forall, exists_prop]
  have first : (∀ other ∈ stage.earlier, attempt.failure? other = none) ↔
      ∀ view, attempt.Shows view → view.stage ∈ stage.earlier → view.Passes := by
    simp only [failure?_eq_none_iff]
    constructor
    · intro passed view shown member
      exact passed view.stage member view shown rfl
    · rintro passed _ member view shown rfl
      exact passed view shown member
  constructor
  · rintro ⟨failure, stops⟩
    exact ⟨fails.1 ⟨failure, stops.fails⟩, first.1 stops.first⟩
  · intro given
    rcases fails.2 given.fails with ⟨failure, against⟩
    exact ⟨failure, against, first.2 given.first⟩

theorem outcome_eq_error_iff {failure : Failure} :
    attempt.visit.outcome = .error failure ↔ ∃ stage, attempt.StopsAt stage failure := by
  rw [← failure?_eq_some_iff, failure?_outcome, Stage.findSome?_all_iff]
  constructor
  · intro given
    rcases given with ⟨stage, fails, first⟩
    exact ⟨stage, fails, first⟩
  · intro given
    rcases given with ⟨stage, stops⟩
    exact ⟨stage, stops.fails, stops.first⟩

theorem StopsAt.answer {error : AuthError} (stops : attempt.StopsAt stage (.refused error)) :
    attempt.visit.answer = .ok (Response.refused attempt.debug error) :=
  Visit.answer_of_outcome (outcome_eq_error_iff.2 ⟨stage, stops⟩)

theorem StopsAt.reply {error : AuthError} (stops : attempt.StopsAt stage (.refused error)) :
    attempt.visit.reply =
      if (error.publicMessage attempt.debug).isWhole then attempt.visit.answer
      else .error .brokenText :=
  Visit.reply_of_outcome (outcome_eq_error_iff.2 ⟨stage, stops⟩)

/-! ## Requests that show the same -/

/-- Two requests show the same to the stages up to one. -/
def LooksAlike (attempt other : Attempt R) (stage : Stage) : Prop :=
  ∀ view : View R, view.stage ∈ stage.upTo → (other.Shows view ↔ attempt.Shows view)

theorem shows_iff {view : View R} : attempt.Shows view ↔ attempt.view view.stage = some view := by
  rw [view_eq_some_iff, and_iff_left rfl]

theorem LooksAlike.view_eq (alike : attempt.LooksAlike other stage) {seen : Stage}
    (member : seen ∈ stage.upTo) : other.view seen = attempt.view seen := by
  apply Option.ext
  intro view
  simp only [view_eq_some_iff]
  apply and_congr_left
  rintro rfl
  exact alike view member

theorem LooksAlike.stopsAt {failure : Failure} (alike : attempt.LooksAlike other stage)
    (stops : attempt.StopsAt stage failure) : other.StopsAt stage failure := by
  have same : ∀ seen ∈ stage.upTo, other.failure? seen = attempt.failure? seen := by
    intro seen member
    rw [failure?, alike.view_eq member, failure?]
  constructor
  · rw [same stage (List.mem_append_right _ List.mem_cons_self)]
    exact stops.fails
  · intro seen member
    rw [same seen (List.mem_append_left _ member)]
    exact stops.first seen member

/-- The message of a refusal is known from what its stage looks at. -/
theorem publicMessage_of_view {view : View R} {error : AuthError}
    (seen : attempt.view stage = some view) (given : stage.Gives error) :
    error.publicMessage attempt.debug = error.publicMessage view.debug := by
  cases stage with
  | requiredRoles =>
      rcases Option.map_eq_some_iff.1 seen with ⟨_, _, rfl⟩
      rfl
  | guard =>
      rcases Option.bind_eq_some_iff.1 seen with ⟨claims, _, later⟩
      rcases Option.map_eq_some_iff.1 later with ⟨needed, _, rfl⟩
      rfl
  | lookup | scheme | lifetime =>
      cases given
      rfl
  | _ =>
      rcases given with ⟨_, rfl⟩
      rfl

theorem LooksAlike.answer {error : AuthError} (alike : attempt.LooksAlike other stage)
    (stops : attempt.StopsAt stage (.refused error)) :
    other.visit.answer = attempt.visit.answer := by
  rw [stops.answer, (alike.stopsAt stops).answer]
  rcases Option.bind_eq_some_iff.1 stops.fails with ⟨view, seen, _⟩
  have given := gives_of_failure? stops.fails
  have shown : other.view stage = some view := by
    rw [alike.view_eq (List.mem_append_right _ List.mem_cons_self)]
    exact seen
  rw [Response.refused, Response.refused, publicMessage_of_view seen given,
    publicMessage_of_view shown given]

/--
Two requests agree on what is given up to a stage: the value of the header, then what
verification goes by, then the roles of the realm, then the requirement of the route.
-/
structure GivesAlike (attempt other : Attempt R) (stage : Stage) : Prop where
  headers : other.headers.find? = attempt.headers.find?
  verification : .verification ∈ stage.upTo → other.policy = attempt.policy ∧
    other.now = attempt.now ∧ other.key = attempt.key ∧ other.audiences = attempt.audiences
  requiredRoles : .requiredRoles ∈ stage.upTo → other.reading = attempt.reading ∧
    other.requiredRoles = attempt.requiredRoles ∧ other.debug = attempt.debug
  guard : .guard ∈ stage.upTo → other.requirement = attempt.requirement

/-- What is given alike looks alike, however different the rest is. -/
theorem GivesAlike.looksAlike (alike : attempt.GivesAlike other stage) :
    attempt.LooksAlike other stage := by
  have characters : other.characters? = attempt.characters? := by
    rw [characters?, alike.headers, characters?]
  have text : other.text? = attempt.text? := by rw [text?, characters, text?]
  have parts : other.parts? = attempt.parts? := by rw [parts?, text, parts?]
  have payload : other.payload? = attempt.payload? := by rw [payload?, parts, payload?]
  have claims : other.claims? = attempt.claims? := by rw [claims?, payload, claims?]
  intro sight member
  rw [shows_iff, shows_iff]
  apply Eq.congr_left
  generalize sight.stage = seen at member ⊢
  cases seen with
  | lookup | characters => simp only [view, alike.headers]
  | scheme => simp only [view, characters]
  | header => simp only [view, text]
  | verification =>
      rcases alike.verification member with ⟨policy, now, key, audiences⟩
      simp only [view, parts, policy, now, key, audiences]
  | claims => simp only [view, payload]
  | expiryDate | issueDate => simp only [view, claims]
  | lifetime =>
      rcases alike.verification (Stage.verification_mem_upTo member) with ⟨_, now, _, _⟩
      simp only [view, claims, now]
  | requiredRoles =>
      rcases alike.requiredRoles member with ⟨reading, required, debug⟩
      simp only [view, claims, held, reading, required, debug]
  | guard =>
      rcases alike.requiredRoles (Stage.requiredRoles_mem_upTo member) with ⟨reading, _, debug⟩
      simp only [view, claims, held, reading, debug, alike.guard member]

theorem LooksAlike.reply {error : AuthError} (alike : attempt.LooksAlike other stage)
    (stops : attempt.StopsAt stage (.refused error)) :
    other.visit.reply = attempt.visit.reply :=
  congrArg (· >>= Response.sent) (alike.answer stops)

/--
The first stage that fails answers a request, where octets write what it has to say.
A guarded route refuses a request exactly when a stage refuses it that is the first to be
shown a view that does not pass.  The answer has the status of this stage, and in its
body there is nothing but the public message.  It is sent if octets write this message,
as they do without debugging at every stage but that of the token's header; otherwise the
request is not answered at all.  Another request that shows the same up to this stage, or
is given the same up to it, has the same answer and the same reply, whatever later stages
would look at.
-/
theorem reply_of_first_stage (attempt : Attempt R) :
    (∀ stage, (∃ failure, attempt.StopsAt stage failure) ↔ attempt.FailsFirstAt stage) ∧
    (∀ error, attempt.visit.outcome = refuse error ↔
      ∃ stage, attempt.StopsAt stage (.refused error)) ∧
    ∀ stage error, attempt.StopsAt stage (.refused error) →
      stage.Gives error ∧
      attempt.visit.answer = .ok ⟨stage.status,
        .object [("error", .string (error.publicMessage attempt.debug))]⟩ ∧
      attempt.visit.reply =
        (if (error.publicMessage attempt.debug).isWhole then attempt.visit.answer
        else .error .brokenText) ∧
      (stage ≠ .header → attempt.debug = false →
        (error.publicMessage attempt.debug).isWhole = true) ∧
      ∀ other : Attempt R, attempt.LooksAlike other stage ∨ attempt.GivesAlike other stage →
        other.StopsAt stage (.refused error) ∧ other.visit.answer = attempt.visit.answer ∧
          other.visit.reply = attempt.visit.reply := by
  refine ⟨fun stage => exists_stopsAt_iff, fun error => outcome_eq_error_iff, ?_⟩
  intro stage error stops
  have given := gives_of_failure? stops.fails
  refine ⟨given, ?_, stops.reply, ?_, ?_⟩
  · rw [stops.answer, Response.refused, given.status]
  · intro read undebugged
    rw [undebugged]
    exact given.isWhole read
  · intro other same
    have alike : attempt.LooksAlike other stage := same.elim id GivesAlike.looksAlike
    exact ⟨alike.stopsAt stops, alike.answer stops, alike.reply stops⟩

end Attempt

open Platform

namespace Attempt

/-! ## A token that is past its lifetime and lacks a role -/

/-- A request by the last token after the calendar's last second began. -/
def lastAttempt (requiredRoles : List AppRole) (debug : Bool) : Attempt AppRole where
  policy := ⟨.whole 60, .exact⟩
  key := .verifying Jws.smallKey
  audiences := [.string "service"]
  reading := Realm.plainly
  requiredRoles := requiredRoles
  debug := debug
  path := "/"
  requirement := none
  now := ⟨253402300799500000⟩
  headers := .ofTexts [("authorization", "Bearer " ++ Jws.lastToken)]

theorem stopsAt_lastAttempt (requiredRoles : List AppRole) (debug : Bool) :
    (lastAttempt requiredRoles debug).StopsAt .lifetime (.refused .tokenExpired) := by
  have late : Calendar.firstSecond * Instant.perSecond ≤
      (⟨253402300799500000⟩ : Instant).micros - 60 * Instant.perSecond := by decide
  have judged := (Realm.judges_accept Realm.plainly requiredRoles debug
    Realm.inOrderBut_lastToken late).ranges (by decide) (by decide)
  have ended : ((lastAttempt requiredRoles debug).visit.realm.accept
      (lastAttempt requiredRoles debug).visit.now Jws.lastToken).result = refuse .tokenExpired :=
    judged.2.1.2 (by decide)
  have borne : (lastAttempt requiredRoles debug).visit.headers.bearerToken = .ok Jws.lastToken :=
    Realm.bearerToken_textOf (by decide +kernel) _ _ _
  have outcome := Visit.outcome_of_accept (lastAttempt requiredRoles debug).visit borne ended
  rcases outcome_eq_error_iff.1 outcome with ⟨stage, stops⟩
  rwa [← (gives_of_failure? stops.fails).eq_lifetime]

/-- Its lifetime answers the request, whatever roles are required and whoever is told. -/
theorem reply_of_first_stage_lastAttempt :
    (lastAttempt [Realm.plainly "admin"] true).StopsAt .lifetime (.refused .tokenExpired) ∧
      (lastAttempt [Realm.plainly "admin"] true).GivesAlike (lastAttempt [] false) .lifetime ∧
      (lastAttempt [Realm.plainly "admin"] true).visit.reply =
        .ok ⟨401, .object [("error", .string "The tokens lifetime is expired.")]⟩ ∧
      (lastAttempt [] false).visit.reply =
        (lastAttempt [Realm.plainly "admin"] true).visit.reply := by
  have stops := stopsAt_lastAttempt [Realm.plainly "admin"] true
  have alike : (lastAttempt [Realm.plainly "admin"] true).GivesAlike (lastAttempt [] false)
      .lifetime := by
    constructor
    · have same : (lastAttempt [] false).headers =
          (lastAttempt [Realm.plainly "admin"] true).headers := rfl
      rw [same]
    · exact fun _ => ⟨rfl, rfl, rfl, rfl⟩
    · exact fun later => absurd later (by decide)
    · exact fun later => absurd later (by decide)
  rcases (reply_of_first_stage (lastAttempt [Realm.plainly "admin"] true)).2.2 .lifetime
      .tokenExpired stops with ⟨_, answered, replied, _, same⟩
  refine ⟨stops, alike, ?_, (same _ (Or.inr alike)).2.2⟩
  rw [replied, answered]
  rfl

/-! ## A refusal that no octets write -/

/-- A text that is half of a pair. -/
def halfText : Text :=
  .broken "" ⟨0⟩ (.plain "")

/-- The octets of a header whose critical extension is half of a pair, which is escaped in it. -/
def halfHeader : Octets :=
  Text.toUtf8 "\x7b\x22alg\x22:\x22RS256\x22,\x22crit\x22:[\x22\\ud800\x22]\x7d".toList

/-- A token with such a header, of no claims and with a signature of one octet. -/
def halfToken : String :=
  Jws.textOf halfHeader (Text.toUtf8 "\x7b\x7d".toList) [0]

/-- A request by such a token. -/
def halfAttempt : Attempt AppRole :=
  { lastAttempt [] false with
    headers := .ofTexts [("authorization", "Bearer " ++ halfToken)] }

theorem readHeader_halfToken :
    Jws.readHeader halfToken = refuse (.headerDecode (.header (.criticalUnknown halfText))) := by
  have object : Json.readOctets? halfHeader =
      some (.object [("alg", .string "RS256"), ("crit", .array [.string halfText])]) := by
    decide +kernel
  rw [halfToken, Jws.readHeader, Jws.read_textOf object rfl]
  rfl

/--
The header of a token decides a request, since its critical extension is not known, and still
the request has no answer: the refusal repeats the name of the extension, which no octets write.
-/
theorem no_reply_of_halfAttempt :
    halfAttempt.StopsAt .header
        (.refused (.headerDecode (.header (.criticalUnknown halfText)))) ∧
      halfAttempt.visit.answer = .ok ⟨401, .object [("error", .string
        (.plain ("The JWT header could not be decoded. Source: " ++
          "Unsupported critical extension: ") ++ halfText))]⟩ ∧
      halfAttempt.visit.reply = .error .brokenText := by
  have borne : halfAttempt.visit.headers.bearerToken = .ok halfToken :=
    Realm.bearerToken_textOf (by decide +kernel) _ _ _
  have ended : (halfAttempt.visit.realm.accept halfAttempt.visit.now halfToken).result =
      refuse (.headerDecode (.header (.criticalUnknown halfText))) := by
    rw [visit, Realm.result_accept verifies_realm, Jws.decode, readHeader_halfToken]
    rfl
  have outcome := Visit.outcome_of_accept halfAttempt.visit borne ended
  rcases outcome_eq_error_iff.1 outcome with ⟨stage, stops⟩
  rw [(gives_of_failure? stops.fails).eq_header] at stops
  refine ⟨stops, ?_, ?_⟩
  · rw [stops.answer]
    rfl
  · rw [stops.reply]
    rfl

end Attempt
end RealmAuth
