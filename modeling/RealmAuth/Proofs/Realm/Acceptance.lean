import RealmAuth.Proofs.Claims.Grammar
import RealmAuth.Proofs.Jws.Verification
import RealmAuth.Proofs.Realm.Entry
import RealmAuth.Proofs.Role.Walk
import RealmAuth.Proofs.Token.Issued

namespace RealmAuth

/-!
The way of a request through a realm.  A token text is decoded, its claims are read,
a token is made of them, and its lifetime and its roles are looked at; each stage is
described on its own by now, and here they are put behind each other.  Everything
that asks a realm for a token goes this one way, so what it takes to be let through
is said once and for all.
-/

namespace Realm

variable [Platform] {R : Type} {realm : Realm R} {policy : Policy} {reading : Text → R}
  {now : Instant} {text : Text} {payload : Json.Fields} {claims : StandardClaims}

/-- A realm that verifies its tokens by a policy and reads every role name. -/
structure Verifies (realm : Realm R) (policy : Policy) (reading : Text → R) : Prop where
  decoder : realm.decoder = Jws.decoder policy
  roleParser : realm.roleParser = .total reading

/-- The realm of a key, for some audiences, that verifies by a policy and reads every role name. -/
def verifying (policy : Policy) (key : Rsa.Key) (expected : List Text) (reading : Text → R)
    (requiredRoles : List R) (debug : Bool) : Realm R where
  decoder := Jws.decoder policy
  key := key
  audiences := expected.map .string
  roleParser := .total reading
  requiredRoles := requiredRoles
  debug := debug

theorem verifies_verifying {key : Rsa.Key} {expected : List Text} {requiredRoles : List R}
    {debug : Bool} :
    (verifying policy key expected reading requiredRoles debug).Verifies policy reading :=
  ⟨rfl, rfl⟩

/-- The payload of a token text and its claims, by which a realm accepts the text. -/
structure Accepts (realm : Realm R) (policy : Policy) (now : Instant) (text : Text)
    (payload : Json.Fields) (claims : StandardClaims) : Prop where
  decoded : Jws.decode policy now text (.rsa realm.key) (.array realm.audiences) = .ok payload
  written : Claims.WrittenIn claims payload
  expires : Calendar.Covers claims.exp
  begins : Calendar.Covers claims.iat
  current : now.micros ≤ claims.exp * Instant.perSecond

/-- What follows the decoding of a text depends on its payload alone. -/
theorem result_accept (verifies : realm.Verifies policy reading) :
    (realm.accept now text).result =
      Jws.decode policy now text (.rsa realm.key) (.array realm.audiences) >>= fun payload =>
        standardClaims (.object payload) >>= fun claims =>
          (Token.ofClaims (.total reading) claims).result >>= fun token =>
            token.checkLifetime now >>= fun _ => .ok token := by
  unfold accept
  simp only [Traced.result_bind, Traced.lift, verifies.decoder, verifies.roleParser, Jws.decoder]
  cases Jws.decode policy now text (.rsa realm.key) (.array realm.audiences) <;> rfl

/-- A sealed text whose payload is not read has no claims, and verification refuses it. -/
theorem accept_of_unreadable (verifies : realm.Verifies policy reading) {key : Rsa.PublicKey}
    (verifying : realm.key = .verifying key) {parts : Jws.Parts} (written : parts.Of text)
    (closed : Jws.Sealed key parts) (unreadable : Json.readOctets? parts.payload = none) :
    (realm.accept now text).result = refuse (Jws.rejected (.payloadText parts.payload)) := by
  rw [result_accept verifies, verifying, Jws.decode_of_unreadable written closed unreadable]
  rfl

theorem accept_ok_iff (verifies : realm.Verifies policy reading) {token : Token R} :
    (realm.accept now text).result = .ok token ↔
      ∃ payload claims, realm.Accepts policy now text payload claims ∧
        token = .issued reading claims := by
  rw [result_accept verifies]
  simp only [Outcome.bind_eq_ok_iff, standardClaims_eq_ok_iff, Token.ofClaims_ok_iff]
  constructor
  · intro given
    rcases given with ⟨payload, decoded, claims, written, _, ⟨expires, begins, rfl⟩, _, lasting,
        same⟩
    rw [Token.checkLifetime_issued] at lasting
    refine ⟨payload, claims, ⟨decoded, written, expires, begins, ?_⟩, ?_⟩
    · apply Int.not_lt.1
      intro ended
      rw [if_neg (by omega)] at lasting
      exact Outcome.refuse_ne_ok lasting
    · cases same
      rfl
  · intro given
    rcases given with ⟨payload, claims, accepts, rfl⟩
    refine ⟨payload, accepts.decoded, claims, accepts.written, _,
      ⟨accepts.expires, accepts.begins, rfl⟩, (), ?_, rfl⟩
    rw [Token.checkLifetime_issued, if_pos accepts.current]

variable [RoleValue R]

theorem authenticate_ok_iff (verifies : realm.Verifies policy reading) {token : Token R} :
    (realm.authenticate now text).result = .ok token ↔
      ∃ payload claims, realm.Accepts policy now text payload claims ∧
        (∀ role ∈ realm.requiredRoles, (Token.issued reading claims).Holds reading role) ∧
          token = .issued reading claims := by
  unfold authenticate
  simp only [Traced.result_bind, Outcome.bind_eq_ok_iff, accept_ok_iff verifies]
  constructor
  · intro given
    rcases given with ⟨_, ⟨payload, claims, accepts, rfl⟩, _, required, same⟩
    refine ⟨payload, claims, accepts, (Token.expectRoles_ok_iff rfl).1 required, ?_⟩
    cases same
    rfl
  · intro given
    rcases given with ⟨payload, claims, accepts, required, rfl⟩
    exact ⟨_, ⟨payload, claims, accepts, rfl⟩, (), (Token.expectRoles_ok_iff rfl).2 required, rfl⟩

/-- A request that bears an accepted text whose token carries the required roles. -/
structure Admits (realm : Realm R) (policy : Policy) (reading : Text → R) (now : Instant)
    (headers : Headers) (text : String) (payload : Json.Fields) (claims : StandardClaims) : Prop
    extends Accepts realm policy now text payload claims where
  borne : headers.bearerToken = .ok text
  required : ∀ role ∈ realm.requiredRoles, (Token.issued reading claims).Holds reading role

theorem authenticateHeaders_ok_iff (verifies : realm.Verifies policy reading) {headers : Headers}
    {token : Token R} :
    (realm.authenticateHeaders now headers).result = .ok token ↔
      ∃ text payload claims, realm.Admits policy reading now headers text payload claims ∧
        token = .issued reading claims := by
  rw [authenticateHeaders_eq]
  simp only [Traced.result_bind, Traced.lift, Outcome.bind_eq_ok_iff, authenticate_ok_iff verifies]
  constructor
  · intro given
    rcases given with ⟨text, borne, payload, claims, accepts, required, same⟩
    exact ⟨text, payload, claims, ⟨accepts, borne, required⟩, same⟩
  · intro given
    rcases given with ⟨text, payload, claims, admits, same⟩
    exact ⟨text, admits.borne, payload, claims, admits.toAccepts, admits.required, same⟩

end Realm

namespace Guard

variable {R : Type} [RoleValue R] {realm : Realm R} {policy : Policy} {reading : Text → R}
  {now : Instant} {headers : Headers}

/-- What a guard asks of the token of a request. -/
def Allows (reading : Text → R) (token : Token R) : Guard R → Prop
  | .token => True
  | .optional => True
  | .requirement needed => token.Meets reading needed

/-- What a guard checks of the token of a request. -/
def demands (token : Token R) : Guard R → Except Failure Unit
  | requirement needed => (token.meets needed).result
  | _ => .ok ()

/-- Where a token is needed it is authenticated first, and then held to what the guard demands. -/
theorem result_pass {guard : Guard R} (required : guard ≠ .optional) :
    (guard.pass realm now headers).result =
      (realm.authenticateHeaders now headers).result >>= fun token =>
        guard.demands token >>= fun _ => .ok (some token) := by
  cases guard with
  | optional => exact absurd rfl required
  | token =>
      rw [pass, currentToken_eq, Traced.result_map]
      cases (realm.authenticateHeaders now headers).result <;> rfl
  | requirement needed =>
      rw [pass, currentToken_eq, Traced.result_bind]
      congr 1
      funext token
      rw [Traced.result_map, Token.authorize, Traced.result_bind, demands]
      cases (token.meets needed).result <;> rfl

/-- Where a token is optional, a token that is let through is an admitted one. -/
theorem optionalToken_some_iff {token : Token R} :
    (optionalToken realm now headers).result = .ok (some token) ↔
      (realm.authenticateHeaders now headers).result = .ok token := by
  rw [optionalToken_eq]
  exact excused_some_iff

/-- A guard lets a token through exactly when the request is admitted and the guard allows it. -/
theorem pass_some_iff [Platform] (verifies : realm.Verifies policy reading) {guard : Guard R}
    {token : Token R} :
    (guard.pass realm now headers).result = .ok (some token) ↔
      ∃ text payload claims, realm.Admits policy reading now headers text payload claims ∧
        guard.Allows reading (.issued reading claims) ∧ token = .issued reading claims := by
  cases guard with
  | token =>
      rw [pass, currentToken_eq, Traced.result_map, Outcome.map_eq_ok_iff]
      simp only [Realm.authenticateHeaders_ok_iff verifies, Option.some.injEq, exists_eq_right,
        Allows, true_and]
  | optional =>
      rw [pass, optionalToken_some_iff]
      simp only [Realm.authenticateHeaders_ok_iff verifies, Allows, true_and]
  | requirement needed =>
      rw [pass, currentToken_eq, Traced.result_bind, Outcome.bind_eq_ok_iff]
      simp only [Traced.result_map, Outcome.map_eq_ok_iff, Option.some.injEq, exists_eq_right,
        Realm.authenticateHeaders_ok_iff verifies, Allows]
      constructor
      · intro given
        rcases given with ⟨_, ⟨text, payload, claims, admits, rfl⟩, authorized⟩
        rcases (Token.authorize_ok_iff rfl).1 authorized with ⟨meets, same⟩
        exact ⟨text, payload, claims, admits, List.forall_mem_singleton.1 meets, same.symm⟩
      · intro given
        rcases given with ⟨text, payload, claims, admits, meets, rfl⟩
        exact ⟨_, ⟨text, payload, claims, admits, rfl⟩,
          (Token.authorize_ok_iff rfl).2 ⟨List.forall_mem_singleton.2 meets, rfl⟩⟩

/-- Only where a token is optional is a request let through without one. -/
theorem pass_ne_none {guard : Guard R} (needed : guard ≠ .optional) :
    (guard.pass realm now headers).result ≠ .ok none := by
  have found : ∀ x : Traced (Token R), (some <$> x).result ≠ .ok none := by
    intro x same
    rw [Traced.result_map, Outcome.map_eq_ok_iff] at same
    rcases same with ⟨token, _, impossible⟩
    cases impossible
  cases guard with
  | token => exact found _
  | optional => exact absurd rfl needed
  | requirement needed =>
      intro same
      rw [pass, Traced.result_bind, Outcome.bind_eq_ok_iff] at same
      rcases same with ⟨token, _, authorized⟩
      exact found _ authorized

end Guard

/-- A request to a route of a realm that needs a token. -/
structure Visit (R : Type) where
  realm : Realm R
  route : Route R
  needed : route.guard ≠ .optional
  now : Instant
  headers : Headers

namespace Visit

variable {R : Type} [RoleValue R]

def outcome (visit : Visit R) : Except Failure (Option (Token R)) :=
  (visit.route.guard.pass visit.realm visit.now visit.headers).result

def answer [Platform] (visit : Visit R) : Except Escape Response :=
  visit.route.answer visit.realm visit.now visit.headers

/-- The answer as it is sent. -/
def reply [Platform] (visit : Visit R) : Except Escape Response :=
  visit.route.reply visit.realm visit.now visit.headers

theorem outcome_eq (visit : Visit R) :
    visit.outcome =
      (visit.realm.authenticateHeaders visit.now visit.headers).result >>= fun token =>
        visit.route.guard.demands token >>= fun _ => .ok (some token) :=
  Guard.result_pass visit.needed

/-- A request whose text is not accepted stops there. -/
theorem outcome_of_accept (visit : Visit R) {text : String} {failure : Failure}
    (borne : visit.headers.bearerToken = .ok text)
    (stopped : (visit.realm.accept visit.now text).result = .error failure) :
    visit.outcome = .error failure := by
  rw [outcome_eq, Realm.authenticateHeaders_eq]
  simp only [Traced.result_bind, Traced.lift, borne, Outcome.ok_bind, Realm.authenticate, stopped,
    Outcome.error_bind]

theorem answer_of_outcome [Platform] {visit : Visit R} {error : AuthError}
    (refused : visit.outcome = refuse error) :
    visit.answer = .ok (Response.refused visit.realm.debug error) := by
  change Response.ofOutcome visit.realm.debug visit.outcome = _
  rw [refused]
  rfl

/-- A refusal is answered if octets write its message. -/
theorem reply_of_outcome [Platform] {visit : Visit R} {error : AuthError}
    (refused : visit.outcome = refuse error) :
    visit.reply =
      if (error.publicMessage visit.realm.debug).isWhole then visit.answer
      else .error .brokenText := by
  have sent : visit.reply = visit.answer >>= Response.sent := rfl
  rw [sent, answer_of_outcome refused, Outcome.ok_bind, Response.sent_refused]

end Visit
end RealmAuth
