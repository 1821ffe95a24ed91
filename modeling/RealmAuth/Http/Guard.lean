import RealmAuth.Realm

namespace RealmAuth

/-!
Guarded routes.  A route is answered only behind its guard; a refusal is answered
by its status and its message, and whatever is no refusal is not answered at all.  An
answer is sent as octets, which not every text can be written as.
-/

/-- What stands before a route. -/
inductive Guard (R : Type) where
  /-- A token is required. -/
  | token
  /-- A token is taken where there is one. -/
  | optional
  /-- A token is required that meets a requirement. -/
  | requirement (requirement : Requirement R)

/-- A route and its guard. -/
structure Route (R : Type) where
  path : String
  guard : Guard R

/-- An answer to a request. -/
structure Response where
  status : Nat
  body : Json

/-- What a framework makes of the authorization header by itself: a scheme and what follows it. -/
structure Credentials where
  scheme : String
  parameter : String

namespace Guard

variable {R : Type} [RoleValue R]

/-- The token of a request.  The framework offers its own reading of the header in vain. -/
def currentToken (realm : Realm R) (now : Instant) (headers : Headers)
    (_credentials : Option Credentials := none) : Traced (Token R) := do
  let token ← Traced.lift headers.bearerToken
  realm.authenticate now token

/-- The token of a request, where a refusal counts as no token. -/
def optionalToken (realm : Realm R) (now : Instant) (headers : Headers)
    (_credentials : Option Credentials := none) : Traced (Option (Token R)) :=
  let found : Traced (Token R) := do
    let token ← Traced.lift headers.bearerToken
    realm.authenticate now token
  match found.result with
  | .ok bearer => ⟨found.names, .ok (some bearer)⟩
  | .error (.refused _) => ⟨found.names, .ok none⟩
  | .error (.escaped escape) => ⟨found.names, .error (.escaped escape)⟩

/-- What a guard lets through: a token, or no token where none is needed. -/
def pass (realm : Realm R) (now : Instant) (headers : Headers) :
    Guard R → Traced (Option (Token R))
  | .token => some <$> currentToken realm now headers
  | .optional => optionalToken realm now headers
  | .requirement needed => do
      let bearer ← currentToken realm now headers
      some <$> bearer.authorize [needed]

end Guard

namespace Response

variable {R : Type} [RoleValue R]

def granted : Option (Token R) → Response
  | none => ⟨200, .object [("authenticated", .bool false)]⟩
  | some token =>
      let roles := token.roles.map fun grant => Json.string (RoleValue.text grant.role)
      ⟨200, .object [("sub", .string token.subject), ("roles", .array roles)]⟩

def refused [Platform] (debug : Bool) (error : AuthError) : Response :=
  ⟨error.status, .object [("error", .string (error.publicMessage debug))]⟩

/-- The answer to a request for a path without a route. -/
def notFound : Response :=
  ⟨404, .object [("detail", .string "Not Found")]⟩

/-- The answer to the outcome of a guard, unless a cause escaped. -/
def ofOutcome [Platform] (debug : Bool) : Except Failure (Option (Token R)) → Except Escape Response
  | .ok token => .ok (granted token)
  | .error (.refused error) => .ok (refused debug error)
  | .error (.escaped escape) => .error escape

/-- A response as it is sent, unless no octets write its body. -/
def sent (response : Response) : Except Escape Response :=
  if response.body.isWhole then .ok response else .error .brokenText

theorem sent_eq_ok_iff {response sent : Response} :
    response.sent = .ok sent ↔ response.body.isWhole = true ∧ response = sent := by
  unfold Response.sent
  split
  · rename_i whole
    simp [whole]
  · rename_i broken
    simp [broken]

/-- A refusal is sent if octets write its message. -/
theorem sent_refused [Platform] (debug : Bool) (error : AuthError) :
    (refused debug error).sent =
      if (error.publicMessage debug).isWhole then .ok (refused debug error)
      else .error .brokenText := by
  have named : Text.isWhole "error" = true := rfl
  simp [sent, refused, Json.isWhole, Json.fieldsWhole, named]

end Response

variable [Platform]

/-- What a route answers to a request: the response of the application, or that to a refusal. -/
def Route.answer {R : Type} [RoleValue R] (realm : Realm R) (route : Route R) (now : Instant)
    (headers : Headers) : Except Escape Response :=
  Response.ofOutcome realm.debug (route.guard.pass realm now headers).result

/-- The answer of a route as it is sent. -/
def Route.reply {R : Type} [RoleValue R] (realm : Realm R) (route : Route R) (now : Instant)
    (headers : Headers) : Except Escape Response :=
  route.answer realm now headers >>= Response.sent

/-- The reply to a request by the first of some routes that has its path. -/
def Route.replyFirst {R : Type} [RoleValue R] (realm : Realm R) (routes : List (Route R))
    (path : String) (now : Instant) (headers : Headers) : Except Escape Response :=
  match routes.find? fun route => route.path == path with
  | some route => route.reply realm now headers
  | none => .ok Response.notFound

end RealmAuth
