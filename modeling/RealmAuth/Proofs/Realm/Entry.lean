import RealmAuth.Http.Guard
import RealmAuth.Proofs.Outcome

namespace RealmAuth

/-!
The ways into a realm.  A text is authenticated as it is; headers are searched for a
text, whose token is then held to the required roles; a guarded route searches the
headers of its request and authenticates the text.  These are three paths, on which
the roles are required in two places and the headers are searched in two.  They lead
to one outcome, and a route where a token is optional differs from it in one thing:
what is refused elsewhere counts as no token there.
-/

open Outcome

variable {R : Type}

namespace Guard

/-- The outcome where a token is optional. -/
def excused : Except Failure (Token R) → Except Failure (Option (Token R))
  | .ok found => .ok (some found)
  | .error (.refused _) => .ok none
  | .error (.escaped cause) => .error (.escaped cause)

theorem excused_some_iff {outcome : Except Failure (Token R)} {token : Token R} :
    excused outcome = .ok (some token) ↔ outcome = .ok token := by
  rcases outcome with halt | found
  · cases halt <;> simp [excused]
  · simp [excused]

theorem excused_none_iff {outcome : Except Failure (Token R)} :
    excused outcome = .ok none ↔ ∃ error, outcome = refuse error := by
  rcases outcome with halt | found
  · cases halt <;> simp [excused, refuse]
  · simp [excused, refuse]

theorem excused_escape_iff {outcome : Except Failure (Token R)} {cause : Escape} :
    excused outcome = escape cause ↔ outcome = escape cause := by
  rcases outcome with halt | found
  · cases halt <;> simp [excused, escape]
  · simp [excused, escape]

end Guard

variable [RoleValue R]

namespace Realm

/-- Roles are required of the token of headers as they are of the token of their text. -/
theorem authenticateHeaders_eq (realm : Realm R) (now : Instant) (headers : Headers) :
    realm.authenticateHeaders now headers =
      Traced.lift headers.bearerToken >>= fun text => realm.authenticate now text := by
  unfold authenticateHeaders acceptHeaders authenticate
  exact Traced.bind_assoc ..

theorem authenticateHeaders_of_unborne (realm : Realm R) (now : Instant) {headers : Headers}
    {failure : Failure} (unborne : headers.bearerToken = .error failure) :
    realm.authenticateHeaders now headers = Traced.lift (.error failure) := by
  rw [authenticateHeaders_eq, unborne]
  rfl

end Realm

namespace Guard

/-- What the framework reads from the header has no part in the token of a request. -/
theorem currentToken_eq (realm : Realm R) (now : Instant) (headers : Headers)
    (credentials : Option Credentials) :
    currentToken realm now headers credentials = realm.authenticateHeaders now headers :=
  (Realm.authenticateHeaders_eq realm now headers).symm

theorem optionalToken_eq (realm : Realm R) (now : Instant) (headers : Headers)
    (credentials : Option Credentials) :
    optionalToken realm now headers credentials =
      ⟨(realm.authenticateHeaders now headers).names,
        excused (realm.authenticateHeaders now headers).result⟩ := by
  rw [Realm.authenticateHeaders_eq]
  unfold optionalToken
  simp only
  generalize Traced.lift headers.bearerToken >>= _ = found
  rcases found with ⟨names, halt | bearer⟩
  · cases halt with
    | refused error => rfl
    | escaped cause => rfl
  · rfl

/--
The ways into a realm agree, and read the same role names.  Headers that bear no text
stop all of them with the failure of the search.  Where a token is optional, the token
is the one that is found elsewhere, a refusal gives no token, and every other cause is
the same as elsewhere; whatever the framework reads from the header makes no difference.
-/
theorem entries_agree (realm : Realm R) (now : Instant) (headers : Headers)
    (credentials : Option Credentials) :
    realm.authenticateHeaders now headers =
      (Traced.lift headers.bearerToken >>= fun text => realm.authenticate now text) ∧
    (∀ failure, headers.bearerToken = .error failure →
      realm.authenticateHeaders now headers = Traced.lift (.error failure)) ∧
    currentToken realm now headers credentials = realm.authenticateHeaders now headers ∧
    (∀ token, (optionalToken realm now headers credentials).result = .ok (some token) ↔
      (currentToken realm now headers credentials).result = .ok token) ∧
    ((optionalToken realm now headers credentials).result = .ok none ↔
      ∃ error, (currentToken realm now headers credentials).result = refuse error) ∧
    (∀ cause, (optionalToken realm now headers credentials).result = escape cause ↔
      (currentToken realm now headers credentials).result = escape cause) ∧
    (optionalToken realm now headers credentials).names =
      (currentToken realm now headers credentials).names := by
  rw [optionalToken_eq, currentToken_eq]
  refine ⟨Realm.authenticateHeaders_eq realm now headers, ?_, rfl, fun token => excused_some_iff,
    excused_none_iff, fun cause => excused_escape_iff, rfl⟩
  intro failure unborne
  exact realm.authenticateHeaders_of_unborne now unborne

/-- A realm that takes every text for a token without claims. -/
def claimless : Realm Text where
  decoder := .fixed (.object [])
  key := .verifying ⟨15, 3⟩
  audiences := []
  roleParser := fun name => .ok name
  requiredRoles := ["admin"]
  debug := false

/-- A request that lacks the header is refused for that, unless a token is optional. -/
theorem entries_agree_without_header :
    (Headers.sent [("host", .text "Bearer x")]).bearerToken = .error (.refused .headerMissing) ∧
      claimless.authenticateHeaders ⟨0⟩ (.sent [("host", .text "Bearer x")]) =
        Traced.lift (.error (.refused .headerMissing)) ∧
      (optionalToken claimless ⟨0⟩ (.sent [("host", .text "Bearer x")])
        (some ⟨"Bearer", "x"⟩)).result = .ok none := by
  have unborne : (Headers.sent [("host", .text "Bearer x")]).bearerToken =
      .error (.refused .headerMissing) := rfl
  rcases entries_agree claimless ⟨0⟩ (.sent [("host", .text "Bearer x")]) (some ⟨"Bearer", "x"⟩)
      with ⟨_, stopped, current, _, excused, _⟩
  refine ⟨unborne, stopped _ unborne, excused.2 ⟨.headerMissing, ?_⟩⟩
  rw [current, stopped _ unborne]
  rfl

end Guard
end RealmAuth
