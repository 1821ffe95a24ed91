import RealmAuth.Proofs.Role.Total

namespace RealmAuth

/-!
Tokens made of standard claims.  Where every role name is read, only the two times
can stand against a token: they have to lie within the calendar.  All else about
the token is then known from the claims, and so is the end of its lifetime.
-/

namespace Calendar

/-- A second lies within the years 1 to 9999. -/
def Covers (seconds : Int) : Prop :=
  firstSecond ≤ seconds ∧ seconds ≤ lastSecond

instance (seconds : Int) : Decidable (Covers seconds) :=
  inferInstanceAs (Decidable (_ ∧ _))

theorem instant_of_covers {seconds : Int} (covered : Covers seconds) :
    instant seconds = .ok (.ofUnix seconds 0) := by
  unfold instant
  exact if_pos covered

theorem instant_of_not_covers {seconds : Int} (beyond : ¬ Covers seconds) :
    ∃ reason, instant seconds = .error reason := by
  unfold Covers at beyond
  rw [instant, if_neg beyond]
  split
  · exact ⟨_, rfl⟩
  · exact ⟨_, rfl⟩

end Calendar

namespace Token

variable {R : Type} {reading : Text → R}

/-- The token of some claims, when every role name is read. -/
def issued (reading : Text → R) (claims : StandardClaims) : Token R where
  expiresAt := .ofUnix claims.exp 0
  issuedAt := .ofUnix claims.iat 0
  identifier := claims.jti
  issuer := claims.iss
  audience := claims.aud
  subject := claims.sub
  authorizedParty := claims.azp
  roles := (Grant.named claims.realmAccess claims.resourceAccess).map (Grant.mapRole reading)
  givenName := claims.givenName
  familyName := claims.familyName
  fullName := claims.name
  preferredUsername := claims.preferredUsername
  email := claims.email
  emailVerified := claims.emailVerified
  roleParser := .total reading

/-- A refusal of a token that is of no use. -/
def OfNoUse (error : AuthError) : Prop :=
  ∃ reason, error = .tokenInvalid reason

theorem instantOf_of_covers {seconds : Int} (claim label : String)
    (covered : Calendar.Covers seconds) :
    instantOf seconds claim label = .ok (.ofUnix seconds 0) := by
  rw [instantOf, Calendar.instant_of_covers covered]
  rfl

theorem instantOf_of_not_covers {seconds : Int} (claim label : String)
    (beyond : ¬ Calendar.Covers seconds) :
    ∃ error, instantOf seconds claim label = refuse error ∧ OfNoUse error := by
  rcases Calendar.instant_of_not_covers beyond with ⟨reason, refused⟩
  rw [instantOf, refused]
  exact ⟨_, rfl, _, rfl⟩

/-- Only a second of the calendar is an instant. -/
theorem exists_instantOf_iff {seconds : Int} (claim label : String) :
    (∃ instant, instantOf seconds claim label = .ok instant) ↔ Calendar.Covers seconds := by
  constructor
  · rintro ⟨instant, made⟩
    apply Classical.byContradiction
    intro beyond
    rcases instantOf_of_not_covers claim label beyond with ⟨error, refused, _⟩
    rw [made] at refused
    cases refused
  · intro covered
    exact ⟨_, instantOf_of_covers claim label covered⟩

/-- Behind its two times the token of some claims is made without fail. -/
theorem result_ofClaims (claims : StandardClaims) :
    (ofClaims (.total reading) claims).result =
      instantOf claims.exp "exp" "expires_at" >>= fun _ =>
        instantOf claims.iat "iat" "issued_at" >>= fun _ => .ok (issued reading claims) := by
  unfold ofClaims
  simp only [Traced.result_bind, Traced.lift, Grant.result_extract]
  by_cases exp : Calendar.Covers claims.exp
  · by_cases iat : Calendar.Covers claims.iat
    · rw [instantOf_of_covers _ _ exp, instantOf_of_covers _ _ iat]
      rfl
    · rcases instantOf_of_not_covers "iat" "issued_at" iat with ⟨error, refused, _⟩
      rw [instantOf_of_covers _ _ exp, refused]
      rfl
  · rcases instantOf_of_not_covers "exp" "expires_at" exp with ⟨error, refused, _⟩
    rw [refused]
    rfl

theorem result_ofClaims_of_covers {claims : StandardClaims} (exp : Calendar.Covers claims.exp)
    (iat : Calendar.Covers claims.iat) :
    (ofClaims (.total reading) claims).result = .ok (issued reading claims) := by
  rw [result_ofClaims, instantOf_of_covers _ _ exp, instantOf_of_covers _ _ iat]
  rfl

theorem result_ofClaims_of_not_covers (reading : Text → R) {claims : StandardClaims}
    (beyond : ¬ (Calendar.Covers claims.exp ∧ Calendar.Covers claims.iat)) :
    ∃ error, (ofClaims (.total reading) claims).result = refuse error ∧ OfNoUse error := by
  rw [result_ofClaims]
  by_cases exp : Calendar.Covers claims.exp
  · have iat : ¬ Calendar.Covers claims.iat := fun iat => beyond ⟨exp, iat⟩
    rcases instantOf_of_not_covers "iat" "issued_at" iat with ⟨error, refused, reason⟩
    rw [instantOf_of_covers _ _ exp, refused]
    exact ⟨error, rfl, reason⟩
  · rcases instantOf_of_not_covers "exp" "expires_at" exp with ⟨error, refused, reason⟩
    rw [refused]
    exact ⟨error, rfl, reason⟩

theorem ofClaims_ok_iff {claims : StandardClaims} {token : Token R} :
    (ofClaims (.total reading) claims).result = .ok token ↔
      Calendar.Covers claims.exp ∧ Calendar.Covers claims.iat ∧ token = issued reading claims := by
  by_cases within : Calendar.Covers claims.exp ∧ Calendar.Covers claims.iat
  · rw [result_ofClaims_of_covers within.1 within.2]
    simp [within.1, within.2, eq_comm]
  · rcases result_ofClaims_of_not_covers reading within with ⟨error, refused, _⟩
    rw [refused]
    simp only [Outcome.refuse_ne_ok, false_iff]
    intro given
    rcases given with ⟨exp, iat, _⟩
    exact within ⟨exp, iat⟩

theorem refuses_ofClaims (claims : StandardClaims) :
    Outcome.Refuses OfNoUse (ofClaims (.total reading) claims).result := by
  by_cases within : Calendar.Covers claims.exp ∧ Calendar.Covers claims.iat
  · rw [result_ofClaims_of_covers within.1 within.2]
    trivial
  · rcases result_ofClaims_of_not_covers reading within with ⟨error, refused, reason⟩
    rw [refused]
    exact reason

theorem expiresAt_issued (claims : StandardClaims) :
    (issued reading claims).expiresAt.micros = claims.exp * Instant.perSecond := by
  simp [issued, Instant.ofUnix]

/-- The lifetime of a token lasts until its expiry, and that moment is the last of it. -/
theorem checkLifetime_issued (claims : StandardClaims) (now : Instant) :
    (issued reading claims).checkLifetime now =
      if now.micros ≤ claims.exp * Instant.perSecond then .ok () else refuse .tokenExpired := by
  unfold checkLifetime isExpired
  simp only [expiresAt_issued, decide_eq_true_eq]
  by_cases ended : claims.exp * Instant.perSecond < now.micros
  · rw [if_pos ended, if_neg (by omega)]
  · rw [if_neg ended, if_pos (by omega)]

end Token
end RealmAuth
