import RealmAuth.Proofs.Realm.Admission

namespace RealmAuth
namespace Realm

/-!
The lifetime of a token as a realm sees it.  Four checks look at the expiry one
after the other: verification compares it with the clock less the leeway, reading
holds it to 64 bits, the calendar ends with the year 9999, and the token itself has
to last until now.  For a token that is otherwise in order these checks cut the
integers into five ranges, each with an outcome of its own.  Verification wants the
expiry to be later than what it compares with and the token only wants it not to
be earlier, so a leeway of zero, and no other one, takes away the present moment.
-/

variable {R : Type} {reading : Text → R} {now : Instant} {text : Text}
  {key : Rsa.PublicKey} {expected : List Text} {payload : Json.Fields}
  {claims : StandardClaims} {expiry : Int}

/-- The expiry of a policy with a whole leeway that is compared without rounding. -/
theorem isPast_exact_iff {leeway : Int} :
    Jws.isPast ⟨.whole leeway, .exact⟩ now expiry = true ↔
      expiry * Instant.perSecond ≤ now.micros - leeway * Instant.perSecond := by
  simp only [Jws.isPast, decide_eq_true_eq]

theorem textIfAny_of_field {name : String} {given : Text}
    (written : Claims.Field payload name Claims.WritesText given) : Jws.TextIfAny name payload := by
  rcases written with ⟨json, found, rfl⟩
  intro value other
  rw [found, Option.some.injEq] at other
  exact ⟨given, other.symm⟩

/-- The outcome for an expiry, one for each of five ranges. -/
inductive Judges (leeway : Int) (now : Instant) (expiry : Int) : Except Failure (Token R) → Prop
  | expired
      (past : expiry * Instant.perSecond ≤ now.micros - leeway * Instant.perSecond) :
      Judges leeway now expiry (refuse (.tokenDecode (.verification .expired)))
  | ended
      (later : now.micros - leeway * Instant.perSecond < expiry * Instant.perSecond)
      (before : expiry * Instant.perSecond < now.micros) :
      Judges leeway now expiry (refuse .tokenExpired)
  | accepted (token : Token R)
      (later : now.micros - leeway * Instant.perSecond < expiry * Instant.perSecond)
      (current : now.micros ≤ expiry * Instant.perSecond)
      (dated : expiry ≤ Calendar.lastSecond) :
      Judges leeway now expiry (.ok token)
  | undated (reason : String) (beyond : Calendar.lastSecond < expiry)
      (small : expiry ≤ Claims.greatestTime) :
      Judges leeway now expiry (refuse (.tokenInvalid reason))
  | unread (cause : Cause) (great : Claims.greatestTime < expiry) :
      Judges leeway now expiry (refuse (.claimsParse cause))

/-- The five ranges do not overlap, so each outcome tells in which of them the expiry is. -/
theorem Judges.ranges {leeway : Int} {outcome : Except Failure (Token R)}
    (judged : Judges leeway now expiry outcome) (nonnegative : 0 ≤ leeway)
    (finish : now.micros < (Calendar.lastSecond + 1) * Instant.perSecond) :
    (outcome = refuse (.tokenDecode (.verification .expired)) ↔
      expiry * Instant.perSecond ≤ now.micros - leeway * Instant.perSecond) ∧
    (outcome = refuse .tokenExpired ↔
      now.micros - leeway * Instant.perSecond < expiry * Instant.perSecond ∧
        expiry * Instant.perSecond < now.micros) ∧
    ((∃ token, outcome = .ok token) ↔
      now.micros - leeway * Instant.perSecond < expiry * Instant.perSecond ∧
        now.micros ≤ expiry * Instant.perSecond ∧ expiry ≤ Calendar.lastSecond) ∧
    ((∃ reason, outcome = refuse (.tokenInvalid reason)) ↔
      Calendar.lastSecond < expiry ∧ expiry ≤ Claims.greatestTime) ∧
    ((∃ cause, outcome = refuse (.claimsParse cause)) ↔ Claims.greatestTime < expiry) := by
  simp only [Instant.perSecond, Calendar.lastSecond, Claims.greatestTime] at finish ⊢
  cases judged with
  | expired past =>
      simp only [Instant.perSecond] at past
      refine ⟨?_, ?_, ?_, ?_, ?_⟩ <;> simp [refuse] <;> omega
  | ended later before =>
      simp only [Instant.perSecond] at later before
      refine ⟨?_, ?_, ?_, ?_, ?_⟩ <;> simp [refuse] <;> omega
  | accepted token later current dated =>
      simp only [Instant.perSecond, Calendar.lastSecond] at later current dated
      refine ⟨?_, ?_, ?_, ?_, ?_⟩ <;> simp [refuse] <;> omega
  | undated reason beyond small =>
      simp only [Calendar.lastSecond, Claims.greatestTime] at beyond small
      refine ⟨?_, ?_, ?_, ?_, ?_⟩ <;> simp [refuse] <;> omega
  | unread cause great =>
      simp only [Claims.greatestTime] at great
      refine ⟨?_, ?_, ?_, ?_, ?_⟩ <;> simp [refuse] <;> omega

section

variable [Platform]

/-- A token that is in order but for its expiry, which is some integer. -/
structure InOrderBut (key : Rsa.PublicKey) (expected : List Text) (text : Text)
    (payload : Json.Fields) (claims : StandardClaims) (expiry : Int) : Prop where
  signed : Jws.Signed key text payload
  addressed : Jws.Addressed expected payload
  written : Claims.OthersWrittenIn claims payload
  begins : Calendar.Covers claims.iat
  integer : payload.get? "exp" = some (.int expiry)

/-- A token in order but for its expiry is decoded unless the expiry is past by the leeway. -/
theorem decode_of_inOrderBut {leeway : Int}
    (order : InOrderBut key expected text payload claims expiry) :
    Jws.decode ⟨.whole leeway, .exact⟩ now text (.rsa (.verifying key))
        (.array (expected.map .string)) =
      if expiry * Instant.perSecond ≤ now.micros - leeway * Instant.perSecond then
        refuse (Jws.rejected .expired)
      else .ok payload := by
  have expires : Jws.Expires payload expiry := ⟨.int expiry, order.integer, rfl⟩
  by_cases past : expiry * Instant.perSecond ≤ now.micros - leeway * Instant.perSecond
  · rw [if_pos past]
    have stopped : Jws.checkExpiry ⟨.whole leeway, .exact⟩ now payload =
        .error (.refused .expired) := by
      rw [Jws.checkExpiry_of_expires expires, isPast_exact_iff.2 past]
      rfl
    exact Jws.decode_of_checkExpiry order.signed stopped
  · rw [if_neg past]
    apply Jws.decode_ok_iff.2
    refine ⟨order.signed, ⟨expiry, expires, rfl, ?_⟩, order.addressed,
      textIfAny_of_field order.written.sub, textIfAny_of_field order.written.jti⟩
    rw [Bool.eq_false_iff]
    exact fun compared => past (isPast_exact_iff.1 compared)

/-- The claims of such a token are read exactly when the expiry is a number of 64 bits. -/
theorem standardClaims_of_inOrderBut (order : InOrderBut key expected text payload claims expiry) :
    (Claims.leastTime ≤ expiry ∧ expiry ≤ Claims.greatestTime ∧
      standardClaims (.object payload) = .ok { claims with exp := expiry }) ∨
    (¬ (Claims.leastTime ≤ expiry ∧ expiry ≤ Claims.greatestTime) ∧
      ∃ cause, standardClaims (.object payload) = refuse (.claimsParse cause)) := by
  by_cases within : Claims.leastTime ≤ expiry ∧ expiry ≤ Claims.greatestTime
  · have others : Claims.OthersWrittenIn { claims with exp := expiry } payload := by
      cases order.written
      constructor <;> assumption
    refine Or.inl ⟨within.1, within.2, standardClaims_eq_ok_iff.2 ⟨others, ?_⟩⟩
    exact ⟨.int expiry, order.integer, rfl, within.1, within.2⟩
  · refine Or.inr ⟨within, ?_⟩
    cases read : Claims.read (.object payload) with
    | error report =>
        refine ⟨.claims report, ?_⟩
        rw [standardClaims, read]
        rfl
    | ok found =>
        rcases (Claims.read_eq_ok_iff.1 read).exp with ⟨json, given, rfl, bounds⟩
        rw [order.integer, Option.some.injEq, Json.int.injEq] at given
        exact absurd (given ▸ bounds) within

/-- A token in order but for its expiry is judged by it, check after check. -/
theorem judges_accept (reading : Text → R) (requiredRoles : List R) (debug : Bool) {leeway : Int}
    (order : InOrderBut key expected text payload claims expiry)
    (start : Calendar.firstSecond * Instant.perSecond ≤
      now.micros - leeway * Instant.perSecond) :
    Judges leeway now expiry ((verifying ⟨.whole leeway, .exact⟩ (.verifying key) expected reading
      requiredRoles debug).accept now text).result := by
  rw [result_accept verifies_verifying]
  simp only [verifying, decode_of_inOrderBut order]
  by_cases past : expiry * Instant.perSecond ≤ now.micros - leeway * Instant.perSecond
  · rw [if_pos past]
    exact .expired past
  have later := Int.not_le.1 past
  rw [if_neg past, Outcome.ok_bind]
  have least : Calendar.firstSecond < expiry := by
    simp only [Instant.perSecond] at start later
    omega
  rcases standardClaims_of_inOrderBut order with ⟨_, small, read⟩ | ⟨outside, cause, read⟩
  · rw [read, Outcome.ok_bind]
    by_cases beyond : Calendar.lastSecond < expiry
    · have undated : ¬ (Calendar.Covers { claims with exp := expiry }.exp ∧
          Calendar.Covers { claims with exp := expiry }.iat) := by
        intro given
        rcases given with ⟨within, _⟩
        exact absurd within.2 (Int.not_le.2 beyond)
      rcases Token.result_ofClaims_of_not_covers reading undated with ⟨error, refused, reason, rfl⟩
      rw [refused]
      exact .undated reason beyond small
    · have within : Calendar.Covers { claims with exp := expiry }.exp :=
        ⟨Int.le_of_lt least, Int.not_lt.1 beyond⟩
      rw [Token.result_ofClaims_of_covers within order.begins, Outcome.ok_bind,
        Token.checkLifetime_issued]
      by_cases before : expiry * Instant.perSecond < now.micros
      · rw [if_neg (Int.not_le.2 before)]
        exact .ended later before
      · rw [if_pos (Int.not_lt.1 before)]
        exact .accepted _ later (Int.not_lt.1 before) (Int.not_lt.1 beyond)
  · rw [read]
    apply Judges.unread
    rw [Calendar.firstSecond] at least
    rw [Claims.leastTime, Claims.greatestTime] at outside
    rw [Claims.greatestTime]
    omega

/-- An accepted text has an expiry that no positive leeway could have made past. -/
theorem accepts_exact_iff {requiredRoles : List R} {debug : Bool} {leeway : Int} :
    (verifying ⟨.whole leeway, .exact⟩ (.verifying key) expected reading requiredRoles
        debug).Accepts ⟨.whole leeway, .exact⟩ now text payload claims ↔
      (Jws.Signed key text payload ∧ Jws.Addressed expected payload ∧
        Claims.WrittenIn claims payload ∧ Calendar.Covers claims.exp ∧
        Calendar.Covers claims.iat ∧ now.micros ≤ claims.exp * Instant.perSecond) ∧
      now.micros < (claims.exp + leeway) * Instant.perSecond := by
  constructor
  · intro holds
    rcases holds with ⟨decoded, written, expires, begins, current⟩
    rcases Jws.decode_ok_iff.1 decoded with ⟨signed, order⟩
    rcases order.current with ⟨other, ⟨value, given, read⟩, lasts⟩
    rcases written.exp with ⟨json, found, rfl, _⟩
    rw [found, Option.some.injEq] at given
    subst given
    cases read
    exact ⟨⟨signed, order.addressed, written, expires, begins, current⟩,
      (Jws.lasts_whole_iff (Jws.holds_exact leeway)).1 lasts⟩
  · intro holds
    rcases holds with ⟨⟨signed, addressed, written, expires, begins, current⟩, lasts⟩
    refine ⟨Jws.decode_ok_iff.2 ⟨signed, ?_⟩, written, expires, begins, current⟩
    rcases written.exp with ⟨json, found, rfl, _⟩
    exact ⟨⟨claims.exp, ⟨_, found, rfl⟩, (Jws.lasts_whole_iff (Jws.holds_exact leeway)).2 lasts⟩, addressed,
      textIfAny_of_field written.sub, textIfAny_of_field written.jti⟩

/-- A positive leeway does not show in what is accepted, and no leeway takes away the present. -/
theorem accept_exact_iff (reading : Text → R) (requiredRoles : List R) (debug : Bool)
    (key : Rsa.PublicKey) (expected : List Text) (now : Instant) (text : Text)
    (token : Token R) {leeway : Int} (positive : 0 < leeway) :
    (((verifying ⟨.whole leeway, .exact⟩ (.verifying key) expected reading requiredRoles
        debug).accept now text).result = .ok token ↔
      ∃ payload claims, (Jws.Signed key text payload ∧ Jws.Addressed expected payload ∧
        Claims.WrittenIn claims payload ∧ Calendar.Covers claims.exp ∧
        Calendar.Covers claims.iat ∧ now.micros ≤ claims.exp * Instant.perSecond) ∧
          token = .issued reading claims) ∧
    (((verifying ⟨.whole 0, .exact⟩ (.verifying key) expected reading requiredRoles
        debug).accept now text).result = .ok token ↔
      (∃ payload claims, (Jws.Signed key text payload ∧ Jws.Addressed expected payload ∧
        Claims.WrittenIn claims payload ∧ Calendar.Covers claims.exp ∧
        Calendar.Covers claims.iat ∧ now.micros ≤ claims.exp * Instant.perSecond) ∧
          token = .issued reading claims) ∧ now.micros < token.expiresAt.micros) := by
  rw [accept_ok_iff verifies_verifying, accept_ok_iff verifies_verifying]
  simp only [accepts_exact_iff]
  constructor
  · constructor
    · intro given
      rcases given with ⟨payload, claims, ⟨accepts, _⟩, same⟩
      exact ⟨payload, claims, accepts, same⟩
    · intro given
      rcases given with ⟨payload, claims, accepts, same⟩
      refine ⟨payload, claims, ⟨accepts, ?_⟩, same⟩
      have current := accepts.2.2.2.2.2
      simp only [Instant.perSecond] at current ⊢
      omega
  · constructor
    · intro given
      rcases given with ⟨payload, claims, ⟨accepts, later⟩, rfl⟩
      refine ⟨⟨payload, claims, accepts, rfl⟩, ?_⟩
      rw [Token.expiresAt_issued]
      simpa using later
    · intro given
      rcases given with ⟨⟨payload, claims, accepts, rfl⟩, later⟩
      rw [Token.expiresAt_issued] at later
      exact ⟨payload, claims, ⟨accepts, by simpa using later⟩, rfl⟩

/--
A token in order but for its expiry is refused as expired by verification, refused
at the end of its own lifetime, accepted, refused for its date or refused for its
claims, each of them exactly in its own range of expiries.  Whether a text is
accepted is the same by every positive leeway; by a leeway of zero the expiry also
has to be later than the present moment.  A payload that is not read, as one is not in
which a number has too many digits, has no expiry; verification refuses its token.
-/
theorem accept_partition (reading : Text → R) (requiredRoles : List R) (debug : Bool)
    (key : Rsa.PublicKey) (expected : List Text) (text : Text) (payload : Json.Fields)
    (claims : StandardClaims) (expiry leeway : Int) (now : Instant)
    (order : InOrderBut key expected text payload claims expiry) (nonnegative : 0 ≤ leeway)
    (start : Calendar.firstSecond * Instant.perSecond ≤
      now.micros - leeway * Instant.perSecond)
    (finish : now.micros < (Calendar.lastSecond + 1) * Instant.perSecond) :
    let accepted := fun leeway text =>
      ((verifying ⟨.whole leeway, .exact⟩ (.verifying key) expected reading requiredRoles
        debug).accept now text).result
    (accepted leeway text = refuse (.tokenDecode (.verification .expired)) ↔
      expiry * Instant.perSecond ≤ now.micros - leeway * Instant.perSecond) ∧
    (accepted leeway text = refuse .tokenExpired ↔
      now.micros - leeway * Instant.perSecond < expiry * Instant.perSecond ∧
        expiry * Instant.perSecond < now.micros) ∧
    ((∃ token, accepted leeway text = .ok token) ↔
      now.micros - leeway * Instant.perSecond < expiry * Instant.perSecond ∧
        now.micros ≤ expiry * Instant.perSecond ∧ expiry ≤ 253402300799) ∧
    ((∃ reason, accepted leeway text = refuse (.tokenInvalid reason)) ↔
      253402300799 < expiry ∧ expiry ≤ 2 ^ 63 - 1) ∧
    ((∃ cause, accepted leeway text = refuse (.claimsParse cause)) ↔ 2 ^ 63 ≤ expiry) ∧
    (∀ first second other token, 0 < first → 0 < second →
      (accepted first other = .ok token ↔ accepted second other = .ok token) ∧
      (accepted 0 other = .ok token ↔
        accepted first other = .ok token ∧ now.micros < token.expiresAt.micros)) ∧
    (∀ (leeway : Int) (other : Text) (parts : Jws.Parts), parts.Of other →
      Jws.Sealed key parts → Json.readOctets? parts.payload = none →
      accepted leeway other =
        refuse (.tokenDecode (.verification (.payloadText parts.payload)))) := by
  intro accepted
  rcases (judges_accept reading requiredRoles debug order start).ranges nonnegative finish
      with ⟨expired, ended, found, undated, unread⟩
  have great : 2 ^ 63 ≤ expiry ↔ Claims.greatestTime < expiry := by
    rw [Claims.greatestTime]
    omega
  refine ⟨expired, ended, found, undated, unread.trans great.symm, ?_, ?_⟩
  · intro first second other token firstPositive secondPositive
    rcases accept_exact_iff reading requiredRoles debug key expected now other token firstPositive
        with ⟨one, zero⟩
    rcases accept_exact_iff reading requiredRoles debug key expected now other token secondPositive
        with ⟨two, _⟩
    exact ⟨one.trans two.symm, zero.trans (and_congr_left' one.symm)⟩
  · intro leeway other parts written closed unreadable
    exact accept_of_unreadable verifies_verifying rfl written closed unreadable

end

/-! ## The last moment of the calendar -/

open Platform

theorem inOrderBut_lastToken :
    InOrderBut Jws.smallKey ["service"] Jws.lastToken Jws.lastClaims lastStandard 253402300799 where
  signed := Jws.signed_lastToken
  addressed := Jws.addressed_lastClaims
  written := writtenIn_lastClaims.toOthersWrittenIn
  begins := by decide
  integer := rfl

/-- The last token is accepted in its last moment by a leeway of one second. -/
theorem accept_partition_lastToken :
    InOrderBut Jws.smallKey ["service"] Jws.lastToken Jws.lastClaims lastStandard 253402300799 ∧
      ∃ token, ((verifying ⟨.whole 1, .exact⟩ (.verifying Jws.smallKey) ["service"] plainly []
        false).accept ⟨253402300799000000⟩ Jws.lastToken).result = .ok token :=
  ⟨inOrderBut_lastToken,
    (accept_partition plainly [] false Jws.smallKey ["service"] Jws.lastToken Jws.lastClaims
      lastStandard 253402300799 1 ⟨253402300799000000⟩ inOrderBut_lastToken (by decide) (by decide)
      (by decide)).2.2.1.2 (by decide)⟩

/--
By a leeway of zero the last token is refused in its last moment, although it lasts
through it, and although it is accepted then by a leeway of one second.
-/
theorem accept_lastToken_without_leeway :
    InOrderBut Jws.smallKey ["service"] Jws.lastToken Jws.lastClaims lastStandard 253402300799 ∧
      Calendar.firstSecond * Instant.perSecond ≤
        253402300799000000 - 0 * Instant.perSecond ∧
      253402300799000000 < (Calendar.lastSecond + 1) * Instant.perSecond ∧
      (253402300799000000 : Int) ≤ 253402300799 * Instant.perSecond ∧
      ((verifying ⟨.whole 0, .exact⟩ (.verifying Jws.smallKey) ["service"] plainly []
        false).accept ⟨253402300799000000⟩ Jws.lastToken).result =
          refuse (.tokenDecode (.verification .expired)) ∧
      ∃ token, ((verifying ⟨.whole 1, .exact⟩ (.verifying Jws.smallKey) ["service"] plainly []
        false).accept ⟨253402300799000000⟩ Jws.lastToken).result = .ok token := by
  have late : ∀ leeway : Int, leeway = 0 ∨ leeway = 1 →
      Calendar.firstSecond * Instant.perSecond ≤
        (⟨253402300799000000⟩ : Instant).micros - leeway * Instant.perSecond := by
    rintro leeway (rfl | rfl) <;> decide
  have without := (judges_accept plainly [] false inOrderBut_lastToken
    (late 0 (Or.inl rfl))).ranges (by decide) (by decide)
  have second := (judges_accept plainly [] false inOrderBut_lastToken
    (late 1 (Or.inr rfl))).ranges (by decide) (by decide)
  exact ⟨inOrderBut_lastToken, by decide, by decide, by decide, without.1.2 (by decide),
    second.2.2.1.2 (by decide)⟩

end Realm
end RealmAuth
