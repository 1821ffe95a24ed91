import RealmAuth.Proofs.Claims.Agreement
import RealmAuth.Proofs.Realm.Admission
import RealmAuth.Proofs.Realm.Aging

namespace RealmAuth

/-!
What the outcome of a signed token depends on.  Once the signature is found good, the
payload is looked at through the sixteen standard claims and through nothing else, so
claims of other names, a time before which a token is not to be used among them, and
the order of the claims have no part in it, except that a report on the claims shows what
they were.  The time of issue only has to be a date;
which one it is shows in the token and nowhere else.  The clock has a part in it by the
lifetime alone, which can end but not begin.
-/

open Outcome

namespace Jws

/-- Verification looks at four of the standard claims, and not at the time of issue. -/
theorem checkClaims_congr [Platform] {first second : Json.Fields} (policy : Policy) (now : Instant)
    (expected : List Json) (agree : Claims.AgreeOn Claims.namesButIssue first second) :
    checkClaims policy now expected first = checkClaims policy now expected second := by
  unfold checkClaims checkExpiry checkAudience checkText
  rw [agree "exp" (by decide), agree "aud" (by decide), agree "sub" (by decide),
    agree "jti" (by decide)]

end Jws

namespace Token

variable {R : Type}

/-- A token with another time of issue. -/
def reissued (token : Token R) (iat : Int) : Token R :=
  { token with issuedAt := .ofUnix iat 0 }

/-- Claims with another date of issue make the token with this date of issue. -/
theorem ofClaims_reissued (parser : RoleParser R) {claims : StandardClaims} {iat : Int}
    (before : Calendar.Covers claims.iat) (after : Calendar.Covers iat) :
    ofClaims parser (claims.reissued iat) =
      (fun token => token.reissued iat) <$> ofClaims parser claims := by
  unfold ofClaims
  simp only [StandardClaims.reissued, instantOf_of_covers _ _ before, instantOf_of_covers _ _ after,
    map_bind, map_pure]
  rfl

theorem checkLifetime_reissued (token : Token R) (iat : Int) (now : Instant) :
    (token.reissued iat).checkLifetime now = token.checkLifetime now := rfl

/-- The roles of a token do not depend on its time of issue. -/
theorem expectRoles_reissued [RoleValue R] (token : Token R) (iat : Int) (roles : List R) :
    (token.reissued iat).expectRoles roles = token.expectRoles roles := by
  have alike : token.Alike (token.reissued iat) := ⟨rfl, fun _ => rfl⟩
  exact alike.expectRoles roles

end Token

namespace Realm

variable {R : Type} [RoleValue R] {realm : Realm R} {policy : Policy} {key : Rsa.PublicKey}
  {now : Instant} {first second text : Text} {payload one other : Json.Fields}

/-- What a realm does with claims that were read. -/
def assess (realm : Realm R) (now : Instant) (claims : StandardClaims) : Traced (Token R) := do
  let token ← Token.ofClaims realm.roleParser claims
  Traced.lift (token.checkLifetime now)
  token.expectRoles realm.requiredRoles
  return token

/--
What comes of one value and of another one is the same, or both of them are refused for
their claims, with the same entries in a report on each.
-/
inductive Concurs (other : Json) (first second : Traced (Token R)) : Prop where
  | same (same : second = first)
  | reports (report : Report) (refused : first = .refuse (.claimsParse (.claims report)))
      (also : second = .refuse (.claimsParse (.claims (report.about other))))

omit [RoleValue R] in
theorem Concurs.result_of_ok {value : Json} {token : Token R} {before after : Traced (Token R)}
    (concurs : Concurs value before after) (found : before.result = .ok token) :
    after.result = .ok token := by
  cases concurs with
  | same same => rw [same, found]
  | reports report refused _ =>
      rw [refused] at found
      cases found

/-- Behind a check, values that are read alike come to the same. -/
theorem concurs_of_read (check : Except Failure Unit) {value other : Json}
    {f : StandardClaims → StandardClaims} {g : Token R → Token R}
    (read : Claims.read other = ((Claims.read value).map f).mapError (Report.about other))
    (assessed : ∀ claims, Claims.read value = .ok claims →
      realm.assess now (f claims) = g <$> realm.assess now claims) :
    Concurs other
      (g <$> (Traced.lift check >>= fun _ =>
        Traced.lift (standardClaims value) >>= realm.assess now))
      (Traced.lift check >>= fun _ =>
        Traced.lift (standardClaims other) >>= realm.assess now) := by
  cases check with
  | error failure => exact .same rfl
  | ok passed =>
      unfold standardClaims
      rw [read]
      cases found : Claims.read value with
      | error report => exact .reports report rfl rfl
      | ok claims =>
          refine .same ?_
          exact assessed claims found

theorem assess_reissued {claims : StandardClaims} {iat : Int}
    (before : Calendar.Covers claims.iat) (after : Calendar.Covers iat) :
    realm.assess now (claims.reissued iat) =
      (fun token => token.reissued iat) <$> realm.assess now claims := by
  unfold assess
  rw [Token.ofClaims_reissued realm.roleParser before after]
  simp only [bind_map_left, map_bind, map_pure, Token.checkLifetime_reissued,
    Token.expectRoles_reissued]

/-- A date of issue within the calendar is a time of 64 bits. -/
theorem reads_of_covers {iat : Int} (dated : Calendar.Covers iat)
    (given : payload.get? "iat" = some (.int iat)) :
    Claims.required payload "iat" Claims.time = .good iat := by
  rcases dated with ⟨least, greatest⟩
  unfold Calendar.firstSecond at least
  unfold Calendar.lastSecond at greatest
  apply Claims.required_iat given
  · unfold Claims.leastTime
    omega
  · unfold Claims.greatestTime
    omega

section

variable [Platform]

/-- All that is decided about a signed text is decided by its payload. -/
theorem authenticate_of_signed (decoder : realm.decoder = Jws.decoder policy)
    (verifying : realm.key = .verifying key) (signed : Jws.Signed key text payload) :
    realm.authenticate now text =
      Traced.lift ((Jws.checkClaims policy now realm.audiences payload).mapError
        (Halt.map Jws.rejected)) >>= fun _ =>
          Traced.lift (standardClaims (.object payload)) >>= realm.assess now := by
  have decoded : realm.decoder now text (.rsa realm.key) (.array realm.audiences) =
      ((Jws.checkClaims policy now realm.audiences payload).mapError
        (Halt.map Jws.rejected)).map fun _ => .object payload := by
    rw [decoder, verifying, Jws.decoder, Jws.decode_of_signed signed]
    cases Jws.checkClaims policy now realm.audiences payload <;> rfl
  unfold authenticate accept assess
  rw [decoded]
  cases (Jws.checkClaims policy now realm.audiences payload).mapError (Halt.map Jws.rejected) with
  | error halt => rfl
  | ok checked =>
      simp only [bind_assoc, Except.map]
      rfl

/-- Signed texts whose payloads agree on the standard claims come to the same. -/
theorem concurs_of_agree (decoder : realm.decoder = Jws.decoder policy)
    (verifying : realm.key = .verifying key) (signed : Jws.Signed key first one)
    (also : Jws.Signed key second other) (agree : Claims.AgreeOn Claims.names one other) :
    Concurs (.object other) (realm.authenticate now first) (realm.authenticate now second) := by
  have checked : Claims.check (.object other) = id <$> Claims.check (.object one) := by
    simp only [Claims.check, Claims.ofFields_congr agree]
    cases Claims.ofFields other <;> rfl
  rw [authenticate_of_signed decoder verifying signed,
    authenticate_of_signed decoder verifying also,
    ← Jws.checkClaims_congr policy now realm.audiences agree.butIssue]
  rw [← id_map (Traced.lift _ >>= fun _ => Traced.lift (standardClaims (.object one)) >>= _)]
  exact concurs_of_read _ (Claims.read_of_check checked) fun claims _ => (id_map _).symm

/-- Another date of issue shows in the token and nowhere else. -/
theorem concurs_of_reissued (decoder : realm.decoder = Jws.decoder policy)
    (verifying : realm.key = .verifying key) (signed : Jws.Signed key first one)
    (also : Jws.Signed key second other) (agree : Claims.AgreeOn Claims.namesButIssue one other)
    {before after : Int} (dated : Calendar.Covers before) (redated : Calendar.Covers after)
    (given : one.get? "iat" = some (.int before)) (changed : other.get? "iat" = some (.int after)) :
    Concurs (.object other)
      ((fun token => token.reissued after) <$> realm.authenticate now first)
      (realm.authenticate now second) := by
  have checked : Claims.check (.object other) =
      (fun claims => claims.reissued after) <$> Claims.check (.object one) :=
    Claims.ofFields_reissued agree (reads_of_covers dated given) (reads_of_covers redated changed)
  rw [authenticate_of_signed decoder verifying signed,
    authenticate_of_signed decoder verifying also,
    ← Jws.checkClaims_congr policy now realm.audiences agree]
  refine concurs_of_read _ (Claims.read_of_check checked) ?_
  intro claims read
  rcases (Claims.read_eq_ok_iff.1 read).iat with ⟨json, found, rfl, _⟩
  rw [given, Option.some.injEq, Json.int.injEq] at found
  subst found
  exact assess_reissued dated redated

/--
What the outcome of a token text depends on, under a key that verifies and with a parser
that reads every role name.  Two signed texts whose payloads agree on the standard claims
have one outcome at every time, and read the same role names; a report on the claims has
the same entries for both.  If they agree but for the dates of issue, the outcome is the
same but for the date in the token.  A text that is accepted was accepted before, with the
same token; and a text that is refused for anything but its lifetime is refused at every
time, for the same fault or its lifetime.  A payload that is not read, as one is not in
which a number has too many digits, has no claims to agree on; its text is always refused.
-/
theorem outcome_dependence (policy : Policy) (key : Rsa.PublicKey) (audiences : List Json)
    (reading : Text → R) (requiredRoles : List R) (debug : Bool) :
    let realm : Realm R := ⟨Jws.decoder policy, .verifying key, audiences, .total reading,
      requiredRoles, debug⟩
    (∀ now first second one other, Jws.Signed key first one → Jws.Signed key second other →
      Claims.AgreeOn Claims.names one other →
        Concurs (.object other) (realm.authenticate now first) (realm.authenticate now second)) ∧
    (∀ now first second one other before after,
      Jws.Signed key first one → Jws.Signed key second other →
      Claims.AgreeOn Claims.namesButIssue one other →
      one.get? "iat" = some (.int before) → other.get? "iat" = some (.int after) →
      Calendar.Covers before → Calendar.Covers after →
        Concurs (.object other)
          ((fun token => { token with issuedAt := .ofUnix after 0 }) <$>
            realm.authenticate now first)
          (realm.authenticate now second)) ∧
    (∀ now text token, (realm.authenticate now text).result = .ok token →
      ∀ earlier : Instant, earlier.micros ≤ now.micros →
        (realm.authenticate earlier text).result = .ok token) ∧
    (∀ now text error, (realm.authenticate now text).result = refuse error →
      ¬ error.OfLifetime → ∀ time,
        (realm.authenticate time text).result = refuse error ∨
          ∃ late, AuthError.OfLifetime late ∧
            (realm.authenticate time text).result = refuse late) ∧
    ∀ now text (parts : Jws.Parts), parts.Of text → Jws.Sealed key parts →
      Json.readOctets? parts.payload = none →
        (realm.authenticate now text).result =
          refuse (.tokenDecode (.verification (.payloadText parts.payload))) := by
  intro realm
  have verifies : realm.Verifies policy reading := ⟨rfl, rfl⟩
  refine ⟨?_, ?_, ?_, ?_, ?_⟩
  · intro now first second one other signed also agree
    exact concurs_of_agree rfl rfl signed also agree
  · intro now first second one other before after signed also agree given changed dated redated
    exact concurs_of_reissued rfl rfl signed also agree dated redated given changed
  · intro now text token accepted earlier le
    exact (ages_authenticate verifies text).ok_of_later le accepted
  · intro now text error refused other time
    exact (ages_authenticate verifies text).refused_always refused other time
  · intro now text parts written closed unreadable
    rw [authenticate, Traced.result_bind,
      accept_of_unreadable verifies rfl written closed unreadable]
    rfl

end

/-! ## Variants of one token -/

open Platform

/-- The text of the last claims behind their times. -/
def lastRest : List Char :=
  [
    "\x22jti\x22:\x22token\x22,\x22iss\x22:\x22realm\x22,\x22aud\x22:\x22service\x22,",
    "\x22sub\x22:\x22user\x22,\x22typ\x22:\x22Bearer\x22,\x22azp\x22:\x22app\x22,",
    "\x22given_name\x22:\x22given\x22,\x22family_name\x22:\x22family\x22,",
    "\x22name\x22:\x22full\x22,\x22preferred_username\x22:\x22login\x22,",
    "\x22email\x22:\x22mail\x22,\x22email_verified\x22:true\x7d"
  ].flatMap String.toList

/-- The last claims in another order, and not to be used before the end of the calendar. -/
def laterPayload : Octets :=
  Text.toUtf8 ("\x7b\x22nbf\x22:253402300799,\x22iat\x22:1700000000,".toList ++
    ("\x22exp\x22:253402300799,".toList ++ lastRest))

def laterClaims : Json.Fields :=
  ("nbf", .int 253402300799) :: ("iat", .int 1700000000) :: ("exp", .int 253402300799) ::
    Jws.lastClaims.drop 2

def laterToken : String :=
  Jws.textOf Jws.lastHeader laterPayload (Octets.ofNat 64
    (0xBD7CC7A69AAB1E5624CF30F2F5B2C210ABF827C222ED793344AF23B3E2B5799E * 2 ^ 256 +
      0xA497E200AB541EC89E63E427A114E36F77C20B286694CD77766C9987858D504F))

/-- The last claims, issued in 1970. -/
def firstPayload : Octets :=
  Text.toUtf8 ("\x7b\x22exp\x22:253402300799,\x22iat\x22:0,".toList ++ lastRest)

def firstClaims : Json.Fields :=
  ("exp", .int 253402300799) :: ("iat", .int 0) :: Jws.lastClaims.drop 2

def firstToken : String :=
  Jws.textOf Jws.lastHeader firstPayload (Octets.ofNat 64
    (0x6A33B107EA599B2DD5EFF963BDF20B5AAC74F52D3979AA75487DED744B5672ED * 2 ^ 256 +
      0xFF563030C5D317131B80C9EE0A06FE8D609AB235C846A7BD3DDE4E06B178995F))

theorem signed_laterToken : Jws.Signed Jws.smallKey laterToken laterClaims :=
  Jws.signed_small (by decide +kernel) (by decide +kernel)

theorem signed_firstToken : Jws.Signed Jws.smallKey firstToken firstClaims :=
  Jws.signed_small (by decide +kernel) (by decide +kernel)

theorem agree_laterClaims : Claims.AgreeOn Claims.names Jws.lastClaims laterClaims := by
  unfold Claims.AgreeOn
  decide +kernel

theorem agree_firstClaims : Claims.AgreeOn Claims.namesButIssue Jws.lastClaims firstClaims := by
  unfold Claims.AgreeOn
  decide +kernel

theorem authenticate_lastToken :
    ((smallRealm .standard).authenticate ⟨1700000000000000⟩ Jws.lastToken).result =
      .ok (.issued plainly lastStandard) := by
  have lasts : Jws.Lasts .standard ⟨1700000000000000⟩ 253402300799 :=
    (Jws.lasts_whole_iff fun _ => by decide +kernel).2
      ((Jws.outlasts_iff (by decide) (by decide) (by decide)).2 (by decide))
  have decoded : Jws.decode .standard ⟨1700000000000000⟩ Jws.lastToken
      (.rsa (.verifying Jws.smallKey)) (.array ([.plain "service"].map .string)) =
        .ok Jws.lastClaims :=
    Jws.decode_ok_iff.2 ⟨Jws.signed_lastToken, Jws.inOrder_lastClaims lasts⟩
  have verifies : (smallRealm .standard).Verifies .standard plainly := ⟨rfl, rfl⟩
  apply (authenticate_ok_iff verifies).2
  refine ⟨Jws.lastClaims, lastStandard, ⟨decoded, writtenIn_lastClaims, by decide, by decide,
    by decide⟩, ?_, rfl⟩
  intro role member
  cases member

/--
The token that is not to be used yet is accepted as the last one is, also long before,
and the one that was issued in 1970 differs from them in its date; a text that is no
token at all stays refused.
-/
theorem outcome_dependence_of_variants :
    (Jws.Signed Jws.smallKey Jws.lastToken Jws.lastClaims ∧
      Jws.Signed Jws.smallKey laterToken laterClaims ∧
      Jws.Signed Jws.smallKey firstToken firstClaims) ∧
    ((smallRealm .standard).authenticate ⟨1700000000000000⟩ laterToken).result =
      .ok (.issued plainly lastStandard) ∧
    ((smallRealm .standard).authenticate ⟨0⟩ laterToken).result =
      .ok (.issued plainly lastStandard) ∧
    ((smallRealm .standard).authenticate ⟨1700000000000000⟩ firstToken).result =
      .ok ((Token.issued plainly lastStandard).reissued 0) ∧
    ∀ time, ((smallRealm .standard).authenticate time "x").result =
        refuse (.headerDecode (.header .notEnoughSegments)) ∨
      ∃ late, AuthError.OfLifetime late ∧
        ((smallRealm .standard).authenticate time "x").result = refuse late := by
  rcases outcome_dependence .standard Jws.smallKey [.string "service"] plainly [] false
      with ⟨alike, redated, before, always, _⟩
  have later : ((smallRealm .standard).authenticate ⟨1700000000000000⟩ laterToken).result =
      .ok (.issued plainly lastStandard) := by
    exact (alike _ _ _ _ _ Jws.signed_lastToken signed_laterToken agree_laterClaims).result_of_ok
      authenticate_lastToken
  refine ⟨⟨Jws.signed_lastToken, signed_laterToken, signed_firstToken⟩, later,
    before _ _ _ later _ (by decide), ?_, ?_⟩
  · refine (redated ⟨1700000000000000⟩ _ _ _ _ 1700000000 0 Jws.signed_lastToken
      signed_firstToken agree_firstClaims rfl rfl (by decide) (by decide)).result_of_ok ?_
    rw [Traced.result_map]
    exact congrArg (Except.map _) authenticate_lastToken
  · apply always ⟨0⟩ "x"
    · rfl
    · rintro (impossible | impossible) <;> cases impossible

end Realm
end RealmAuth
