import RealmAuth.Proofs.Clock.Stamp
import RealmAuth.Proofs.Token.Conferred

namespace RealmAuth

/-!
The times of a token.  Claims give them as seconds, and a token has them as instants of
the calendar.  The seconds that the calendar covers are those of its years 1 to 9999, and
each of them has one date and time of day.  A second beyond them is refused before any
role name is read, and the refusal names the claim; of two such seconds it is the expiry.
-/

/-- A stamp is a whole second of the years 1 to 9999, so many seconds from the start of 1970. -/
structure Stamp.Denotes (stamp : Stamp) (seconds : Int) : Prop where
  valid : stamp.Valid
  years : 1 ≤ stamp.date.year ∧ stamp.date.year ≤ 9999
  whole : stamp.micros = 0
  counted : stamp.seconds = seconds

namespace Calendar

/-- The seconds that are covered are those of the years 1 to 9999. -/
theorem covers_seconds_iff {stamp : Stamp} (valid : stamp.Valid) :
    Covers stamp.seconds ↔ 1 ≤ stamp.date.year ∧ stamp.date.year ≤ 9999 := by
  have before := valid.date.year_lt_iff 1
  have within := valid.date.year_lt_iff 10000
  have start : daysBeforeYear 1 - daysBeforeYear 1970 = -719162 := by decide
  have stop : daysBeforeYear 10000 - daysBeforeYear 1970 = 2932897 := by decide
  have hour := valid.hour
  have minute := valid.minute
  have second := valid.second
  rw [start] at before
  rw [stop] at within
  unfold Covers Stamp.seconds firstSecond lastSecond secondsPerDay
  omega

/-- A covered second has a stamp, and no other stamp denotes it; no other second has one. -/
theorem denotes_iff {stamp : Stamp} {seconds : Int} :
    stamp.Denotes seconds ↔ Covers seconds ∧ stamp = Calendar.stamp (.ofUnix seconds 0) := by
  constructor
  · rintro ⟨valid, years, whole, rfl⟩
    refine ⟨(covers_seconds_iff valid).2 years, ?_⟩
    rw [← whole]
    exact (stamp_toInstant valid).symm
  · rintro ⟨covered, rfl⟩
    have valid := valid_stamp (.ofUnix seconds 0)
    have counted : (Calendar.stamp (.ofUnix seconds 0)).seconds = seconds := by
      rw [seconds_stamp, Instant.seconds_ofUnix _ _ (by decide)]
    refine ⟨valid, (covers_seconds_iff valid).1 ?_, ?_, counted⟩
    · rwa [counted]
    · exact Instant.microsOfSecond_ofUnix _ _ (by decide)

end Calendar

/-- Of two seconds the later one is denoted by the later stamp. -/
theorem Stamp.Denotes.before_iff {first second : Stamp} {earlier later : Int}
    (denotes : first.Denotes earlier) (denotes' : second.Denotes later) :
    first.Before second ↔ earlier < later := by
  rw [denotes.valid.before_iff denotes'.valid, ← denotes.counted, ← denotes'.counted]
  unfold toInstant Instant.ofUnix Instant.perSecond
  rw [denotes.whole, denotes'.whole]
  dsimp only
  omega

namespace Token

variable {R : Type} {parser : RoleParser R} {claims : StandardClaims}

/-- The refusal of a time that is no date, which names the claim that gives it. -/
def undated (claim label cause : String) : AuthError :=
  .tokenInvalid
    ("Could not parse '" ++ claim ++ "' (" ++ label ++ ") field as unix timestamp: " ++ cause)

theorem instantOf_eq_undated {seconds : Int} (claim label : String)
    (beyond : ¬ Calendar.Covers seconds) :
    ∃ cause, instantOf seconds claim label = refuse (undated claim label cause) := by
  rcases Calendar.instant_of_not_covers beyond with ⟨cause, refused⟩
  exact ⟨cause, by rw [instantOf, refused]; rfl⟩

/-- An expiry beyond the calendar is refused at once, whatever the other claims are. -/
theorem ofClaims_of_undated_exp (parser : RoleParser R) (beyond : ¬ Calendar.Covers claims.exp) :
    ∃ cause, ofClaims parser claims = .refuse (undated "exp" "expires_at" cause) := by
  rcases instantOf_eq_undated "exp" "expires_at" beyond with ⟨cause, refused⟩
  refine ⟨cause, ?_⟩
  unfold ofClaims
  rw [refused]
  rfl

theorem ofClaims_of_undated_iat (parser : RoleParser R) (exp : Calendar.Covers claims.exp)
    (beyond : ¬ Calendar.Covers claims.iat) :
    ∃ cause, ofClaims parser claims = .refuse (undated "iat" "issued_at" cause) := by
  rcases instantOf_eq_undated "iat" "issued_at" beyond with ⟨cause, refused⟩
  refine ⟨cause, ?_⟩
  unfold ofClaims
  rw [instantOf_of_covers _ _ exp, refused]
  rfl

/--
The times of a token with a parser that reads every name.  Claims are refused as of no use
exactly when one of the times lies beyond the years 1 to 9999, the expiry first; the
refusal names the claim, and no role name has been read then.  Otherwise there is a token,
and its two instants have the stamps that denote the seconds of the claims: one valid
stamp each, which counts back to the same second, and the later one for a later second.
-/
theorem ofClaims_by_dates (reading : Text → R) (claims : StandardClaims) :
    ((∃ reason, (ofClaims (.total reading) claims).result = refuse (.tokenInvalid reason)) ↔
      ¬ (Calendar.Covers claims.exp ∧ Calendar.Covers claims.iat)) ∧
    (¬ Calendar.Covers claims.exp → ∃ cause, ofClaims (.total reading) claims =
      .refuse (undated "exp" "expires_at" cause)) ∧
    (Calendar.Covers claims.exp → ¬ Calendar.Covers claims.iat →
      ∃ cause, ofClaims (.total reading) claims =
        .refuse (undated "iat" "issued_at" cause)) ∧
    (Calendar.Covers claims.exp → Calendar.Covers claims.iat → ∃ token,
      (ofClaims (.total reading) claims).result = .ok token ∧
      (∀ stamp : Stamp, stamp.Denotes claims.exp ↔ stamp = Calendar.stamp token.expiresAt) ∧
      (∀ stamp : Stamp, stamp.Denotes claims.iat ↔ stamp = Calendar.stamp token.issuedAt)) ∧
    (∀ (first second : Stamp) (earlier later : Int), first.Denotes earlier →
      second.Denotes later → (first.Before second ↔ earlier < later)) := by
  refine ⟨?_, ?_, ?_, ?_, ?_⟩
  · by_cases within : Calendar.Covers claims.exp ∧ Calendar.Covers claims.iat
    · rw [result_ofClaims_of_covers within.1 within.2]
      simp [within, refuse]
    · rcases result_ofClaims_of_not_covers reading within with ⟨_, refused, reason, rfl⟩
      exact iff_of_true ⟨reason, refused⟩ within
  · exact ofClaims_of_undated_exp (.total reading)
  · exact ofClaims_of_undated_iat (.total reading)
  · intro exp iat
    refine ⟨issued reading claims, result_ofClaims_of_covers exp iat, ?_, ?_⟩
    · intro stamp
      rw [Calendar.denotes_iff, and_iff_right exp]
      rfl
    · intro stamp
      rw [Calendar.denotes_iff, and_iff_right iat]
      rfl
  · intro first second earlier later denotes denotes'
    exact denotes.before_iff denotes'

/-- The claims of an editor, from the last leap day of a cycle to the end of the calendar. -/
def longClaims : StandardClaims :=
  { editorClaims with exp := 253402300799, iat := -11670912001 }

/-- The token of these claims has the last second of a leap day and the last one of all. -/
theorem ofClaims_by_dates_longClaims :
    Calendar.Covers longClaims.exp ∧ Calendar.Covers longClaims.iat ∧
      (∃ token, (ofClaims (.total id) longClaims).result = .ok token ∧
        Calendar.stamp token.expiresAt = ⟨⟨9999, 12, 31⟩, 23, 59, 59, 0⟩ ∧
        Calendar.stamp token.issuedAt = ⟨⟨1600, 2, 29⟩, 23, 59, 59, 0⟩) ∧
      Stamp.Before ⟨⟨1600, 2, 29⟩, 23, 59, 59, 0⟩ ⟨⟨9999, 12, 31⟩, 23, 59, 59, 0⟩ ∧
      ¬ Calendar.Covers (longClaims.exp + 1) ∧
      (∃ cause, ofClaims (.total id) { longClaims with exp := longClaims.exp + 1 } =
        .refuse (undated "exp" "expires_at" cause)) ∧
      (∃ cause, ofClaims (.total id) { longClaims with iat := longClaims.exp + 1 } =
        .refuse (undated "iat" "issued_at" cause)) := by
  have exp : Calendar.Covers longClaims.exp := by decide
  have iat : Calendar.Covers longClaims.iat := by decide
  have beyond : ¬ Calendar.Covers (longClaims.exp + 1) := by decide
  rcases (ofClaims_by_dates id longClaims).2.2.2 with ⟨dated, ordered⟩
  rcases dated exp iat with ⟨token, made, expires, issued⟩
  have last : Stamp.Denotes ⟨⟨9999, 12, 31⟩, 23, 59, 59, 0⟩ longClaims.exp :=
    ⟨⟨⟨by decide, by decide⟩, by decide, by decide, by decide, by decide⟩, by decide, rfl,
      by decide⟩
  have leap : Stamp.Denotes ⟨⟨1600, 2, 29⟩, 23, 59, 59, 0⟩ longClaims.iat :=
    ⟨⟨⟨by decide, by decide⟩, by decide, by decide, by decide, by decide⟩, by decide, rfl,
      by decide⟩
  refine ⟨exp, iat, ⟨token, made, ((expires _).1 last).symm, ((issued _).1 leap).symm⟩,
    (ordered _ _ _ _ leap last).2 (by decide), beyond, ?_, ?_⟩
  · exact (ofClaims_by_dates id { longClaims with exp := longClaims.exp + 1 }).2.1 beyond
  · exact (ofClaims_by_dates id { longClaims with iat := longClaims.exp + 1 }).2.2.1 exp beyond

end Token
end RealmAuth
