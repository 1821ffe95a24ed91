import RealmAuth.Proofs.Clock.Order
import RealmAuth.Proofs.Realm.Acceptance

namespace RealmAuth

/-!
What time does to the outcome of a token text.  The clock is read in two places only,
where verification compares the expiry by the leeway and where the token's own lifetime
is looked at, and in both of them a lifetime that is over stays over.  So there is one
change that an outcome can ever make as time goes by, into a refusal for the lifetime.
This is said of each step that reads the clock, and is handed on by every way in which
steps are joined.
-/

open Outcome

/-- As time goes by an outcome stays as it is until it becomes a refusal for a lifetime. -/
def Ages {ε α : Type} (late : ε → Prop) (outcome : Instant → Except (Halt ε) α) : Prop :=
  ∀ earlier later : Instant, earlier.micros ≤ later.micros →
    outcome later = outcome earlier ∨ ∃ fault, late fault ∧ outcome later = refuse fault

namespace Ages

variable {ε δ α β : Type} {late : ε → Prop} {outcome : Instant → Except (Halt ε) α}

theorem const (late : ε → Prop) (x : Except (Halt ε) α) : Ages late fun _ => x :=
  fun _ _ _ => Or.inl rfl

theorem bind {next : Instant → α → Except (Halt ε) β} (first : Ages late outcome)
    (second : ∀ value, Ages late fun now => next now value) :
    Ages late fun now => outcome now >>= next now := by
  intro earlier later le
  rcases first earlier later le with same | ⟨fault, ended, refused⟩
  · simp only [same]
    cases outcome earlier with
    | error halt => exact Or.inl rfl
    | ok value => exact second value earlier later le
  · refine Or.inr ⟨fault, ended, ?_⟩
    simp only [refused]
    rfl

theorem mapError {f : ε → δ} {wider : δ → Prop} (ages : Ages late outcome)
    (send : ∀ fault, late fault → wider (f fault)) :
    Ages wider fun now => (outcome now).mapError (Halt.map f) := by
  intro earlier later le
  rcases ages earlier later le with same | ⟨fault, ended, refused⟩
  · simp only [same, true_or]
  · refine Or.inr ⟨f fault, send fault ended, ?_⟩
    simp only [refused]
    rfl

/-- A check that refuses for a lifetime wherever a time is past. -/
theorem of_past {past : Instant → Bool} {fault : ε} (ended : late fault)
    (stays : ∀ earlier later : Instant, earlier.micros ≤ later.micros →
      past earlier = true → past later = true) :
    Ages late fun now =>
      (if past now = true then refuse fault else .ok () : Except (Halt ε) Unit) := by
  intro earlier later le
  by_cases before : past earlier = true
  · simp only [before, stays earlier later le before, true_or]
  · by_cases after : past later = true
    · exact Or.inr ⟨fault, ended, if_pos after⟩
    · simp only [before, after, true_or]

/-- What has a value later had it before. -/
theorem ok_of_later (ages : Ages late outcome) {earlier later : Instant} {value : α}
    (le : earlier.micros ≤ later.micros) (found : outcome later = .ok value) :
    outcome earlier = .ok value := by
  rcases ages earlier later le with same | ⟨fault, _, refused⟩
  · rw [← same, found]
  · rw [refused] at found
    exact absurd found refuse_ne_ok

/-- What is refused, and not for its lifetime, is refused at every time. -/
theorem refused_always (ages : Ages late outcome) {now : Instant} {fault : ε}
    (refused : outcome now = refuse fault) (other : ¬ late fault) (time : Instant) :
    outcome time = refuse fault ∨ ∃ ended, late ended ∧ outcome time = refuse ended := by
  rcases Int.le_total time.micros now.micros with before | after
  · rcases ages time now before with same | ⟨ended, late, stopped⟩
    · left
      rw [← same, refused]
    · rw [refused] at stopped
      cases stopped
      exact absurd late other
  · rcases ages now time after with same | ended
    · left
      rw [same, refused]
    · exact Or.inr ended

end Ages

namespace Jws

/-- A policy by which an expiry is past finds it past ever after. -/
theorem isPast_mono (policy : Policy) (expiry : Int) {earlier later : Instant}
    (le : earlier.micros ≤ later.micros) (past : isPast policy earlier expiry = true) :
    isPast policy later expiry = true := by
  rcases policy with ⟨leeway, precision⟩
  cases precision with
  | binary =>
      have below := Instant.toDouble_below le
      cases leeway with
      | whole seconds => exact (below.sub _).intLe past
      | fraction seconds => exact (below.sub _).intLe past
      | foreign => exact past
  | exact =>
      cases leeway with
      | whole seconds =>
          simp only [isPast, decide_eq_true_eq] at past ⊢
          omega
      | fraction seconds =>
          simp only [isPast] at past ⊢
          cases ratio : seconds.toRatio? with
          | none => simp [ratio] at past
          | some quotient =>
              rcases quotient with ⟨num, den⟩
              simp only [ratio, decide_eq_true_eq] at past ⊢
              have scaled : (expiry * Instant.perSecond - later.micros) * den ≤
                  (expiry * Instant.perSecond - earlier.micros) * den :=
                Int.mul_le_mul_of_nonneg_right (by omega) (Int.natCast_nonneg den)
              omega
      | foreign => exact past

variable [Platform]

/-- An expiry that cannot be read is refused at every time. -/
theorem checkExpiry_of_not_expires (policy : Policy) {claims : Json.Fields}
    (unread : ¬ ∃ expiry, Expires claims expiry) :
    ∃ fault, ∀ now, checkExpiry policy now claims = refuse fault := by
  unfold checkExpiry
  split
  · exact ⟨_, fun _ => rfl⟩
  · exact ⟨_, fun _ => rfl⟩
  · rename_i value _ given
    split
    · exact ⟨_, fun _ => rfl⟩
    · rename_i expiry read
      exact absurd ⟨expiry, value, given, read⟩ unread

theorem ages_checkExpiry (policy : Policy) (claims : Json.Fields) :
    Ages (· = VerificationFault.expired) fun now => checkExpiry policy now claims := by
  by_cases expiring : ∃ expiry, Expires claims expiry
  · rcases expiring with ⟨expiry, expires⟩
    simp only [checkExpiry_of_expires expires]
    apply (Ages.const _ _).bind
    intro _
    exact Ages.of_past rfl fun _ _ le => isPast_mono policy expiry le
  · rcases checkExpiry_of_not_expires policy expiring with ⟨fault, refused⟩
    simp only [refused]
    exact Ages.const _ _

theorem ages_claimsOf (policy : Policy) (expected : List Json) (payload : Octets) :
    Ages (· = VerificationFault.expired) fun now => claimsOf policy now expected payload := by
  apply (Ages.const _ _).bind
  intro claims
  have checked : Ages (· = VerificationFault.expired) fun now =>
      checkClaims policy now expected claims :=
    (ages_checkExpiry policy claims).bind fun _ => Ages.const _ _
  exact checked.bind fun _ => Ages.const _ _

theorem ages_verifyParts (policy : Policy) (key : DecodingKey) (audiences : Json) (parts : Parts) :
    Ages (· = VerificationFault.expired) fun now => verifyParts policy now key audiences parts := by
  unfold verifyParts
  cases audiences.items? with
  | none => exact Ages.const _ _
  | some expected =>
      apply (Ages.const _ _).bind
      intro _
      apply (Ages.const _ _).bind
      intro _
      exact ages_claimsOf policy expected parts.payload

end Jws

/-- A refusal for a lifetime that is over, by the leeway or by the token's own clock. -/
def AuthError.OfLifetime (error : AuthError) : Prop :=
  error = .tokenDecode (.verification .expired) ∨ error = .tokenExpired

theorem Jws.ages_decode [Platform] (policy : Policy) (text : Text) (key : DecodingKey) (audiences : Json) :
    Ages AuthError.OfLifetime fun now => decode policy now text key audiences := by
  apply (Ages.const _ _).bind
  intro parts
  apply (ages_verifyParts policy key audiences parts).mapError
  rintro _ rfl
  exact Or.inl rfl

theorem Token.ages_checkLifetime {R : Type} (token : Token R) :
    Ages AuthError.OfLifetime fun now => token.checkLifetime now := by
  have late : AuthError.OfLifetime .tokenExpired := Or.inr rfl
  apply Ages.of_past late
  intro earlier later le ended
  simp only [isExpired, decide_eq_true_eq] at ended ⊢
  omega

namespace Realm

variable [Platform] {R : Type} {realm : Realm R} {policy : Policy} {reading : Text → R}

theorem ages_accept (verifies : realm.Verifies policy reading) (text : Text) :
    Ages AuthError.OfLifetime fun now => (realm.accept now text).result := by
  simp only [result_accept verifies]
  apply (Jws.ages_decode policy text _ _).bind
  intro payload
  apply (Ages.const _ _).bind
  intro claims
  apply (Ages.const _ _).bind
  intro token
  apply token.ages_checkLifetime.bind
  intro _
  exact Ages.const _ _

/-- The roles of a token do not age, so its text ages as the accepted one does. -/
theorem ages_authenticate [RoleValue R] (verifies : realm.Verifies policy reading)
    (text : Text) :
    Ages AuthError.OfLifetime fun now => (realm.authenticate now text).result := by
  unfold authenticate
  simp only [Traced.result_bind]
  apply (ages_accept verifies text).bind
  intro token
  exact Ages.const _ _

end Realm
end RealmAuth
