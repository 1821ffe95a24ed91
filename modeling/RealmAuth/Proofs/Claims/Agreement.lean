import RealmAuth.Proofs.Claims.Grammar

namespace RealmAuth

/-!
What the reading of claims depends on.  Sixteen fields are looked up by their names,
so fields that agree on these names are read alike, faults included, whatever else
they hold and in whatever order.  A report on them has the same entries, although it is one on
another value.  The time of issue is handed on as it is: if it is exchanged for another
one, then what is read differs in it alone.
-/

/-- The same report, on another value. -/
def Report.about (input : Json) (report : Report) : Report :=
  { report with input := input }

/-- The same refusal, a report on claims being one on another value. -/
def AuthError.about (input : Json) : AuthError → AuthError
  | claimsParse (.claims report) => claimsParse (.claims (report.about input))
  | error => error

/-- The same outcome, but for the value that a report on claims is about. -/
def Outcome.about {α : Type} (input : Json) (outcome : Except Failure α) : Except Failure α :=
  outcome.mapError (Halt.map (AuthError.about input))

/-- The claims with another time of issue. -/
def StandardClaims.reissued (claims : StandardClaims) (iat : Int) : StandardClaims :=
  { claims with iat := iat }

namespace Checked

variable {α β γ : Type}

theorem map_seq (g : β → γ) (f : Checked (α → β)) (x : Checked α) :
    g <$> (f <*> x) = (fun h value => g (h value)) <$> f <*> x := by
  cases f <;> cases x <;> rfl

theorem map_map (g : β → γ) (f : α → β) (x : Checked α) :
    g <$> f <$> x = (fun value => g (f value)) <$> x := by
  cases x <;> rfl

theorem result_map (kind : String) (input other : Json) (f : α → β) (x : Checked α) :
    (f <$> x).result kind other =
      ((x.result kind input).map f).mapError (Report.about other) := by
  cases x <;> rfl

theorem seq_good (f : Checked (α → β)) (value : α) :
    f <*> good value = (fun h => h value) <$> f := by
  cases f with
  | good h => rfl
  | faulty first others => exact congrArg (faulty first) (List.append_nil others)

end Checked

namespace Claims

open Checked

/-- The names of the standard claims but for the time of issue. -/
def namesButIssue : List String :=
  ["exp", "jti", "iss", "aud", "sub", "typ", "azp", "realm_access", "resource_access",
    "given_name", "family_name", "name", "preferred_username", "email", "email_verified"]

/-- The names of the standard claims. -/
def names : List String :=
  "iat" :: namesButIssue

/-- Two objects hold the same values under some names, or both hold none. -/
def AgreeOn (names : List String) (first second : Json.Fields) : Prop :=
  ∀ name ∈ names, first.get? name = second.get? name

variable {first second : Json.Fields}

theorem AgreeOn.butIssue (agree : AgreeOn names first second) :
    AgreeOn namesButIssue first second :=
  fun name member => agree name (List.mem_cons_of_mem _ member)

theorem required_congr {α : Type} {name : String} (read : Json → Checked α)
    (same : first.get? name = second.get? name) :
    required first name read = required second name read := by
  rw [required, same, required]

theorem optional_congr {α : Type} {name : String} (read : Json → Checked α)
    (same : first.get? name = second.get? name) :
    optional first name read = optional second name read := by
  rw [optional, same, optional]

/-- The claims of fields, with a reading of the time of issue that may be another one. -/
def ofFieldsIssued (iat : Checked Int) (fields : Json.Fields) : Checked StandardClaims :=
  StandardClaims.mk <$> required fields "exp" time
    <*> iat
    <*> required fields "jti" text
    <*> required fields "iss" text
    <*> required fields "aud" audience
    <*> required fields "sub" text
    <*> required fields "typ" text
    <*> required fields "azp" text
    <*> optional fields "realm_access" realmAccess
    <*> optional fields "resource_access" resourceAccess
    <*> required fields "given_name" text
    <*> required fields "family_name" text
    <*> required fields "name" text
    <*> required fields "preferred_username" text
    <*> required fields "email" text
    <*> required fields "email_verified" truth

theorem ofFields_eq (fields : Json.Fields) :
    ofFields fields = ofFieldsIssued (required fields "iat" time) fields := rfl

theorem ofFieldsIssued_congr (agree : AgreeOn namesButIssue first second) (iat : Checked Int) :
    ofFieldsIssued iat first = ofFieldsIssued iat second := by
  unfold ofFieldsIssued
  rw [required_congr _ (agree "exp" (by decide)), required_congr _ (agree "jti" (by decide)),
    required_congr _ (agree "iss" (by decide)), required_congr _ (agree "aud" (by decide)),
    required_congr _ (agree "sub" (by decide)), required_congr _ (agree "typ" (by decide)),
    required_congr _ (agree "azp" (by decide)),
    optional_congr _ (agree "realm_access" (by decide)),
    optional_congr _ (agree "resource_access" (by decide)),
    required_congr _ (agree "given_name" (by decide)),
    required_congr _ (agree "family_name" (by decide)),
    required_congr _ (agree "name" (by decide)),
    required_congr _ (agree "preferred_username" (by decide)),
    required_congr _ (agree "email" (by decide)),
    required_congr _ (agree "email_verified" (by decide))]

/-- Fields that agree on the standard claims are read alike. -/
theorem ofFields_congr (agree : AgreeOn names first second) :
    ofFields first = ofFields second := by
  rw [ofFields_eq, ofFields_eq, required_congr _ (agree "iat" (by decide)),
    ofFieldsIssued_congr agree.butIssue]

/-- The time of issue is handed on, and nothing else depends on it. -/
theorem ofFieldsIssued_good (before after : Int) (fields : Json.Fields) :
    ofFieldsIssued (good after) fields =
      (fun claims => claims.reissued after) <$> ofFieldsIssued (good before) fields := by
  unfold ofFieldsIssued
  simp only [map_seq, map_map, seq_good]
  rfl

/-- A time of issue of 64 bits is read as it is. -/
theorem required_iat {fields : Json.Fields} {iat : Int}
    (given : fields.get? "iat" = some (.int iat)) (least : leastTime ≤ iat)
    (greatest : iat ≤ greatestTime) : required fields "iat" time = good iat := by
  rw [required, given]
  simp only [time, Int.not_lt.2 least, Int.not_lt.2 greatest, if_false]
  rfl

/-- Fields that differ in their times of issue are read to claims that differ in them. -/
theorem ofFields_reissued {before after : Int} (agree : AgreeOn namesButIssue first second)
    (one : required first "iat" time = good before)
    (other : required second "iat" time = good after) :
    ofFields second = (fun claims => claims.reissued after) <$> ofFields first := by
  rw [ofFields_eq second, ofFields_eq first, one, other, ← ofFieldsIssued_congr agree,
    ofFieldsIssued_good before]

/-- Values that are checked alike are reported on alike, each with a report on itself. -/
theorem read_of_check {value other : Json} {f : StandardClaims → StandardClaims}
    (checked : check other = f <$> check value) :
    read other = ((read value).map f).mapError (Report.about other) := by
  rw [read, checked, Checked.result_map _ value, read]

end Claims
end RealmAuth
