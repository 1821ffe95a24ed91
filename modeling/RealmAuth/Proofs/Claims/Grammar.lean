import Mathlib.Data.List.Defs
import RealmAuth.Proofs.Outcome
import RealmAuth.Realm

namespace RealmAuth
namespace Claims

/-!
Which fields are read as which claims.  Reading reports every fault it finds, but
what it reads is described without any report: each claim has a way of being
written, and claims are read exactly when all of them are written at once.  The
expiry stands apart, because later bounds on a token's lifetime differ in it alone.
-/

variable {α : Type}

/-- A reader's values are those that a relation writes. -/
def Reads (read : Json → Checked α) (writes : α → Json → Prop) : Prop :=
  ∀ json value, (read json).value? = some value ↔ writes value json

/-! ## How single values are written -/

/-- A time is an integer of 64 bits. -/
def WritesTime (time : Int) (json : Json) : Prop :=
  json = .int time ∧ leastTime ≤ time ∧ time ≤ greatestTime

/-- A text is written as such. -/
def WritesText (text : Text) (json : Json) : Prop :=
  json = .string text

/-- A truth value is written as such. -/
def WritesTruth (truth : Bool) (json : Json) : Prop :=
  json = .bool truth

/-- Texts are written as a list. -/
def WritesTexts (texts : List Text) (json : Json) : Prop :=
  json = .array (texts.map .string)

/-- An audience keeps the shape in which it is written. -/
def WritesAudience : Audience → Json → Prop
  | .one name => WritesText name
  | .many names => WritesTexts names

theorem reads_time : Reads time WritesTime := by
  intro json value
  unfold WritesTime
  cases json with
  | int given =>
      simp only [time, Json.int.injEq]
      split
      · rename_i below
        simp only [Checked.fault, Checked.value?, reduceCtorEq, false_iff]
        intro holds
        rcases holds with ⟨rfl, least, _⟩
        omega
      · split
        · rename_i above
          simp only [Checked.fault, Checked.value?, reduceCtorEq, false_iff]
          intro holds
          rcases holds with ⟨rfl, _, greatest⟩
          omega
        · rename_i least greatest
          simp only [Checked.value?, Option.some.injEq]
          constructor
          · rintro rfl
            exact ⟨rfl, by omega, by omega⟩
          · intro holds
            rcases holds with ⟨same, _, _⟩
            exact same
  | _ => simp [time, Checked.fault, Checked.value?]

theorem reads_text : Reads text WritesText := by
  intro json value
  cases json <;> simp [text, WritesText, Checked.fault, Checked.value?]

theorem reads_truth : Reads truth WritesTruth := by
  intro json value
  cases json <;> simp [truth, WritesTruth, Checked.fault, Checked.value?]

theorem textsFrom_value? (position : Nat) (items : List Json) (names : List Text) :
    (textsFrom position items).value? = some names ↔ items = names.map .string := by
  induction items generalizing position names with
  | nil => cases names <;> simp [textsFrom, Checked.value?]
  | cons item items ih =>
      rw [textsFrom, Checked.value?_seq, Checked.value?_map, Checked.value?_within]
      simp only [Option.bind_eq_some_iff, Option.map_eq_some_iff]
      constructor
      · intro given
        rcases given with ⟨_, ⟨name, first, rfl⟩, rest, later, rfl⟩
        rw [List.map_cons, (reads_text item name).1 first, (ih _ _).1 later]
      · intro same
        cases names with
        | nil => simp at same
        | cons name names =>
            simp only [List.map_cons, List.cons.injEq] at same
            exact ⟨List.cons name, ⟨name, (reads_text item name).2 same.1, rfl⟩, names,
              (ih _ _).2 same.2, rfl⟩

theorem reads_texts : Reads texts WritesTexts := by
  intro json names
  unfold WritesTexts
  cases json with
  | array items =>
      rw [texts, textsFrom_value?, Json.array.injEq]
  | _ => simp [texts, Checked.fault, Checked.value?]

theorem audience_value? {json : Json} (list : ∀ name, json ≠ .string name) :
    (audience json).value? = (texts json).value?.map .many := by
  unfold audience
  split
  · rename_i name
    exact absurd rfl (list name)
  · rename_i value other
    rw [← Checked.value?_within "list[str]" (texts json)]
    split
    · rename_i names found
      rw [found]
      rfl
    · rename_i first others found
      rw [found]
      rfl

theorem reads_audience : Reads audience WritesAudience := by
  intro json value
  by_cases one : ∃ name, json = .string name
  · rcases one with ⟨name, rfl⟩
    cases value <;>
      simp [audience, WritesAudience, WritesText, WritesTexts, Checked.value?, eq_comm]
  · rw [audience_value? fun name same => one ⟨name, same⟩, Option.map_eq_some_iff]
    cases value with
    | one name =>
        constructor
        · intro given
          rcases given with ⟨names, _, same⟩
          cases same
        · intro written
          exact absurd ⟨name, written⟩ one
    | many names =>
        simp only [Audience.many.injEq, exists_eq_right]
        exact reads_texts json names

/-! ## How access is written -/

/-- Role names are written under one name inside an object. -/
def WritesRoles (names : List Text) (json : Json) : Prop :=
  ∃ fields : Json.Fields, json = .object fields ∧
    ∃ listed, fields.get? "roles" = some listed ∧ WritesTexts names listed

/-- The roles of a realm are written as role names. -/
def WritesRealmAccess (access : RealmAccess) (json : Json) : Prop :=
  WritesRoles access.roles json

/-- The roles of clients are written as role names under the name of each client, in order. -/
def WritesResourceAccess (access : ResourceAccess) (json : Json) : Prop :=
  ∃ fields : Json.Fields, json = .object fields ∧
    List.Forall₂ (fun client field => client.1 = field.1 ∧ WritesRoles client.2 field.2)
      access.clients fields

/-- A field that is there is written by its value. -/
def Field (fields : Json.Fields) (name : String) (writes : α → Json → Prop) (value : α) : Prop :=
  ∃ json, fields.get? name = some json ∧ writes value json

/-- A field that may be left out, or be `null`. -/
def OptionalField (fields : Json.Fields) (name : String) (writes : α → Json → Prop) :
    Option α → Prop
  | none => fields.get? name = none ∨ fields.get? name = some .null
  | some value => Field fields name writes value

theorem required_value?_iff {read : Json → Checked α} {writes : α → Json → Prop}
    (reads : Reads read writes) {fields : Json.Fields} {name : String} {value : α} :
    (required fields name read).value? = some value ↔ Field fields name writes value := by
  unfold required Field
  cases given : fields.get? name with
  | none => simp [Checked.fault, Checked.within, Checked.value?]
  | some json =>
      rw [Checked.value?_within, reads json value]
      simp

theorem optional_value?_iff {read : Json → Checked α} {writes : α → Json → Prop}
    (reads : Reads read writes) (absent : ∀ value, ¬ writes value .null) {fields : Json.Fields}
    {name : String} {value : Option α} :
    (optional fields name read).value? = some value ↔ OptionalField fields name writes value := by
  unfold optional
  split
  · rename_i missing
    cases value <;> simp [OptionalField, Field, missing, Checked.value?]
  · rename_i null
    cases value with
    | none => simp [OptionalField, null, Checked.value?]
    | some value =>
        have never := absent value
        simp [OptionalField, Field, null, Checked.value?, never]
  · rename_i json other given
    rw [Checked.value?_map, Checked.value?_within, Option.map_eq_some_iff]
    cases value with
    | none => simpa [OptionalField, given] using other
    | some value => simp [OptionalField, Field, given, reads json value]

theorem reads_roleNames (kind : String) : Reads (roleNames kind) WritesRoles := by
  intro json names
  unfold WritesRoles
  cases json with
  | object fields =>
      rw [roleNames, required_value?_iff reads_texts]
      simp [Field]
  | _ => simp [roleNames, Checked.fault, Checked.value?]

theorem reads_realmAccess : Reads realmAccess WritesRealmAccess := by
  intro json access
  rw [realmAccess, Checked.value?_map, Option.map_eq_some_iff]
  constructor
  · intro given
    rcases given with ⟨names, found, rfl⟩
    exact (reads_roleNames _ json names).1 found
  · intro written
    exact ⟨access.roles, (reads_roleNames _ json access.roles).2 written, rfl⟩

theorem clientRoles_value?_iff {fields : Json.Fields} {clients : List (Text × List Text)} :
    (clientRoles fields).value? = some clients ↔
      List.Forall₂ (fun client field => client.1 = field.1 ∧ WritesRoles client.2 field.2)
        clients fields := by
  induction fields generalizing clients with
  | nil =>
      cases clients with
      | nil => exact iff_of_true rfl .nil
      | cons client clients =>
          constructor
          · intro found
            cases found
          · intro written
            cases written
  | cons field fields ih =>
      rcases field with ⟨name, json⟩
      rw [clientRoles, Checked.value?_seq, Checked.value?_map, Checked.value?_within]
      simp only [Option.bind_eq_some_iff, Option.map_eq_some_iff]
      constructor
      · intro given
        rcases given with ⟨_, ⟨names, first, rfl⟩, later, rest, rfl⟩
        exact .cons ⟨rfl, (reads_roleNames _ json names).1 first⟩ (ih.1 rest)
      · intro written
        cases written with
        | cons first rest =>
            rename_i client later
            rcases first with ⟨same, names⟩
            simp only at same
            subst same
            exact ⟨_, ⟨client.2, (reads_roleNames _ json client.2).2 names, rfl⟩, later,
              ih.2 rest, rfl⟩

theorem reads_resourceAccess : Reads resourceAccess WritesResourceAccess := by
  intro json access
  unfold WritesResourceAccess
  cases json with
  | object fields =>
      rw [resourceAccess, Checked.value?_map, Option.map_eq_some_iff]
      simp only [Json.object.injEq, exists_eq_left']
      constructor
      · intro given
        rcases given with ⟨clients, found, rfl⟩
        exact clientRoles_value?_iff.1 found
      · intro written
        exact ⟨access.clients, clientRoles_value?_iff.2 written, rfl⟩
  | _ => simp [resourceAccess, Checked.fault, Checked.value?]

/-! ## How claims are written -/

/-- All claims but the expiry are written by fields. -/
structure OthersWrittenIn (claims : StandardClaims) (fields : Json.Fields) : Prop where
  iat : Field fields "iat" WritesTime claims.iat
  jti : Field fields "jti" WritesText claims.jti
  iss : Field fields "iss" WritesText claims.iss
  aud : Field fields "aud" WritesAudience claims.aud
  sub : Field fields "sub" WritesText claims.sub
  typ : Field fields "typ" WritesText claims.typ
  azp : Field fields "azp" WritesText claims.azp
  realmAccess : OptionalField fields "realm_access" WritesRealmAccess claims.realmAccess
  resourceAccess : OptionalField fields "resource_access" WritesResourceAccess claims.resourceAccess
  givenName : Field fields "given_name" WritesText claims.givenName
  familyName : Field fields "family_name" WritesText claims.familyName
  name : Field fields "name" WritesText claims.name
  preferredUsername : Field fields "preferred_username" WritesText claims.preferredUsername
  email : Field fields "email" WritesText claims.email
  emailVerified : Field fields "email_verified" WritesTruth claims.emailVerified

/-- All claims are written by fields. -/
structure WrittenIn (claims : StandardClaims) (fields : Json.Fields) : Prop
    extends OthersWrittenIn claims fields where
  exp : Field fields "exp" WritesTime claims.exp

/-- The claims of fields, when nothing is wrong with any of them. -/
theorem ofFields_value?_iff {fields : Json.Fields} {claims : StandardClaims} :
    (ofFields fields).value? = some claims ↔ WrittenIn claims fields := by
  have realm : ∀ access, ¬ WritesRealmAccess access .null := by
    rintro access ⟨fields, same, _⟩
    cases same
  have resource : ∀ access, ¬ WritesResourceAccess access .null := by
    rintro access ⟨fields, same, _⟩
    cases same
  unfold ofFields
  simp only [Checked.value?_seq, Checked.value?_map, Option.bind_eq_some_iff,
    Option.map_eq_some_iff, required_value?_iff reads_time, required_value?_iff reads_text,
    required_value?_iff reads_truth, required_value?_iff reads_audience,
    optional_value?_iff reads_realmAccess realm, optional_value?_iff reads_resourceAccess resource]
  constructor
  · intro given
    rcases given with ⟨_, ⟨_, ⟨_, ⟨_, ⟨_, ⟨_, ⟨_, ⟨_, ⟨_, ⟨_, ⟨_, ⟨_, ⟨_, ⟨_, ⟨_, ⟨_, exp, rfl⟩, _,
        iat, rfl⟩, _, jti, rfl⟩, _, iss, rfl⟩, _, aud, rfl⟩, _, sub, rfl⟩, _, typ, rfl⟩, _, azp,
        rfl⟩, _, realmAccess, rfl⟩, _, resourceAccess, rfl⟩, _, givenName, rfl⟩, _, familyName,
        rfl⟩, _, name, rfl⟩, _, preferredUsername, rfl⟩, _, email, rfl⟩, _, emailVerified, rfl⟩
    exact { exp, iat, jti, iss, aud, sub, typ, azp, realmAccess, resourceAccess, givenName,
            familyName, name, preferredUsername, email, emailVerified }
  · intro written
    exact ⟨_, ⟨_, ⟨_, ⟨_, ⟨_, ⟨_, ⟨_, ⟨_, ⟨_, ⟨_, ⟨_, ⟨_, ⟨_, ⟨_, ⟨_, ⟨_, written.exp, rfl⟩,
      _, written.iat, rfl⟩, _, written.jti, rfl⟩, _, written.iss, rfl⟩, _, written.aud, rfl⟩,
      _, written.sub, rfl⟩, _, written.typ, rfl⟩, _, written.azp, rfl⟩,
      _, written.realmAccess, rfl⟩, _, written.resourceAccess, rfl⟩, _, written.givenName, rfl⟩,
      _, written.familyName, rfl⟩, _, written.name, rfl⟩, _, written.preferredUsername, rfl⟩,
      _, written.email, rfl⟩, _, written.emailVerified, rfl⟩

/-- Claims are read exactly when all of them are written. -/
theorem read_eq_ok_iff {fields : Json.Fields} {claims : StandardClaims} :
    read (.object fields) = .ok claims ↔ WrittenIn claims fields := by
  have checked : read (.object fields) =
      (ofFields fields).result "StandardClaims" (.object fields) := rfl
  rw [← ofFields_value?_iff, checked]
  cases ofFields fields <;> simp [Checked.result, Checked.value?]

end Claims

/-- The claims of a payload are those that are written in it. -/
theorem standardClaims_eq_ok_iff {payload : Json.Fields} {claims : StandardClaims} :
    standardClaims (.object payload) = .ok claims ↔ Claims.WrittenIn claims payload := by
  rw [standardClaims, Outcome.mapError_eq_ok_iff, Claims.read_eq_ok_iff]

end RealmAuth
