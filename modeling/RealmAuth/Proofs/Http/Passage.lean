import RealmAuth.Proofs.Http.Stage

namespace RealmAuth

/-!
What it takes to pass a stage.  A view passes its stage when it is as the stage wants it:
a header value of allowed characters, a text that has the parts of a token, parts that are
sealed and whose claims are in order, claims that are written, seconds that the calendar
covers, roles that are held.  What a request shows to the later stages is told in the
same words: it is what the value of its header writes.  Nothing here says how a stage
finds out, and still each stage has something against a view exactly when the view does
not pass.
-/

open Outcome

namespace View

variable [Platform] {R : Type} [RoleValue R]

/-- A view is as its stage wants it. -/
def Passes : View R → Prop
  | lookup present => present = true
  | characters value =>
      ∃ codes, value.codes? = some codes ∧ ∀ code ∈ codes, HeaderValue.Allowed code
  | scheme value => "Bearer ".toList <+: value
  | header text => ∃ parts : Jws.Parts, parts.Of text
  | verification policy now key audiences parts =>
      ∃ verifying payload, key = .verifying verifying ∧ Jws.Sealed verifying parts ∧
        Json.readOctets? parts.payload = some (.object payload) ∧
        Jws.InOrder policy now (audiences.filterMap Json.text?) payload
  | claims payload => ∃ claims, Claims.WrittenIn claims payload
  | expiryDate seconds => Calendar.Covers seconds
  | issueDate seconds => Calendar.Covers seconds
  | lifetime exp now => now.micros ≤ exp * Instant.perSecond
  | requiredRoles held wanted _ => ∀ value ∈ wanted, Roles.Includes held value
  | guard held needed _ => Roles.Suffices held needed

/-- A stage has nothing against a view exactly when the view passes. -/
theorem failure?_eq_none_iff {view : View R} : view.failure? = none ↔ view.Passes := by
  cases view with
  | lookup present => simp [failure?, Passes]
  | characters value =>
      simp only [failure?, Passes, Outcome.failure?_eq_none_iff, Headers.valueText_eq_ok_iff]
      constructor
      · rintro ⟨cs, written, allowed⟩
        exact ⟨_, written, allowed⟩
      · rintro ⟨codes, written, allowed⟩
        rcases HeaderValue.exists_characters written with ⟨cs, rfl⟩
        exact ⟨cs, written, allowed⟩
  | scheme value =>
      change Outcome.failure? (Headers.tokenOf value) = none ↔ Headers.bearer <+: value
      simp only [Outcome.failure?_eq_none_iff, Headers.tokenOf_eq_ok_iff]
      constructor
      · rintro ⟨token, rfl⟩
        exact List.prefix_append ..
      · rintro ⟨rest, rfl⟩
        exact ⟨String.ofList rest, by rw [String.toList_ofList]⟩
  | header text =>
      simp only [failure?, Passes, Outcome.failure?_eq_none_iff, Jws.readHeader_eq_ok_iff]
  | verification policy now key audiences parts =>
      simp only [failure?, Passes, Outcome.failure?_eq_none_iff, mapError_eq_ok_iff,
        Jws.verifyParts_eq_ok_iff]
      exact exists_comm
  | claims payload =>
      simp only [failure?, Passes, Outcome.failure?_eq_none_iff, standardClaims_eq_ok_iff]
  | expiryDate seconds | issueDate seconds =>
      simp only [failure?, Passes, Outcome.failure?_eq_none_iff, Token.exists_instantOf_iff]
  | lifetime exp now => simp [failure?, Passes]
  | requiredRoles held wanted debug =>
      rw [failure?, Option.map_eq_none_iff, Roles.allFault?_eq_none_iff, Passes]
  | guard held needed debug =>
      rw [failure?, Option.map_eq_none_iff, Roles.fault?_eq_none_iff, Passes]

end View

namespace Attempt

variable {R : Type} (attempt : Attempt R)

/-! ## What the header of a request writes -/

def Writes (cs : List Char) : Prop :=
  ∃ value, attempt.headers.find? = some value ∧ value.codes? = some (cs.map Char.toNat)

def Bears (text : String) : Prop :=
  attempt.Writes ("Bearer ".toList ++ text.toList)

variable [Platform]

def HasParts (parts : Jws.Parts) : Prop :=
  ∃ text, attempt.Bears text ∧ parts.Of text

def Carries (payload : Json.Fields) : Prop :=
  ∃ parts, attempt.HasParts parts ∧ Json.readOctets? parts.payload = some (.object payload)

def States (claims : StandardClaims) : Prop :=
  ∃ payload, attempt.Carries payload ∧ Claims.WrittenIn claims payload

section

variable {attempt}

omit [Platform] in
theorem characters?_eq_some_iff {cs : List Char} :
    attempt.characters? = some cs ↔ attempt.Writes cs := by
  simp only [characters?, Writes, Option.bind_eq_some_iff, HeaderValue.characters?_eq_some_iff]

omit [Platform] in
theorem text?_eq_some_iff {text : String} : attempt.text? = some text ↔ attempt.Bears text := by
  simp only [text?, Option.bind_eq_some_iff, characters?_eq_some_iff, toOption_eq_some_iff,
    Headers.tokenOf_eq_ok_iff, exists_eq_right]
  rfl

theorem parts?_eq_some_iff {parts : Jws.Parts} :
    attempt.parts? = some parts ↔ attempt.HasParts parts := by
  simp only [parts?, HasParts, Option.bind_eq_some_iff, text?_eq_some_iff, toOption_eq_some_iff,
    Jws.readHeader_eq_ok_iff]

theorem payload?_eq_some_iff {payload : Json.Fields} :
    attempt.payload? = some payload ↔ attempt.Carries payload := by
  simp only [payload?, Carries, Option.bind_eq_some_iff, parts?_eq_some_iff,
    toOption_eq_some_iff, Jws.readObject_eq_ok_iff]

theorem claims?_eq_some_iff {claims : StandardClaims} :
    attempt.claims? = some claims ↔ attempt.States claims := by
  simp only [claims?, States, Option.bind_eq_some_iff, payload?_eq_some_iff,
    toOption_eq_some_iff, standardClaims_eq_ok_iff]

end

variable [RoleValue R]

/-- What a request shows to the stages. -/
inductive Shows : View R → Prop where
  | lookup : Shows (.lookup attempt.headers.find?.isSome)
  | characters (value : HeaderValue) (found : attempt.headers.find? = some value) :
      Shows (.characters value)
  | scheme (cs : List Char) (written : attempt.Writes cs) : Shows (.scheme cs)
  | header (text : String) (borne : attempt.Bears text) : Shows (.header text)
  | verification (parts : Jws.Parts) (had : attempt.HasParts parts) :
      Shows (.verification attempt.policy attempt.now attempt.key attempt.audiences parts)
  | claims (payload : Json.Fields) (carried : attempt.Carries payload) : Shows (.claims payload)
  | expiryDate (claims : StandardClaims) (stated : attempt.States claims) :
      Shows (.expiryDate claims.exp)
  | issueDate (claims : StandardClaims) (stated : attempt.States claims) :
      Shows (.issueDate claims.iat)
  | lifetime (claims : StandardClaims) (stated : attempt.States claims) :
      Shows (.lifetime claims.exp attempt.now)
  | requiredRoles (claims : StandardClaims) (stated : attempt.States claims) :
      Shows (.requiredRoles (attempt.held claims)
        (attempt.requiredRoles.map (Token.meant attempt.reading)) attempt.debug)
  | guard (claims : StandardClaims) (stated : attempt.States claims) (needed : Requirement R)
      (asked : attempt.requirement = some needed) :
      Shows (.guard (attempt.held claims) (needed.map (Token.meant attempt.reading)) attempt.debug)

variable {attempt}

/-- What a stage looks at is what the request shows to it. -/
theorem view_eq_some_iff {stage : Stage} {view : View R} :
    attempt.view stage = some view ↔ attempt.Shows view ∧ view.stage = stage := by
  constructor
  · intro seen
    refine ⟨?_, stage_of_view seen⟩
    cases stage with
    | lookup =>
        cases seen
        exact .lookup
    | characters =>
        rcases Option.map_eq_some_iff.1 seen with ⟨value, found, rfl⟩
        exact .characters value found
    | scheme =>
        rcases Option.map_eq_some_iff.1 seen with ⟨cs, written, rfl⟩
        exact .scheme cs (characters?_eq_some_iff.1 written)
    | header =>
        rcases Option.map_eq_some_iff.1 seen with ⟨text, borne, rfl⟩
        exact .header text (text?_eq_some_iff.1 borne)
    | verification =>
        rcases Option.map_eq_some_iff.1 seen with ⟨parts, had, rfl⟩
        exact .verification parts (parts?_eq_some_iff.1 had)
    | claims =>
        rcases Option.map_eq_some_iff.1 seen with ⟨payload, carried, rfl⟩
        exact .claims payload (payload?_eq_some_iff.1 carried)
    | expiryDate =>
        rcases Option.map_eq_some_iff.1 seen with ⟨claims, stated, rfl⟩
        exact .expiryDate claims (claims?_eq_some_iff.1 stated)
    | issueDate =>
        rcases Option.map_eq_some_iff.1 seen with ⟨claims, stated, rfl⟩
        exact .issueDate claims (claims?_eq_some_iff.1 stated)
    | lifetime =>
        rcases Option.map_eq_some_iff.1 seen with ⟨claims, stated, rfl⟩
        exact .lifetime claims (claims?_eq_some_iff.1 stated)
    | requiredRoles =>
        rcases Option.map_eq_some_iff.1 seen with ⟨claims, stated, rfl⟩
        exact .requiredRoles claims (claims?_eq_some_iff.1 stated)
    | guard =>
        rcases Option.bind_eq_some_iff.1 seen with ⟨claims, stated, later⟩
        rcases Option.map_eq_some_iff.1 later with ⟨needed, asked, rfl⟩
        exact .guard claims (claims?_eq_some_iff.1 stated) needed asked
  · rintro ⟨shown, rfl⟩
    cases shown with
    | lookup => rfl
    | characters value found => simp only [View.stage, view, found, Option.map_some]
    | scheme cs written =>
        simp only [View.stage, view, characters?_eq_some_iff.2 written, Option.map_some]
    | header text borne =>
        simp only [View.stage, view, text?_eq_some_iff.2 borne, Option.map_some]
    | verification parts had =>
        simp only [View.stage, view, parts?_eq_some_iff.2 had, Option.map_some]
    | claims payload carried =>
        simp only [View.stage, view, payload?_eq_some_iff.2 carried, Option.map_some]
    | guard claims stated needed asked =>
        simp only [View.stage, view, claims?_eq_some_iff.2 stated, asked, Option.bind_some,
          Option.map_some]
    | expiryDate claims stated | issueDate claims stated | lifetime claims stated
    | requiredRoles claims stated =>
        simp only [View.stage, view, claims?_eq_some_iff.2 stated, Option.map_some]

end Attempt
end RealmAuth
