import RealmAuth.Proofs.Http.Value
import RealmAuth.Proofs.Realm.Acceptance
import RealmAuth.Proofs.Role.Refusal

namespace RealmAuth

/-!
The stages of a request to a guarded route.  Each stage looks at something of its
own, which is read from the request, from its token text or from the settings of the
realm, and what a stage says of it depends on nothing else.  In particular the claims
of a payload can be looked at whether or not its signature is any good; that nobody
does so is a property of the order in which the stages are asked, and not of the
stages.  The outcome of a request is what the first stage says that has something to
say against it.
-/

open Outcome

/-- A stage of a request to a guarded route. -/
inductive Stage where
  /-- The authorization header is there. -/
  | lookup
  /-- The value of the header is visible ASCII. -/
  | characters
  /-- The value starts as a bearer's does. -/
  | scheme
  /-- The parts and the header of the token are readable and usable. -/
  | header
  /-- The signature, the expiry with the leeway, and the audience. -/
  | verification
  /-- The payload writes the standard claims. -/
  | claims
  /-- The expiry lies within the calendar. -/
  | expiryDate
  /-- The time of issue lies within the calendar. -/
  | issueDate
  /-- The expiry is not past. -/
  | lifetime
  /-- The token carries the roles that the realm requires. -/
  | requiredRoles
  /-- The token meets the requirement of the route. -/
  | guard
  deriving DecidableEq

namespace Stage

/-- The stages in their order. -/
def all : List Stage :=
  [lookup, characters, scheme, header, verification, claims, expiryDate, issueDate, lifetime,
    requiredRoles, guard]

/-- The stages before a stage. -/
def earlier (stage : Stage) : List Stage :=
  all.takeWhile (· ≠ stage)

/-- The stages that are passed or failed by a request that a stage decides. -/
def upTo (stage : Stage) : List Stage :=
  stage.earlier ++ [stage]

/-- The status of what fails at a stage. -/
def status : Stage → Nat
  | lookup | characters | scheme | expiryDate | issueDate => 400
  | header | verification | claims | lifetime | requiredRoles | guard => 401

theorem all_eq (stage : Stage) :
    ∃ later, all = stage.earlier ++ stage :: later := by
  cases stage <;> exact ⟨_, rfl⟩

theorem findSome?_all {α : Type} (f : Stage → Option α) :
    all.findSome? f =
      (f lookup).or ((f characters).or ((f scheme).or ((f header).or ((f verification).or
        ((f claims).or ((f expiryDate).or ((f issueDate).or ((f lifetime).or
          ((f requiredRoles).or (f guard)))))))))) := by
  have step : ∀ stage stages, (stage :: stages).findSome? f =
      (f stage).or (stages.findSome? f) := by
    intro stage stages
    rw [List.findSome?_cons]
    cases f stage <;> rfl
  simp only [all, step, List.findSome?_nil, Option.or_none]

/-- The first stage of which something is known, among all stages. -/
theorem findSome?_all_iff {α : Type} {f : Stage → Option α} {found : α} :
    all.findSome? f = some found ↔
      ∃ stage : Stage, f stage = some found ∧ ∀ other ∈ stage.earlier, f other = none := by
  rw [List.findSome?_eq_some_iff]
  constructor
  · intro given
    rcases given with ⟨before, stage, after, split, known, unknown⟩
    refine ⟨stage, known, ?_⟩
    have distinct : (before ++ stage :: after).Nodup := split ▸ (by decide : all.Nodup)
    have apart : ∀ other ∈ before, other ≠ stage := by
      intro other member
      exact (List.nodup_append.1 distinct).2.2 other member stage List.mem_cons_self
    have same : stage.earlier = before := by
      rw [earlier, split, List.takeWhile_append_of_pos (by simpa using apart)]
      simp
    rw [same]
    exact unknown
  · intro given
    rcases given with ⟨stage, known, unknown⟩
    rcases all_eq stage with ⟨later, split⟩
    exact ⟨stage.earlier, stage, later, split, known, unknown⟩

end Stage

/-- What a stage looks at. -/
inductive View (R : Type) where
  | lookup (present : Bool)
  | characters (value : HeaderValue)
  | scheme (value : List Char)
  | header (text : String)
  | verification (policy : Policy) (now : Instant) (key : Rsa.Key) (audiences : List Json)
      (parts : Jws.Parts)
  | claims (payload : Json.Fields)
  | expiryDate (exp : Int)
  | issueDate (iat : Int)
  | lifetime (exp : Int) (now : Instant)
  /-- The roles that are held and those that are wanted; the answer may name one of them. -/
  | requiredRoles (held wanted : List R) (debug : Bool)
  | guard (held : List R) (needed : Requirement R) (debug : Bool)

/-- What a stage says against what it looks at. -/
def View.failure? {R : Type} [Platform] [RoleValue R] : View R → Option Failure
  | lookup present => if present then none else some (.refused .headerMissing)
  | characters value => Outcome.failure? (Headers.valueText value)
  | scheme value => Outcome.failure? (Headers.tokenOf value)
  | header text => Outcome.failure? (Jws.readHeader text)
  | verification policy now key audiences parts =>
      Outcome.failure? ((Jws.verifyParts policy now (.rsa key) (.array audiences) parts).mapError
        (Halt.map fun fault => AuthError.tokenDecode (.verification fault)))
  | claims payload => Outcome.failure? (standardClaims (.object payload))
  | expiryDate exp => Outcome.failure? (Token.instantOf exp "exp" "expires_at")
  | issueDate iat => Outcome.failure? (Token.instantOf iat "iat" "issued_at")
  | lifetime exp now =>
      if now.micros ≤ exp * Instant.perSecond then none else some (.refused .tokenExpired)
  | requiredRoles held wanted _ => (Roles.allFault? held wanted).map .refused
  | guard held needed _ => (Roles.fault? held needed).map .refused

/-- The stage that a view is for. -/
def View.stage {R : Type} : View R → Stage
  | lookup _ => .lookup
  | characters _ => .characters
  | scheme _ => .scheme
  | header _ => .header
  | verification .. => .verification
  | claims _ => .claims
  | expiryDate _ => .expiryDate
  | issueDate _ => .issueDate
  | lifetime .. => .lifetime
  | requiredRoles .. => .requiredRoles
  | guard .. => .guard

/-- The characters of a header value that is no foreign data. -/
def HeaderValue.characters? : HeaderValue → Option (List Char)
  | .text value => some value.toList
  | .octets value => some (Text.latin1 value)
  | .foreign _ => none

theorem HeaderValue.characters?_eq_some_iff {value : HeaderValue} {cs : List Char} :
    value.characters? = some cs ↔ value.codes? = some (cs.map Char.toNat) := by
  have same : ∀ others : List Char, some others = some cs ↔
      some (others.map Char.toNat) = some (cs.map Char.toNat) := by
    intro others
    rw [Option.some.injEq, Option.some.injEq, List.map_inj_right fun _ _ => Char.toNat_inj.1]
  cases value with
  | text value => exact same value.toList
  | octets value =>
      rw [codes?, ← codes_latin1]
      exact same (Text.latin1 value)
  | foreign value => simp [characters?, codes?]

/-- A request to a guarded route, with the settings of its realm and the clock. -/
structure Attempt (R : Type) where
  policy : Policy
  key : Rsa.Key
  audiences : List Json
  /-- The parser of role names, which reads every name. -/
  reading : Text → R
  requiredRoles : List R
  debug : Bool
  path : String
  /-- What the route requires of a token besides that there is one. -/
  requirement : Option (Requirement R)
  now : Instant
  headers : Headers

namespace Attempt

variable [Platform] {R : Type} (attempt : Attempt R)

def realm : Realm R :=
  ⟨Jws.decoder attempt.policy, attempt.key, attempt.audiences, .total attempt.reading,
    attempt.requiredRoles, attempt.debug⟩

def guard : Guard R :=
  match attempt.requirement with
  | none => .token
  | some needed => .requirement needed

/-- The request by itself. -/
def visit : Visit R where
  realm := attempt.realm
  route := ⟨attempt.path, attempt.guard⟩
  needed := by
    rw [guard]
    cases attempt.requirement <;> simp
  now := attempt.now
  headers := attempt.headers

/-! ## What can be read, whatever the stages say -/

def characters? : Option (List Char) :=
  attempt.headers.find?.bind HeaderValue.characters?

def text? : Option String :=
  attempt.characters?.bind fun value => (Headers.tokenOf value).toOption

def parts? : Option Jws.Parts :=
  attempt.text?.bind fun text => (Jws.readHeader text).toOption

def payload? : Option Json.Fields :=
  attempt.parts?.bind fun parts =>
    (Jws.readObject VerificationFault.payloadText .payloadNotObject parts.payload).toOption

def claims? : Option StandardClaims :=
  attempt.payload?.bind fun payload => (standardClaims (.object payload)).toOption

def held (claims : StandardClaims) : List R :=
  (Token.issued attempt.reading claims).values

variable [RoleValue R]

/-- What a stage looks at in a request, if it can be read. -/
def view : Stage → Option (View R)
  | .lookup => some (.lookup attempt.headers.find?.isSome)
  | .characters => attempt.headers.find?.map .characters
  | .scheme => attempt.characters?.map .scheme
  | .header => attempt.text?.map .header
  | .verification =>
      attempt.parts?.map (.verification attempt.policy attempt.now attempt.key attempt.audiences)
  | .claims => attempt.payload?.map .claims
  | .expiryDate => attempt.claims?.map fun claims => .expiryDate claims.exp
  | .issueDate => attempt.claims?.map fun claims => .issueDate claims.iat
  | .lifetime => attempt.claims?.map fun claims => .lifetime claims.exp attempt.now
  | .requiredRoles =>
      attempt.claims?.map fun claims =>
        .requiredRoles (attempt.held claims)
          (attempt.requiredRoles.map (Token.meant attempt.reading)) attempt.debug
  | .guard =>
      attempt.claims?.bind fun claims =>
        attempt.requirement.map fun needed =>
          .guard (attempt.held claims) (needed.map (Token.meant attempt.reading)) attempt.debug

/-- What a stage says against a request. -/
def failure? (stage : Stage) : Option Failure :=
  (attempt.view stage).bind View.failure?

variable {attempt} in
theorem stage_of_view {stage : Stage} {view : View R}
    (seen : attempt.view stage = some view) : view.stage = stage := by
  cases stage with
  | lookup =>
      cases seen
      rfl
  | guard =>
      rcases Option.bind_eq_some_iff.1 seen with ⟨claims, _, later⟩
      rcases Option.map_eq_some_iff.1 later with ⟨needed, _, rfl⟩
      rfl
  | _ =>
      rcases Option.map_eq_some_iff.1 seen with ⟨_, _, rfl⟩
      rfl

/-! ## The outcome is what the stages say, in their order -/

variable {attempt} {rest : Option Failure}

omit [RoleValue R] in
theorem verifies_realm : attempt.realm.Verifies attempt.policy attempt.reading :=
  ⟨rfl, rfl⟩

omit [RoleValue R] in
/-- The payload of parts that are verified is the one that can be read from them. -/
theorem payload?_of_verifyParts {parts : Jws.Parts} {payload : Json.Fields}
    {f : VerificationFault → AuthError} (known : attempt.parts? = some parts)
    (verified : (Jws.verifyParts attempt.policy attempt.now (.rsa attempt.key)
      (.array attempt.audiences) parts).mapError (Halt.map f) = .ok payload) :
    attempt.payload? = some payload := by
  rw [mapError_eq_ok_iff] at verified
  simp only [Jws.verifyParts, Json.items?, Jws.claimsOf, bind_eq_ok_iff,
    mapError_eq_ok_iff] at verified
  rcases verified with ⟨_, _, _, _, fields, read, _, _, same⟩
  cases same
  rw [payload?, known, Option.bind_some, read]
  rfl

/-- What a stage says against a request is what it says against its view of it. -/
theorem failure?_of_view {stage : Stage} {view : View R} (seen : attempt.view stage = some view) :
    attempt.failure? stage = view.failure? := by
  rw [failure?, seen, Option.bind_some]

/-- The search for a text is three stages. -/
theorem failure?_bearerToken {T : Type} {f : String → Except Failure T}
    (next : ∀ text, attempt.text? = some text → Outcome.failure? (f text) = rest) :
    Outcome.failure? (attempt.headers.bearerToken >>= f) =
      (attempt.failure? .lookup).or ((attempt.failure? .characters).or
        ((attempt.failure? .scheme).or rest)) := by
  unfold Headers.bearerToken
  cases found : attempt.headers.find? with
  | none => simp [failure?, view, found, View.failure?, refuse, Outcome.failure?]
  | some value =>
      have present : attempt.view .lookup = some (.lookup true) := by
        rw [view, found, Option.isSome_some]
      have looked : attempt.view .characters = some (.characters value) :=
        congrArg (Option.map _) found
      rw [failure?_of_view present, failure?_of_view looked]
      simp only [bind_assoc]
      apply failure?_bind
      intro characters read
      have known : attempt.characters? = some characters := by
        rw [characters?, found]
        exact HeaderValue.characters?_eq_some_iff.2 (Headers.valueText_eq_ok_iff.1 read).1
      have named : attempt.view .scheme = some (.scheme characters) := congrArg (Option.map _) known
      rw [failure?_of_view named]
      apply failure?_bind
      intro text cut
      apply next
      simp [text?, known, cut, Except.toOption]

/-- The decoding of a text is two stages. -/
theorem failure?_decode {text : String} (known : attempt.text? = some text)
    {T : Type} {f : Json.Fields → Except Failure T}
    (next : ∀ payload, attempt.payload? = some payload → Outcome.failure? (f payload) = rest) :
    Outcome.failure? (Jws.decode attempt.policy attempt.now text (.rsa attempt.key)
        (.array attempt.audiences) >>= f) =
      (attempt.failure? .header).or ((attempt.failure? .verification).or rest) := by
  have shown : attempt.view .header = some (.header text) := congrArg (Option.map _) known
  rw [failure?_of_view shown]
  unfold Jws.decode
  simp only [bind_assoc]
  apply failure?_bind
  intro parts read
  have parted : attempt.parts? = some parts := by
    rw [parts?, known, Option.bind_some, read]
    rfl
  have signed : attempt.view .verification = some (.verification attempt.policy attempt.now
      attempt.key attempt.audiences parts) := congrArg (Option.map _) parted
  rw [failure?_of_view signed]
  apply failure?_bind
  intro payload verified
  exact next payload (payload?_of_verifyParts parted verified)

/-- The reading of a payload is one stage. -/
theorem failure?_standardClaims {payload : Json.Fields} (known : attempt.payload? = some payload)
    {T : Type} {f : StandardClaims → Except Failure T}
    (next : ∀ claims, attempt.claims? = some claims → Outcome.failure? (f claims) = rest) :
    Outcome.failure? (standardClaims (.object payload) >>= f) =
      (attempt.failure? .claims).or rest := by
  have written : attempt.view .claims = some (.claims payload) := congrArg (Option.map _) known
  rw [failure?_of_view written]
  apply failure?_bind
  intro claims standard
  apply next
  rw [claims?, known, Option.bind_some, standard]
  rfl

/-- A token is made of its claims in two stages. -/
theorem failure?_ofClaims {claims : StandardClaims} (known : attempt.claims? = some claims)
    {T : Type} {f : Token R → Except Failure T}
    (next : Outcome.failure? (f (.issued attempt.reading claims)) = rest) :
    Outcome.failure? ((Token.ofClaims (.total attempt.reading) claims).result >>= f) =
      (attempt.failure? .expiryDate).or ((attempt.failure? .issueDate).or rest) := by
  have expires : attempt.view .expiryDate = some (.expiryDate claims.exp) :=
    congrArg (Option.map _) known
  have begins : attempt.view .issueDate = some (.issueDate claims.iat) :=
    congrArg (Option.map _) known
  rw [failure?_of_view expires, failure?_of_view begins, Token.result_ofClaims]
  simp only [bind_assoc]
  apply failure?_bind
  intro _ _
  apply failure?_bind
  intro _ _
  exact next

theorem failure?_lifetime {claims : StandardClaims} (known : attempt.claims? = some claims) :
    attempt.failure? .lifetime =
      Outcome.failure? ((Token.issued attempt.reading claims).checkLifetime attempt.now) := by
  have lasts : attempt.view .lifetime = some (.lifetime claims.exp attempt.now) :=
    congrArg (Option.map _) known
  rw [failure?_of_view lasts, Token.checkLifetime_issued, View.failure?]
  split <;> rfl

/-- The acceptance of a text is the six stages behind them. -/
theorem failure?_accept {text : String} (known : attempt.text? = some text)
    {T : Type} {f : Token R → Except Failure T}
    (next : ∀ claims, attempt.claims? = some claims →
      Outcome.failure? (f (.issued attempt.reading claims)) = rest) :
    Outcome.failure? ((attempt.realm.accept attempt.now text).result >>= f) =
      (attempt.failure? .header).or ((attempt.failure? .verification).or
        ((attempt.failure? .claims).or ((attempt.failure? .expiryDate).or
          ((attempt.failure? .issueDate).or ((attempt.failure? .lifetime).or rest))))) := by
  rw [Realm.result_accept verifies_realm]
  simp only [bind_assoc]
  apply failure?_decode known
  intro payload carried
  apply failure?_standardClaims carried
  intro claims stated
  apply failure?_ofClaims stated
  rw [failure?_lifetime stated]
  apply failure?_bind
  intro _ _
  exact next claims stated

theorem failure?_demands {claims : StandardClaims} (known : attempt.claims? = some claims) :
    Outcome.failure? (attempt.guard.demands (.issued attempt.reading claims)) =
      attempt.failure? .guard := by
  rw [guard, failure?, view, known, Option.bind_some]
  cases attempt.requirement with
  | none => rfl
  | some needed =>
      have met : ((Token.issued attempt.reading claims).meets needed).result =
          stoppedBy (Roles.fault? (attempt.held claims)
            (needed.map (Token.meant attempt.reading))) := Token.result_meets rfl needed
      simp only [Guard.demands, met, failure?_stoppedBy]
      rfl

/-- The checks of roles are the last two stages. -/
theorem failure?_roles {claims : StandardClaims} (known : attempt.claims? = some claims)
    (token : Option (Token R)) :
    Outcome.failure?
        (((Token.issued attempt.reading claims).expectRoles attempt.requiredRoles).result >>=
          fun _ => attempt.guard.demands (.issued attempt.reading claims) >>= fun _ =>
            .ok token) =
      (attempt.failure? .requiredRoles).or (attempt.failure? .guard) := by
  have required : attempt.failure? .requiredRoles = Outcome.failure?
      ((Token.issued attempt.reading claims).expectRoles attempt.requiredRoles).result := by
    rw [Token.result_expectRoles rfl, failure?_stoppedBy, failure?, view, known]
    rfl
  rw [required]
  apply failure?_bind
  intro _ _
  rw [failure?_bind_ok]
  exact failure?_demands known

/-- A request stops for what the first stage says that says anything. -/
theorem failure?_outcome :
    Outcome.failure? attempt.visit.outcome = Stage.all.findSome? attempt.failure? := by
  rw [Visit.outcome_eq, Realm.authenticateHeaders_eq, Traced.result_bind, bind_assoc,
    Stage.findSome?_all]
  apply failure?_bearerToken
  intro text borne
  rw [Realm.authenticate, Traced.result_bind, bind_assoc]
  apply failure?_accept borne
  intro claims stated
  rw [Traced.result_bind, bind_assoc]
  exact failure?_roles stated _

end Attempt
end RealmAuth
