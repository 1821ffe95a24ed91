import RealmAuth.Proofs.Http.Value
import RealmAuth.Proofs.Jws.Exactness
import RealmAuth.Proofs.Realm.Acceptance
import RealmAuth.Proofs.Token.Conferred

namespace RealmAuth

/-!
Admission to a realm that was set up by settings.  The key, the expected audiences
and the required roles come from the settings, and from nowhere else; with them
the conditions of admission are the same behind every guard and for every way to
ask for a token, and the token that is handed over is the one of the payload that
was verified.
-/

namespace Realm

variable {R : Type} [ConfiguredRole R]

/-- A realm that is set up has the key, the audiences and the required roles of its settings. -/
theorem ofSettings_eq_ok_iff {settings : Settings} {roleParser : RoleParser R}
    {decoder : Decoder} {realm : Realm R} :
    ofSettings settings roleParser decoder = .ok realm ↔
      ∃ key audiences requiredRoles,
        keyOf settings.realmPublicKey = .ok key ∧
        settings.expectedAudiences.items? = some audiences ∧
        settings.requiredRoles.items? = some requiredRoles ∧
        realm = ⟨decoder, key, audiences, roleParser, requiredRoles.map ConfiguredRole.ofData,
          settings.debug.truthy⟩ := by
  have listed_iff : ∀ {setting items},
      listed setting = .ok items ↔ setting.items? = some items := by
    intro setting items
    unfold listed
    split
    · rename_i found
      simp [found]
    · rename_i absent
      simp [absent]
  unfold ofSettings
  simp only [Outcome.bind_eq_ok_iff, listed_iff]
  constructor
  · intro given
    rcases given with ⟨key, usable, audiences, expected, requiredRoles, required, same⟩
    cases same
    exact ⟨key, audiences, requiredRoles, usable, expected, required, rfl⟩
  · intro given
    rcases given with ⟨key, audiences, requiredRoles, usable, expected, required, rfl⟩
    exact ⟨key, usable, audiences, expected, requiredRoles, required, rfl⟩

/--
Admission by settings: a guarded route runs, the headers of a request authenticate,
and an optional token is found, each exactly when the request bears a text that is
decoded by the key and for the audiences of the settings, its payload writes the
standard claims, their times lie within the calendar, the expiry is not past, and
the token of these claims holds the required roles; a guard may ask for more.  The role
values are those of any application, and its role parser reads every name.
-/
theorem ofSettings_admits_iff [Platform] (settings : Settings) (reading : Text → R)
    (policy : Policy) (realm : Realm R)
    (built : ofSettings settings (.total reading) (Jws.decoder policy) = .ok realm) :
    (∃ key audiences requiredRoles,
      keyOf settings.realmPublicKey = .ok key ∧
      settings.expectedAudiences.items? = some audiences ∧
      settings.requiredRoles.items? = some requiredRoles ∧
      realm.key = key ∧ realm.audiences = audiences ∧
      realm.requiredRoles = requiredRoles.map ConfiguredRole.ofData) ∧
    ∀ (now : Instant) (headers : Headers),
      (∀ (guard : Guard R) (outcome : Option (Token R)), guard ≠ .optional →
        ((guard.pass realm now headers).result = .ok outcome ↔
          ∃ text payload claims, realm.Admits policy reading now headers text payload claims ∧
            guard.Allows reading (.issued reading claims) ∧
            outcome = some (.issued reading claims))) ∧
      (∀ token : Token R,
        (realm.authenticateHeaders now headers).result = .ok token ↔
          ∃ text payload claims, realm.Admits policy reading now headers text payload claims ∧
            token = .issued reading claims) ∧
      (∀ token : Token R,
        (Guard.optional.pass realm now headers).result = .ok (some token) ↔
          ∃ text payload claims, realm.Admits policy reading now headers text payload claims ∧
            token = .issued reading claims) := by
  rcases ofSettings_eq_ok_iff.1 built
      with ⟨key, audiences, requiredRoles, usable, expected, required, rfl⟩
  refine ⟨⟨key, audiences, requiredRoles, usable, expected, required, rfl, rfl, rfl⟩, ?_⟩
  have verifies : Verifies ⟨Jws.decoder policy, key, audiences, .total reading,
      requiredRoles.map ConfiguredRole.ofData, settings.debug.truthy⟩ policy reading :=
    ⟨rfl, rfl⟩
  intro now headers
  refine ⟨?_, fun token => authenticateHeaders_ok_iff verifies, fun token => ?_⟩
  · intro guard outcome needed
    cases outcome with
    | none =>
        simp only [Guard.pass_ne_none needed, reduceCtorEq, and_false, exists_false]
    | some token =>
        rw [Guard.pass_some_iff verifies]
        simp only [Option.some.injEq]
  · rw [Guard.pass, Guard.optionalToken_some_iff]
    exact authenticateHeaders_ok_iff verifies

/-! ## Settings of a small key -/

open Platform

/-- The bare body of the document of the small key. -/
def smallBody : List Char :=
  [
    "MFowDQYJKoZIhvcNAQEBBQADSQAwRgJBANa6aB4cQVIE8tt/Di8pUqENpr/JM1p2",
    "F65cc4szP5TjBrCHXtaeWeIPcN6ul98UHyuVN0XkJCxMXSfc+LbgxscCAQM="
  ].flatMap String.toList

/-- Settings of a realm with the small key. -/
def smallSettings : Settings where
  realmPublicKey := .string (String.ofList smallBody)
  expectedAudiences := .array [.string "service"]
  requiredRoles := .array []
  debug := .bool false

/-- The standard claims that last until the end of the calendar. -/
def lastStandard : StandardClaims where
  exp := 253402300799
  iat := 1700000000
  jti := "token"
  iss := "realm"
  aud := .one "service"
  sub := "user"
  typ := "Bearer"
  azp := "app"
  realmAccess := none
  resourceAccess := none
  givenName := "given"
  familyName := "family"
  name := "full"
  preferredUsername := "login"
  email := "mail"
  emailVerified := true

theorem writtenIn_lastClaims : Claims.WrittenIn lastStandard Jws.lastClaims := by
  constructor
  · constructor
    all_goals first
      | exact ⟨_, rfl, rfl⟩
      | exact ⟨_, rfl, rfl, by decide, by decide⟩
      | exact Or.inl rfl
  · exact ⟨_, rfl, rfl, by decide, by decide⟩

/-- Whether a reading gave a key with a given public part, and whether it is a private one. -/
def gives (isPrivate : Bool) (publicKey : Rsa.PublicKey) :
    Except (Halt KeyFault) Rsa.Key → Bool
  | .ok key => key.isPrivate == isPrivate && key.publicKey == publicKey
  | .error _ => false

theorem eq_ok_of_gives {isPrivate : Bool} {publicKey : Rsa.PublicKey}
    {reading : Except (Halt KeyFault) Rsa.Key} (given : gives isPrivate publicKey reading = true) :
    ∃ key, reading = .ok key ∧ key.isPrivate = isPrivate ∧ key.publicKey = publicKey := by
  cases reading with
  | error halt => cases given
  | ok key =>
      unfold gives at given
      rw [Bool.and_eq_true, beq_iff_eq, beq_iff_eq] at given
      exact ⟨key, rfl, given⟩

theorem keyOf_smallSettings :
    keyOf smallSettings.realmPublicKey = .ok (.verifying Jws.smallKey) := by
  have given : gives false Jws.smallKey (RealmKey.read (RealmKey.document smallBody)) = true := by
    decide +kernel
  rcases eq_ok_of_gives given with ⟨key, read, verifying, small⟩
  unfold keyOf smallSettings decodingKeyOfText RealmKey.ofText
  simp only [Text.chars?, String.toList_ofList]
  rw [read]
  cases key with
  | verifying key =>
      rw [← small]
      rfl
  | signing key => cases verifying

/-- A visible text behind the start of the header's value is the token of a request. -/
theorem bearerToken_sent {name token : String} (named : Headers.isName name = true)
    (visible : token.toList.all Headers.isVisible = true) :
    (Headers.sent [(name, .text ("Bearer " ++ token))]).bearerToken = .ok token := by
  have found : (Headers.sent [(name, .text ("Bearer " ++ token))]).find? =
      some (.text ("Bearer " ++ token)) := by
    simp [Headers.find?, Headers.findFolded, named, Headers.given?, Headers.delivered]
  apply Headers.bearerToken_of_token found
  rw [HeaderValue.codesOf, List.forall_mem_map]
  intro c member
  exact (Headers.isVisible_iff c).1 (List.all_eq_true.1 visible c member)

theorem visible_encode (octets : Octets) :
    (Base64.url.encode octets).all Headers.isVisible = true := by
  have letter : ∀ sextet, sextet < 64 → Headers.isVisible (Base64.url.letter sextet) = true := by
    decide
  rw [List.all_eq_true]
  intro c member
  rcases List.mem_map.1 member with ⟨sextet, listed, rfl⟩
  exact letter sextet (Base64.lt_of_mem_sextets listed)

/-- The text of parts is visible, so a request can bear it. -/
theorem bearerToken_textOf {name : String} (named : Headers.isName name = true)
    (header payload signature : Octets) :
    (Headers.sent [(name, .text ("Bearer " ++ Jws.textOf header payload signature))]).bearerToken =
      .ok (Jws.textOf header payload signature) := by
  have dot : Headers.isVisible '.' = true := by decide
  apply bearerToken_sent named
  rw [Jws.textOf, String.toList_ofList]
  simp only [List.all_append, List.all_cons, visible_encode, dot, Bool.and_true]

/-- A role name as the text that it is. -/
def plainly (name : Text) : AppRole :=
  .data (.string name)

/-- The realm of the settings with the small key. -/
def smallRealm (policy : Policy) : Realm AppRole where
  decoder := Jws.decoder policy
  key := .verifying Jws.smallKey
  audiences := [.string "service"]
  roleParser := .total plainly
  requiredRoles := []
  debug := false

/-- The text of the claims of an editor. -/
def editorPayload : Octets :=
  Text.toUtf8 ([
    "\x7b\x22exp\x22:1700000060,\x22iat\x22:1700000000,",
    "\x22jti\x22:\x22token\x22,\x22iss\x22:\x22realm\x22,\x22aud\x22:\x22service\x22,",
    "\x22sub\x22:\x22user\x22,\x22typ\x22:\x22Bearer\x22,\x22azp\x22:\x22app\x22,",
    "\x22realm_access\x22:\x7b\x22roles\x22:[\x22Reader\x22]\x7d,",
    "\x22resource_access\x22:\x7b\x22app\x22:\x7b\x22roles\x22:[\x22Editor\x22]\x7d\x7d,",
    "\x22given_name\x22:\x22given\x22,\x22family_name\x22:\x22family\x22,",
    "\x22name\x22:\x22full\x22,\x22preferred_username\x22:\x22login\x22,",
    "\x22email\x22:\x22mail\x22,\x22email_verified\x22:true\x7d"
  ].flatMap String.toList)

/-- The claims of an editor as they are written. -/
def editorFields : Json.Fields :=
  [
    ("exp", .int 1700000060), ("iat", .int 1700000000), ("jti", .string "token"),
    ("iss", .string "realm"), ("aud", .string "service"), ("sub", .string "user"),
    ("typ", .string "Bearer"), ("azp", .string "app"),
    ("realm_access", .object [("roles", .array [.string "Reader"])]),
    ("resource_access", .object [("app", .object [("roles", .array [.string "Editor"])])]),
    ("given_name", .string "given"), ("family_name", .string "family"), ("name", .string "full"),
    ("preferred_username", .string "login"), ("email", .string "mail"),
    ("email_verified", .bool true)
  ]

/-- The signature of the claims of an editor, as a number. -/
def editorSignature : Nat :=
  0xA42B1D352225E2380E50AB53598575C070E8777A227665AFF7018D8013969EC7 * 2 ^ 256 +
    0x0BD645A637553C050068C6F6F5193087D510B8A986FEC4CD380E2988E484781C

def editorToken : String :=
  Jws.textOf Jws.lastHeader editorPayload (Octets.ofNat 64 editorSignature)

theorem signed_editorToken : Jws.Signed Jws.smallKey editorToken editorFields := by
  have payload : Json.readOctets? editorPayload = some (.object editorFields) := by
    decide +kernel
  have valid : Jws.smallKey.verifyFixed .sha256
      (Text.toUtf8 (Base64.url.encode Jws.lastHeader ++ '.' :: Base64.url.encode editorPayload))
      (Octets.ofNat 64 editorSignature) = true := by
    decide +kernel
  exact Jws.signed_small payload valid

theorem writtenIn_editorFields : Claims.WrittenIn Token.editorClaims editorFields := by
  constructor
  · constructor
    all_goals first
      | exact ⟨_, rfl, rfl⟩
      | exact ⟨_, rfl, rfl, by decide, by decide⟩
      | exact ⟨_, rfl, _, rfl, _, rfl, rfl⟩
      | exact ⟨_, rfl, _, rfl, .cons ⟨rfl, _, rfl, _, rfl, rfl⟩ .nil⟩
  · exact ⟨_, rfl, rfl, by decide, by decide⟩

/-- Settings with the small key by which every token has to carry a role. -/
def readerSettings : Settings :=
  { smallSettings with requiredRoles := .array [.string "Reader"] }

/-- A guard for editors and owners, but not for guests. -/
def editorGuard : Guard AppRole :=
  .requirement
    ⟨[.data (.string "Reader")], [.data (.string "Owner"), .data (.string "Editor")],
      [.data (.string "Guest")]⟩

theorem decode_editorToken :
    Jws.decode .standard ⟨1700000000000000⟩ editorToken (.rsa (.verifying Jws.smallKey))
        (.array ([.plain "service"].map .string)) = .ok editorFields := by
  have lasts : Jws.Lasts .standard ⟨1700000000000000⟩ 1700000060 :=
    (Jws.lasts_whole_iff fun _ => by decide +kernel).2
      ((Jws.outlasts_iff (by decide) (by decide) (by decide)).2 (by decide))
  have order : Jws.InOrder .standard ⟨1700000000000000⟩ ["service"] editorFields := {
    current := ⟨1700000060, ⟨_, rfl, rfl⟩, lasts⟩
    addressed := .one "service" rfl (by decide) (by decide)
    subject := Jws.textIfAny_of_get? rfl
    identifier := Jws.textIfAny_of_get? rfl }
  exact Jws.decode_ok_iff.2 ⟨signed_editorToken, order⟩

theorem allows_editor : editorGuard.Allows plainly (.issued plainly Token.editorClaims) where
  allOf := by
    refine List.forall_mem_singleton.2 (Token.carries_meant_iff.1 ?_)
    decide +kernel
  anyOf := by
    refine Or.inr ⟨.data (.string "Editor"), by simp, Token.carries_meant_iff.1 ?_⟩
    decide +kernel
  noneOf := by
    refine List.forall_mem_singleton.2 (mt Token.carries_meant_iff.2 ?_)
    decide +kernel

/--
An editor is let through where all tokens have to carry a role and the guard asks for more,
with the token of the claims.
-/
theorem ofSettings_admits_editorToken :
    ofSettings readerSettings (.total plainly) (Jws.decoder .standard) =
        .ok { smallRealm .standard with requiredRoles := [.data (.string "Reader")] } ∧
      (editorGuard.pass { smallRealm .standard with requiredRoles := [.data (.string "Reader")] }
          ⟨1700000000000000⟩
          (.sent [("authorization", .text ("Bearer " ++ editorToken))])).result =
        .ok (some (.issued plainly Token.editorClaims)) := by
  have built : ofSettings readerSettings (.total plainly) (Jws.decoder .standard) =
      .ok { smallRealm .standard with requiredRoles := [.data (.string "Reader")] } :=
    ofSettings_eq_ok_iff.2 ⟨.verifying Jws.smallKey, [.string "service"], [.string "Reader"],
      keyOf_smallSettings, rfl, rfl, rfl⟩
  have admits := (ofSettings_admits_iff readerSettings plainly .standard _ built).2
    ⟨1700000000000000⟩ (.sent [("authorization", .text ("Bearer " ++ editorToken))])
  refine ⟨built, (admits.1 editorGuard _ (by simp [editorGuard])).2 ?_⟩
  refine ⟨editorToken, editorFields, Token.editorClaims, ⟨⟨decode_editorToken,
    writtenIn_editorFields, by decide, by decide, by decide⟩, ?_, allows_editor.allOf⟩,
    allows_editor, rfl⟩
  exact bearerToken_textOf (by decide +kernel) _ _ _

end Realm
end RealmAuth
