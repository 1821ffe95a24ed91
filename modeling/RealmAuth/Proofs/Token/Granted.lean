import RealmAuth.Proofs.Token.Conferred
import RealmAuth.Role.Parser

namespace RealmAuth

/-!
The roles of a token are the grants of its claims.  The realm and the clients list names,
and a token carries one grant for each of them, none left out and none joined with
another, unless the parser fails at a name.  Then there is no token, and the failure is
the parser's own.
-/

open Outcome

namespace Grant

variable {R : Type} {parser : RoleParser R}

theorem foldl_count (start : Nat) (clients : List (Text × List Text)) :
    clients.foldl (fun count client => count + client.2.length) start =
      start + (ofClients ⟨clients⟩).length := by
  induction clients generalizing start with
  | nil => rfl
  | cons entry clients ih =>
      have split : ofClients ⟨entry :: clients⟩ =
          entry.2.map (client entry.1) ++ ofClients ⟨clients⟩ := rfl
      rw [List.foldl_cons, ih, split, List.length_append, List.length_map, Nat.add_assoc]

theorem length_ofClients (access : ResourceAccess) : (ofClients access).length = access.count := by
  rw [ResourceAccess.count, foldl_count, Nat.zero_add]

/-- There are as many grants as the realm and the clients count. -/
theorem length_named (realmAccess : Option RealmAccess) (resourceAccess : Option ResourceAccess) :
    (named realmAccess resourceAccess).length =
      realmAccess.elim 0 RealmAccess.count + resourceAccess.elim 0 ResourceAccess.count := by
  have realm : ((realmAccess.map ofRealm).getD []).length =
      realmAccess.elim 0 RealmAccess.count := by
    cases realmAccess with
    | none => rfl
    | some access => exact List.length_map ..
  have clients : ((resourceAccess.map ofClients).getD []).length =
      resourceAccess.elim 0 ResourceAccess.count := by
    cases resourceAccess with
    | none => rfl
    | some access => exact length_ofClients access
  rw [named, List.length_append, realm, clients]

theorem extract_eq_iff {realmAccess : Option RealmAccess} {resourceAccess : Option ResourceAccess}
    {outcome : Traced (List (Grant Text R))} :
    extract parser realmAccess resourceAccess = outcome ↔
      EndsReading parser [] (named realmAccess resourceAccess) outcome := by
  have ends := EndsReading.extract parser realmAccess resourceAccess
  constructor
  · rintro rfl
    exact ends
  · exact ends.unique

end Grant

namespace Token

variable {R : Type} {parser : RoleParser R} {claims : StandardClaims}

/-- Where both times are dates, a token of claims asks for the names of its grants alone. -/
theorem names_ofClaims_of_covers (parser : RoleParser R) (exp : Calendar.Covers claims.exp)
    (iat : Calendar.Covers claims.iat) :
    (ofClaims parser claims).names =
      (Grant.extract parser claims.realmAccess claims.resourceAccess).names := by
  unfold ofClaims
  rw [instantOf_of_covers _ _ exp, instantOf_of_covers _ _ iat]
  generalize Grant.extract parser claims.realmAccess claims.resourceAccess = outcome
  rcases outcome with ⟨names, failure | grants⟩
  · rfl
  · exact List.append_nil names

/-- Where both times are dates, only the reading of its names stands against a token of claims. -/
theorem failure?_ofClaims_of_covers (parser : RoleParser R) (exp : Calendar.Covers claims.exp)
    (iat : Calendar.Covers claims.iat) :
    failure? (ofClaims parser claims).result =
      failure? (Grant.extract parser claims.realmAccess claims.resourceAccess).result := by
  unfold ofClaims
  rw [instantOf_of_covers _ _ exp, instantOf_of_covers _ _ iat]
  generalize Grant.extract parser claims.realmAccess claims.resourceAccess = outcome
  rcases outcome with ⟨names, failure | grants⟩
  · rfl
  · rfl

theorem extract_of_ofClaims {token : Token R} (made : (ofClaims parser claims).result = .ok token) :
    (Grant.extract parser claims.realmAccess claims.resourceAccess).result = .ok token.roles := by
  unfold ofClaims at made
  simp only [Traced.result_bind, bind_eq_ok_iff] at made
  rcases made with ⟨_, _, _, _, grants, read, same⟩
  cases same
  exact read

end Token

namespace Grant

variable {R : Type}

/--
What is made of the names that a realm and its clients grant, with any parser.  The reading
ends well, with one grant for each name at its place, or it breaks off at the first name
that the parser fails at; there is no third way and no choice between the two.  It ends
well exactly when every name can be read, and there are then as many grants as the realm
and the clients count.  The grants are the roles of the token that is made of claims; if
the reading breaks off, there is no such token, and once the times are known to be dates
the token asks for the same names and fails for the same reason.
-/
theorem extract_by_names (parser : RoleParser R) (realmAccess : Option RealmAccess)
    (resourceAccess : Option ResourceAccess) :
    (∀ outcome, extract parser realmAccess resourceAccess = outcome ↔
      EndsReading parser [] (named realmAccess resourceAccess) outcome) ∧
    ((∃ grants, (extract parser realmAccess resourceAccess).result = .ok grants) ↔
      ∀ granted ∈ named realmAccess resourceAccess, ∃ value, parser granted.role = .ok value) ∧
    (∀ grants, (extract parser realmAccess resourceAccess).result = .ok grants →
      grants.length =
        realmAccess.elim 0 RealmAccess.count + resourceAccess.elim 0 ResourceAccess.count) ∧
    (∀ claims : StandardClaims, claims.realmAccess = realmAccess →
      claims.resourceAccess = resourceAccess →
        (∀ token, (Token.ofClaims parser claims).result = .ok token →
          (extract parser realmAccess resourceAccess).result = .ok token.roles) ∧
        (Calendar.Covers claims.exp → Calendar.Covers claims.iat →
          (Token.ofClaims parser claims).names =
            (extract parser realmAccess resourceAccess).names ∧
          failure? (Token.ofClaims parser claims).result =
            failure? (extract parser realmAccess resourceAccess).result)) := by
  have ends := EndsReading.extract parser realmAccess resourceAccess
  refine ⟨fun outcome => extract_eq_iff, ?_, ?_, ?_⟩
  · rw [← ends.exists_ok_iff]
  · intro grants read
    rw [← length_named, ends.length_of_ok read]
  · rintro claims rfl rfl
    refine ⟨fun token made => Token.extract_of_ofClaims made, ?_⟩
    intro exp iat
    exact ⟨Token.names_ofClaims_of_covers parser exp iat,
      Token.failure?_ofClaims_of_covers parser exp iat⟩

/-- Claims by which a client grants a name that the strict parser does not know. -/
def guestClaims : StandardClaims :=
  { Token.editorClaims with
    realmAccess := some ⟨["admin"]⟩
    resourceAccess := some ⟨[("web", []), ("app", ["reader", "guest", "admin"])]⟩ }

/-- The strict parser is asked for the names up to the unknown one, and there is no token. -/
theorem extract_by_names_guest :
    guestClaims.realmAccess = some ⟨["admin"]⟩ ∧
      Calendar.Covers guestClaims.exp ∧ Calendar.Covers guestClaims.iat ∧
      (Token.ofClaims .strict guestClaims).names = (["admin", "reader", "guest"] : List Text) ∧
      failure? (Token.ofClaims .strict guestClaims).result =
        some (.escaped (.roleName ("unknown role: " ++ "guest"))) := by
  have exp : Calendar.Covers guestClaims.exp := by decide
  have iat : Calendar.Covers guestClaims.iat := by decide
  rcases extract_by_names .strict guestClaims.realmAccess guestClaims.resourceAccess
      with ⟨ends, _, _, tokens⟩
  have known : ∀ other ∈ ([.realm "admin", .client "app" "reader"] : List Named),
      ∃ value, RoleParser.strict other.role = .ok value := by
    intro other member
    simp only [List.mem_cons, List.not_mem_nil, or_false] at member
    rcases member with rfl | rfl
    · exact ⟨_, rfl⟩
    · exact ⟨_, rfl⟩
  have unknown : RoleParser.strict (Grant.client "app" "guest" : Named).role =
      escape (.roleName ("unknown role: " ++ "guest")) := rfl
  have stopped : extract .strict guestClaims.realmAccess guestClaims.resourceAccess =
      ⟨["admin", "reader", "guest"], escape (.roleName ("unknown role: " ++ "guest"))⟩ :=
    (ends _).2 (.stopped known unknown)
  rcases (tokens guestClaims rfl rfl).2 exp iat with ⟨names, failing⟩
  refine ⟨rfl, exp, iat, ?_, ?_⟩
  · rw [names, stopped]
  · rw [failing, stopped]
    rfl

end Grant
end RealmAuth
