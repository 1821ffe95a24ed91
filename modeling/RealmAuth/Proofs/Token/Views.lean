import Mathlib.Algebra.BigOperators.Group.List.Lemmas
import Mathlib.Algebra.GroupWithZero.Nat
import RealmAuth.Proofs.Role.Origin
import RealmAuth.Proofs.Token.Granted
import RealmAuth.Token.Update

namespace RealmAuth

/-!
What a token shows of its roles.  There is a view of the realm's roles, one of each client's
and one of all clients'.  The first and the last part the roles of the token, whatever it
carries and in whatever order its grants came, and the views of single clients part the
last one again.  The checks of roles look at both sides and at nothing else.  Behind the
making of a token a further grant shows in the views of its own origin only.
-/

open Outcome

namespace Token

variable {R : Type} {token : Token R} {parser : RoleParser R} {claims : StandardClaims}

/-- The clients that some role of a token comes from, each of them once. -/
def clients (token : Token R) : List Text :=
  (token.roles.filterMap Grant.owner?).dedup

/-! ## The views by origin -/

theorem realmRoles_eq (token : Token R) :
    token.realmRoles = Grant.rolesFrom Option.isNone token.roles :=
  Grant.filterMap_realmRole? token.roles

theorem clientRoles_none (token : Token R) :
    token.clientRoles none = Grant.rolesFrom Option.isSome token.roles := by
  have all : (fun owner : Option Text => owner.any fun _ => true) = Option.isSome := by
    funext owner
    cases owner <;> rfl
  rw [← all]
  exact Grant.filterMap_clientRole? _ token.roles

theorem clientRoles_some (token : Token R) (client : Text) :
    token.clientRoles (some client) = Grant.rolesFrom (· == some client) token.roles := by
  have one : (fun owner : Option Text => owner.any (client == ·)) = (· == some client) := by
    funext owner
    cases owner with
    | none => rfl
    | some owner => exact Bool.beq_comm
  rw [← one]
  exact Grant.filterMap_clientRole? _ token.roles

/-- The realm's roles and the roles of all clients part the roles of a token. -/
theorem parted (token : Token R) :
    Grant.Parted token.roles token.realmRoles (token.clientRoles none) :=
  Grant.parted_iff.2 ⟨token.realmRoles_eq, token.clientRoles_none⟩

theorem clientRoles_sublist (token : Token R) (client : Text) :
    (token.clientRoles (some client)).Sublist (token.clientRoles none) := by
  rw [clientRoles_some, clientRoles_none]
  apply Grant.rolesFrom_sublist
  intro owner equal
  rw [beq_iff_eq.1 equal]
  rfl

/-! ## The views of single clients -/

theorem mem_clients_iff {client : Text} :
    client ∈ token.clients ↔ ∃ role, Grant.client client role ∈ token.roles := by
  rw [clients, List.mem_dedup, List.mem_filterMap]
  constructor
  · rintro ⟨grant, member, owner⟩
    cases grant with
    | realm _ => cases owner
    | client _ role =>
        cases owner
        exact ⟨role, member⟩
  · rintro ⟨role, member⟩
    exact ⟨_, member, rfl⟩

theorem sum_length_clientRoles (token : Token R) :
    (token.clients.map fun client => (token.clientRoles (some client)).length).sum =
      (token.clientRoles none).length := by
  have one : ∀ client, (token.clientRoles (some client)).length =
      (token.roles.filterMap Grant.owner?).count client := by
    intro client
    rw [clientRoles_some, Grant.length_rolesFrom, List.count_filterMap]
  have all : (token.clientRoles none).length = (token.roles.filterMap Grant.owner?).length := by
    rw [clientRoles_none, Grant.length_rolesFrom, List.length_filterMap_eq_countP]
  simp only [one, all, clients]
  exact List.sum_map_count_dedup_eq_length _

/-! ## Further grants -/

/-- Grants that are added one after the other stand behind those of the token, in order. -/
theorem roles_foldl_withGrant (further : List (Grant Text R)) (token : Token R) :
    (further.foldl withGrant token).roles = token.roles ++ further := by
  induction further generalizing token with
  | nil => exact (List.append_nil token.roles).symm
  | cons grant further ih =>
      rw [List.foldl_cons, ih, withGrant]
      exact List.append_assoc token.roles [grant] further

/-- The views of a token with further grants are continued by those of the grants. -/
structure Continues (token later : Token R) (further : List (Grant Text R)) : Prop where
  realm : later.realmRoles = token.realmRoles ++ Grant.rolesFrom Option.isNone further
  clients : later.clientRoles none =
    token.clientRoles none ++ Grant.rolesFrom Option.isSome further
  client : ∀ client, later.clientRoles (some client) =
    token.clientRoles (some client) ++ Grant.rolesFrom (· == some client) further

theorem continues_foldl_withGrant (token : Token R) (further : List (Grant Text R)) :
    token.Continues (further.foldl withGrant token) further := by
  constructor
  · rw [realmRoles_eq, realmRoles_eq, roles_foldl_withGrant, Grant.rolesFrom_append]
  · rw [clientRoles_none, clientRoles_none, roles_foldl_withGrant, Grant.rolesFrom_append]
  · intro client
    rw [clientRoles_some, clientRoles_some, roles_foldl_withGrant, Grant.rolesFrom_append]

/-! ## Tokens of claims -/

/-- The roles of a token of claims are what the names that the claims grant are read as. -/
theorem reads_of_ofClaims (made : (ofClaims parser claims).result = .ok token) :
    List.Forall₂ (Grant.Reads parser)
      (Grant.named claims.realmAccess claims.resourceAccess) token.roles := by
  have ends := Grant.EndsReading.extract parser claims.realmAccess claims.resourceAccess
  have extracted := extract_of_ofClaims made
  generalize Grant.named claims.realmAccess claims.resourceAccess = granted at ends ⊢
  generalize Grant.extract parser claims.realmAccess claims.resourceAccess = outcome
    at ends extracted
  cases ends with
  | complete read =>
      rw [← Except.ok.inj extracted]
      exact read
  | stopped _ _ => cases extracted

/-- The views of a token show what the names of claims are read as, each by its origin. -/
structure Shows (token : Token R) (parser : RoleParser R) (claims : StandardClaims) : Prop where
  realm : claims.realmNames.map parser = token.realmRoles.map .ok
  client : ∀ client, (claims.namesOf client).map parser =
    (token.clientRoles (some client)).map .ok
  clients : token.clientRoles none =
    (claims.clients.map Prod.fst).flatMap fun client => token.clientRoles (some client)

theorem shows_of_ofClaims (mapping : claims.IsMapping)
    (made : (ofClaims parser claims).result = .ok token) : token.Shows parser claims := by
  have read := Grant.map_rolesFrom_of_reads (reads_of_ofClaims made)
  have client : ∀ client, (claims.namesOf client).map parser =
      (token.clientRoles (some client)).map .ok := by
    intro client
    rw [← Grant.client_named mapping, read, clientRoles_some]
  refine ⟨?_, client, ?_⟩
  · rw [← Grant.realm_named, read, realmRoles_eq]
  · -- The roles of both sides are compared through the names that they were read from.
    have injective : Function.Injective (List.map (Except.ok : R → Except Failure R)) :=
      List.map_injective_iff.2 fun _ _ => Except.ok.inj
    apply injective
    rw [clientRoles_none, ← read, Grant.clients_named, List.map_flatMap, List.map_flatMap,
      List.flatMap_map]
    apply List.flatMap_congr
    intro entry member
    rw [← client, mapping.namesOf_eq member]

/-! ## Checks and views -/

variable [RoleValue R]

/-- One of the two sides shows a role that is the same. -/
def Displays (token : Token R) (role : R) : Prop :=
  (∃ shown ∈ token.realmRoles, RoleValue.same shown role = true) ∨
    ∃ shown ∈ token.clientRoles none, RoleValue.same shown role = true

instance (token : Token R) (role : R) : Decidable (token.Displays role) :=
  inferInstanceAs (Decidable (_ ∨ _))

theorem carries_iff_displays {role : R} : token.carries role = true ↔ token.Displays role := by
  have sides : token.Displays role ↔
      ∃ shown ∈ token.realmRoles ++ token.clientRoles none, RoleValue.same shown role = true := by
    simp only [Displays, List.mem_append, or_and_right, exists_or]
  simp only [sides, token.parted.perm.mem_iff, carries, List.any_eq_true, List.mem_map,
    exists_exists_and_eq_and]

/-- A check for a role answers by the views, once the role is known that is meant. -/
theorem hasRole_ok_iff {role : R} {held : Bool} :
    (token.hasRole role).result = .ok held ↔
      ∃ value, (token.wanted role).result = .ok value ∧ (held = true ↔ token.Displays value) := by
  rw [hasRole, Traced.result_bind, bind_eq_ok_iff]
  apply exists_congr
  intro value
  apply and_congr_right
  intro _
  rw [← carries_iff_displays, ← Bool.eq_iff_iff]
  constructor
  · intro answered
    exact (Except.ok.inj answered).symm
  · rintro rfl
    rfl

/--
The views of a token in any state.  Its roles are parted by the view of the realm and the
view of all clients, and in no other way: each grant goes to one of them, in order and as
often as it is there, so their lengths add up.  The view of one client, be its name empty
or not, shows the roles of the grants by this client, and these in the order of the view
of all clients; over the clients of the token the lengths add up to that of this view.
Grants that are added continue the views of their origins.  A token that was just made of
claims shows what the parser reads from the names of the realm and of each client, and the
clients one after the other.  A check for a role says whether either side shows it.
-/
theorem views_of_roles (token : Token R) :
    (∀ realms clients, Grant.Parted token.roles realms clients ↔
      realms = token.realmRoles ∧ clients = token.clientRoles none) ∧
    token.realmRoles.length + (token.clientRoles none).length = token.roles.length ∧
    (∀ client, token.clientRoles (some client) =
        (token.roles.filter fun grant => grant.owner? == some client).map Grant.role ∧
      (token.clientRoles (some client)).Sublist (token.clientRoles none)) ∧
    (token.clients.Nodup ∧
      (∀ client, client ∈ token.clients ↔ ∃ role, Grant.client client role ∈ token.roles) ∧
      (token.clients.map fun client => (token.clientRoles (some client)).length).sum =
        (token.clientRoles none).length) ∧
    (∀ further, token.Continues (further.foldl withGrant token) further) ∧
    (∀ parser claims, claims.IsMapping → (ofClaims parser claims).result = .ok token →
      token.Shows parser claims) ∧
    (∀ role held, (token.hasRole role).result = .ok held ↔
      ∃ value, (token.wanted role).result = .ok value ∧
        (held = true ↔ token.Displays value)) := by
  refine ⟨?_, token.parted.length_add, ?_, ?_, token.continues_foldl_withGrant, ?_, ?_⟩
  · intro realms clients
    rw [Grant.parted_iff, ← realmRoles_eq, ← clientRoles_none]
  · intro client
    exact ⟨token.clientRoles_some client, token.clientRoles_sublist client⟩
  · exact ⟨List.nodup_dedup _, fun client => mem_clients_iff, token.sum_length_clientRoles⟩
  · intro parser claims mapping made
    exact shows_of_ofClaims mapping made
  · intro role held
    exact hasRole_ok_iff

/-- Claims by which the realm and three clients grant names, one client without a name. -/
def portalClaims : StandardClaims :=
  { editorClaims with
    realmAccess := some ⟨["Reader", "Editor"]⟩
    resourceAccess := some ⟨[("web", ["Reader"]), ("", ["Guest", "Guest"]), ("app", [])]⟩ }

/--
The token of these claims shows the names of each origin.  A further grant by the client
without a name is held afterwards, and it is no role of the realm.
-/
theorem views_of_roles_portal :
    let token : Token Text := issued id portalClaims
    let later := token.withGrant (.client "" "Owner")
    portalClaims.IsMapping ∧ (ofClaims (.total id) portalClaims).result = .ok token ∧
      token.realmRoles.map Except.ok =
        (["Reader", "Editor"] : List Text).map (RoleParser.total id) ∧
      (token.clientRoles (some "")).map Except.ok =
        (["Guest", "Guest"] : List Text).map (RoleParser.total id) ∧
      later.realmRoles = token.realmRoles ∧
      later.clientRoles (some "") = token.clientRoles (some "") ++ [.plain "Owner"] ∧
      (token.hasRole "Owner").result = .ok false ∧ (later.hasRole "Owner").result = .ok true := by
  intro token later
  have mapping : portalClaims.IsMapping := by decide
  have made : (ofClaims (.total id) portalClaims).result = .ok token :=
    result_ofClaims_of_covers (by decide) (by decide)
  rcases views_of_roles token with ⟨_, _, _, _, continued, shows, held⟩
  rcases views_of_roles later with ⟨_, _, _, _, _, _, laterHeld⟩
  have shown := shows _ _ mapping made
  have continues := continued [.client "" "Owner"]
  refine ⟨mapping, made, shown.realm.symm, (shown.client "").symm, ?_, continues.client "", ?_, ?_⟩
  · exact continues.realm.trans (List.append_nil _)
  · exact (held _ _).2 ⟨"Owner", rfl, by decide⟩
  · exact (laterHeld _ _).2 ⟨"Owner", rfl, by decide⟩

end Token
end RealmAuth
