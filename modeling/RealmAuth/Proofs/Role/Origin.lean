import RealmAuth.Proofs.Role.Reading

namespace RealmAuth

/-!
Where grants come from.  A grant comes from the realm or from one client, and a list of
grants is parted by this: every grant goes to one of the two sides, and its role keeps
its place there.  Names are read without a change of origin, so what is true of the names
that claims grant by some origin is true of the roles of a token by that origin.

The clients of claims are a mapping, with one entry for each client.  Only the entry of a
client that grants nothing leaves no trace among the grants, and the entries of all others
can be found again from them.
-/

namespace Grant

variable {C R : Type}

/-- The client that a grant comes from, if it does not come from the realm. -/
def owner? : Grant C R → Option C
  | realm _ => none
  | client owner _ => some owner

/-- The roles of the grants whose origin is admitted, in order. -/
def rolesFrom (admitted : Option C → Bool) (grants : List (Grant C R)) : List R :=
  (grants.filter fun grant => admitted grant.owner?).map role

/-- The roles of grants go to two lists, those of the realm and those of clients, in order. -/
inductive Parted : List (Grant C R) → List R → List R → Prop where
  | nil : Parted [] [] []
  | realm {grants : List (Grant C R)} {realms clients : List R} {role : R}
      (rest : Parted grants realms clients) :
      Parted (.realm role :: grants) (role :: realms) clients
  | client {grants : List (Grant C R)} {realms clients : List R} {owner : C} {role : R}
      (rest : Parted grants realms clients) :
      Parted (.client owner role :: grants) realms (role :: clients)

variable {grants : List (Grant C R)} {realms clients : List R}

/-! ## Roles by origin -/

theorem rolesFrom_append (admitted : Option C → Bool) (grants others : List (Grant C R)) :
    rolesFrom admitted (grants ++ others) =
      rolesFrom admitted grants ++ rolesFrom admitted others := by
  simp only [rolesFrom, List.filter_append, List.map_append]

theorem rolesFrom_cons (admitted : Option C → Bool) (grant : Grant C R)
    (grants : List (Grant C R)) :
    rolesFrom admitted (grant :: grants) =
      if admitted grant.owner? then grant.role :: rolesFrom admitted grants
      else rolesFrom admitted grants := by
  unfold rolesFrom
  rw [List.filter_cons]
  split <;> rfl

theorem length_rolesFrom (admitted : Option C → Bool) (grants : List (Grant C R)) :
    (rolesFrom admitted grants).length = grants.countP fun grant => admitted grant.owner? := by
  rw [rolesFrom, List.length_map, List.countP_eq_length_filter]

/-- A narrower choice of origins leaves some of the roles, in the same order. -/
theorem rolesFrom_sublist {narrow wide : Option C → Bool}
    (within : ∀ owner, narrow owner = true → wide owner = true) (grants : List (Grant C R)) :
    (rolesFrom narrow grants).Sublist (rolesFrom wide grants) := by
  apply List.Sublist.map
  apply List.monotone_filter_right
  intro grant admitted
  exact within grant.owner? admitted

theorem filterMap_realmRole? (grants : List (Grant C R)) :
    grants.filterMap realmRole? = rolesFrom Option.isNone grants := by
  induction grants with
  | nil => rfl
  | cons grant grants ih =>
      rw [rolesFrom_cons, ← ih]
      cases grant <;> rfl

theorem filterMap_clientRole? (wanted : C → Bool) (grants : List (Grant C R)) :
    grants.filterMap (clientRole? wanted) = rolesFrom (fun owner => owner.any wanted) grants := by
  induction grants with
  | nil => rfl
  | cons grant grants ih =>
      rw [rolesFrom_cons, ← ih]
      cases grant with
      | realm _ => rfl
      | client owner role =>
          cases admitted : wanted owner <;>
            simp [clientRole?, owner?, Grant.role, admitted]

/-- The grants are parted in one way only, by the two choices of origins. -/
theorem parted_iff :
    Parted grants realms clients ↔
      realms = rolesFrom Option.isNone grants ∧ clients = rolesFrom Option.isSome grants := by
  constructor
  · intro parted
    induction parted with
    | nil => exact ⟨rfl, rfl⟩
    | realm _ ih => exact ⟨congrArg _ ih.1, ih.2⟩
    | client _ ih => exact ⟨ih.1, congrArg _ ih.2⟩
  · rintro ⟨rfl, rfl⟩
    induction grants with
    | nil => exact .nil
    | cons grant grants ih =>
        cases grant with
        | realm _ => exact .realm ih
        | client _ _ => exact .client ih

/-- Both sides together are the roles of all grants, with their repetitions. -/
theorem Parted.perm (parted : Parted grants realms clients) :
    (realms ++ clients).Perm (grants.map role) := by
  induction parted with
  | nil => exact .nil
  | realm _ ih => exact ih.cons _
  | client _ ih => exact List.perm_middle.trans (ih.cons _)

theorem Parted.length_add (parted : Parted grants realms clients) :
    realms.length + clients.length = grants.length := by
  rw [← List.length_append, parted.perm.length_eq, List.length_map]

/-! ## Reading keeps the origin -/

variable {S : Type} {parser : RoleParser S}

theorem Reads.owner?_eq {granted : Named} {grant : Grant Text S}
    (reads : Reads parser granted grant) : grant.owner? = granted.owner? := by
  cases reads with
  | realm _ => rfl
  | client _ => rfl

/-- The roles of some origins are what the names that were granted by them are read as. -/
theorem map_rolesFrom_of_reads {granted : List Named} {grants : List (Grant Text S)}
    (read : List.Forall₂ (Reads parser) granted grants) (admitted : Option Text → Bool) :
    (rolesFrom admitted granted).map parser = (rolesFrom admitted grants).map .ok := by
  induction read with
  | nil => rfl
  | cons first _ ih =>
      rw [rolesFrom_cons, rolesFrom_cons, first.owner?_eq]
      split
      · rw [List.map_cons, List.map_cons, ih, first.parser_eq]
      · exact ih

end Grant

/-! ## The grants of claims -/

namespace StandardClaims

/-- The names that the realm grants; none where claims do not tell. -/
def realmNames (claims : StandardClaims) : List Text :=
  claims.realmAccess.elim [] RealmAccess.roles

/-- The clients with the names that they grant. -/
def clients (claims : StandardClaims) : List (Text × List Text) :=
  claims.resourceAccess.elim [] ResourceAccess.clients

/-- The clients are a mapping: each of them has one entry. -/
def IsMapping (claims : StandardClaims) : Prop :=
  (claims.clients.map Prod.fst).Nodup

instance (claims : StandardClaims) : Decidable claims.IsMapping :=
  inferInstanceAs (Decidable (List.Nodup _))

def namesOf (claims : StandardClaims) (client : Text) : List Text :=
  (claims.clients.lookup client).getD []

/-- The clients that grant some name. -/
def granting (claims : StandardClaims) : List (Text × List Text) :=
  claims.clients.filter fun entry => !entry.2.isEmpty

/-- In a mapping the names of a client are those of its entry. -/
theorem IsMapping.namesOf_eq {claims : StandardClaims} (mapping : claims.IsMapping)
    {entry : Text × List Text} (member : entry ∈ claims.clients) :
    claims.namesOf entry.1 = entry.2 := by
  rcases List.append_of_mem member with ⟨before, after, split⟩
  have found : claims.clients.lookup entry.1 = some entry.2 := by
    refine List.lookup_eq_some_iff.2 ⟨before, after, split, ?_⟩
    intro other earlier
    have distinct := mapping
    rw [IsMapping, split, List.map_append, List.nodup_append] at distinct
    have different := distinct.2.2 other.1 (List.mem_map_of_mem earlier) entry.1 (by simp)
    simpa using different.symm
  rw [namesOf, found]
  rfl

end StandardClaims

namespace Grant

variable {entries others : List (Text × List Text)} {claims : StandardClaims}

theorem named_eq (claims : StandardClaims) :
    named claims.realmAccess claims.resourceAccess =
      claims.realmNames.map realm ++ ofClients ⟨claims.clients⟩ := by
  unfold named StandardClaims.realmNames StandardClaims.clients
  cases claims.realmAccess <;> cases claims.resourceAccess <;> rfl

theorem ofClients_cons (entry : Text × List Text) (entries : List (Text × List Text)) :
    ofClients ⟨entry :: entries⟩ = entry.2.map (client entry.1) ++ ofClients ⟨entries⟩ :=
  rfl

theorem rolesFrom_map (source : Text → Named) {owner : Option Text}
    (named : ∀ name, (source name).role = name) (origin : ∀ name, (source name).owner? = owner)
    (admitted : Option Text → Bool) (names : List Text) :
    rolesFrom admitted (names.map source) = if admitted owner then names else [] := by
  induction names with
  | nil => exact (ite_self []).symm
  | cons name names ih =>
      rw [List.map_cons, rolesFrom_cons, ih, named, origin]
      split <;> rfl

theorem rolesFrom_ofClients (admitted : Option Text → Bool)
    (entries : List (Text × List Text)) :
    rolesFrom admitted (ofClients ⟨entries⟩) =
      (entries.filter fun entry => admitted (some entry.1)).flatMap Prod.snd := by
  induction entries with
  | nil => rfl
  | cons entry entries ih =>
      have first : rolesFrom admitted (entry.2.map (client entry.1)) =
          if admitted (some entry.1) then entry.2 else [] :=
        rolesFrom_map (client entry.1) (fun _ => rfl) (fun _ => rfl) admitted entry.2
      rw [ofClients_cons, rolesFrom_append, first, ih, List.filter_cons]
      split <;> rfl

/-- In a mapping the grants of a client are those of its one entry. -/
theorem rolesFrom_ofClients_of_nodup (distinct : (entries.map Prod.fst).Nodup) (client : Text) :
    rolesFrom (· == some client) (ofClients ⟨entries⟩) = (entries.lookup client).getD [] := by
  rw [rolesFrom_ofClients]
  induction entries with
  | nil => rfl
  | cons entry entries ih =>
      rcases entry with ⟨owner, names⟩
      rw [List.map_cons, List.nodup_cons] at distinct
      by_cases same : owner = client
      · subst same
        have others : entries.filter (fun entry => some entry.1 == some owner) = [] := by
          apply List.filter_eq_nil_iff.2
          intro entry member equal
          have key : entry.1 = owner := by simpa using equal
          exact distinct.1 (List.mem_map.2 ⟨entry, member, key⟩)
        rw [List.filter_cons_of_pos (by simp), others, List.lookup_cons_self]
        exact List.append_nil names
      · have different : (client == owner) = false := beq_eq_false_iff_ne.2 (Ne.symm same)
        rw [List.filter_cons_of_neg (by simpa using same), ih distinct.2, List.lookup_cons,
          different]

theorem rolesFrom_named (admitted : Option Text → Bool) (claims : StandardClaims) :
    rolesFrom admitted (named claims.realmAccess claims.resourceAccess) =
      (if admitted none then claims.realmNames else []) ++
        rolesFrom admitted (ofClients ⟨claims.clients⟩) := by
  have realms : rolesFrom admitted (claims.realmNames.map realm) =
      if admitted none then claims.realmNames else [] :=
    rolesFrom_map realm (fun _ => rfl) (fun _ => rfl) admitted claims.realmNames
  rw [named_eq, rolesFrom_append, realms]

/-- The names that the realm is found to grant. -/
theorem realm_named (claims : StandardClaims) :
    rolesFrom Option.isNone (named claims.realmAccess claims.resourceAccess) =
      claims.realmNames := by
  rw [rolesFrom_named, rolesFrom_ofClients]
  simp

theorem clients_named (claims : StandardClaims) :
    rolesFrom Option.isSome (named claims.realmAccess claims.resourceAccess) =
      claims.clients.flatMap Prod.snd := by
  rw [rolesFrom_named, rolesFrom_ofClients]
  simp

theorem client_named (mapping : claims.IsMapping) (client : Text) :
    rolesFrom (· == some client) (named claims.realmAccess claims.resourceAccess) =
      claims.namesOf client := by
  rw [rolesFrom_named, rolesFrom_ofClients_of_nodup mapping]
  rfl

/-! ## Finding the entries again -/

theorem ofClients_granting (claims : StandardClaims) :
    ofClients ⟨claims.granting⟩ = ofClients ⟨claims.clients⟩ := by
  unfold StandardClaims.granting
  induction claims.clients with
  | nil => rfl
  | cons entry entries ih =>
      rcases entry with ⟨owner, names⟩
      cases names with
      | nil => exact ih
      | cons name names => exact congrArg (_ ++ ·) ih

/-- The first grant of entries is by the client of the first entry, if this grants a name. -/
theorem owner?_of_ofClients {entry : Text × List Text} (filled : entry.2 ≠ [])
    (entries : List (Text × List Text)) :
    (ofClients ⟨entry :: entries⟩).head?.bind owner? = some entry.1 := by
  rcases entry with ⟨owner, names⟩
  cases names with
  | nil => exact absurd rfl filled
  | cons name names => rfl

theorem rolesFrom_ofClients_head {entry : Text × List Text}
    (distinct : ((entry :: entries).map Prod.fst).Nodup) :
    rolesFrom (· == some entry.1) (ofClients ⟨entry :: entries⟩) = entry.2 := by
  rw [rolesFrom_ofClients_of_nodup distinct, List.lookup_cons_self]
  rfl

/-- Entries with names are found again from what they grant. -/
theorem eq_of_ofClients (distinct : (entries.map Prod.fst).Nodup)
    (distinct' : (others.map Prod.fst).Nodup) (filled : ∀ entry ∈ entries, entry.2 ≠ [])
    (filled' : ∀ other ∈ others, other.2 ≠ []) (same : ofClients ⟨entries⟩ = ofClients ⟨others⟩) :
    entries = others := by
  -- The first grants have one client, all its grants make up its entry, and the rest is left.
  induction entries generalizing others with
  | nil =>
      cases others with
      | nil => rfl
      | cons other others =>
          have first := owner?_of_ofClients (filled' other List.mem_cons_self) others
          rw [← same] at first
          cases first
  | cons entry entries ih =>
      have first := owner?_of_ofClients (filled entry List.mem_cons_self) entries
      cases others with
      | nil =>
          rw [same] at first
          cases first
      | cons other others =>
          rw [same, owner?_of_ofClients (filled' other List.mem_cons_self)] at first
          have owner : other.1 = entry.1 := Option.some.inj first
          have names : entry.2 = other.2 := by
            rw [← rolesFrom_ofClients_head distinct, same, ← owner, rolesFrom_ofClients_head distinct']
          have equal : entry = other := Prod.ext owner.symm names
          subst equal
          rw [ofClients_cons, ofClients_cons] at same
          rw [List.map_cons, List.nodup_cons] at distinct distinct'
          rw [ih distinct.2 distinct'.2 (fun other member => filled other (.tail _ member))
            (fun other member => filled' other (.tail _ member)) (List.append_cancel_left same)]

theorem nodup_granting (mapping : claims.IsMapping) : (claims.granting.map Prod.fst).Nodup :=
  List.Nodup.sublist (List.filter_sublist.map Prod.fst) mapping

theorem filled_of_mem_granting {entry : Text × List Text} (member : entry ∈ claims.granting) :
    entry.2 ≠ [] := by
  have filled := (List.mem_filter.1 member).2
  simpa using filled

/-- What claims grant tells the names of the realm, and the clients that grant any. -/
theorem named_eq_iff {first second : StandardClaims} (mapping : first.IsMapping)
    (mapping' : second.IsMapping) :
    named first.realmAccess first.resourceAccess = named second.realmAccess second.resourceAccess ↔
      first.realmNames = second.realmNames ∧ first.granting = second.granting := by
  constructor
  · intro same
    have realms : first.realmNames = second.realmNames := by
      rw [← realm_named, same, realm_named]
    refine ⟨realms, ?_⟩
    rw [named_eq, named_eq, realms] at same
    apply eq_of_ofClients (nodup_granting mapping) (nodup_granting mapping')
      (fun _ => filled_of_mem_granting) (fun _ => filled_of_mem_granting)
    rw [ofClients_granting, ofClients_granting]
    exact List.append_cancel_left same
  · rintro ⟨realms, granting⟩
    rw [named_eq, named_eq, realms, ← ofClients_granting, granting, ofClients_granting]

end Grant
end RealmAuth
