import Mathlib.Data.List.Forall2
import RealmAuth.Proofs.Outcome
import RealmAuth.Role.Grant

namespace RealmAuth

/-!
How the role names of a token are read.  The realm and each client list names of their
own, and all of them are gathered into one list.  A reading that comes to its end has made
a grant of each name, at its place and with its origin, and has asked for each name once.
A reading that the parser breaks off has asked for the names up to the one that it fails
at, and has nothing to show for them.
-/

namespace Grant

variable {R : Type} {parser : RoleParser R}

/-- The parser reads the name of a grant; what is granted is a role then, by the same origin. -/
inductive Reads (parser : RoleParser R) : Named → Grant Text R → Prop where
  | realm {name : Text} {role : R} (read : parser name = .ok role) :
      Reads parser (.realm name) (.realm role)
  | client {owner name : Text} {role : R} (read : parser name = .ok role) :
      Reads parser (.client owner name) (.client owner role)

/-- How the reading of granted names ends, behind the grants that were gathered before. -/
inductive EndsReading (parser : RoleParser R) (gathered : List (Grant Text R)) :
    List Named → Traced (List (Grant Text R)) → Prop where
  | complete {granted : List Named} {grants : List (Grant Text R)}
      (read : List.Forall₂ (Reads parser) granted grants) :
      EndsReading parser gathered granted ⟨granted.map role, .ok (gathered ++ grants)⟩
  | stopped {before after : List Named} {grant : Named} {failure : Failure}
      (earlier : ∀ other ∈ before, ∃ value, parser other.role = .ok value)
      (failing : parser grant.role = .error failure) :
      EndsReading parser gathered (before ++ grant :: after)
        ⟨(before ++ [grant]).map role, .error failure⟩

theorem Reads.parser_eq {granted : Named} {grant : Grant Text R}
    (reads : Reads parser granted grant) : parser granted.role = .ok grant.role := by
  cases reads with
  | realm read => exact read
  | client read => exact read

theorem Reads.rightUnique (parser : RoleParser R) : Relator.RightUnique (Reads parser) := by
  intro granted grant other reads also
  have same : grant.role = other.role :=
    Except.ok.inj (reads.parser_eq.symm.trans also.parser_eq)
  cases reads with
  | realm _ =>
      cases also with
      | realm _ => exact congrArg Grant.realm same
  | client _ =>
      cases also with
      | client _ => exact congrArg (Grant.client _) same

theorem exists_read_of_forall₂ {granted : List Named} {grants : List (Grant Text R)}
    (read : List.Forall₂ (Reads parser) granted grants) :
    ∀ other ∈ granted, ∃ value, parser other.role = .ok value := by
  induction read with
  | nil => simp
  | cons first _ ih => exact List.forall_mem_cons.2 ⟨⟨_, first.parser_eq⟩, ih⟩

theorem not_forall₂_of_failing {before after : List Named} {grant : Named} {failure : Failure}
    (failing : parser grant.role = .error failure) (grants : List (Grant Text R)) :
    ¬ List.Forall₂ (Reads parser) (before ++ grant :: after) grants := by
  intro read
  rcases exists_read_of_forall₂ read grant (by simp) with ⟨value, known⟩
  rw [failing] at known
  cases known

/-- What is read before the first failure of a parser are the names that come before it. -/
theorem takeWhile_of_first_failing {before : List Named} {grant : Named} {failure : Failure}
    (earlier : ∀ other ∈ before, ∃ value, parser other.role = .ok value)
    (failing : parser grant.role = .error failure) (after : List Named) :
    (before ++ grant :: after).takeWhile (fun other => (parser other.role).isOk) = before := by
  have passed : ∀ other ∈ before, (parser other.role).isOk = true := by
    intro other member
    rcases earlier other member with ⟨value, known⟩
    rw [known]
    rfl
  rw [List.takeWhile_append_of_pos passed, List.takeWhile_cons, failing]
  exact List.append_nil before

namespace EndsReading

variable {gathered : List (Grant Text R)} {granted : List Named}

theorem empty : EndsReading parser gathered [] (pure gathered) := by
  have ends : EndsReading parser gathered [] ⟨[], .ok (gathered ++ [])⟩ := complete .nil
  rwa [List.append_nil] at ends

/-- A reading that ends behind a reading that ends. -/
theorem bind {first second : List Named} {reading : Traced (List (Grant Text R))}
    {next : List (Grant Text R) → Traced (List (Grant Text R))}
    (ends : EndsReading parser gathered first reading)
    (further : ∀ now, EndsReading parser now second (next now)) :
    EndsReading parser gathered (first ++ second) (reading >>= next) := by
  cases ends with
  | @complete _ grants read =>
      have later := further (gathered ++ grants)
      generalize outcome : next (gathered ++ grants) = rest at later
      rw [Traced.bind_ok, outcome]
      cases later with
      | @complete _ others more =>
          rw [← List.map_append, List.append_assoc]
          exact .complete (List.rel_append read more)
      | @stopped before after grant failure earlier failing =>
          rw [← List.map_append, ← List.append_assoc, ← List.append_assoc]
          exact .stopped
            (List.forall_mem_append.2 ⟨exists_read_of_forall₂ read, earlier⟩) failing
  | @stopped before after grant failure earlier failing =>
      rw [Traced.bind_error, List.append_assoc, List.cons_append]
      exact .stopped earlier failing

/-- Reading one name ends with one more grant, or breaks off at the name. -/
theorem single {granted : Named} {origin : R → Grant Text R} (gathered : List (Grant Text R))
    (reads : ∀ value, parser granted.role = .ok value → Reads parser granted (origin value)) :
    EndsReading parser gathered [granted]
      (parser.run granted.role >>= fun value => pure (gathered ++ [origin value])) := by
  unfold RoleParser.run
  cases read : parser granted.role with
  | ok value =>
      have more : List.Forall₂ (Reads parser) [granted] [origin value] :=
        .cons (reads value read) .nil
      exact complete more
  | error failure =>
      have earlier : ∀ other ∈ ([] : List Named), ∃ value, parser other.role = .ok value := by simp
      exact stopped earlier read

/-- The names of one origin are read one after the other. -/
theorem gather {source : Text → Named} {origin : R → Grant Text R}
    (named : ∀ name, (source name).role = name)
    (reads : ∀ name value, parser name = .ok value → Reads parser (source name) (origin value))
    (names : List Text) (gathered : List (Grant Text R)) :
    EndsReading parser gathered (names.map source) (Grant.gather parser origin gathered names) := by
  induction names generalizing gathered with
  | nil => exact empty
  | cons name names ih =>
      have first : EndsReading parser gathered [source name]
          (parser.run (source name).role >>= fun value => pure (gathered ++ [origin value])) :=
        single gathered fun value read => reads name value (named name ▸ read)
      have both := first.bind fun now => ih now
      rw [bind_assoc, named] at both
      exact both

/-- The names of the clients are read one client after the other. -/
theorem gatherClients (clients : List (Text × List Text))
    (gathered : List (Grant Text R)) :
    EndsReading parser gathered (ofClients ⟨clients⟩)
      (Grant.gatherClients parser gathered clients) := by
  induction clients generalizing gathered with
  | nil => exact empty
  | cons entry clients ih =>
      have first : EndsReading parser gathered (entry.2.map (.client entry.1))
          (Grant.gather parser (.client entry.1) gathered entry.2) :=
        gather (fun _ => rfl) (fun _ _ read => .client read) entry.2 gathered
      exact first.bind fun now => ih now

/-- The names of the realm are read first, then those of each client. -/
theorem extract (parser : RoleParser R) (realmAccess : Option RealmAccess)
    (resourceAccess : Option ResourceAccess) :
    EndsReading parser [] (named realmAccess resourceAccess)
      (Grant.extract parser realmAccess resourceAccess) := by
  unfold Grant.extract named
  apply EndsReading.bind
  · cases realmAccess with
    | none => exact empty
    | some access => exact gather (fun _ => rfl) (fun _ _ read => .realm read) access.roles []
  · intro now
    cases resourceAccess with
    | none => exact empty
    | some access => exact gatherClients access.clients now

/-- A reading ends in one way only. -/
theorem unique {outcome other : Traced (List (Grant Text R))}
    (ends : EndsReading parser gathered granted outcome)
    (also : EndsReading parser gathered granted other) : outcome = other := by
  cases ends with
  | complete read =>
      generalize same : granted = names at also
      cases also with
      | complete read' =>
          subst same
          rw [List.right_unique_forall₂' (Reads.rightUnique parser) read read']
      | stopped _ failing =>
          subst same
          exact absurd read (not_forall₂_of_failing failing _)
  | @stopped before after grant failure earlier failing =>
      generalize same : before ++ grant :: after = names at also
      cases also with
      | complete read =>
          subst same
          exact absurd read (not_forall₂_of_failing failing _)
      | @stopped before' after' grant' failure' earlier' failing' =>
          have first : before = before' := by
            rw [← takeWhile_of_first_failing earlier failing after, same,
              takeWhile_of_first_failing earlier' failing' after']
          subst first
          rcases List.cons.inj (List.append_cancel_left same) with ⟨rfl, rfl⟩
          rw [failing] at failing'
          cases failing'
          rfl

variable {outcome : Traced (List (Grant Text R))}

/-- A reading ends well exactly when every name is read. -/
theorem exists_ok_iff (ends : EndsReading parser [] granted outcome) :
    (∃ grants, outcome.result = .ok grants) ↔
      ∀ other ∈ granted, ∃ value, parser other.role = .ok value := by
  cases ends with
  | complete read => exact iff_of_true ⟨_, rfl⟩ (exists_read_of_forall₂ read)
  | @stopped before after grant failure _ failing =>
      apply iff_of_false
      · rintro ⟨_, impossible⟩
        cases impossible
      · intro all
        rcases all grant (by simp) with ⟨value, read⟩
        rw [failing] at read
        cases read

theorem length_of_ok (ends : EndsReading parser [] granted outcome) {grants : List (Grant Text R)}
    (read : outcome.result = .ok grants) : grants.length = granted.length := by
  cases ends with
  | complete related =>
      cases read
      exact related.length_eq.symm
  | stopped _ _ => cases read

end EndsReading

end Grant
end RealmAuth
