import RealmAuth.Halt

namespace RealmAuth
namespace Outcome

/-!
Computations that stop early, taken apart.  A chain of steps has a value exactly
when every step has one, and it is only refused when every step is; these two
facts, once for each way of joining steps, are all that later proofs use.
-/

variable {ε δ α β : Type}

theorem bind_eq_ok_iff {x : Except ε α} {f : α → Except ε β} {value : β} :
    x >>= f = .ok value ↔ ∃ found, x = .ok found ∧ f found = .ok value := by
  cases x <;> simp [bind, Except.bind]

@[simp] theorem ok_bind {value : α} {f : α → Except ε β} : Except.ok value >>= f = f value := rfl

@[simp] theorem error_bind {fault : ε} {f : α → Except ε β} :
    (Except.error fault : Except ε α) >>= f = .error fault := rfl

theorem bind_eq_error_iff {x : Except ε α} {f : α → Except ε β} {fault : ε} :
    x >>= f = .error fault ↔
      x = .error fault ∨ ∃ found, x = .ok found ∧ f found = .error fault := by
  cases x <;> simp [bind, Except.bind]

theorem map_eq_ok_iff {x : Except ε α} {f : α → β} {value : β} :
    x.map f = .ok value ↔ ∃ found, x = .ok found ∧ f found = value := by
  cases x <;> simp [Except.map]

@[simp] theorem mapError_ok {f : ε → δ} {value : α} :
    (Except.ok value : Except ε α).mapError f = .ok value := rfl

@[simp] theorem mapError_error {f : ε → δ} {fault : ε} :
    (Except.error fault : Except ε α).mapError f = .error (f fault) := rfl

theorem mapError_eq_ok_iff {x : Except ε α} {f : ε → δ} {value : α} :
    x.mapError f = .ok value ↔ x = .ok value := by
  cases x <;> simp

theorem mapError_eq_error_iff {x : Except ε α} {f : ε → δ} {fault : δ} :
    x.mapError f = .error fault ↔ ∃ cause, x = .error cause ∧ f cause = fault := by
  cases x <;> simp

@[simp] theorem refuse_ne_ok {fault : ε} {value : α} :
    (refuse fault : Except (Halt ε) α) ≠ .ok value := by
  simp [refuse]

@[simp] theorem escape_ne_ok {cause : Escape} {value : α} :
    (escape cause : Except (Halt ε) α) ≠ .ok value := by
  simp [escape]

/-! ## Computations that stop by refusals only -/

/-- A computation has a value, or is refused for one of the given faults. -/
def Refuses (allowed : ε → Prop) : Except (Halt ε) α → Prop
  | .ok _ => True
  | .error (.refused fault) => allowed fault
  | .error (.escaped _) => False

variable {allowed wider : ε → Prop}

theorem Refuses.mono {x : Except (Halt ε) α} (bounded : Refuses allowed x)
    (weaken : ∀ fault, allowed fault → wider fault) : Refuses wider x := by
  cases x with
  | ok value => trivial
  | error halt =>
      cases halt with
      | refused fault => exact weaken fault bounded
      | escaped cause => exact bounded

theorem Refuses.bind {x : Except (Halt ε) α} {f : α → Except (Halt ε) β}
    (first : Refuses allowed x) (next : ∀ value, x = .ok value → Refuses allowed (f value)) :
    Refuses allowed (x >>= f) := by
  cases x with
  | ok value => exact next value rfl
  | error halt => cases halt <;> exact first

theorem Refuses.map {x : Except (Halt ε) α} (bounded : Refuses allowed x) (f : α → β) :
    Refuses allowed (x.map f) := by
  cases x with
  | ok value => trivial
  | error halt => cases halt <;> exact bounded

theorem Refuses.mapError {x : Except (Halt δ) α} {f : δ → ε} {inner : δ → Prop}
    (bounded : Refuses inner x) (send : ∀ fault, inner fault → allowed (f fault)) :
    Refuses allowed (x.mapError (Halt.map f)) := by
  cases x with
  | ok value => trivial
  | error halt =>
      cases halt with
      | refused fault => exact send fault bounded
      | escaped cause => exact bounded

/-- A computation only refuses exactly when it does not escape and its refusals are allowed. -/
theorem refuses_iff {x : Except (Halt ε) α} :
    Refuses allowed x ↔
      (∃ value, x = .ok value) ∨ ∃ fault, x = .error (.refused fault) ∧ allowed fault := by
  cases x with
  | ok value => simp [Refuses]
  | error halt => cases halt <;> simp [Refuses]

theorem toOption_eq_some_iff {x : Except ε α} {value : α} :
    x.toOption = some value ↔ x = .ok value := by
  cases x <;> simp [Except.toOption]

/-! ## What a computation stops for -/

/-- What a computation stops for, if it stops. -/
def failure? : Except ε α → Option ε
  | .ok _ => none
  | .error failure => some failure

/-- A check that is known by the fault that it finds. -/
def stoppedBy : Option ε → Except (Halt ε) Unit
  | none => .ok ()
  | some fault => refuse fault

theorem failure?_eq_some_iff {x : Except ε α} {failure : ε} :
    failure? x = some failure ↔ x = .error failure := by
  cases x <;> simp [failure?]

theorem failure?_eq_none_iff {x : Except ε α} : failure? x = none ↔ ∃ value, x = .ok value := by
  cases x <;> simp [failure?]

/-- A chain stops where its first part does, or where what follows the first part does. -/
theorem failure?_bind {x : Except ε α} {f : α → Except ε β} {rest : Option ε}
    (next : ∀ value, x = .ok value → failure? (f value) = rest) :
    failure? (x >>= f) = (failure? x).or rest := by
  cases x with
  | ok value => exact next value rfl
  | error failure => rfl

theorem failure?_bind_ok (x : Except ε α) (f : α → β) :
    failure? (x >>= fun value => .ok (f value)) = failure? x := by
  cases x <;> rfl

@[simp] theorem failure?_stoppedBy (fault : Option ε) :
    failure? (stoppedBy fault) = fault.map Halt.refused := by
  cases fault <;> rfl

/-- One check behind another finds the fault of the first one, or else its own. -/
theorem stoppedBy_bind (first second : Option ε) :
    (stoppedBy first >>= fun _ => stoppedBy second) = stoppedBy (first.or second) := by
  cases first <;> rfl

end Outcome
end RealmAuth
