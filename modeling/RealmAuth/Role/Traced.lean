import RealmAuth.AuthError

namespace RealmAuth

/-!
Computations that read role names.  Besides its result, such a computation tells
which names were given to the role parser, in order; after a failure no further
name is read.
-/

/-- A computation with the names it read. -/
structure Traced (α : Type) where
  names : List Text
  result : Except Failure α

namespace Traced

variable {α β : Type}

def lift (result : Except Failure α) : Traced α :=
  ⟨[], result⟩

def bind (x : Traced α) (f : α → Traced β) : Traced β :=
  match x.result with
  | .ok value => ⟨x.names ++ (f value).names, (f value).result⟩
  | .error failure => ⟨x.names, .error failure⟩

instance : Monad Traced where
  pure value := lift (.ok value)
  bind := bind

def refuse (error : AuthError) : Traced α :=
  lift (.error (.refused error))

@[simp] theorem pure_def (value : α) : (pure value : Traced α) = ⟨[], .ok value⟩ := rfl

@[simp] theorem bind_ok (names : List Text) (value : α) (f : α → Traced β) :
    (⟨names, .ok value⟩ : Traced α) >>= f = ⟨names ++ (f value).names, (f value).result⟩ := rfl

@[simp] theorem bind_error (names : List Text) (failure : Failure) (f : α → Traced β) :
    (⟨names, .error failure⟩ : Traced α) >>= f = ⟨names, .error failure⟩ := rfl

/-- The results of computations follow one another as if nothing was traced. -/
theorem result_bind (x : Traced α) (f : α → Traced β) :
    (x >>= f).result = x.result >>= fun value => (f value).result := by
  rcases x with ⟨names, result⟩
  cases result <;> rfl

theorem id_map {α : Type} (x : Traced α) : id <$> x = x := by
  rcases x with ⟨names, result⟩
  cases result <;> simp [Functor.map, bind, lift]

theorem pure_bind {α β : Type} (value : α) (f : α → Traced β) : pure value >>= f = f value := by
  simp [Bind.bind, bind, lift, Pure.pure]

theorem bind_assoc {α β γ : Type} (x : Traced α) (f : α → Traced β) (g : β → Traced γ) :
    x >>= f >>= g = x >>= fun value => f value >>= g := by
  rcases x with ⟨names, result⟩
  cases result with
  | error failure => rfl
  | ok value =>
      simp only [Bind.bind, bind]
      cases (f value).result <;> simp [List.append_assoc]

instance : LawfulMonad Traced := LawfulMonad.mk' Traced id_map pure_bind bind_assoc

theorem result_map (f : α → β) (x : Traced α) : (f <$> x).result = x.result.map f := by
  rcases x with ⟨names, result⟩
  cases result <;> rfl

end Traced

/-- What turns a role name into a role value, or fails in a way of its own. -/
abbrev RoleParser (R : Type) := Text → Except Failure R

def RoleParser.run {R : Type} (parser : RoleParser R) (name : Text) : Traced R :=
  ⟨[name], parser name⟩

end RealmAuth
