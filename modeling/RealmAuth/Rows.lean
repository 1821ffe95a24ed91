namespace RealmAuth

/-!
A list cut into rows of one width.  Every row but the last is full, no row is
empty, and the rows one after the other are the list again.
-/

/-- The rows of `width + 1` entries that a list is cut into. -/
def rows {α : Type} (width : Nat) (xs : List α) : List (List α) :=
  if xs.isEmpty then []
  else xs.take (width + 1) :: rows width (xs.drop (width + 1))
termination_by xs.length
decreasing_by
  rename_i nonempty
  cases xs with
  | nil => simp at nonempty
  | cons x xs => simp only [List.length_drop, List.length_cons]; omega

@[simp] theorem rows_nil {α : Type} (width : Nat) : rows width ([] : List α) = [] := by
  rw [rows]; simp

/-- The rows hold the list, nothing lost and nothing added. -/
theorem flatten_rows {α : Type} (width : Nat) (xs : List α) :
    (rows width xs).flatten = xs := by
  fun_induction rows width xs with
  | case1 xs empty => simp_all
  | case2 xs nonempty ih => rw [List.flatten_cons, ih, List.take_append_drop]

end RealmAuth
