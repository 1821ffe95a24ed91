namespace RealmAuth
namespace Text

/-!
Texts cut at a separator.  Cutting everywhere gives at least one piece, no piece
holds the separator, and joining the pieces gives the text again.
-/

/-- The pieces of a text between the occurrences of a separator. -/
def pieces (separator : Char) : List Char → List (List Char)
  | [] => [[]]
  | c :: cs =>
      if c = separator then [] :: pieces separator cs
      else
        match pieces separator cs with
        | [] => [[c]]
        | first :: rest => (c :: first) :: rest

/-- The text made of pieces with a separator between them. -/
def join (separator : Char) : List (List Char) → List Char
  | [] => []
  | [piece] => piece
  | piece :: rest => piece ++ separator :: join separator rest

theorem pieces_ne_nil (separator : Char) (cs : List Char) : pieces separator cs ≠ [] := by
  cases cs with
  | nil => simp [pieces]
  | cons c cs =>
      unfold pieces
      split
      · simp
      · split <;> simp

theorem join_cons {separator : Char} {piece : List Char} {rest : List (List Char)}
    (more : rest ≠ []) :
    join separator (piece :: rest) = piece ++ separator :: join separator rest := by
  cases rest with
  | nil => exact absurd rfl more
  | cons next rest => rfl

theorem join_cons_cons (separator c : Char) (first : List Char) (rest : List (List Char)) :
    join separator ((c :: first) :: rest) = c :: join separator (first :: rest) := by
  cases rest <;> simp [join]

theorem join_pieces (separator : Char) (cs : List Char) :
    join separator (pieces separator cs) = cs := by
  induction cs with
  | nil => rfl
  | cons c cs ih =>
      unfold pieces
      split
      · rename_i same
        rw [join_cons (pieces_ne_nil separator cs), ih, List.nil_append, same]
      · split
        · rename_i empty
          exact absurd empty (pieces_ne_nil separator cs)
        · rename_i first rest found
          rw [join_cons_cons, ← found, ih]

theorem separator_not_mem_pieces {separator : Char} {cs piece : List Char}
    (member : piece ∈ pieces separator cs) : separator ∉ piece := by
  induction cs generalizing piece with
  | nil =>
      simp only [pieces, List.mem_singleton] at member
      simp [member]
  | cons c cs ih =>
      unfold pieces at member
      split at member
      · rcases List.mem_cons.1 member with rfl | later
        · simp
        · exact ih later
      · rename_i different
        split at member
        · rename_i empty
          exact absurd empty (pieces_ne_nil separator cs)
        · rename_i first rest found
          rw [found] at ih
          rcases List.mem_cons.1 member with rfl | later
          · have clean := ih (List.mem_cons_self ..)
            simp only [List.mem_cons, not_or]
            exact ⟨fun same => different same.symm, clean⟩
          · exact ih (List.mem_cons_of_mem _ later)

/-- The two parts of a text around the first occurrence of a separator. -/
def cut? (separator : Char) : List Char → Option (List Char × List Char)
  | [] => none
  | c :: cs =>
      if c = separator then some ([], cs)
      else (cut? separator cs).map fun parts => (c :: parts.1, parts.2)

/-- The two parts of a text around the last occurrence of a separator. -/
def cutLast? (separator : Char) (cs : List Char) : Option (List Char × List Char) :=
  (cut? separator cs.reverse).map fun parts => (parts.2.reverse, parts.1.reverse)

/-- Cutting finds the first separator: the part before holds none, and nothing is lost. -/
theorem cut?_eq_some_iff {separator : Char} {cs before after : List Char} :
    cut? separator cs = some (before, after) ↔
      cs = before ++ separator :: after ∧ separator ∉ before := by
  induction cs generalizing before with
  | nil => simp [cut?]
  | cons c cs ih =>
      unfold cut?
      split
      · rename_i same
        subst same
        constructor
        · intro found
          simp only [Option.some.injEq, Prod.mk.injEq] at found
          rcases found with ⟨rfl, rfl⟩
          simp
        · rintro ⟨split, clean⟩
          cases before with
          | nil =>
              simp only [List.nil_append, List.cons.injEq, true_and] at split
              rw [split]
          | cons b before =>
              simp only [List.cons_append, List.cons.injEq] at split
              simp [split.1] at clean
      · rename_i different
        rw [Option.map_eq_some_iff]
        constructor
        · rintro ⟨⟨first, rest⟩, found, equal⟩
          simp only [Prod.mk.injEq] at equal
          rcases equal with ⟨rfl, rfl⟩
          rcases ih.1 found with ⟨split, clean⟩
          refine ⟨by rw [split, List.cons_append], ?_⟩
          simp only [List.mem_cons, not_or]
          exact ⟨fun same => different same.symm, clean⟩
        · rintro ⟨split, clean⟩
          cases before with
          | nil =>
              simp only [List.nil_append, List.cons.injEq] at split
              exact absurd split.1 different
          | cons b before =>
              simp only [List.cons_append, List.cons.injEq] at split
              simp only [List.mem_cons, not_or] at clean
              exact ⟨(before, after), ih.2 ⟨split.2, clean.2⟩, by simp [split.1]⟩

def startsWith (start cs : List Char) : Bool :=
  start.isPrefixOf cs

def holds (part : List Char) : List Char → Bool
  | [] => part.isEmpty
  | c :: cs => startsWith part (c :: cs) || holds part cs

end Text
end RealmAuth
