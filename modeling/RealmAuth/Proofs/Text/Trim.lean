import Mathlib.Data.List.TakeWhile
import RealmAuth.Text.Blank
import RealmAuth.Text.Split

namespace RealmAuth
namespace Text

/-!
Texts that were put between blanks, or between separators, and are taken out again.
Stripping finds the one part of a text that has no blank at its ends and only blanks
around it; cutting at a separator finds the pieces that were joined by it, if none of
them holds the separator, and what holds none itself is only found within a piece.
-/

def Blank (cs : List Char) : Prop :=
  ∀ c ∈ cs, isBlank c = true

instance (cs : List Char) : Decidable (Blank cs) :=
  List.decidableBAll _ cs

/-- A text with no blank at either end. -/
structure Trimmed (cs : List Char) : Prop where
  start : ∀ c ∈ cs.head?, isBlank c = false
  stop : ∀ c ∈ cs.getLast?, isBlank c = false

theorem trimmed_iff_all {cs : List Char} :
    Trimmed cs ↔ cs.head?.all (fun c => !isBlank c) = true ∧
      cs.getLast?.all (fun c => !isBlank c) = true := by
  simp only [Option.all_eq_true, Bool.not_eq_true']
  constructor
  · rintro ⟨start, stop⟩
    exact ⟨start, stop⟩
  · rintro ⟨start, stop⟩
    exact ⟨start, stop⟩

instance (cs : List Char) : Decidable (Trimmed cs) :=
  decidable_of_iff' _ trimmed_iff_all

/-! ## Stripping -/

theorem dropWhile_of_start {p : Char → Bool} {before rest : List Char}
    (passed : ∀ c ∈ before, p c = true) (start : ∀ c ∈ rest.head?, p c = false) :
    (before ++ rest).dropWhile p = rest := by
  rw [List.dropWhile_append_of_pos passed]
  cases rest with
  | nil => rfl
  | cons c rest =>
      have kept : ¬ p c = true := by simp [start c rfl]
      exact List.dropWhile_cons_of_neg kept

theorem strip_of_blank {cs : List Char} (blank : Blank cs) : strip cs = [] := by
  have none : cs.dropWhile isBlank = [] := by
    have start : ∀ c ∈ ([] : List Char).head?, isBlank c = false := by simp
    have all := dropWhile_of_start blank start
    rwa [List.append_nil] at all
  rw [strip, trimStart, none]
  rfl

/-- Blanks around a text without blanks at its ends are taken off, and nothing else is. -/
theorem strip_padded {before core after : List Char} (blankBefore : Blank before)
    (trimmed : Trimmed core) (blankAfter : Blank after) :
    strip (before ++ core ++ after) = core := by
  cases core with
  | nil =>
      rw [List.append_nil]
      exact strip_of_blank (List.forall_mem_append.2 ⟨blankBefore, blankAfter⟩)
  | cons c core =>
      have left : (before ++ (c :: core ++ after)).dropWhile isBlank = c :: core ++ after :=
        dropWhile_of_start blankBefore trimmed.start
      have right : (after.reverse ++ (c :: core).reverse).dropWhile isBlank =
          (c :: core).reverse := by
        apply dropWhile_of_start
        · intro last member
          exact blankAfter last (List.mem_reverse.1 member)
        · rw [List.head?_reverse]
          exact trimmed.stop
      rw [strip, trimStart, trimEnd, List.append_assoc, left, List.reverse_append, right,
        List.reverse_reverse]

theorem trimmed_strip (cs : List Char) : Trimmed (strip cs) := by
  have first : ∀ (rest : List Char), ∀ c ∈ (rest.dropWhile isBlank).head?, isBlank c = false := by
    intro rest c start
    have kept := List.head?_dropWhile_not isBlank rest
    rw [start] at kept
    exact kept
  constructor
  · intro c start
    apply first cs c
    rcases List.head?_eq_some_iff.1 start with ⟨more, shape⟩
    have within : strip cs <+: cs.dropWhile isBlank := by
      rw [← List.reverse_suffix]
      unfold strip trimEnd trimStart
      rw [List.reverse_reverse]
      exact List.dropWhile_suffix _
    rcases within with ⟨blanks, split⟩
    rw [← split, shape]
    rfl
  · intro c stop
    unfold strip trimEnd at stop
    rw [List.getLast?_reverse] at stop
    exact first _ c stop

/-- A text is its stripped part with blanks around it. -/
theorem exists_strip_padded (cs : List Char) :
    ∃ before after, Blank before ∧ Blank after ∧ cs = before ++ strip cs ++ after := by
  refine ⟨cs.takeWhile isBlank, ((trimStart isBlank cs).reverse.takeWhile isBlank).reverse,
    ?_, ?_, ?_⟩
  · intro c member
    exact List.mem_takeWhile_imp member
  · intro c member
    exact List.mem_takeWhile_imp (List.mem_reverse.1 member)
  · unfold strip trimEnd
    rw [List.append_assoc, ← List.reverse_append, List.takeWhile_append_dropWhile,
      List.reverse_reverse]
    exact List.takeWhile_append_dropWhile.symm

/-- What stripping finds is the only part that has no blank at its ends and blanks around it. -/
theorem strip_eq_iff {cs core : List Char} :
    strip cs = core ↔ Trimmed core ∧
      ∃ before after, Blank before ∧ Blank after ∧ cs = before ++ core ++ after := by
  constructor
  · rintro rfl
    exact ⟨trimmed_strip cs, exists_strip_padded cs⟩
  · rintro ⟨trimmed, before, after, blankBefore, blankAfter, rfl⟩
    exact strip_padded blankBefore trimmed blankAfter

theorem strip_of_trimmed {cs : List Char} (trimmed : Trimmed cs) : strip cs = cs :=
  strip_eq_iff.2 ⟨trimmed, [], [], by simp [Blank], by simp [Blank], by simp⟩

theorem strip_strip (cs : List Char) : strip (strip cs) = strip cs :=
  strip_of_trimmed (trimmed_strip cs)

theorem squeeze_of_blank {cs : List Char} (blank : Blank cs) : squeeze cs = [] := by
  apply List.filter_eq_nil_iff.2
  intro c member
  simp [blank c member]

/-- The blanks around a text are among those that squeezing takes out. -/
theorem squeeze_strip (cs : List Char) : squeeze (strip cs) = squeeze cs := by
  rcases exists_strip_padded cs with ⟨before, after, blankBefore, blankAfter, shape⟩
  have apart : squeeze (before ++ strip cs ++ after) =
      squeeze before ++ squeeze (strip cs) ++ squeeze after := by
    simp only [squeeze, List.filter_append]
  rw [squeeze_of_blank blankBefore, squeeze_of_blank blankAfter, List.nil_append,
    List.append_nil, ← shape] at apart
  exact apart.symm

/-! ## Cutting -/

variable {separator : Char}

theorem pieces_of_clean {cs : List Char} (clean : separator ∉ cs) : pieces separator cs = [cs] := by
  induction cs with
  | nil => rfl
  | cons c cs ih =>
      rw [List.mem_cons, not_or] at clean
      rw [pieces, if_neg (Ne.symm clean.1), ih clean.2]

theorem pieces_append {first : List Char} (clean : separator ∉ first) (rest : List Char) :
    pieces separator (first ++ separator :: rest) = first :: pieces separator rest := by
  induction first with
  | nil => rw [List.nil_append, pieces, if_pos rfl]
  | cons c first ih =>
      rw [List.mem_cons, not_or] at clean
      rw [List.cons_append, pieces, if_neg (Ne.symm clean.1), ih clean.2]

/-- Pieces that hold no separator are found again where they were joined. -/
theorem pieces_join {parts : List (List Char)} (some : parts ≠ [])
    (clean : ∀ part ∈ parts, separator ∉ part) :
    pieces separator (join separator parts) = parts := by
  induction parts with
  | nil => exact absurd rfl some
  | cons part rest ih =>
      rw [List.forall_mem_cons] at clean
      cases rest with
      | nil => exact pieces_of_clean clean.1
      | cons next rest =>
          rw [join, pieces_append clean.1, ih (List.cons_ne_nil _ _) clean.2]
          simp

theorem infix_of_infix_separated {text first rest : List Char} (clean : separator ∉ text)
    (within : text <:+: first ++ separator :: rest) : text <:+: first ∨ text <:+: rest := by
  rcases within with ⟨before, after, shape⟩
  rcases List.append_eq_append_iff.1 shape with ⟨more, ended, _⟩ | ⟨beyond, reached, left⟩
  · exact Or.inl ⟨before, more, ended.symm⟩
  · cases beyond with
    | nil =>
        rw [List.append_nil] at reached
        exact Or.inl ⟨before, [], by rw [List.append_nil, reached]⟩
    | cons c beyond =>
        obtain ⟨rfl, rfl⟩ := List.cons.inj left
        -- The text reaches behind the separator, so it has to start there.
        rcases List.append_eq_append_iff.1 reached with ⟨start, _, inside⟩ | ⟨start, _, behind⟩
        · exact absurd (inside ▸ List.mem_append_right start List.mem_cons_self) clean
        · cases start with
          | nil =>
              rw [List.nil_append] at behind
              exact absurd (behind ▸ List.mem_cons_self) clean
          | cons d start =>
              obtain ⟨_, rfl⟩ := List.cons.inj behind
              exact Or.inr ⟨start, after, rfl⟩

/-- A text without the separator that stands in a joined text stands within one of the pieces. -/
theorem infix_of_infix_join {text : List Char} {parts : List (List Char)} (some : text ≠ [])
    (clean : separator ∉ text) (within : text <:+: join separator parts) :
    ∃ part ∈ parts, text <:+: part := by
  induction parts with
  | nil => exact absurd (List.infix_nil.1 within) some
  | cons part rest ih =>
      by_cases last : rest = []
      · subst last
        exact ⟨part, List.mem_cons_self, within⟩
      · rw [join_cons last] at within
        rcases infix_of_infix_separated clean within with first | later
        · exact ⟨part, List.mem_cons_self, first⟩
        · rcases ih later with ⟨found, member, stands⟩
          exact ⟨found, List.mem_cons_of_mem part member, stands⟩

end Text
end RealmAuth
