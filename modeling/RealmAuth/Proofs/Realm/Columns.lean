import RealmAuth.Proofs.Realm.Admission
import RealmAuth.Proofs.Text.Trim

namespace RealmAuth

/-!
The normal form of a realm key.  A key is configured as a document, or as the bare body of
one.  A document stays as it is, but for blanks around it.  A bare body loses all its
blanks and is put into columns, and no other columns of the same width hold the same
letters; so a document depends on the letters of the body alone, it is its own normal
form, and the key that is read does not depend on how the body was wrapped.
-/

/-- Rows of one width, of which the last one may be shorter but is not empty. -/
structure Columns {α : Type} (width : Nat) (lines : List (List α)) : Prop where
  full : ∀ line ∈ lines.dropLast, line.length = width
  last : ∀ line ∈ lines.getLast?, 1 ≤ line.length ∧ line.length ≤ width

section Columns

variable {α : Type} {width : Nat}

theorem columns_nil : Columns width ([] : List (List α)) where
  full := by simp
  last := by simp

theorem columns_cons_iff {line next : List α} {rest : List (List α)} :
    Columns width (line :: next :: rest) ↔ line.length = width ∧ Columns width (next :: rest) := by
  constructor
  · rintro ⟨full, last⟩
    rw [List.dropLast_cons_of_ne_nil (List.cons_ne_nil _ _), List.forall_mem_cons] at full
    rw [List.getLast?_cons_cons] at last
    exact ⟨full.1, full.2, last⟩
  · rintro ⟨first, full, last⟩
    refine ⟨?_, ?_⟩
    · rw [List.dropLast_cons_of_ne_nil (List.cons_ne_nil _ _), List.forall_mem_cons]
      exact ⟨first, full⟩
    · rwa [List.getLast?_cons_cons]

theorem columns_singleton_iff {line : List α} :
    Columns width [line] ↔ 1 ≤ line.length ∧ line.length ≤ width := by
  constructor
  · rintro ⟨_, last⟩
    exact last line rfl
  · intro fits
    refine ⟨by simp, ?_⟩
    intro other member
    cases member
    exact fits

theorem columns_rows (width : Nat) (xs : List α) : Columns (width + 1) (rows width xs) := by
  fun_induction rows width xs with
  | case1 xs empty => exact columns_nil
  | case2 xs nonempty ih =>
      have some : 0 < xs.length := by
        rw [List.length_pos_iff]
        simpa using nonempty
      cases further : rows width (xs.drop (width + 1)) with
      | nil =>
          rw [columns_singleton_iff, List.length_take]
          omega
      | cons next rest =>
          have more : 0 < (xs.drop (width + 1)).length := by
            rw [List.length_pos_iff]
            intro none
            rw [none, rows_nil] at further
            cases further
          rw [List.length_drop] at more
          rw [columns_cons_iff, List.length_take, ← further]
          exact ⟨by omega, ih⟩

theorem rows_append {line others : List α} (some : 1 ≤ line.length)
    (taken : (line ++ others).take (width + 1) = line) :
    rows width (line ++ others) = line :: rows width others := by
  have left : (line ++ others).drop (width + 1) = others := by
    have whole := List.take_append_drop (width + 1) (line ++ others)
    rw [taken] at whole
    exact List.append_cancel_left whole
  have nonempty : ¬ (line ++ others).isEmpty = true := by
    cases line with
    | nil => cases some
    | cons x line => simp
  rw [rows, if_neg nonempty, taken, left]

/-- A list is cut into columns in one way only. -/
theorem Columns.eq_rows {lines : List (List α)} (columns : Columns (width + 1) lines) :
    lines = rows width lines.flatten := by
  induction lines with
  | nil => simp
  | cons line rest ih =>
      cases rest with
      | nil =>
          rcases columns_singleton_iff.1 columns with ⟨some, fits⟩
          have taken : (line ++ []).take (width + 1) = line := by
            rw [List.append_nil]
            exact List.take_of_length_le fits
          rw [List.flatten_cons, List.flatten_nil, rows_append some taken, rows_nil]
      | cons next rest =>
          rcases columns_cons_iff.1 columns with ⟨full, further⟩
          have taken : (line ++ (next :: rest).flatten).take (width + 1) = line :=
            List.take_left' full
          rw [List.flatten_cons, rows_append (by omega) taken, ← ih further]

end Columns

/-! ## Documents -/

namespace RealmKey

/-- A text that is no document, but the body of one at best. -/
def IsBody (text : List Char) : Prop :=
  ¬ documentStart <+: Text.strip text

instance (text : List Char) : Decidable (IsBody text) :=
  inferInstanceAs (Decidable (¬ _))

/-- A document of lines between its header and its footer. -/
def framed (lines : List (List Char)) : List Char :=
  Text.join '\n' (headerLine :: (lines ++ [footerLine]))

theorem document_of_not_body {text : List Char} (start : documentStart <+: Text.strip text) :
    document text = Text.strip text := by
  have recognised : Text.startsWith documentStart (Text.strip text) = true :=
    List.isPrefixOf_iff_prefix.2 start
  unfold document
  simp only [recognised, if_true]

theorem document_of_body {text : List Char} (body : IsBody text) :
    document text = framed (rows 63 (Text.squeeze text)) := by
  have unrecognised : ¬ Text.startsWith documentStart (Text.strip text) = true :=
    fun start => body (List.isPrefixOf_iff_prefix.1 start)
  unfold document
  dsimp only
  rw [if_neg unrecognised, bodyLines, Text.squeeze_strip]
  rfl

/-- The last line of joined lines ends them. -/
theorem exists_join_append (lines : List (List Char)) (last : List Char) :
    ∃ before, Text.join '\n' (lines ++ [last]) = before ++ last := by
  induction lines with
  | nil => exact ⟨[], rfl⟩
  | cons line rest ih =>
      rcases ih with ⟨before, shape⟩
      refine ⟨line ++ '\n' :: before, ?_⟩
      rw [List.cons_append, Text.join_cons (by simp), shape, List.append_assoc, List.cons_append]

theorem framed_eq (lines : List (List Char)) :
    ∃ inner, framed lines = headerLine ++ inner ++ footerLine := by
  rcases exists_join_append lines footerLine with ⟨before, shape⟩
  refine ⟨'\n' :: before, ?_⟩
  rw [framed, Text.join_cons (by simp), shape, List.append_assoc, List.cons_append]

theorem trimmed_framed (lines : List (List Char)) : Text.Trimmed (framed lines) := by
  rcases framed_eq lines with ⟨inner, shape⟩
  rw [shape]
  constructor
  · intro c start
    have dash : c = '-' := (Option.mem_some_iff.1 start).symm
    rw [dash]
    decide
  · intro c stop
    have last : footerLine.getLast? = some '-' := by decide
    rw [List.getLast?_append, last, Option.some_or] at stop
    have dash : c = '-' := (Option.mem_some_iff.1 stop).symm
    rw [dash]
    decide

theorem start_framed (lines : List (List Char)) : documentStart <+: framed lines := by
  rcases framed_eq lines with ⟨inner, shape⟩
  have header : documentStart <+: headerLine := by decide
  rw [shape, List.append_assoc]
  exact header.trans (List.prefix_append ..)

/-- A framed text is a document, and stays as it is. -/
theorem document_framed (lines : List (List Char)) : document (framed lines) = framed lines := by
  have same := Text.strip_of_trimmed (trimmed_framed lines)
  rw [document_of_not_body (same.symm ▸ start_framed lines), same]

theorem document_document (text : List Char) : document (document text) = document text := by
  by_cases start : documentStart <+: Text.strip text
  · rw [document_of_not_body start]
    have again : documentStart <+: Text.strip (Text.strip text) := by rwa [Text.strip_strip]
    rw [document_of_not_body again, Text.strip_strip]
  · rw [document_of_body start, document_framed]

theorem document_padded {before core after : List Char} (trimmed : Text.Trimmed core)
    (blankBefore : Text.Blank before) (blankAfter : Text.Blank after) :
    document (before ++ core ++ after) = document core := by
  have same : Text.strip (before ++ core ++ after) = Text.strip core := by
    rw [Text.strip_padded blankBefore trimmed blankAfter, Text.strip_of_trimmed trimmed]
  unfold document
  rw [same]

/-- A key is read of the document of a text alone. -/
theorem decodingKeyOfText_congr {text other : List Char} (same : document other = document text) :
    decodingKeyOfText (.plain (.ofList other)) = decodingKeyOfText (.plain (.ofList text)) := by
  simp only [decodingKeyOfText, ofText, Text.chars?, String.toList_ofList, same]

/-- The letters of a body are not blank. -/
theorem isBlank_of_mem_rows {text line : List Char} {c : Char}
    (member : line ∈ rows 63 (Text.squeeze text)) (letter : c ∈ line) :
    Text.isBlank c = false := by
  have kept : c ∈ Text.squeeze text := by
    rw [← flatten_rows 63 (Text.squeeze text)]
    exact List.mem_flatten_of_mem member letter
  simpa using (List.mem_filter.1 kept).2

theorem pieces_framed {text : List Char} :
    Text.pieces '\n' (framed (rows 63 (Text.squeeze text))) =
      headerLine :: (rows 63 (Text.squeeze text) ++ [footerLine]) := by
  apply Text.pieces_join (List.cons_ne_nil _ _)
  intro line member
  rcases List.mem_cons.1 member with rfl | member
  · decide
  · rcases List.mem_append.1 member with inner | last
    · intro newline
      have letter := isBlank_of_mem_rows inner newline
      revert letter
      decide
    · rw [List.mem_singleton.1 last]
      decide

/--
The document that is made of a key.  A text that is a document already, blanks around it
aside, is kept without these.  Any other text is framed: the lines between header and
footer are columns of 64 letters, which are the letters of the text without its blanks, so
that texts which differ in blanks only have one document.  A document is its own, and so
the key of a body, or the refusal of it, is that of the document of its letters in columns.
-/
theorem document_by_columns (text : List Char) :
    (documentStart <+: Text.strip text → document text = Text.strip text) ∧
    (IsBody text → ∃ lines,
      Text.pieces '\n' (document text) = headerLine :: (lines ++ [footerLine]) ∧
      document text = framed lines ∧
      Columns 64 lines ∧ lines.flatten = text.filter (fun c => !Text.isBlank c)) ∧
    document (document text) = document text ∧
    (IsBody text → ∀ other, IsBody other → Text.squeeze other = Text.squeeze text →
      document other = document text ∧
      decodingKeyOfText (.plain (.ofList other)) = decodingKeyOfText (.plain (.ofList text))) ∧
    (IsBody text → ∀ lines before after, Columns 64 lines → lines.flatten = Text.squeeze text →
      Text.Blank before → Text.Blank after →
      decodingKeyOfText (.plain (.ofList (before ++ framed lines ++ after))) =
        decodingKeyOfText (.plain (.ofList text))) := by
  refine ⟨document_of_not_body, ?_, document_document text, ?_, ?_⟩
  · intro body
    have whole := document_of_body body
    refine ⟨rows 63 (Text.squeeze text), ?_, whole, columns_rows 63 _, flatten_rows 63 _⟩
    rw [whole, pieces_framed]
  · intro body other body' same
    have equal : document other = document text := by
      rw [document_of_body body, document_of_body body', same]
    exact ⟨equal, decodingKeyOfText_congr equal⟩
  · intro body lines before after columns letters blankBefore blankAfter
    apply decodingKeyOfText_congr
    rw [document_padded (trimmed_framed lines) blankBefore blankAfter, document_framed,
      document_of_body body, ← letters, ← columns.eq_rows]

/-- The body of the small key with blanks between its letters. -/
def spacedBody : List Char :=
  Realm.smallBody.flatMap fun letter => ['\u2003', letter, '\n']

/-- The two lines of the document of the small key. -/
def smallLines : List (List Char) :=
  [Realm.smallBody.take 64, Realm.smallBody.drop 64]

/-- The small key is read of its body, however it is spaced, and of the document of its lines. -/
theorem document_by_columns_spaced :
    IsBody Realm.smallBody ∧ IsBody spacedBody ∧
      Text.squeeze spacedBody = Text.squeeze Realm.smallBody ∧
      Columns 64 smallLines ∧ smallLines.flatten = Text.squeeze Realm.smallBody ∧
      documentStart <+: Text.strip (framed smallLines ++ ['\n']) ∧
      decodingKeyOfText (.plain (.ofList spacedBody)) = .ok (.verifying Jws.smallKey) ∧
      decodingKeyOfText (.plain (.ofList (['\u3000'] ++ framed smallLines ++ ['\n']))) =
        .ok (.verifying Jws.smallKey) ∧
      document (framed smallLines ++ ['\n']) = framed smallLines := by
  have body : IsBody Realm.smallBody := by decide +kernel
  have body' : IsBody spacedBody := by decide +kernel
  have same : Text.squeeze spacedBody = Text.squeeze Realm.smallBody := by decide +kernel
  have columns : Columns 64 smallLines :=
    columns_cons_iff.2 ⟨by decide +kernel, columns_singleton_iff.2 (by decide +kernel)⟩
  have letters : smallLines.flatten = Text.squeeze Realm.smallBody := by decide +kernel
  have start : documentStart <+: Text.strip (framed smallLines ++ ['\n']) := by decide +kernel
  have read : decodingKeyOfText (.plain (.ofList Realm.smallBody)) = .ok (.verifying Jws.smallKey) :=
    Realm.keyOf_smallSettings
  rcases document_by_columns Realm.smallBody with ⟨_, _, _, spaced, wrapped⟩
  refine ⟨body, body', same, columns, letters, start,
    (spaced body spacedBody body' same).2.trans read, ?_, ?_⟩
  · exact (wrapped body smallLines _ _ columns letters (by decide) (by decide)).trans read
  · rw [(document_by_columns _).1 start]
    decide +kernel

end RealmKey
end RealmAuth
