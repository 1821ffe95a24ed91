import RealmAuth.Base64.Basic
import RealmAuth.Text.Blank
import RealmAuth.Text.Split

namespace RealmAuth
namespace Pem

/-!
Textual key documents.  A section stands between a BEGIN and an END line of the
same label; headers may precede its base 64 body, which has to be complete once
all white space is left out.  Text around the sections is passed over.
-/

/-- A section before its parts are checked. -/
structure Frame where
  opening : List Char
  headers : List Char
  body : List Char
  closing : List Char

/-- A section of a document. -/
structure Section where
  label : List Char
  headers : List (List Char × List Char)
  content : Octets

/--
The text before a mark and the text after it.  `missing` is what the last characters
read leave of the mark, `before` all characters read, the last one first; a
character that does not continue the mark starts the search anew behind it.
-/
def scan? (mark : List Char) : List Char → List Char → List Char →
    Option (List Char × List Char)
  | [], before, rest => some ((before.drop mark.length).reverse, rest)
  | _ :: _, _, [] => none
  | m :: missing, before, c :: rest =>
      if c = m then scan? mark missing (c :: before) rest
      else scan? mark mark (c :: before) rest

/-- The text before the first occurrence of a mark, and the text after it. -/
def until? (mark cs : List Char) : Option (List Char × List Char) :=
  scan? mark mark [] cs

theorem scan?_rest {mark missing before cs first rest : List Char}
    (found : scan? mark missing before cs = some (first, rest)) : rest.length ≤ cs.length := by
  induction cs generalizing missing before with
  | nil =>
      cases missing with
      | nil =>
          simp only [scan?, Option.some.injEq, Prod.mk.injEq] at found
          exact Nat.le_of_eq (congrArg List.length found.2.symm)
      | cons m missing => simp [scan?] at found
  | cons c cs ih =>
      cases missing with
      | nil =>
          simp only [scan?, Option.some.injEq, Prod.mk.injEq] at found
          exact Nat.le_of_eq (congrArg List.length found.2.symm)
      | cons m missing =>
          unfold scan? at found
          rw [List.length_cons]
          split at found <;> exact Nat.le_succ_of_le (ih found)

theorem until?_rest {m : Char} {mark cs first rest : List Char}
    (found : until? (m :: mark) cs = some (first, rest)) : rest.length < cs.length := by
  cases cs with
  | nil => simp [until?, scan?] at found
  | cons c cs =>
      unfold until? scan? at found
      rw [List.length_cons]
      split at found <;> exact Nat.lt_succ_of_le (scan?_rest found)

/-- Whether a character is passed over at the ends of the framing lines. -/
def isLineSpace (c : Char) : Bool :=
  c == ' ' || c == '\t' || c == '\r' || c == '\n'

def dashes : List Char := "-----".toList

def endMark : List Char := "-----END ".toList

/-- The header part and the body of a section, which a blank line divides. -/
def divide (cs : List Char) : List Char × List Char :=
  match until? ['\n', '\n'] cs with
  | some parts => parts
  | none => (until? ['\r', '\n', '\r', '\n'] cs).getD ([], cs)

/-- The first section of a text, and the text after it. -/
def frame? (cs : List Char) : Option (Frame × List Char) :=
  match until? ('-' :: "----BEGIN ".toList) cs with
  | none => none
  | some (_, afterBegin) =>
      match until? dashes afterBegin with
      | none => none
      | some (opening, afterOpening) =>
          match until? endMark (Text.trimStart isLineSpace afterOpening) with
          | none => none
          | some (inner, afterInner) =>
              match until? dashes afterInner with
              | none => none
              | some (closing, rest) =>
                  let (headers, body) := divide inner
                  some (⟨opening, headers, body, closing⟩, Text.trimStart isLineSpace rest)

theorem frame?_rest {cs rest : List Char} {frame : Frame}
    (found : frame? cs = some (frame, rest)) : rest.length < cs.length := by
  unfold frame? at found
  split at found
  · simp at found
  · rename_i before afterBegin began
    split at found
    · simp at found
    · rename_i opening afterOpening opened
      split at found
      · simp at found
      · rename_i inner afterInner ended
        split at found
        · simp at found
        · rename_i closing last closed
          simp only [Option.some.injEq, Prod.mk.injEq] at found
          have first := until?_rest began
          have second := scan?_rest opened
          have third := scan?_rest ended
          have fourth := scan?_rest closed
          have trimmed := Text.length_trimStart_le isLineSpace afterOpening
          have after := Text.length_trimStart_le isLineSpace last
          rw [← found.2]
          omega

def frames (cs : List Char) : List Frame :=
  match _found : frame? cs with
  | none => []
  | some (frame, rest) => frame :: frames rest
termination_by cs.length
decreasing_by exact frame?_rest ‹_›

/-- The lines of a text; a line end at its very end opens no further line. -/
def lines (cs : List Char) : List (List Char) :=
  let pieces := Text.pieces '\n' cs
  if pieces.getLast? = some [] then pieces.dropLast else pieces

def header? (line : List Char) : Option (List Char × List Char) :=
  (Text.cut? ':' line).map fun parts =>
    let trim cs := Text.trimEnd Text.isWhiteSpace (Text.trimStart Text.isWhiteSpace cs)
    (trim parts.1, trim parts.2)

/-- The section of a frame: the labels agree, the headers are headers, the body is base 64. -/
def Frame.section? (frame : Frame) : Option Section :=
  if frame.opening.isEmpty ∨ frame.opening ≠ frame.closing then none
  else
    let letters := frame.body.filter fun c => !Text.isWhiteSpace c
    match Base64.standard.padded? letters, (lines frame.headers).mapM header? with
    | some content, some headers => some ⟨frame.opening, headers, content⟩
    | _, _ => none

/-- The first section of a text, if it is a proper one. -/
def first? (cs : List Char) : Option Section :=
  (frame? cs).bind fun found => found.1.section?

def sections? (cs : List Char) : Option (List Section) :=
  (frames cs).mapM Frame.section?

def Section.header? (part : Section) (name : String) : Option (List Char) :=
  part.headers.reverse.lookup name.toList

end Pem
end RealmAuth
