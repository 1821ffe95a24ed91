import RealmAuth.Proofs.Key.Contents
import RealmAuth.Proofs.Realm.Columns
import RealmAuth.Proofs.Realm.Taxonomy

namespace RealmAuth

/-!
The setup of a realm.  A key for the verification of tokens has to be a public one, and
what gives none has to be refused.  Entries and texts keep to this but for private keys: an
entry with the private exponent and a private document pass as keys, and a private document
of an unknown algorithm stops the setup by a cause that is no refusal.  Bodies and texts
without the line of a private document are never read in this way.  A realm that was set up
by a public key serves every later request, and one with a private key does not.
-/

open Outcome

namespace RealmKey

/-- What is made of a text by what its document holds, read as a private one first. -/
inductive Reads (cs : List Char) : Except Failure Rsa.Key → Prop
  | signing (key : Rsa.PrivateKey)
      (held : KeyDocument.readPrivate (document cs) = .ok (.rsa (.signing key))) :
      Reads cs (.ok (.signing key))
  | unsupported (held : KeyDocument.readPrivate (document cs) = .error .unsupported) :
      Reads cs (.error (.escaped .unsupportedKey))
  | verifying (key : Rsa.PublicKey) (inRange : key.inRange = true)
      (noSecret : KeyDocument.readPrivate (document cs) = .error .malformed)
      (held : KeyDocument.readPublic (document cs) = .ok (.rsa (.verifying key))) :
      Reads cs (.ok (.verifying key))
  | refused (fault : KeyFault)
      (noSecret : ∀ key, KeyDocument.readPrivate (document cs) ≠ .ok (.rsa (.signing key)))
      (known : KeyDocument.readPrivate (document cs) ≠ .error .unsupported)
      (noKey : KeyDocument.readPrivate (document cs) = .error .malformed →
        ∀ key, KeyDocument.readPublic (document cs) ≠ .ok (.rsa (.verifying key))) :
      Reads cs (.error (.refused (.decodingKey (.key fault))))

/-- What is made of a document by what the reading of a private document gives. -/
def settled (cs : List Char) :
    Except DocumentError KeyDocument → Except (Halt KeyFault) Rsa.Key
  | .ok found => rsaOnly found
  | .error .locked => refuse (.locked cs)
  | .error .unsupported => escape .unsupportedKey
  | .error .pointForm => escape .pointForm
  | .error .pointAbsent => escape .pointAbsent
  | .error .malformed => readPublic cs

/-- The opening line of a private document is neither line of a frame, and has a blank. -/
theorem openingLine_of_private : ∀ label ∈ KeyDocument.privateLabels,
    Pem.openingLine label.toList ≠ [] ∧ '\n' ∉ Pem.openingLine label.toList ∧
      ' ' ∈ Pem.openingLine label.toList ∧ ¬ Pem.openingLine label.toList <:+: headerLine ∧
      ¬ Pem.openingLine label.toList <:+: footerLine := by
  decide

/-- No private document is found in a frame, whatever the letters in it are. -/
theorem not_private_framed {label : String} (secret : label ∈ KeyDocument.privateLabels)
    (cs : List Char) :
    ¬ Pem.openingLine label.toList <:+: framed (rows 63 (Text.squeeze cs)) := by
  rcases openingLine_of_private label secret with ⟨some, whole, spaced, header, footer⟩
  intro stands
  rcases Text.infix_of_infix_join some whole stands with ⟨line, member, within⟩
  rcases List.mem_cons.1 member with rfl | member
  · exact header within
  · rcases List.mem_append.1 member with inner | last
    · have letter := isBlank_of_mem_rows inner (within.subset spaced)
      revert letter
      decide
    · rw [List.mem_singleton.1 last] at within
      exact footer within

theorem readPrivate_of_body {cs : List Char} (body : IsBody cs) :
    KeyDocument.readPrivate (document cs) = .error .malformed := by
  apply KeyDocument.readPrivate_of_unlabelled
  intro label secret stands
  rw [document_of_body body] at stands
  exact not_private_framed secret cs stands

/-- A text without the line of a private document holds no private document. -/
theorem readPrivate_of_unlabelled {cs : List Char}
    (unlabelled : ∀ label ∈ KeyDocument.privateLabels, ¬ Pem.openingLine label.toList <:+: cs) :
    KeyDocument.readPrivate (document cs) = .error .malformed := by
  by_cases start : documentStart <+: Text.strip cs
  · apply KeyDocument.readPrivate_of_unlabelled
    intro label secret stands
    rw [document_of_not_body start] at stands
    rcases Text.exists_strip_padded cs with ⟨before, after, _, _, shape⟩
    exact unlabelled label secret (stands.trans ⟨before, after, shape.symm⟩)
  · exact readPrivate_of_body start

end RealmKey

/-! ## Entries -/

namespace KeyEntry

/-- What is made of the fields of an entry. -/
inductive Reads (fields : Json.Fields) : Except Failure Rsa.Key → Prop
  | signing (key : Rsa.PrivateKey) (given : fields.has "d" = true)
      (made : privateKey fields = .ok key) : Reads fields (.ok (.signing key))
  | verifying (key : Rsa.PublicKey) (inRange : key.inRange = true)
      (absent : fields.has "d" = false) (made : publicKey fields = .ok key) :
      Reads fields (.ok (.verifying key))
  | refused (fault : KeyFault) (faulty : keyOfFields fields = .error fault) :
      Reads fields (.error (.refused (.decodingKey (.key fault))))

end KeyEntry

/-! ## Realms -/

namespace Realm

variable {R : Type}

variable [ConfiguredRole R]

section

open Platform

end

/-! ## Private keys as realm keys -/

open Platform

end Realm
end RealmAuth
