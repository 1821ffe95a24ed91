import RealmAuth.Halt
import RealmAuth.Key.Entry
import RealmAuth.Key.SecureShell
import RealmAuth.Rows

namespace RealmAuth
namespace RealmKey

/-!
The key of a realm, as it is configured: a key document, or the bare base 64 body
of one, however it is wrapped.  A bare body is put into a document of its own.
-/

def headerLine : List Char := "-----BEGIN PUBLIC KEY-----".toList

def footerLine : List Char := "-----END PUBLIC KEY-----".toList

/-- The start by which a text is recognised as a document. -/
def documentStart : List Char := "-----BEGIN".toList

/-- The lines of the document around a bare body; every line but the last has 64 letters. -/
def bodyLines (text : List Char) : List (List Char) :=
  rows 63 (Text.squeeze text)

def document (text : List Char) : List Char :=
  let stripped := Text.strip text
  if Text.startsWith documentStart stripped then stripped
  else Text.join '\n' (headerLine :: (bodyLines stripped ++ [footerLine]))

def rsaOnly : KeyDocument → Except (Halt KeyFault) Rsa.Key
  | .rsa key => .ok key
  | other => refuse (.wrongKind other.kind)

/-- The RSA key that a text holds as a public key, the last form that is tried. -/
def readPublic (text : List Char) : Except (Halt KeyFault) Rsa.Key :=
  match KeyDocument.readPublic text with
  | .ok found => rsaOnly found
  | .error _ => refuse .unreadable

/--
The RSA key that a text holds: a line of the secure shell form if it starts like
one, else a private and then a public key document.
-/
def read (text : List Char) : Except (Halt KeyFault) Rsa.Key :=
  let first :=
    if Text.startsWith "ssh-rsa".toList text then SecureShell.read text
    else KeyDocument.readPrivate text
  match first with
  | .ok found => rsaOnly found
  | .error .locked => refuse (.locked text)
  | .error .unsupported => escape .unsupportedKey
  | .error .pointForm => escape .pointForm
  | .error .pointAbsent => escape .pointAbsent
  | .error .malformed => readPublic text

/-- The key of a realm from the text that is configured for it. -/
def ofText (text : Text) : Except (Halt KeyFault) Rsa.Key :=
  match text.chars? with
  | some characters => read (document characters)
  | none => refuse (.broken text)

end RealmKey
end RealmAuth
