import RealmAuth.Text.Basic

namespace RealmAuth

/-!
How a computation stops without a result.  Most causes are refusals, which the
library reports in its own terms.  A few leave it as they are: an application's
role parser may fail, a value of a wrong type may be handed in, a key may be of a
kind that cannot do what is asked of it or be written in a form that is not read, a
text may be one that no octets write, and a leeway may be beyond all clocks.
-/

/-- A cause that leaves the library as it is. -/
inductive Escape where
  /-- The role parser refused a name, with its own message. -/
  | roleName (message : Text)
  /-- A value has a type that cannot be used in its place. -/
  | wrongType
  /-- A value lacks an operation that is needed in its place. -/
  | missingOperation
  /-- A key document names an algorithm that is not known. -/
  | unsupportedKey
  /-- The point of a key is written in a form that is not read. -/
  | pointForm
  /-- The point of a key is missing from its place. -/
  | pointAbsent
  /-- A text is to be sent or read as octets, but half of a pair stands alone in it. -/
  | brokenText
  /-- A leeway is beyond the numbers of double precision. -/
  | leewayRange
  /-- Settings are absent, as the message lists. -/
  | missingSettings (message : String)
  deriving DecidableEq

/-- Why a computation stopped: it was refused for a fault, or a cause escaped. -/
inductive Halt (ε : Type) where
  | refused (fault : ε)
  | escaped (escape : Escape)

def Halt.map {ε δ : Type} (f : ε → δ) : Halt ε → Halt δ
  | refused fault => refused (f fault)
  | escaped escape => escaped escape

def refuse {ε α : Type} (fault : ε) : Except (Halt ε) α :=
  .error (.refused fault)

def escape {ε α : Type} (cause : Escape) : Except (Halt ε) α :=
  .error (.escaped cause)

end RealmAuth
