import RealmAuth.Text.Basic

namespace RealmAuth
namespace Text

/-!
Unicode text as octets: UTF-8, and UTF-16 and UTF-32 in both byte orders.  Each
form is given by the step that takes one code point off the front; decoding
repeats that step.  Half of a pair may be written on its own, in UTF-8 as any other
code point of its size; two halves that follow one another make a character in UTF-16
only.  A JSON text announces its form by a byte order mark or by the places of its zero
octets.  In two older forms every octet is a character:
ASCII, which knows half of the octets, and Latin-1, which knows all of them.
-/

/-- The forms in which text is sent as octets. -/
inductive Encoding where
  | utf8
  | utf16 (bigEndian : Bool)
  | utf32 (bigEndian : Bool)
  deriving DecidableEq

/-- The code point of a number, if it is that of one. -/
def point? (n : Nat) : Option CodePoint :=
  if n.isValidChar then some (.char (Char.ofNat n)) else (Surrogate.ofNumber? n).map .half

def continuation? (octet : UInt8) : Option Nat :=
  if 0x80 ≤ octet.toNat ∧ octet.toNat < 0xC0 then some (octet.toNat - 0x80) else none

/-- A code point that needs at least the length it was written in. -/
def pointFrom? (least n : Nat) : Option CodePoint :=
  if least ≤ n then point? n else none

/-- The number of the character that two halves of a pair make, the first one before the second. -/
def paired? (high low : Nat) : Option Nat :=
  if (0xD800 ≤ high ∧ high < 0xDC00) ∧ 0xDC00 ≤ low ∧ low < 0xE000 then
    some (0x10000 + (high - 0xD800) * 1024 + (low - 0xDC00))
  else none

def utf8Step : List UInt8 → Option (CodePoint × List UInt8)
  | [] => none
  | a :: rest =>
      let lead := a.toNat
      if lead < 0x80 then (point? lead).map (·, rest)
      else if lead < 0xC0 then none
      else if lead < 0xE0 then
        match rest with
        | b :: rest => do
            let b ← continuation? b
            (pointFrom? 0x80 ((lead - 0xC0) * 64 + b)).map (·, rest)
        | _ => none
      else if lead < 0xF0 then
        match rest with
        | b :: c :: rest => do
            let b ← continuation? b
            let c ← continuation? c
            (pointFrom? 0x800 (((lead - 0xE0) * 64 + b) * 64 + c)).map (·, rest)
        | _ => none
      else if lead < 0xF8 then
        match rest with
        | b :: c :: d :: rest => do
            let b ← continuation? b
            let c ← continuation? c
            let d ← continuation? d
            (pointFrom? 0x10000 ((((lead - 0xF0) * 64 + b) * 64 + c) * 64 + d)).map (·, rest)
        | _ => none
      else none

def unit16 (bigEndian : Bool) (a b : UInt8) : Nat :=
  if bigEndian then a.toNat * 256 + b.toNat else b.toNat * 256 + a.toNat

/-- One code point of UTF-16; half of a pair stands alone where the other half does not follow. -/
def utf16Step (bigEndian : Bool) : List UInt8 → Option (CodePoint × List UInt8)
  | a :: b :: c :: d :: rest =>
      let unit := unit16 bigEndian a b
      match paired? unit (unit16 bigEndian c d) with
      | some n => (point? n).map (·, rest)
      | none => (point? unit).map (·, c :: d :: rest)
  | a :: b :: rest => (point? (unit16 bigEndian a b)).map (·, rest)
  | _ => none

def utf32Step (bigEndian : Bool) : List UInt8 → Option (CodePoint × List UInt8)
  | a :: b :: c :: d :: rest =>
      let value :=
        if bigEndian then unit16 true a b * 65536 + unit16 true c d
        else unit16 false c d * 65536 + unit16 false a b
      (point? value).map (·, rest)
  | _ => none

namespace Encoding

def step : Encoding → List UInt8 → Option (CodePoint × List UInt8)
  | utf8 => utf8Step
  | utf16 bigEndian => utf16Step bigEndian
  | utf32 bigEndian => utf32Step bigEndian

/-- Code points taken off the front until nothing is left, at most `limit` of them. -/
def decodeUpTo (form : Encoding) : Nat → List UInt8 → Option (List CodePoint)
  | _, [] => some []
  | 0, _ => none
  | limit + 1, octets => do
      let (point, rest) ← form.step octets
      let points ← decodeUpTo form limit rest
      return point :: points

/-- The code points of some octets; every one takes at least one of them. -/
def decode (form : Encoding) (octets : List UInt8) : Option (List CodePoint) :=
  form.decodeUpTo octets.length octets

/-- The form announced by a byte order mark, with the octets after the mark. -/
def ofMark? : List UInt8 → Option (Encoding × List UInt8)
  | 0x00 :: 0x00 :: 0xFE :: 0xFF :: rest => some (.utf32 true, rest)
  | 0xFF :: 0xFE :: 0x00 :: 0x00 :: rest => some (.utf32 false, rest)
  | 0xFE :: 0xFF :: rest => some (.utf16 true, rest)
  | 0xFF :: 0xFE :: rest => some (.utf16 false, rest)
  | 0xEF :: 0xBB :: 0xBF :: rest => some (.utf8, rest)
  | _ => none

/-- Without a mark, the form shown by the zeros among the first octets. -/
def ofZeros : List UInt8 → Encoding
  | a :: b :: c :: d :: _ =>
      if a = 0 then (if b = 0 then .utf32 true else .utf16 true)
      else if b = 0 then (if c = 0 ∧ d = 0 then .utf32 false else .utf16 false)
      else .utf8
  | [a, b] =>
      if a = 0 then .utf16 true
      else if b = 0 then .utf16 false
      else .utf8
  | _ => .utf8

/-- The code points of octets whose form has to be recognised first. -/
def decodeAny (octets : List UInt8) : Option (List CodePoint) :=
  match ofMark? octets with
  | some (form, rest) => form.decode rest
  | none => (ofZeros octets).decode octets

end Encoding

/-- The text of octets that are all ASCII. -/
def ascii? (octets : List UInt8) : Option (List Char) :=
  octets.mapM fun octet =>
    if octet.toNat < 0x80 then some (Char.ofNat octet.toNat) else none

/-- The text of octets, each of which is the number of its character. -/
def latin1 (octets : List UInt8) : List Char :=
  octets.map fun octet => Char.ofNat octet.toNat

/-- ASCII is the part of Latin-1 that has octets of seven bits. -/
theorem ascii?_eq_some_iff {octets : List UInt8} {cs : List Char} :
    ascii? octets = some cs ↔
      cs = latin1 octets ∧ ∀ octet ∈ octets, octet.toNat < 0x80 := by
  unfold ascii? latin1
  induction octets generalizing cs with
  | nil => simp [eq_comm]
  | cons octet octets ih =>
      by_cases small : octet.toNat < 0x80
      · rw [List.mapM_cons, if_pos small, List.map_cons, List.forall_mem_cons]
        simp only [Option.bind_eq_bind, Option.bind_some, Option.bind_eq_some_iff, ih]
        constructor
        · rintro ⟨_, ⟨rfl, rest⟩, read⟩
          exact ⟨(Option.some.inj read).symm, small, rest⟩
        · rintro ⟨rfl, _, rest⟩
          exact ⟨_, ⟨rfl, rest⟩, rfl⟩
      · simp [List.mapM_cons, small]

def toUtf8 (cs : List Char) : List UInt8 :=
  cs.flatMap String.utf8EncodeChar

end Text
end RealmAuth
