namespace RealmAuth

/-!
Texts as data values hold them.  Such a text is a sequence of code points, and the
numbers that UTF-16 sets aside for the halves of its pairs are code points like any
other: a half may stand without its other half.  A text without such a half is
a string of characters; every other text is cut at its halves, so that no two texts
have the same code points.
-/

/-- Half of a pair of UTF-16, by its place among the 2048 halves. -/
structure Surrogate where
  place : Fin 2048
  deriving DecidableEq

/-- A code point: a character, or half of a pair. -/
inductive CodePoint where
  | char (c : Char)
  | half (half : Surrogate)
  deriving DecidableEq

/-- A text. -/
inductive Text where
  /-- A text of characters alone. -/
  | plain (chars : String)
  /-- Characters, then half of a pair that stands alone, then the rest of the text. -/
  | broken (chars : String) (half : Surrogate) (rest : Text)
  deriving DecidableEq

namespace Surrogate

def first : Nat := 0xD800

def number (half : Surrogate) : Nat :=
  first + half.place

/-- The half that a number stands for. -/
def ofNumber? (n : Nat) : Option Surrogate :=
  if h : first ≤ n ∧ n < first + 2048 then some ⟨⟨n - first, by omega⟩⟩ else none

end Surrogate

def CodePoint.number : CodePoint → Nat
  | char c => c.toNat
  | half surrogate => surrogate.number

namespace Text

instance : Coe String Text := ⟨plain⟩

def points : Text → List CodePoint
  | plain chars => chars.toList.map .char
  | broken chars half rest => chars.toList.map .char ++ .half half :: points rest

/-- The text of code points behind some characters, which are given in reverse. -/
def ofPointsBehind : List Char → List CodePoint → Text
  | seen, [] => plain (String.ofList seen.reverse)
  | seen, .char c :: rest => ofPointsBehind (c :: seen) rest
  | seen, .half half :: rest => broken (String.ofList seen.reverse) half (ofPointsBehind [] rest)

def ofPoints (points : List CodePoint) : Text :=
  ofPointsBehind [] points

/-- Whether no half of a pair stands alone in a text. -/
def isWhole : Text → Bool
  | plain _ => true
  | broken .. => false

/-- The characters of a text that has nothing else. -/
def chars? : Text → Option (List Char)
  | plain chars => some chars.toList
  | broken .. => none

def isEmpty : Text → Bool
  | plain chars => chars.isEmpty
  | broken .. => false

/-- The number of code points of a text. -/
def length (text : Text) : Nat :=
  text.points.length

def append : Text → Text → Text
  | plain front, plain chars => plain (front ++ chars)
  | plain front, broken chars half rest => broken (front ++ chars) half rest
  | broken chars half rest, back => broken chars half (append rest back)

instance : Append Text := ⟨append⟩

/-- The code points of a text, each as a text of its own. -/
def singles (text : Text) : List Text :=
  text.points.map fun point => ofPoints [point]

/-- A text with other characters in place of its own, and its halves as they are. -/
def mapChars (f : List Char → List Char) : Text → Text
  | plain chars => plain (String.ofList (f chars.toList))
  | broken chars half rest => broken (String.ofList (f chars.toList)) half (mapChars f rest)

/--
The characters of a text where only characters can be shown: a half is replaced
octet by octet, as what is left of it in UTF-8 is no character.
-/
def shown : Text → String
  | plain chars => chars
  | broken chars _ rest => chars ++ "\uFFFD\uFFFD\uFFFD" ++ shown rest

/-- Whether a text stands before another in the order of their code points. -/
def isBefore (text other : Text) : Bool :=
  decide (text.points.map CodePoint.number < other.points.map CodePoint.number)

@[simp] theorem isEmpty_eq_false_iff {text : Text} : text.isEmpty = false ↔ text ≠ plain "" := by
  cases text <;> simp [isEmpty]

theorem points_ofPointsBehind (points : List CodePoint) :
    ∀ seen, (ofPointsBehind seen points).points = seen.reverse.map .char ++ points := by
  induction points with
  | nil => simp [ofPointsBehind, Text.points]
  | cons point rest ih =>
      intro seen
      cases point with
      | char c => simp [ofPointsBehind, ih]
      | half half => simp [ofPointsBehind, Text.points, ih]

/-- Every sequence of code points is that of a text. -/
theorem points_ofPoints (points : List CodePoint) : (ofPoints points).points = points := by
  simp [ofPoints, points_ofPointsBehind]

theorem ofPointsBehind_append (chars : List Char) (points : List CodePoint) :
    ∀ seen, ofPointsBehind seen (chars.map .char ++ points) =
      ofPointsBehind (chars.reverse ++ seen) points := by
  induction chars with
  | nil => simp
  | cons c chars ih => simp [ofPointsBehind, ih]

/-- A text is determined by its code points. -/
theorem ofPoints_points (text : Text) : ofPoints text.points = text := by
  induction text with
  | plain chars =>
      have all := ofPointsBehind_append chars.toList [] []
      rw [List.append_nil] at all
      rw [points, ofPoints, all]
      simp [ofPointsBehind]
  | broken chars half rest ih =>
      rw [points, ofPoints, ofPointsBehind_append, ofPointsBehind]
      rw [ofPoints] at ih
      simp [ih]

end Text
end RealmAuth
