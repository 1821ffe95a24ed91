import RealmAuth.Octets

namespace RealmAuth
namespace Der

/-!
Octets in the distinguished encoding: elements of a tag and a content, one after
the other.  Every tag, every length and every number has exactly one encoding,
and readers refuse all others.
-/

/-- A tagged content.  The tag is the number that its octets write. -/
structure Element where
  tag : Nat
  content : Octets
  deriving DecidableEq

def integerTag : Nat := 0x02
def bitStringTag : Nat := 0x03
def octetStringTag : Nat := 0x04
def nullTag : Nat := 0x05
def identifierTag : Nat := 0x06
def sequenceTag : Nat := 0x30
def setTag : Nat := 0x31
/-- The tag of the part that its place in a structure numbers. -/
def partTag (number : Nat) : Nat := 0xA0 + number

/-- Whether an octet is followed by another one of the same group. -/
def continues (octet : UInt8) : Bool :=
  0x80 ≤ octet.toNat

/--
The tag in front of a length.  A first octet whose lowest five bits are set is
followed by the number of the tag, in groups of seven bits.
-/
def tag? : Octets → Option (Nat × Octets)
  | [] => none
  | first :: rest =>
      if first.toNat % 32 ≠ 31 then some (first.toNat, rest)
      else
        let long := rest.takeWhile continues
        match rest.drop long.length with
        | [] => none
        | last :: after =>
            if 3 < long.length ∨ long.head? = some 0x80 ∨ (long.isEmpty ∧ last.toNat < 31) then
              none
            else some (Octets.toNat (first :: (long ++ [last])), after)

theorem tag?_rest {octets rest : Octets} {n : Nat} (found : tag? octets = some (n, rest)) :
    rest.length < octets.length := by
  cases octets with
  | nil => simp [tag?] at found
  | cons first tail =>
      simp only [tag?] at found
      split at found
      · simp only [Option.some.injEq, Prod.mk.injEq] at found
        rw [← found.2, List.length_cons]
        omega
      · split at found
        · simp at found
        · rename_i last after dropped
          split at found
          · simp at found
          · simp only [Option.some.injEq, Prod.mk.injEq] at found
            have size := congrArg List.length dropped
            rw [List.length_drop, List.length_cons] at size
            rw [← found.2, List.length_cons]
            omega

/-- The length in front of a content, written in as few octets as possible. -/
def length? : Octets → Option (Nat × Octets)
  | [] => none
  | first :: rest =>
      if first.toNat < 0x80 then some (first.toNat, rest)
      else
        let count := first.toNat - 0x80
        let value := Octets.toNat (rest.take count)
        if rest.length < count ∨ rest.head? = some 0 ∨ value < 0x80 then none
        else some (value, rest.drop count)

theorem length?_rest {octets rest : Octets} {n : Nat} (found : length? octets = some (n, rest)) :
    rest.length ≤ octets.length := by
  cases octets with
  | nil => simp [length?] at found
  | cons first tail =>
      simp only [length?] at found
      split at found
      · simp only [Option.some.injEq, Prod.mk.injEq] at found
        rw [← found.2, List.length_cons]
        omega
      · split at found
        · simp at found
        · simp only [Option.some.injEq, Prod.mk.injEq] at found
          rw [← found.2, List.length_drop, List.length_cons]
          omega

/-- The first element of some octets, and the octets after it. -/
def element? (octets : Octets) : Option (Element × Octets) :=
  match tag? octets with
  | none => none
  | some (tag, tagged) =>
      match length? tagged with
      | none => none
      | some (n, rest) =>
          if rest.length < n then none else some (⟨tag, rest.take n⟩, rest.drop n)

theorem element?_rest {octets rest : Octets} {element : Element}
    (found : element? octets = some (element, rest)) : rest.length < octets.length := by
  unfold element? at found
  split at found
  · simp at found
  · rename_i tag tagged tagFound
    split at found
    · simp at found
    · rename_i n after sized
      split at found
      · simp at found
      · simp only [Option.some.injEq, Prod.mk.injEq] at found
        have first := tag?_rest tagFound
        have second := length?_rest sized
        rw [← found.2, List.length_drop]
        omega

def elements? (octets : Octets) : Option (List Element) :=
  if octets.isEmpty then some []
  else
    match _found : element? octets with
    | none => none
    | some (element, rest) => (elements? rest).map (element :: ·)
termination_by octets.length
decreasing_by exact element?_rest ‹_›

def single? (octets : Octets) : Option Element :=
  match elements? octets with
  | some [element] => some element
  | _ => none

def Element.contentOf? (tag : Nat) (element : Element) : Option Octets :=
  if element.tag = tag then some element.content else none

def Element.sequence? (element : Element) : Option (List Element) :=
  (element.contentOf? sequenceTag).bind elements?

def Element.natural? (element : Element) : Option Nat :=
  match element.contentOf? integerTag with
  | none => none
  | some [] => none
  | some [octet] => if continues octet then none else some octet.toNat
  | some (first :: second :: rest) =>
      if continues first ∨ (first = 0 ∧ ¬ continues second) then none
      else some (Octets.toNat (first :: second :: rest))

def Element.naturalBelow? (bound : Nat) (element : Element) : Option Nat :=
  element.natural?.filter fun n => n < bound

/-- A string of bits: the count of bits that its last octet leaves unused, and its octets. -/
structure Bits where
  unused : Nat
  octets : Octets
  deriving DecidableEq

/-- A string of bits; the bits that the last octet leaves unused are zero. -/
def Element.bits? (element : Element) : Option Bits :=
  match element.contentOf? bitStringTag with
  | none => none
  | some [] => none
  | some (unused :: octets) =>
      match octets.getLast? with
      | none => if unused = 0 then some ⟨0, []⟩ else none
      | some last =>
          if unused.toNat ≤ 7 ∧ last.toNat % 2 ^ unused.toNat = 0 then
            some ⟨unused.toNat, octets⟩
          else none

def Element.octets? (element : Element) : Option Octets :=
  element.contentOf? octetStringTag

/-- The octets of a string of octets of a given size. -/
def Element.octetsOf? (size : Nat) (element : Element) : Option Octets :=
  element.octets?.filter fun octets => octets.length = size

/-- The greatest size of an object identifier in octets. -/
def greatestPath : Nat := 63

/--
Whether octets are groups of at most four, `before` octets of the first group
already read; no group starts with an empty octet that continues it.
-/
def areGroups : Nat → Octets → Bool
  | before, [] => before == 0
  | before, octet :: rest =>
      if continues octet then
        !(before == 0 && octet == 0x80) && before < 3 && areGroups (before + 1) rest
      else areGroups 0 rest

def Element.identifier? (element : Element) : Option Octets :=
  (element.contentOf? identifierTag).filter fun octets =>
    !octets.isEmpty && octets.length ≤ greatestPath && areGroups 0 octets

def Element.isNull (element : Element) : Bool :=
  element == ⟨nullTag, []⟩

def Element.onlyIf? (test : Element → Bool) (element : Element) : Option Element :=
  if test element then some element else none

/-- The element inside the part that its place in a structure numbers. -/
def Element.part? (number : Nat) (element : Element) : Option Element :=
  (element.contentOf? (partTag number)).bind single?

/-- A number in as few octets as possible, none for zero. -/
def shortest (n : Nat) : Octets :=
  Octets.ofNat (Octets.byteLength n) n

def Element.write (element : Element) : Octets :=
  let size := element.content.length
  let tag := if element.tag = 0 then [0] else shortest element.tag
  let length :=
    if size < 0x80 then [UInt8.ofNat size]
    else UInt8.ofNat (0x80 + (shortest size).length) :: shortest size
  tag ++ length ++ element.content

/-- Whether octets do not stand behind others in the order of their first difference. -/
def precede : Octets → Octets → Bool
  | [], _ => true
  | _ :: _, [] => false
  | a :: as, b :: bs => a.toNat < b.toNat || (a == b && precede as bs)

/-- Whether elements stand in the order of their octets, as those of a set do. -/
def ordered : List Element → Bool
  | first :: second :: rest =>
      precede first.write second.write && ordered (second :: rest)
  | _ => true

/-- The elements of octets that are the content of a set. -/
def members? (octets : Octets) : Option (List Element) :=
  (elements? octets).filter ordered

/-! ## Structures -/

/-- A reading of the elements of a structure, one after the other. -/
abbrev Reading (α : Type) := StateT (List Element) Option α

def next {α : Type} (read : Element → Option α) : Reading α
  | [] => none
  | element :: rest => (read element).map (·, rest)

/-- The next element if it has a given tag; then it has to be readable. -/
def optional {α : Type} (tag : Nat) (read : Element → Option α) : Reading (Option α)
  | [] => some (none, [])
  | element :: rest =>
      if element.tag = tag then (read element).map fun value => (some value, rest)
      else some (none, element :: rest)

/-- What a reading makes of all elements of some list. -/
def Reading.all? {α : Type} (reading : Reading α) (elements : List Element) : Option α :=
  match reading.run elements with
  | some (value, []) => some value
  | _ => none

/-- What a reading makes of all elements of a sequence. -/
def Element.structure? {α : Type} (reading : Reading α) (element : Element) : Option α :=
  element.sequence?.bind reading.all?

/-- What a reading makes of octets that are one sequence and nothing else. -/
def structure? {α : Type} (reading : Reading α) (octets : Octets) : Option α :=
  (single? octets).bind (Element.structure? reading)

end Der
end RealmAuth
