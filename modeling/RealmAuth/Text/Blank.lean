namespace RealmAuth
namespace Text

/-!
Blank characters.  Two sets occur in practice: the Unicode property
`White_Space`, and the same set together with the four ASCII separators
U+001C to U+001F.  Realm keys, comma lists and flags are trimmed by the larger
set, lines of a PEM document and numerals by the smaller one.
-/

def isWhiteSpace (c : Char) : Bool :=
  let n := c.toNat
  (9 ≤ n && n ≤ 13) || n == 0x20 || n == 0x85 || n == 0xA0 || n == 0x1680 ||
    (0x2000 ≤ n && n ≤ 0x200A) || n == 0x2028 || n == 0x2029 || n == 0x202F ||
    n == 0x205F || n == 0x3000

/-- White space, or one of the four ASCII separators. -/
def isBlank (c : Char) : Bool :=
  isWhiteSpace c || (0x1C ≤ c.toNat && c.toNat ≤ 0x1F)

/-- The text after its leading characters of the class `p`. -/
def trimStart (p : Char → Bool) (cs : List Char) : List Char :=
  cs.dropWhile p

theorem length_trimStart_le (p : Char → Bool) (cs : List Char) :
    (trimStart p cs).length ≤ cs.length :=
  (List.dropWhile_sublist p).length_le

/-- The text before its trailing characters of the class `p`. -/
def trimEnd (p : Char → Bool) (cs : List Char) : List Char :=
  (cs.reverse.dropWhile p).reverse

def strip (cs : List Char) : List Char :=
  trimEnd isBlank (trimStart isBlank cs)

def squeeze (cs : List Char) : List Char :=
  cs.filter fun c => !isBlank c

/-- ASCII capitals become small letters; every other character is kept. -/
def lowerAscii (cs : List Char) : List Char :=
  cs.map Char.toLower

end Text
end RealmAuth
