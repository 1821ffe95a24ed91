import RealmAuth.Base64.Basic

namespace RealmAuth
namespace Base64

/-!
Lenient base 64, in which the numbers of a key entry are written.  Characters
outside both alphabets are passed over, spare bits are ignored, and whatever
follows the padding of the last group is not read.
-/

def anySextet? (c : Char) : Option Nat :=
  (standard.sextet? c).or (url.sextet? c)

/-- What is known inside a group of four letters. -/
structure Group where
  /-- How many letters of the group were read. -/
  size : Nat
  /-- The bits that no octet holds yet. -/
  spare : Nat
  /-- How much padding was read since the last letter. -/
  pads : Nat

def Group.start : Group := ⟨0, 0, 0⟩

/-- A letter read into a group: the group after it and the octet it completes. -/
def Group.add (group : Group) (sextet : Nat) : Group × Octets :=
  match group.size with
  | 0 => (⟨1, sextet, 0⟩, [])
  | 1 => (⟨2, sextet % 16, 0⟩, [UInt8.ofNat (group.spare * 4 + sextet / 16)])
  | 2 => (⟨3, sextet % 4, 0⟩, [UInt8.ofNat (group.spare * 16 + sextet / 4)])
  | _ => (⟨0, 0, 0⟩, [UInt8.ofNat (group.spare * 64 + sextet)])

/-- The octets of a text inside a group; a group left open at its end is an error. -/
def lenientFrom? (sextet? : Char → Option Nat) (group : Group) : List Char → Option Octets
  | [] => if group.size = 0 then some [] else none
  | c :: rest =>
      if c = pad then
        if 2 ≤ group.size ∧ 4 ≤ group.size + group.pads + 1 then some []
        else if 2 ≤ group.size then
          lenientFrom? sextet? ⟨group.size, group.spare, group.pads + 1⟩ rest
        else lenientFrom? sextet? group rest
      else
        match sextet? c with
        | none => lenientFrom? sextet? group rest
        | some sextet =>
            let (group, octets) := group.add sextet
            (lenientFrom? sextet? group rest).map (octets ++ ·)

def lenientStandard? (cs : List Char) : Option Octets :=
  lenientFrom? standard.sextet? Group.start cs

/-- The octets of a text in either alphabet, padded first to a multiple of four octets. -/
def lenient? (cs : List Char) : Option Octets :=
  let size := cs.foldl (fun size c => size + c.utf8Size) 0
  lenientFrom? anySextet? Group.start (cs ++ List.replicate ((4 - size % 4) % 4) pad)

end Base64
end RealmAuth
