/-!
# Octets and the texts they spell

Bodies and header values are lists of octets.  A text becomes octets in
UTF-8.  The way back keeps every well-formed character; each longest piece
of a badly formed one becomes a single replacement character.
-/

namespace Gatehouse.Text

/-- A list of octets. -/
abbrev Octets : Type := List UInt8

/-- The octets of a text. -/
def octets (text : String) : Octets :=
  text.toUTF8.toList

/-- The text that octets spell, if they are well-formed. -/
def spelled? (content : Octets) : Option String :=
  String.fromUTF8? ⟨content.toArray⟩

/-- The character that stands for a badly formed one. -/
def replacement : Char := '\uFFFD'

/-- An octet that continues a character. -/
def isContinuation (octet : UInt8) : Bool :=
  0x80 ≤ octet && octet ≤ 0xBF

/--
What a first octet asks of the ones behind it: how many there are, the range
of the next one, and the bits that it brings itself.
-/
structure Lead where
  following : Nat
  low : UInt8
  high : UInt8
  bits : Nat
  deriving DecidableEq, Repr

/-- The demands of a first octet, if it is one. -/
def lead? (octet : UInt8) : Option Lead :=
  let value := octet.toNat
  if octet < 0x80 then some ⟨0, 0, 0, value⟩
  else if 0xC2 ≤ octet && octet ≤ 0xDF then some ⟨1, 0x80, 0xBF, value - 0xC0⟩
  else if octet == 0xE0 then some ⟨2, 0xA0, 0xBF, 0⟩
  else if octet == 0xED then some ⟨2, 0x80, 0x9F, 13⟩
  else if 0xE1 ≤ octet && octet ≤ 0xEF then some ⟨2, 0x80, 0xBF, value - 0xE0⟩
  else if octet == 0xF0 then some ⟨3, 0x90, 0xBF, 0⟩
  else if 0xF1 ≤ octet && octet ≤ 0xF3 then some ⟨3, 0x80, 0xBF, value - 0xF0⟩
  else if octet == 0xF4 then some ⟨3, 0x80, 0x8F, 4⟩
  else none

/--
The octets of one character that are well-formed so far: their number, the
bits gathered, and whether none is missing.
-/
def gather (low high : UInt8) (bits : Nat) :
    Nat → Octets → Nat × Nat × Bool
  | 0, _ => (0, bits, true)
  | _ + 1, [] => (0, bits, false)
  | following + 1, octet :: rest =>
    if low ≤ octet && octet ≤ high then
      let (count, bits, complete) :=
        gather 0x80 0xBF (64 * bits + (octet.toNat - 0x80)) following rest
      (count + 1, bits, complete)
    else (0, bits, false)

/-- The characters of octets, at most as many as the fuel. -/
def lossyCharacters : Nat → Octets → List Char
  | 0, _ | _, [] => []
  | fuel + 1, octet :: rest =>
    match lead? octet with
    | none => replacement :: lossyCharacters fuel rest
    | some lead =>
      let (count, bits, complete) :=
        gather lead.low lead.high lead.bits lead.following rest
      (if complete then Char.ofNat bits else replacement) ::
        lossyCharacters fuel (rest.drop count)

/-- The text of octets, with replacements for what is badly formed. -/
def lossy (content : Octets) : String :=
  String.ofList (lossyCharacters content.length content)

end Gatehouse.Text
