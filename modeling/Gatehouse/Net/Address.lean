/-!
# Internet addresses

The grammar of addresses with a port: four decimal numbers, or eight
hexadecimal groups in brackets, of which one run of zeros may be left out
and the last two may be written as four decimal numbers.  The text of an
address leaves out its longest run of zero groups, the first of equals.
-/

namespace Gatehouse.Net

/-- The address of a host. -/
inductive HostAddress where
  /-- Four octets. -/
  | four (octets : List Nat)
  /-- Eight groups of sixteen bits. -/
  | six (groups : List Nat)
  deriving DecidableEq, Repr

/-- The address of a host together with a port. -/
structure SocketAddress where
  host : HostAddress
  port : Nat
  deriving DecidableEq, Repr

/-- The value of a digit in a radix up to sixteen. -/
def digit? (radix : Nat) (character : Char) : Option Nat :=
  let value :=
    if '0' ≤ character && character ≤ '9' then some (character.toNat - 48)
    else if 'a' ≤ character && character ≤ 'f' then some (character.toNat - 87)
    else if 'A' ≤ character && character ≤ 'F' then some (character.toNat - 55)
    else none
  value.filter (· < radix)

/-- The digits at the front, and what follows them. -/
def digits (radix : Nat) : List Char → List Nat × List Char
  | [] => ([], [])
  | character :: rest =>
    match digit? radix character with
    | some value =>
      let (values, behind) := digits radix rest
      (value :: values, behind)
    | none => ([], character :: rest)

/-- A number with a bound on its value, its digits and its leading zeros. -/
def number (radix bound : Nat) (maxDigits : Option Nat) (leadingZero : Bool)
    (characters : List Char) : Option (Nat × List Char) :=
  let (values, behind) := digits radix characters
  let value := values.foldl (fun total digit => radix * total + digit) 0
  let tooLong := maxDigits.any (· < values.length)
  let zeroFirst := values.head? == some 0 && 1 < values.length
  if values.isEmpty || tooLong || (zeroFirst && !leadingZero) then none
  else if value < bound then some (value, behind)
  else none

/-- One given character. -/
def expect (wanted : Char) : List Char → Option (List Char)
  | character :: rest => if character = wanted then some rest else none
  | [] => none

/-- One octet in decimal digits. -/
def octet (characters : List Char) : Option (Nat × List Char) :=
  number 10 256 (some 3) false characters

/-- Four octets with points between. -/
def fourOctets (characters : List Char) : Option (List Nat × List Char) := do
  let (first, rest) ← octet characters
  let (second, rest) ← octet (← expect '.' rest)
  let (third, rest) ← octet (← expect '.' rest)
  let (fourth, rest) ← octet (← expect '.' rest)
  return ([first, second, third, fourth], rest)

/-- The colon in front of every group but the first one. -/
def groupStart (first : Bool) (characters : List Char) : Option (List Char) :=
  if first then some characters else expect ':' characters

/--
At most `limit` groups with colons between; the flag says that they end with
four decimal numbers.
-/
def groups : Nat → Bool → List Char → List Nat × Bool × List Char
  | 0, _, characters => ([], false, characters)
  | limit + 1, first, characters =>
    let embedded :=
      if limit = 0 then none
      else (groupStart first characters).bind fourOctets
    match embedded with
    | some ([one, two, three, four], rest) =>
      ([256 * one + two, 256 * three + four], true, rest)
    | _ =>
      match (groupStart first characters).bind (number 16 65536 (some 4) true) with
      | some (group, rest) =>
        let (more, endsDecimal, behind) := groups limit false rest
        (group :: more, endsDecimal, behind)
      | none => ([], false, characters)

/-- Eight groups, or fewer around a doubled colon. -/
def eightGroups (characters : List Char) : Option (List Nat × List Char) :=
  let (head, endsDecimal, rest) := groups 8 true characters
  if head.length = 8 then some (head, rest)
  else if endsDecimal then none
  else do
    let rest ← expect ':' (← expect ':' rest)
    let (tail, _, rest) := groups (7 - head.length) true rest
    let zeros := List.replicate (8 - head.length - tail.length) 0
    return (head ++ zeros ++ tail, rest)

/-- A colon and a port. -/
def port (characters : List Char) : Option (Nat × List Char) := do
  number 10 65536 none true (← expect ':' characters)

/-- The scope of an address in brackets, which is read and not kept. -/
def scope (characters : List Char) : List Char :=
  match (expect '%' characters).bind (number 10 UInt32.size none true) with
  | some (_, rest) => rest
  | none => characters

/-- Four octets and a port. -/
def socketFour (characters : List Char) : Option (SocketAddress × List Char) := do
  let (octets, rest) ← fourOctets characters
  let (port, rest) ← port rest
  return (⟨.four octets, port⟩, rest)

/-- Eight groups in brackets and a port. -/
def socketSix (characters : List Char) : Option (SocketAddress × List Char) := do
  let (groups, rest) ← eightGroups (← expect '[' characters)
  let (port, rest) ← port (← expect ']' (scope rest))
  return (⟨.six groups, port⟩, rest)

/-- The socket address that a text spells. -/
def SocketAddress.parse? (text : String) : Option SocketAddress :=
  let characters := text.toList
  match (socketFour characters).orElse fun _ => socketSix characters with
  | some (address, []) => some address
  | _ => none

/-- The start and the length of the longest run of zeros, the first of equals. -/
def longestZeros (groups : List Nat) : Nat × Nat :=
  scan groups 0 (0, 0) (0, 0)
where
  /-- Continue with the run that ends here and the best one so far. -/
  scan : List Nat → Nat → Nat × Nat → Nat × Nat → Nat × Nat
    | [], _, _, best => best
    | group :: rest, place, current, best =>
      if group = 0 then
        let current :=
          if current.2 = 0 then (place, 1) else (current.1, current.2 + 1)
        scan rest (place + 1) current
          (if best.2 < current.2 then current else best)
      else scan rest (place + 1) (0, 0) best

/-- Groups in hexadecimal digits with colons between. -/
def groupsText (groups : List Nat) : String :=
  ":".intercalate
    (groups.map fun group => String.ofList (Nat.toDigits 16 group))

/-- Octets in decimal digits with points between. -/
def octetsText (octets : List Nat) : String :=
  ".".intercalate (octets.map toString)

/-- The text of a host address. -/
def HostAddress.text : HostAddress → String
  | .four octets => octetsText octets
  | .six groups =>
    match groups with
    | [0, 0, 0, 0, 0, 0xFFFF, high, low] =>
      "::ffff:" ++ octetsText [high / 256, high % 256, low / 256, low % 256]
    | _ =>
      let (start, length) := longestZeros groups
      if 1 < length then
        groupsText (groups.take start) ++ "::" ++
          groupsText (groups.drop (start + length))
      else groupsText groups

/-- The text of a socket address. -/
def SocketAddress.text (address : SocketAddress) : String :=
  let host :=
    match address.host with
    | .four _ => address.host.text
    | .six _ => "[" ++ address.host.text ++ "]"
  host ++ ":" ++ toString address.port

end Gatehouse.Net
