import ConfigDelivery.Text.Integer
/-!
# Socket addresses

The written form of an internet address and a port: four decimal numbers without
leading zeros for the short addresses, and for the long ones eight hexadecimal
groups in brackets, of which one run of zeros may be left out and the last two may
be written as a short address.
-/

namespace ConfigDelivery.Http

/-- The address of a machine. -/
inductive Host where
  | v4 (octets : List Nat)
  | v6 (groups : List Nat)
  deriving DecidableEq, Repr

/-- An address and a port. -/
structure SocketAddress where
  host : Host
  port : Nat
  deriving DecidableEq, Repr

namespace SocketAddress

/-- Reads the front of a text, and answers the rest. -/
abbrev Reader (Result : Type) := List Char → Option (Result × List Char)

/-- The value of a digit in some base. -/
def digit? (base : Nat) (character : Char) : Option Nat :=
  let code := character.toNat
  let value? :=
    if '0'.toNat ≤ code ∧ code ≤ '9'.toNat then some (code - '0'.toNat)
    else if 'a'.toNat ≤ code ∧ code ≤ 'f'.toNat then some (code - 'a'.toNat + 10)
    else if 'A'.toNat ≤ code ∧ code ≤ 'F'.toNat then some (code - 'A'.toNat + 10)
    else none
  value?.filter (· < base)

/-- Read one character. -/
def expect (mark : Char) : Reader Unit
  | character :: rest => if character = mark then some ((), rest) else none
  | [] => none

/-- Read a number below a bound, with at least one digit. -/
def number (base bound : Nat) (maxDigits : Option Nat) (allowZeros : Bool) : Reader Nat :=
  fun characters =>
    let digits := characters.takeWhile fun character => (digit? base character).isSome
    let value := digits.foldl (fun value digit => value * base + (digit? base digit).getD 0) 0
    let isTooLong := (maxDigits.map fun most => decide (most < digits.length)).getD false
    let hasZeros := 1 < digits.length ∧ digits.head? = some '0'
    if digits.isEmpty ∨ isTooLong ∨ bound ≤ value ∨ (!allowZeros ∧ hasZeros) then none
    else some (value, characters.drop digits.length)

/-- Read a short address. -/
def octets : Reader (List Nat) := fun characters => do
  let octet := number 10 256 (some 3) false
  let (first, rest) ← octet characters
  let (_, rest) ← expect '.' rest
  let (second, rest) ← octet rest
  let (_, rest) ← expect '.' rest
  let (third, rest) ← octet rest
  let (_, rest) ← expect '.' rest
  let (fourth, rest) ← octet rest
  return ([first, second, third, fourth], rest)

/-- A short address as two groups. -/
def groupsOfOctets : List Nat → List Nat
  | [first, second, third, fourth] => [first * 256 + second, third * 256 + fourth]
  | _ => []

/-- Read up to some groups, with colons between them; a short address ends them. Says also whether
one did. -/
def groups : Nat → Bool → List Char → List Nat × Bool × List Char
  | 0, _, characters => ([], false, characters)
  | room + 1, isFirst, characters =>
    let behind := if isFirst then some characters else (expect ':' characters).map Prod.snd
    let short := if room = 0 then none else behind >>= octets
    match short, behind >>= number 16 0x10000 (some 4) true with
    | some (address, rest), _ => (groupsOfOctets address, true, rest)
    | none, some (group, rest) =>
      let (more, endsShort, rest) := groups room false rest
      (group :: more, endsShort, rest)
    | none, none => ([], false, characters)

/-- Read a long address. -/
def longAddress : Reader (List Nat) := fun characters => do
  let (front, endsShort, rest) := groups 8 true characters
  if front.length = 8 then return (front, rest)
  if endsShort then none
  let (_, rest) ← expect ':' rest
  let (_, rest) ← expect ':' rest
  let (back, _, rest) := groups (7 - front.length) true rest
  return (front ++ List.replicate (8 - front.length - back.length) 0 ++ back, rest)

/-- Read a port behind its colon. -/
def portNumber : Reader Nat := fun characters => do
  let (_, rest) ← expect ':' characters
  number 10 0x10000 none true rest

/-- Read a short address and a port. -/
def short : Reader SocketAddress := fun characters => do
  let (address, rest) ← octets characters
  let (port, rest) ← portNumber rest
  return (⟨.v4 address, port⟩, rest)

/-- Read the number of a network interface, if there is one. -/
def scopeNumber : Reader Unit := fun characters =>
  match characters with
  | '%' :: rest => (number 10 0x100000000 none true rest).map fun (_, rest) => ((), rest)
  | _ => some ((), characters)

/-- Read a long address in brackets and a port. -/
def long : Reader SocketAddress := fun characters => do
  let (_, rest) ← expect '[' characters
  let (address, rest) ← longAddress rest
  let (_, rest) ← scopeNumber rest
  let (_, rest) ← expect ']' rest
  let (port, rest) ← portNumber rest
  return (⟨.v6 address, port⟩, rest)

/-- The socket address that a text writes. -/
def read? (text : String) : Option SocketAddress :=
  match (short text.toList).orElse fun _ => long text.toList with
  | some (address, []) => some address
  | _ => none

/-- The wording for a text that writes no socket address. -/
def invalid : String := "invalid socket address syntax"

/-- The socket address that a text writes, or the wording for none. -/
def read (text : String) : Except String SocketAddress :=
  match read? text with
  | some address => .ok address
  | none => .error invalid

/-- An address is the machine's own. -/
def isLoopback (address : SocketAddress) : Bool :=
  match address.host with
  | .v4 octets => octets.head? = some 127
  | .v6 groups => groups = [0, 0, 0, 0, 0, 0, 0, 1]

/-- A group in hexadecimal digits. -/
def groupText (group : Nat) : String := String.ofList (Nat.toDigits 16 group)

/-- The length of the run of zeros at the front. -/
def zeros (groups : List Nat) : Nat := (groups.takeWhile (· = 0)).length

/-- Where the longest run of zeros begins and how long it is; of two the first. -/
def longestZeros (groups : List Nat) : Nat × Nat :=
  (List.range groups.length).foldl
    (fun best index =>
      let length := zeros (groups.drop index)
      if best.2 < length then (index, length) else best)
    (0, 0)

/-- A long address in text. -/
def groupsText (groups : List Nat) : String :=
  let join (groups : List Nat) : String := String.intercalate ":" (groups.map groupText)
  let (start, length) := longestZeros groups
  if length ≤ 1 then join groups
  else join (groups.take start) ++ "::" ++ join (groups.drop (start + length))

/-- A socket address in text. -/
def text (address : SocketAddress) : String :=
  let host :=
    match address.host with
    | .v4 octets => String.intercalate "." (octets.map fun (octet : Nat) => Text.integerText octet)
    | .v6 groups => "[" ++ groupsText groups ++ "]"
  host ++ ":" ++ Text.integerText address.port

end SocketAddress

end ConfigDelivery.Http
