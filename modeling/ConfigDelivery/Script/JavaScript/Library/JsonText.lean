import ConfigDelivery.Script.JavaScript.Number
import ConfigDelivery.Text.Units
/-!
# Reading JSON text in scripts

JSON text becomes a tree whose texts are rows of units, so half of a surrogate
pair is a text like any other. The reader is lenient with escapes: an unknown one
stands for the character behind the backslash. What is wrong with a text is told
by its first token that does not fit.
-/

namespace ConfigDelivery.Script.JavaScript.Library

open ConfigDelivery.Text (Units)

/-- What a JSON text says. -/
inductive JsonTree where
  | null
  | bool (value : Bool)
  | number (value : Float)
  | text (value : Units)
  | array (items : List JsonTree)
  | object (members : List (Units × JsonTree))

/-- A token of JSON text. -/
inductive JsonToken where
  | mark (unit : Nat)
  | text (value : Units)
  | number (value : Float)
  | word (letters : List Nat)
  | finish

/-- A token, the units that write it, and the units behind it. -/
structure JsonLexeme where
  token : JsonToken
  written : List Nat
  rest : List Nat

namespace JsonLexeme

/-- A decimal digit. -/
def isDigit (unit : Nat) : Bool := 0x30 ≤ unit && unit ≤ 0x39

/-- A letter that may start a word. -/
def startsWord (unit : Nat) : Bool :=
  (0x41 ≤ unit && unit ≤ 0x5a) || (0x61 ≤ unit && unit ≤ 0x7a) || unit = 0x5f || unit = 0x24

/-- Blanks between tokens. -/
def isSpace (unit : Nat) : Bool := unit = 0x20 || unit = 0x09 || unit = 0x0a || unit = 0x0d

/-- The value of a hexadecimal digit. -/
def hexValue? (unit : Nat) : Option Nat :=
  if isDigit unit then some (unit - 0x30)
  else if 0x61 ≤ unit ∧ unit ≤ 0x66 then some (unit - 0x61 + 10)
  else if 0x41 ≤ unit ∧ unit ≤ 0x46 then some (unit - 0x41 + 10)
  else none

/-- Read some hexadecimal digits. -/
def hexDigits : Nat → Nat → List Nat → Option (Nat × List Nat)
  | 0, value, rest => some (value, rest)
  | _ + 1, _, [] => none
  | count + 1, value, unit :: rest =>
    match hexValue? unit with
    | some digit => hexDigits count (value * 16 + digit) rest
    | none => none

/-- What an escape stands for, behind its backslash. -/
def escape? : List Nat → Option (List UInt16 × List Nat)
  | [] => none
  | unit :: rest =>
    let one (code : Nat) : Option (List UInt16 × List Nat) := some ([code.toUInt16], rest)
    let digits (count : Nat) : Option (List UInt16 × List Nat) :=
      (hexDigits count 0 rest).map fun (code, rest) => ([code.toUInt16], rest)
    match unit with
    | 0x62 => one 0x08
    | 0x66 => one 0x0c
    | 0x6e => one 0x0a
    | 0x72 => one 0x0d
    | 0x74 => one 0x09
    | 0x76 => one 0x0b
    | 0x78 => digits 2
    | 0x75 => digits 4
    | 0x0a => some ([], rest)
    | unit => if isDigit unit then none else one unit

/-- Read the inside of a text up to its closing quote; `fuel` bounds its parts. -/
def inside : Nat → List UInt16 → List Nat → Except String (Units × List Nat)
  | 0, _, _ => .error "unexpected end of string"
  | _ + 1, _, [] => .error "unexpected end of string"
  | fuel + 1, done, unit :: rest =>
    if unit < 0x20 then .error "invalid character in a JSON string"
    else if unit = 0x22 then .ok (⟨done.reverse.toArray⟩, rest)
    else if unit = 0x5c then
      match escape? rest with
      | some (units, rest) => inside fuel (units.reverse ++ done) rest
      | none =>
        if rest.isEmpty then .error "unexpected end of string"
        else .error "malformed escape sequence in string literal"
    else inside fuel (unit.toUInt16 :: done) rest

/-- The units that write a number at the front: digits, a fraction and a power. -/
def numberLength (units : List Nat) : Nat :=
  let sign := if units.head? = some 0x2d then 1 else 0
  let rest := units.drop sign
  let whole := (rest.takeWhile isDigit).length
  let rest := rest.drop whole
  let fraction :=
    if rest.head? = some 0x2e then 1 + ((rest.drop 1).takeWhile isDigit).length else 0
  let rest := rest.drop fraction
  let power :=
    match rest with
    | unit :: behind =>
      if unit = 0x65 ∨ unit = 0x45 then
        let signed := if behind.head? = some 0x2b ∨ behind.head? = some 0x2d then 1 else 0
        let digits := ((behind.drop signed).takeWhile isDigit).length
        if digits = 0 then 0 else 1 + signed + digits
      else 0
    | [] => 0
  sign + whole + fraction + power

/-- Read the next token. -/
def next (units : List Nat) : Except String JsonLexeme :=
  match units.dropWhile isSpace with
  | [] => .ok ⟨.finish, [], []⟩
  | unit :: rest =>
    let mark : JsonLexeme := ⟨.mark unit, [unit], rest⟩
    let number : JsonLexeme :=
      let length := numberLength (unit :: rest)
      let written := (unit :: rest).take length
      let characters := written.map Char.ofNat
      let value := ((readSigned? characters).map Prod.fst).getD 0
      ⟨.number value, written, (unit :: rest).drop length⟩
    let digitFollows := (rest.head?.map isDigit).getD false
    if unit = 0x22 then
      (inside (rest.length + 1) [] rest).map fun (text, behind) =>
        ⟨.text text, (unit :: rest).take (rest.length + 1 - behind.length), behind⟩
    else if startsWord unit then
      let word := unit :: rest.takeWhile fun unit => startsWord unit || isDigit unit
      .ok ⟨.word word, word, (unit :: rest).drop word.length⟩
    else if unit = 0x30 then .ok (if digitFollows then mark else number)
    else if unit = 0x2d then .ok (if digitFollows then number else mark)
    else if isDigit unit then .ok number
    else if 0x80 ≤ unit then .error "unexpected character"
    else .ok mark

/-- What is wrong with a token that starts no value. -/
def complaint (lexeme : JsonLexeme) : String :=
  match lexeme.token with
  | .finish => "unexpected end of input"
  | _ => "unexpected token: '" ++ String.ofList (lexeme.written.map Units.charOf) ++ "'"

/-- A token is a mark. -/
def isMark (lexeme : JsonLexeme) (mark : Char) : Bool :=
  match lexeme.token with
  | .mark unit => unit = mark.toNat
  | _ => false

/-- The token behind a mark that must stand. -/
def expect (lexeme : JsonLexeme) (mark : Char) : Except String JsonLexeme :=
  if lexeme.isMark mark then next lexeme.rest
  else .error ("expecting '" ++ String.singleton mark ++ "'")

end JsonLexeme

/-- The value of a word that is one. -/
def wordTree? (letters : List Nat) : Option JsonTree :=
  match String.ofList (letters.map Char.ofNat) with
  | "null" => some .null
  | "true" => some (.bool true)
  | "false" => some (.bool false)
  | _ => none

mutual

/-- Read a value that starts with a token; the answer also has the token behind it. `fuel` bounds
the tokens. -/
def readTree : Nat → JsonLexeme → Except String (JsonTree × JsonLexeme)
  | 0, lexeme => .error lexeme.complaint
  | fuel + 1, lexeme =>
    let leaf (tree : JsonTree) : Except String (JsonTree × JsonLexeme) :=
      (JsonLexeme.next lexeme.rest).map (tree, ·)
    match lexeme.token with
    | .text value => leaf (.text value)
    | .number value => leaf (.number value)
    | .word letters =>
      match wordTree? letters with
      | some tree => leaf tree
      | none => .error lexeme.complaint
    | .mark unit =>
      if unit = 0x7b then do
        let first ← JsonLexeme.next lexeme.rest
        let (members, last) ←
          if first.isMark '}' then pure ([], first) else readMembers fuel first
        return (.object members, ← last.expect '}')
      else if unit = 0x5b then do
        let first ← JsonLexeme.next lexeme.rest
        let (items, last) ← if first.isMark ']' then pure ([], first) else readItems fuel first
        return (.array items, ← last.expect ']')
      else .error lexeme.complaint
    | .finish => .error lexeme.complaint

/-- Read the members of an object from the name of the first. -/
def readMembers : Nat → JsonLexeme → Except String (List (Units × JsonTree) × JsonLexeme)
  | 0, lexeme => .error lexeme.complaint
  | fuel + 1, lexeme =>
    match lexeme.token with
    | .text name => do
      let colon ← JsonLexeme.next lexeme.rest
      let (tree, behind) ← readTree fuel (← colon.expect ':')
      if behind.isMark ',' then
        let (members, last) ← readMembers fuel (← JsonLexeme.next behind.rest)
        return ((name, tree) :: members, last)
      else return ([(name, tree)], behind)
    | _ => .error "expecting property name"

/-- Read the items of an array from the first. -/
def readItems : Nat → JsonLexeme → Except String (List JsonTree × JsonLexeme)
  | 0, lexeme => .error lexeme.complaint
  | fuel + 1, lexeme => do
    let (tree, behind) ← readTree fuel lexeme
    if behind.isMark ',' then
      let (items, last) ← readItems fuel (← JsonLexeme.next behind.rest)
      return (tree :: items, last)
    else return ([tree], behind)

end

/-- Read a whole JSON text, or say what is wrong with it. -/
def JsonTree.read (text : Units) : Except String JsonTree := do
  let units := text.units.toList.map UInt16.toNat
  let (tree, last) ← readTree (2 * units.length + 2) (← JsonLexeme.next units)
  match last.token with
  | .finish => return tree
  | _ => .error "unexpected data at the end"

end ConfigDelivery.Script.JavaScript.Library
