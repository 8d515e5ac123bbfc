import ConfigDelivery.Json.Document
/-!
# Reading JSON text

A pushdown reader of the strict grammar: it moves along the characters with a
stack of the arrays and objects that are still open, so the depth of a text is
bounded by nothing here. Whitespace is the four blanks of the grammar.
-/

namespace ConfigDelivery.Json

/-- Whitespace between the tokens of a JSON text. -/
def isSpace (character : Char) : Bool :=
  character == ' ' || character == '\t' || character == '\n' || character == '\r'

/-- Drop whitespace. -/
def skipSpace (characters : List Char) : List Char :=
  characters.dropWhile isSpace

/-- An ASCII decimal digit. -/
def isDigit (character : Char) : Bool :=
  '0' ≤ character && character ≤ '9'

/-- The value of a hexadecimal digit of either case. -/
def hexValue? (character : Char) : Option Nat :=
  if '0' ≤ character ∧ character ≤ '9' then some (character.toNat - '0'.toNat)
  else if 'a' ≤ character ∧ character ≤ 'f' then some (character.toNat - 'a'.toNat + 10)
  else if 'A' ≤ character ∧ character ≤ 'F' then some (character.toNat - 'A'.toNat + 10)
  else none

/-- Four hexadecimal digits in front of a text. -/
def readHex4? : List Char → Option (Nat × List Char)
  | first :: second :: third :: fourth :: rest => do
    let value := (((← hexValue? first) * 16 + (← hexValue? second)) * 16 + (← hexValue? third)) * 16
      + (← hexValue? fourth)
    return (value, rest)
  | _ => none

/-- The first half of a surrogate pair. -/
def isLeadSurrogate (unit : Nat) : Bool := 0xd800 ≤ unit && unit ≤ 0xdbff

/-- The second half of a surrogate pair. -/
def isTrailSurrogate (unit : Nat) : Bool := 0xdc00 ≤ unit && unit ≤ 0xdfff

/-- The code point of a surrogate pair. -/
def combineSurrogates (lead trail : Nat) : Nat :=
  0x10000 + (lead - 0xd800) * 0x400 + (trail - 0xdc00)

/-- What an escape stands for. -/
inductive Escaped where
  | character (value : Char)
  | loneSurrogate

/-- The character that an escape of one letter stands for. -/
def shortEscape? : Char → Option Char
  | '"' => some '"'
  | '\\' => some '\\'
  | '/' => some '/'
  | 'b' => some '\x08'
  | 'f' => some '\x0c'
  | 'n' => some '\n'
  | 'r' => some '\r'
  | 't' => some '\t'
  | _ => none

/-- The half of a pair that is written directly behind a first half. -/
def readTrail? (characters : List Char) : Option (Nat × List Char) :=
  match characters with
  | '\\' :: 'u' :: digits =>
    match readHex4? digits with
    | some (trail, rest) => if isTrailSurrogate trail then some (trail, rest) else none
    | none => none
  | _ => none

/-- Read an escape behind its backslash. -/
def readEscape? : List Char → Option (Escaped × List Char)
  | 'u' :: digits => do
    let (unit, rest) ← readHex4? digits
    if isLeadSurrogate unit then
      match readTrail? rest with
      | some (trail, rest) => return (.character (Char.ofNat (combineSurrogates unit trail)), rest)
      | none => return (.loneSurrogate, rest)
    else if isTrailSurrogate unit then return (.loneSurrogate, rest)
    else return (.character (Char.ofNat unit), rest)
  | letter :: rest => do return (.character (← shortEscape? letter), rest)
  | [] => none

/-- Read the inside of a string up to its closing quote; `whole` is false once a lone surrogate
was met. `fuel` bounds the characters looked at. -/
def readQuoted? : Nat → Bool → List Char → List Char → Option (Quoted × List Char)
  | 0, _, _, _ => none
  | _ + 1, _, _, [] => none
  | fuel + 1, whole, done, character :: rest =>
    if character == '"' then
      some (if whole then .text (String.ofList done.reverse) else .loneSurrogate, rest)
    else if character == '\\' then
      match readEscape? rest with
      | none => none
      | some (.character value, rest) => readQuoted? fuel whole (value :: done) rest
      | some (.loneSurrogate, rest) => readQuoted? fuel false done rest
    else if character.toNat < 0x20 then none
    else readQuoted? fuel whole (character :: done) rest

/-- Read a string behind its opening quote. -/
def readString? (characters : List Char) : Option (Quoted × List Char) :=
  readQuoted? (characters.length + 1) true [] characters

/-- Read the fraction of a numeral, if there is one. -/
def readFraction? (characters : List Char) : Option (Option (List Char) × List Char) :=
  match characters with
  | '.' :: rest =>
    match rest.span isDigit with
    | ([], _) => none
    | (digits, rest) => some (some digits, rest)
  | _ => some (none, characters)

/-- Split the sign of a power of ten from its digits; true for a minus. -/
def powerSign : List Char → Bool × List Char
  | '+' :: rest => (false, rest)
  | '-' :: rest => (true, rest)
  | characters => (false, characters)

/-- Read the power of ten of a numeral, if there is one. -/
def readPower? (characters : List Char) : Option (Option PowerText × List Char) :=
  match characters with
  | 'e' :: rest | 'E' :: rest =>
    let (negative, rest) := powerSign rest
    match rest.span isDigit with
    | ([], _) => none
    | (digits, rest) => some (some ⟨negative, digits⟩, rest)
  | _ => some (none, characters)

/-- Read the digits before a numeral's point: a zero alone, or digits that start with another. -/
def readWhole? (characters : List Char) : Option (List Char × List Char) :=
  match characters with
  | '0' :: rest => some (['0'], rest)
  | _ =>
    match characters.span isDigit with
    | ([], _) => none
    | (digits, rest) => some (digits, rest)

/-- Read a numeral. -/
def readNumeral? (characters : List Char) : Option (Numeral × List Char) := do
  let (negative, rest) :=
    match characters with
    | '-' :: rest => (true, rest)
    | _ => (false, characters)
  let (whole, rest) ← readWhole? rest
  let (fraction, rest) ← readFraction? rest
  let (power, rest) ← readPower? rest
  return (⟨negative, whole, fraction, power⟩, rest)

/-- An array or object whose end has not been read: its parts so far, last first. An open object
also has the name of the member that is being read. -/
inductive Frame where
  | array (done : List Document)
  | object (done : List (Quoted × Document)) (name : Quoted)

/-- What comes next: a value, or what may follow a value just read. -/
inductive Expecting where
  | value
  | afterValue (document : Document)

/-- Read a member's name and the colon behind it. -/
def readName? (characters : List Char) : Option (Quoted × List Char) :=
  match skipSpace characters with
  | '"' :: rest => do
    let (name, rest) ← readString? rest
    match skipSpace rest with
    | ':' :: rest => some (name, rest)
    | _ => none
  | _ => none

/-- Read on from a stack of open arrays and objects until the outermost value is complete; the
answer also has the characters behind it. `fuel` bounds the steps, each of which reads a
character except the last. -/
def readFrom? : Nat → Expecting → List Frame → List Char → Option (Document × List Char)
  | 0, _, _, _ => none
  | fuel + 1, .value, open_, characters =>
    match skipSpace characters with
    | '[' :: rest =>
      match skipSpace rest with
      | ']' :: rest => readFrom? fuel (.afterValue (.array [])) open_ rest
      | rest => readFrom? fuel .value (.array [] :: open_) rest
    | '{' :: rest =>
      match skipSpace rest with
      | '}' :: rest => readFrom? fuel (.afterValue (.object [])) open_ rest
      | rest =>
        match readName? rest with
        | some (name, rest) => readFrom? fuel .value (.object [] name :: open_) rest
        | none => none
    | '"' :: rest =>
      match readString? rest with
      | some (text, rest) => readFrom? fuel (.afterValue (.string text)) open_ rest
      | none => none
    | 'n' :: 'u' :: 'l' :: 'l' :: rest => readFrom? fuel (.afterValue .null) open_ rest
    | 't' :: 'r' :: 'u' :: 'e' :: rest => readFrom? fuel (.afterValue (.bool true)) open_ rest
    | 'f' :: 'a' :: 'l' :: 's' :: 'e' :: rest =>
      readFrom? fuel (.afterValue (.bool false)) open_ rest
    | characters =>
      match readNumeral? characters with
      | some (numeral, rest) => readFrom? fuel (.afterValue (.number numeral)) open_ rest
      | none => none
  | _ + 1, .afterValue document, [], characters => some (document, characters)
  | fuel + 1, .afterValue document, .array done :: open_, characters =>
    match skipSpace characters with
    | ',' :: rest => readFrom? fuel .value (.array (document :: done) :: open_) rest
    | ']' :: rest => readFrom? fuel (.afterValue (.array (document :: done).reverse)) open_ rest
    | _ => none
  | fuel + 1, .afterValue document, .object done name :: open_, characters =>
    match skipSpace characters with
    | ',' :: rest =>
      match readName? rest with
      | some (next, rest) =>
        readFrom? fuel .value (.object ((name, document) :: done) next :: open_) rest
      | none => none
    | '}' :: rest =>
      readFrom? fuel (.afterValue (.object ((name, document) :: done).reverse)) open_ rest
    | _ => none

/-- Read a whole text as one document with whitespace around it. -/
def read? (text : String) : Option Document :=
  let characters := text.toList
  match readFrom? (2 * characters.length + 2) .value [] characters with
  | some (document, rest) => if (skipSpace rest).isEmpty then some document else none
  | none => none

end ConfigDelivery.Json
