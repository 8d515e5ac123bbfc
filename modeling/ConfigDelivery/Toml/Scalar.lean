import ConfigDelivery.Json.Reader
/-!
# Keys and scalars of TOML

Keys, strings, numbers, truth values and dates, each read from the front of the
characters left. A value is delivered as the JSON document that holds it, so that
one set of decoders serves both formats; a date is an object of one member that
no record knows.
-/

namespace ConfigDelivery.Toml

open Json (Document Numeral)

/-- Blanks inside a line. -/
def isLineBlank (character : Char) : Bool := character == ' ' || character == '\t'

/-- Drop blanks inside a line. -/
def skipBlank (characters : List Char) : List Char := characters.dropWhile isLineBlank

/-- A control character that neither comments nor strings may hold. -/
def isControl (character : Char) : Bool :=
  (character.toNat < 0x20 && character != '\t') || character.toNat = 0x7f

/-- Drop a comment, if there is one; its text ends before a line break. -/
def skipComment? (characters : List Char) : Option (List Char) :=
  match characters with
  | '#' :: rest =>
    match rest.dropWhile fun character => !isControl character with
    | [] => some []
    | '\n' :: rest => some ('\n' :: rest)
    | '\r' :: '\n' :: rest => some ('\n' :: rest)
    | _ => none
  | characters => some characters

/-- Drop one line break. -/
def skipBreak? : List Char → Option (List Char)
  | '\n' :: rest => some rest
  | '\r' :: '\n' :: rest => some rest
  | _ => none

/-- A character of a key that needs no quotes. -/
def isBareKey (character : Char) : Bool :=
  character.isAlphanum || character == '_' || character == '-'

/-- Read as many hexadecimal digits as asked for. -/
def readHex? : Nat → Nat → List Char → Option (Nat × List Char)
  | 0, value, rest => some (value, rest)
  | _ + 1, _, [] => none
  | count + 1, value, character :: rest =>
    match Json.hexValue? character with
    | some digit => readHex? count (value * 16 + digit) rest
    | none => none

/-- The character of a code point that is one. -/
def scalar? (code : Nat) : Option Char :=
  if code < 0xd800 ∨ (0xe000 ≤ code ∧ code < 0x110000) then some (Char.ofNat code) else none

/-- Read an escape behind its backslash. -/
def readEscape? : List Char → Option (Char × List Char)
  | 'b' :: rest => some ('\x08', rest)
  | 't' :: rest => some ('\t', rest)
  | 'n' :: rest => some ('\n', rest)
  | 'f' :: rest => some ('\x0c', rest)
  | 'r' :: rest => some ('\r', rest)
  | '"' :: rest => some ('"', rest)
  | '\\' :: rest => some ('\\', rest)
  | 'u' :: rest => do
    let (code, rest) ← readHex? 4 0 rest
    return (← scalar? code, rest)
  | 'U' :: rest => do
    let (code, rest) ← readHex? 8 0 rest
    return (← scalar? code, rest)
  | _ => none

/-- Read a string with escapes on one line, behind its opening quote. -/
def readBasic? : Nat → List Char → List Char → Option (String × List Char)
  | 0, _, _ => none
  | _ + 1, _, [] => none
  | fuel + 1, done, character :: rest =>
    if character == '"' then some (String.ofList done.reverse, rest)
    else if character == '\\' then
      match readEscape? rest with
      | some (value, rest) => readBasic? fuel (value :: done) rest
      | none => none
    else if isControl character then none
    else readBasic? fuel (character :: done) rest

/-- Read a string without escapes on one line, behind its opening quote. -/
def readLiteral? (characters : List Char) : Option (String × List Char) :=
  match characters.span fun character => character != '\'' && !isControl character with
  | (text, '\'' :: rest) => some (String.ofList text, rest)
  | _ => none

/-- Drop the first line break of a string over several lines. -/
def dropFirstBreak (characters : List Char) : List Char :=
  (skipBreak? characters).getD characters

/-- Drop blanks and line breaks behind a backslash at the end of a line; none when there is text
before the line ends. -/
def skipFolded? (characters : List Char) : Option (List Char) :=
  match skipBreak? (skipBlank characters) with
  | none => none
  | some rest => some (rest.dropWhile fun character =>
      isLineBlank character || character == '\n' || character == '\r')

/-- Read a string over several lines up to its three closing quotes; up to two more quotes in front
of them belong to the text. -/
def readLines? (quote : Char) : Nat → List Char → List Char → Option (String × List Char)
  | 0, _, _ => none
  | fuel + 1, done, characters =>
    match characters with
    | [] => none
    | first :: rest =>
      if first == quote then
        let quotes := characters.takeWhile (· == quote)
        let count := quotes.length
        if count < 3 then readLines? quote fuel (quotes ++ done) (characters.drop count)
        else if count ≤ 5 then
          some (String.ofList ((quotes.drop 3 ++ done).reverse), characters.drop count)
        else none
      else if first == '\\' && quote == '"' then
        match skipFolded? rest with
        | some rest => readLines? quote fuel done rest
        | none =>
          match readEscape? rest with
          | some (value, rest) => readLines? quote fuel (value :: done) rest
          | none => none
      else
        match skipBreak? characters with
        | some rest => readLines? quote fuel ('\n' :: done) rest
        | none => if isControl first then none else readLines? quote fuel (first :: done) rest

/-- Read a string of any of the four forms. -/
def readString? (characters : List Char) : Option (String × List Char) :=
  let fuel := characters.length + 1
  match characters with
  | '"' :: '"' :: '"' :: rest => readLines? '"' fuel [] (dropFirstBreak rest)
  | '\'' :: '\'' :: '\'' :: rest => readLines? '\'' fuel [] (dropFirstBreak rest)
  | '"' :: rest => readBasic? fuel [] rest
  | '\'' :: rest => readLiteral? rest
  | _ => none

/-- Read one part of a key. -/
def readSimpleKey? (characters : List Char) : Option (String × List Char) :=
  match characters with
  | '"' :: rest => readBasic? (rest.length + 1) [] rest
  | '\'' :: rest => readLiteral? rest
  | _ =>
    match characters.span isBareKey with
    | ([], _) => none
    | (key, rest) => some (String.ofList key, rest)

/-- Read a key: parts with points between them. `fuel` bounds the parts. -/
def readKey? : Nat → List Char → Option (List String × List Char)
  | 0, _ => none
  | fuel + 1, characters => do
    let (part, rest) ← readSimpleKey? (skipBlank characters)
    match skipBlank rest with
    | '.' :: rest =>
      let (parts, rest) ← readKey? fuel rest
      return (part :: parts, rest)
    | rest => return ([part], rest)

/-- Digits with single underscores between them; the underscores are dropped. -/
def digitRun? (isDigit : Char → Bool) (characters : List Char) : Option (List Char) :=
  let rec go : Bool → List Char → Option (List Char)
    | afterDigit, [] => if afterDigit then some [] else none
    | afterDigit, '_' :: rest => if afterDigit then go false rest else none
    | _, character :: rest =>
      if isDigit character then (go true rest).map (character :: ·) else none
  go false characters

/-- The value of digits in a base. -/
def digitsIn (base : Nat) (digits : List Char) : Nat :=
  digits.foldl (fun value digit => value * base + (Json.hexValue? digit).getD 0) 0

/-- A signed 64-bit integer. -/
def integer? (value : Int) : Option Document :=
  if -0x8000000000000000 ≤ value ∧ value < 0x8000000000000000 then some (.ofInt value) else none

/-- The digits of a number that has no leading zero. -/
def plainDigits? (characters : List Char) : Option (List Char) :=
  match digitRun? Json.isDigit characters with
  | some ('0' :: _ :: _) => none
  | digits => digits

/-- The numeral of a number with a point or a power of ten. -/
def floatNumeral? (negative : Bool) (characters : List Char) : Option Numeral := do
  let isMark (character : Char) : Bool := character == 'e' || character == 'E'
  let (mantissa, power) := characters.span (!isMark ·)
  let power ←
    match power with
    | [] => some none
    | _ :: '-' :: digits => do some (some ⟨true, ← digitRun? Json.isDigit digits⟩)
    | _ :: '+' :: digits => do some (some ⟨false, ← digitRun? Json.isDigit digits⟩)
    | _ :: digits => do some (some ⟨false, ← digitRun? Json.isDigit digits⟩)
  match mantissa.span (· != '.') with
  | (whole, []) => return ⟨negative, ← plainDigits? whole, none, power⟩
  | (whole, _ :: fraction) =>
    return ⟨negative, ← plainDigits? whole, some (← digitRun? Json.isDigit fraction), power⟩

/-- A number without its sign. -/
def unsigned? (negative signed : Bool) (characters : List Char) : Option Document :=
  let based (base : Nat) (isDigit : Char → Bool) (digits : List Char) : Option Document :=
    if signed then none else (digitRun? isDigit digits).bind fun digits =>
      integer? (digitsIn base digits)
  let isHex (character : Char) : Bool := (Json.hexValue? character).isSome
  match characters with
  | '0' :: 'x' :: digits => based 16 isHex digits
  | '0' :: 'o' :: digits => based 8 (fun digit => '0' ≤ digit && digit ≤ '7') digits
  | '0' :: 'b' :: digits => based 2 (fun digit => digit == '0' || digit == '1') digits
  | ['i', 'n', 'f'] | ['n', 'a', 'n'] => some (.number ⟨negative, ['0'], some ['0'], none⟩)
  | _ =>
    match plainDigits? characters with
    | some digits =>
      let magnitude : Int := digitsIn 10 digits
      integer? (if negative then -magnitude else magnitude)
    | none => (floatNumeral? negative characters).map .number

/-- A number of any form. -/
def number? (characters : List Char) : Option Document :=
  match characters with
  | '-' :: rest => unsigned? true true rest
  | '+' :: rest => unsigned? false true rest
  | _ => unsigned? false false characters

/-- Two digits that write a number of a range. -/
def pair? (low high : Nat) : List Char → Option (List Char)
  | tens :: ones :: rest =>
    if Json.isDigit tens && Json.isDigit ones then
      let value := digitsIn 10 [tens, ones]
      if low ≤ value ∧ value ≤ high then some rest else none
    else none
  | _ => none

/-- Drop a character that must be there. -/
def expect? (character : Char) : List Char → Option (List Char)
  | first :: rest => if first == character then some rest else none
  | [] => none

/-- Drop a time of day. -/
def time? (characters : List Char) : Option (List Char) := do
  let rest ← pair? 0 23 characters
  let rest ← expect? ':' rest >>= pair? 0 59
  let rest ← expect? ':' rest >>= pair? 0 60
  match rest with
  | '.' :: digits =>
    match digits.span Json.isDigit with
    | ([], _) => none
    | (_, rest) => some rest
  | rest => some rest

/-- Drop a distance from universal time, if there is one. -/
def offset? (characters : List Char) : Option (List Char) :=
  match characters with
  | 'Z' :: rest | 'z' :: rest => some rest
  | '+' :: rest | '-' :: rest => pair? 0 23 rest >>= expect? ':' >>= pair? 0 59
  | rest => some rest

/-- The days of a month. -/
def daysIn (year month : Nat) : Nat :=
  if month = 2 then
    if year % 4 = 0 ∧ (year % 100 ≠ 0 ∨ year % 400 = 0) then 29 else 28
  else if month = 4 ∨ month = 6 ∨ month = 9 ∨ month = 11 then 30 else 31

/-- Drop a calendar day. -/
def date? : List Char → Option (List Char)
  | y1 :: y2 :: y3 :: y4 :: '-' :: m1 :: m2 :: '-' :: rest =>
    if [y1, y2, y3, y4, m1, m2].all Json.isDigit then
      let month := digitsIn 10 [m1, m2]
      if 1 ≤ month ∧ month ≤ 12 then
        pair? 1 (daysIn (digitsIn 10 [y1, y2, y3, y4]) month) rest
      else none
    else none
  | _ => none

/-- Drop a date, a time, or both. -/
def moment? (characters : List Char) : Option (List Char) :=
  match date? characters with
  | none => time? characters
  | some rest =>
    match rest with
    | 'T' :: clock | 't' :: clock => time? clock >>= offset?
    | ' ' :: clock =>
      match time? clock with
      | some rest => offset? rest
      | none => some rest
    | rest => some rest

/-- The document of a date. -/
def dateDocument (text : List Char) : Document :=
  .ofMembers [("$date", .ofString (String.ofList text))]

/-- A character that may stand in a number. -/
def isNumberChar (character : Char) : Bool :=
  character.isAlphanum || character == '_' || character == '.' || character == '+'
    || character == '-'

/-- Read a number or a date. -/
def readNumber? (characters : List Char) : Option (Document × List Char) :=
  match moment? characters with
  | some rest => some (dateDocument (characters.take (characters.length - rest.length)), rest)
  | none =>
    let (lexeme, rest) := characters.span isNumberChar
    (number? lexeme).map fun document => (document, rest)

end ConfigDelivery.Toml
