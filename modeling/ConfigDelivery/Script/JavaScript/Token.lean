import ConfigDelivery.Decimal.Binary64
import ConfigDelivery.Json.Reader
import ConfigDelivery.Text.Blank
import ConfigDelivery.Text.Units
/-!
# Tokens of JavaScript

A text is cut into words, marks and literals. Each token knows whether a line ends
in front of it, for statements may end with their line, and where it stands, for a
function is written as its own source. A template is cut at its substitutions.
-/

namespace ConfigDelivery.Script.JavaScript

open ConfigDelivery.Decimal (Binary64)
open ConfigDelivery.Text (Units)

/-- What a token is. -/
inductive Lexeme where
  | word (text : String)
  | mark (text : String)
  | number (value : Binary64)
  | bigInt (value : Nat)
  | text (value : Units)
  /-- A part of a template; the last part ends it. -/
  | template (value : Units) (isFirst isLast : Bool)
  deriving DecidableEq, Repr

/-- A token, whether a line ends in front of it, and the positions where it starts and stops. -/
structure Token where
  lexeme : Lexeme
  afterLine : Bool
  start : Nat
  stop : Nat
  deriving Repr

/-- The marks, longer ones before those that they begin with. -/
def marks : List (List Char) :=
  [">>>=", "...", "===", "!==", "**=", "<<=", ">>=", ">>>", "&&=", "||=", "??=", "=>", "==", "!=",
    "<=", ">=", "&&", "||", "??", "?.", "++", "--", "+=", "-=", "*=", "/=", "%=", "&=", "|=", "^=",
    "<<", ">>", "**", "\x7b", "\x7d", "(", ")", "[", "]", ";", ",", "<", ">", "+", "-", "*", "/",
    "%", "&", "|", "^", "!", "~", "?", ":", "=", ".", "@", "#"].map String.toList

/-- A character that ends a line. -/
def endsLine (character : Char) : Bool :=
  character == '\n' || character == '\r' || character == '\u2028' || character == '\u2029'

/-- A character between tokens. -/
def isBlank (character : Char) : Bool :=
  character != '\u0085' && Text.isBlank character || character == '\ufeff'

/-- A letter beyond ASCII: what is beyond it and neither blank nor among the symbols. -/
def isForeignLetter (character : Char) : Bool :=
  let code := character.toNat
  !isBlank character &&
    (code == 0xaa || code == 0xb5 || code == 0xba || 0xc0 ≤ code && code < 0x2000 && code != 0xd7
      && code != 0xf7 || 0x2c00 ≤ code && code < 0x2e00 || 0x3040 ≤ code && code < 0xd800
      || 0xf900 ≤ code && code < 0xfe00)

/-- A character that may start a word. -/
def startsWord (character : Char) : Bool :=
  character.isAlpha || character == '_' || character == '$' || isForeignLetter character

/-- A character that may go on in a word. -/
def goesOnInWord (character : Char) : Bool :=
  startsWord character || character.isDigit

/-- The number that digits write in a base; none when one is foreign to it. -/
def digitsIn? (base : Nat) (digits : List Char) : Option Nat :=
  if digits.isEmpty then none
  else
    digits.foldlM (fun value digit => do
      let next ← Json.hexValue? digit
      if next < base then some (value * base + next) else none) 0

/-- Drop single underscores between digits; none when one is anywhere else. -/
def dropSeparators? : List Char → Option (List Char)
  | [] => some []
  | ['_'] => none
  | '_' :: _ => none
  | first :: '_' :: second :: rest =>
    if second == '_' then none else (dropSeparators? (second :: rest)).map (first :: ·)
  | first :: rest => (dropSeparators? rest).map (first :: ·)

/-- Read a power of ten, if there is one; none when its digits are missing. -/
def readPower? (characters : List Char) : Option (Int × List Char) :=
  match characters with
  | 'e' :: rest | 'E' :: rest =>
    let (negative, rest) := Json.powerSign rest
    let (digits, rest) := rest.span fun c => Json.isDigit c || c == '_'
    do
      let value ← digitsIn? 10 (← dropSeparators? digits)
      return (if negative then -(value : Int) else value, rest)
  | _ => some (0, characters)

/-- Read a numeral. A whole one may be hexadecimal, octal or binary, and unbounded with a letter
behind it; no word follows directly. -/
def readNumeral? (characters : List Char) : Option (Lexeme × List Char) := do
  let ended (lexeme : Lexeme) (rest : List Char) : Option (Lexeme × List Char) :=
    if rest.head?.any goesOnInWord then none else some (lexeme, rest)
  let whole (value : Nat) (rest : List Char) : Option (Lexeme × List Char) :=
    match rest with
    | 'n' :: rest => ended (.bigInt value) rest
    | rest => ended (.number (Binary64.ofInt value)) rest
  let based (base : Nat) (rest : List Char) : Option (Lexeme × List Char) := do
    let (digits, rest) := rest.span fun c => (Json.hexValue? c).isSome || c == '_'
    whole (← digitsIn? base (← dropSeparators? digits)) rest
  match characters with
  | '0' :: 'x' :: rest | '0' :: 'X' :: rest => based 16 rest
  | '0' :: 'o' :: rest | '0' :: 'O' :: rest => based 8 rest
  | '0' :: 'b' :: rest | '0' :: 'B' :: rest => based 2 rest
  | _ =>
    let isPart (character : Char) : Bool := Json.isDigit character || character == '_'
    let (digits, rest) := characters.span isPart
    let digits ← dropSeparators? digits
    match digits with
    | '0' :: _ :: _ => none
    | _ =>
      match rest with
      | 'n' :: _ => whole (← digitsIn? 10 digits) rest
      | '.' :: rest =>
        let (fraction, rest) := rest.span isPart
        let fraction ← dropSeparators? fraction
        let (power, rest) ← readPower? rest
        let value := (digitsIn? 10 (digits ++ fraction)).getD 0
        ended (.number (Binary64.ofDecimal false value (power - fraction.length))) rest
      | rest =>
        let (power, rest) ← readPower? rest
        ended (.number (Binary64.ofDecimal false (← digitsIn? 10 digits) power)) rest

/-- The character of an escape of one letter. -/
def simpleEscape? : Char → Option Char
  | 'n' => some '\n'
  | 't' => some '\t'
  | 'r' => some '\r'
  | 'b' => some '\x08'
  | 'f' => some '\x0c'
  | 'v' => some '\x0b'
  | _ => none

/-- Read an escape behind its backslash: the units that it stands for. -/
def readEscape? : List Char → Option (List UInt16 × List Char)
  | [] => none
  | '\r' :: '\n' :: rest => some ([], rest)
  | 'u' :: '{' :: rest =>
    match rest.span (· != '}') with
    | (digits, _ :: rest) => do
      let code ← digitsIn? 16 digits
      if code < 0x110000 then some (Units.ofCode code, rest) else none
    | _ => none
  | 'u' :: rest => do
    let (unit, rest) ← Json.readHex4? rest
    return ([unit.toUInt16], rest)
  | 'x' :: high :: low :: rest => do
    let value ← digitsIn? 16 [high, low]
    return ([value.toUInt16], rest)
  | letter :: rest =>
    if endsLine letter then some ([], rest)
    else if letter == '0' && !rest.head?.any Json.isDigit then some ([0], rest)
    else if Json.isDigit letter || letter == 'x' then none
    else
      match simpleEscape? letter with
      | some character => some (Units.ofCode character.toNat, rest)
      | none => some (Units.ofCode letter.toNat, rest)

/-- Read the inside of a string up to its closing quote; `fuel` bounds the characters. -/
def readText? (quote : Char) : Nat → List UInt16 → List Char → Option (Units × List Char)
  | 0, _, _ => none
  | _ + 1, _, [] => none
  | fuel + 1, done, character :: rest =>
    if character == quote then some (⟨done.reverse.toArray⟩, rest)
    else if character == '\n' || character == '\r' then none
    else if character == '\\' then
      match readEscape? rest with
      | some (units, rest) => readText? quote fuel (units.reverse ++ done) rest
      | none => none
    else readText? quote fuel ((Units.ofCode character.toNat).reverse ++ done) rest

/-- Read a template up to its end or its next substitution; the flag says which. -/
def readTemplate? : Nat → List UInt16 → List Char → Option (Units × Bool × List Char)
  | 0, _, _ => none
  | _ + 1, _, [] => none
  | fuel + 1, done, character :: rest =>
    if character == '\x60' then some (⟨done.reverse.toArray⟩, true, rest)
    else if character == '$' && rest.head? == some '{' then
      some (⟨done.reverse.toArray⟩, false, rest.drop 1)
    else if character == '\\' then
      match readEscape? rest with
      | some (units, rest) => readTemplate? fuel (units.reverse ++ done) rest
      | none => none
    else if character == '\r' then
      let rest := if rest.head? == some '\n' then rest.drop 1 else rest
      readTemplate? fuel (10 :: done) rest
    else readTemplate? fuel ((Units.ofCode character.toNat).reverse ++ done) rest

/-- A text that is being cut into tokens: the tokens so far, last first, whether a line has ended
since the last one, and for every open brace whether it belongs to a template. -/
structure Scanner where
  tokens : List Token := []
  afterLine : Bool := false
  braces : List Bool := []

namespace Scanner

/-- Add a token that stands between two positions. -/
def push (scanner : Scanner) (lexeme : Lexeme) (start stop : Nat) : Scanner :=
  let braces :=
    match lexeme with
    | .mark "\x7b" => false :: scanner.braces
    | .mark "\x7d" => scanner.braces.drop 1
    | .template _ true false => true :: scanner.braces
    | .template _ false true => scanner.braces.drop 1
    | _ => scanner.braces
  let token := ⟨lexeme, scanner.afterLine, start, stop⟩
  { tokens := token :: scanner.tokens, afterLine := false, braces }

end Scanner

/-- Drop a comment up to its end, and say whether it has a line's end in it; none when it is
open. -/
def dropComment? : Bool → List Char → Option (Bool × List Char)
  | _, [] => none
  | hasLine, '*' :: '/' :: rest => some (hasLine, rest)
  | hasLine, character :: rest => dropComment? (hasLine || endsLine character) rest

/-- Cut a text of a total length into tokens; `fuel` bounds the steps, each of which reads a
character except the last. -/
def scan? (total : Nat) : Nat → Scanner → List Char → Option (List Token)
  | 0, _, _ => none
  | _ + 1, scanner, [] => if scanner.braces.contains true then none else some scanner.tokens.reverse
  | fuel + 1, scanner, character :: rest =>
    let next (lexeme : Lexeme) (after : List Char) : Option (List Token) :=
      let start := total - (rest.length + 1)
      scan? total fuel (scanner.push lexeme start (total - after.length)) after
    if endsLine character then scan? total fuel { scanner with afterLine := true } rest
    else if isBlank character then scan? total fuel scanner rest
    else if character == '/' && rest.head? == some '/' then
      scan? total fuel scanner (rest.dropWhile fun c => !endsLine c)
    else if character == '/' && rest.head? == some '*' then
      match dropComment? false (rest.drop 1) with
      | some (hasLine, rest) =>
        scan? total fuel { scanner with afterLine := scanner.afterLine || hasLine } rest
      | none => none
    else if startsWord character then
      let (part, rest) := rest.span goesOnInWord
      next (.word (String.ofList (character :: part))) rest
    else if Json.isDigit character || character == '.' && rest.head?.any Json.isDigit then
      match readNumeral? (character :: rest) with
      | some (lexeme, rest) => next lexeme rest
      | none => none
    else if character == '"' || character == '\'' then
      match readText? character (rest.length + 1) [] rest with
      | some (text, rest) => next (.text text) rest
      | none => none
    else if character == '\x60' then
      match readTemplate? (rest.length + 1) [] rest with
      | some (text, isLast, rest) => next (.template text true isLast) rest
      | none => none
    else if character == '}' && scanner.braces.head? == some true then
      match readTemplate? (rest.length + 1) [] rest with
      | some (text, isLast, rest) => next (.template text false isLast) rest
      | none => none
    else
      let characters := character :: rest
      match marks.find? (·.isPrefixOf characters) with
      | some mark =>
        let isTernary := mark == ['?', '.'] && (characters.drop 2).head?.any Json.isDigit
        let mark := if isTernary then ['?'] else mark
        next (.mark (String.ofList mark)) (characters.drop mark.length)
      | none => none

/-- The tokens of a text; none when it cannot be cut into tokens. -/
def tokens? (characters : List Char) : Option (List Token) :=
  scan? characters.length (characters.length + 1) {} characters

end ConfigDelivery.Script.JavaScript
