import ConfigDelivery.Decimal.Binary64
import ConfigDelivery.Json.Reader
import ConfigDelivery.Text.Integer
/-!
# Tokens of Starlark

A text is cut into words, marks, literals and the structure of its lines. A line's
indentation becomes a token only where it changes; blank lines, comments and
everything inside brackets have none. Tabs are refused outside literals and
comments.
-/

namespace ConfigDelivery.Script.Starlark

open ConfigDelivery.Decimal (Binary64)

/-- A token. -/
inductive Token where
  | name (text : String)
  | keyword (text : String)
  | mark (text : String)
  | integer (value : Nat)
  | float (value : Binary64)
  | text (value : String)
  | newline
  | indent
  | dedent
  deriving DecidableEq, Repr

/-- The words with a meaning of their own. -/
def keywords : List String :=
  ["and", "break", "continue", "def", "elif", "else", "for", "if", "in", "lambda", "load", "not",
    "or", "pass", "return"]

/-- The words that are kept free and may not be used. -/
def reservedWords : List String :=
  ["as", "assert", "async", "await", "class", "del", "except", "finally", "from", "global",
    "import", "is", "nonlocal", "raise", "try", "while", "with", "yield"]

/-- The marks, longer ones before those that they begin with. -/
def marks : List String :=
  ["<<=", ">>=", "//=", "...", "+=", "-=", "*=", "/=", "%=", "&=", "|=", "^=", "==", "!=", "<=",
    ">=", "**", "//", "<<", ">>", "->", ",", ";", ":", "=", "<", ">", "+", "-", "*", "/", "%", ".",
    "&", "|", "^", "~", "(", ")", "[", "]", "\x7b", "\x7d"]

/-- A character that may start a word. -/
def isWordStart (character : Char) : Bool :=
  character.isAlpha || character == '_'

/-- A character that may go on in a word. -/
def isWordPart (character : Char) : Bool :=
  character.isAlphanum || character == '_'

/-- The digits of a numeral in a base, as a number; none when one is foreign to the base. -/
def digitsIn? (base : Nat) (digits : List Char) : Option Nat :=
  if digits.isEmpty then none
  else
    digits.foldlM (fun value digit => do
      let next ← Json.hexValue? digit
      if next < base then some (value * base + next) else none) 0

/-- The token of a word. -/
def wordToken? (text : String) : Option Token :=
  if reservedWords.contains text then none
  else if keywords.contains text then some (.keyword text)
  else some (.name text)

/-- The number of a numeral's digits before and behind the point, and its power of ten. -/
def floatOf (whole fraction power : List Char) (powerIsNegative : Bool) : Binary64 :=
  let number (digits : List Char) : Nat := (digitsIn? 10 digits).getD 0
  let exponent : Int := number power
  Binary64.ofDecimal false (number (whole ++ fraction))
    ((if powerIsNegative then -exponent else exponent) - fraction.length)

/-- Read a numeral's power of ten, if there is one. -/
def readExponent? (characters : List Char) : Option (Bool × List Char × List Char) :=
  match characters with
  | 'e' :: rest | 'E' :: rest =>
    let (negative, rest) := Json.powerSign rest
    match rest.span Json.isDigit with
    | ([], _) => none
    | (digits, rest) => some (negative, digits, rest)
  | _ => none

/-- Read a numeral. Whole numbers may be hexadecimal, octal or binary; a decimal one does not
start with a zero that other digits follow. -/
def readNumeral? (characters : List Char) : Option (Token × List Char) :=
  let based (base : Nat) (rest : List Char) : Option (Token × List Char) := do
    let (digits, rest) := rest.span Char.isAlphanum
    return (.integer (← digitsIn? base digits), rest)
  match characters with
  | '0' :: 'x' :: rest | '0' :: 'X' :: rest => based 16 rest
  | '0' :: 'o' :: rest | '0' :: 'O' :: rest => based 8 rest
  | '0' :: 'b' :: rest | '0' :: 'B' :: rest => based 2 rest
  | _ =>
    let (whole, rest) := characters.span Json.isDigit
    let (fraction?, rest) :=
      match rest with
      | '.' :: rest =>
        let (fraction, rest) := rest.span Json.isDigit
        (some fraction, rest)
      | _ => (none, rest)
    match fraction?, readExponent? rest with
    | fraction?, some (negative, power, rest) =>
      some (.float (floatOf whole (fraction?.getD []) power negative), rest)
    | some fraction, none => some (.float (floatOf whole fraction [] false), rest)
    | none, none =>
      match whole with
      | '0' :: _ :: _ => none
      | _ => (digitsIn? 10 whole).map fun value => (.integer value, rest)

/-- The character of an escape of one letter. -/
def simpleEscape? : Char → Option Char
  | 'n' => some '\n'
  | 'r' => some '\r'
  | 't' => some '\t'
  | 'a' => some '\x07'
  | 'b' => some '\x08'
  | 'f' => some '\x0c'
  | 'v' => some '\x0b'
  | '"' => some '"'
  | '\'' => some '\''
  | '\\' => some '\\'
  | _ => none

/-- The character of a code point; none for a surrogate or a number beyond the last. -/
def charOf? (code : Nat) : Option Char :=
  if h : code.isValidChar then some (Char.ofNatAux code h) else none

/-- Read an escape behind its backslash. An unknown one stands for itself, a line's end for
nothing. -/
def readEscape? : List Char → Option (List Char × List Char)
  | [] => none
  | '\n' :: rest => some ([], rest)
  | letter :: rest =>
    let coded (count : Nat) : Option (List Char × List Char) := do
      if rest.length < count then none
      else
        let character ← charOf? (← digitsIn? 16 (rest.take count))
        return ([character], rest.drop count)
    match simpleEscape? letter with
    | some character => some ([character], rest)
    | none =>
      if letter == 'x' then coded 2
      else if letter == 'u' then coded 4
      else if letter == 'U' then coded 8
      else if '0' ≤ letter ∧ letter ≤ '7' then
        let digits := ((letter :: rest).take 3).takeWhile fun digit => '0' ≤ digit && digit ≤ '7'
        do return ([← charOf? (← digitsIn? 8 digits)], (letter :: rest).drop digits.length)
      else some (['\\', letter], rest)

/-- How a string literal is written: its quote, whether three of them enclose it, and whether
backslashes stand for themselves. -/
structure Quoting where
  quote : Char
  isTriple : Bool
  isRaw : Bool

/-- Read the inside of a string literal up to its closing quote; `fuel` bounds the characters. -/
def readText? (quoting : Quoting) : Nat → List Char → List Char → Option (String × List Char)
  | 0, _, _ => none
  | _ + 1, _, [] => none
  | fuel + 1, done, character :: rest =>
    let quote := quoting.quote
    if character == quote && (!quoting.isTriple || [quote, quote].isPrefixOf rest) then
      some (String.ofList done.reverse, if quoting.isTriple then rest.drop 2 else rest)
    else if character == '\n' && !quoting.isTriple then none
    else if character == '\\' then
      if quoting.isRaw then
        match rest with
        | next :: rest => readText? quoting fuel (next :: '\\' :: done) rest
        | [] => none
      else
        match readEscape? rest with
        | some (characters, rest) => readText? quoting fuel (characters.reverse ++ done) rest
        | none => none
    else readText? quoting fuel (character :: done) rest

/-- Read a string literal, if one starts here; the outer answer says whether one does. -/
def readLiteral? (characters : List Char) : Option (Option (String × List Char)) :=
  let opened (isRaw : Bool) (quote : Char) (rest : List Char) : Option (String × List Char) :=
    if [quote, quote].isPrefixOf rest then
      readText? ⟨quote, true, isRaw⟩ (rest.length + 1) [] (rest.drop 2)
    else readText? ⟨quote, false, isRaw⟩ (rest.length + 1) [] rest
  match characters with
  | '"' :: rest => some (opened false '"' rest)
  | '\'' :: rest => some (opened false '\'' rest)
  | 'r' :: '"' :: rest => some (opened true '"' rest)
  | 'r' :: '\'' :: rest => some (opened true '\'' rest)
  | _ => none

/-- A text that is being cut into tokens: the tokens so far, last first, the indentations of the
open blocks, innermost first, and the number of open brackets. -/
structure Scanner where
  tokens : List Token := []
  indents : List Nat := [0]
  brackets : Nat := 0

namespace Scanner

/-- Add a token. -/
def push (scanner : Scanner) (token : Token) : Scanner :=
  let brackets :=
    match token with
    | .mark "(" | .mark "[" | .mark "\x7b" => scanner.brackets + 1
    | .mark ")" | .mark "]" | .mark "\x7d" => scanner.brackets - 1
    | _ => scanner.brackets
  { scanner with tokens := token :: scanner.tokens, brackets }

/-- Close the blocks that are indented more than a line; none when no open block has its
indentation. -/
def closeBlocks? (scanner : Scanner) (width : Nat) : List Nat → Option Scanner
  | [] => none
  | current :: outer =>
    if width < current then
      (closeBlocks? scanner width outer).map fun scanner =>
        { scanner with tokens := .dedent :: scanner.tokens }
    else if width = current then some { scanner with indents := current :: outer }
    else none

/-- Take the indentation of a line that has tokens. -/
def indentTo? (scanner : Scanner) (width : Nat) : Option Scanner :=
  match scanner.indents with
  | [] => none
  | current :: outer =>
    if current < width then
      some { scanner with
        tokens := .indent :: scanner.tokens
        indents := width :: current :: outer }
    else scanner.closeBlocks? width (current :: outer)

/-- End a line: nothing inside brackets or behind another line's end. -/
def endLine (scanner : Scanner) : Scanner :=
  if scanner.brackets ≠ 0 then scanner
  else
    match scanner.tokens with
    | [] | .newline :: _ | .indent :: _ | .dedent :: _ => scanner
    | tokens => { scanner with tokens := .newline :: tokens }

/-- The tokens of a text that has been read to its end. -/
def finish? (scanner : Scanner) : Option (List Token) :=
  if scanner.brackets ≠ 0 then none
  else (scanner.endLine.indentTo? 0).map fun scanner => scanner.tokens.reverse

end Scanner

/-- Cut a text into tokens, at the start of a line or inside one; `fuel` bounds the steps, each of
which reads a character except the last. -/
def scan? : Nat → Bool → Scanner → List Char → Option (List Token)
  | 0, _, _, _ => none
  | _ + 1, _, scanner, [] => scanner.finish?
  | fuel + 1, true, scanner, characters =>
    let (blanks, rest) := characters.span (· == ' ')
    match rest with
    | [] => scanner.finish?
    | '\n' :: rest => scan? fuel true scanner rest
    | '#' :: rest => scan? fuel true scanner (rest.dropWhile (· != '\n'))
    | _ =>
      match scanner.indentTo? blanks.length with
      | some scanner => scan? fuel false scanner rest
      | none => none
  | fuel + 1, false, scanner, character :: rest =>
    if character == ' ' then scan? fuel false scanner rest
    else if character == '\n' then
      let scanner := scanner.endLine
      scan? fuel (scanner.brackets == 0) scanner rest
    else if character == '#' then scan? fuel false scanner (rest.dropWhile (· != '\n'))
    else if ['\\', '\n'].isPrefixOf (character :: rest) then
      scan? fuel false scanner (rest.drop 1)
    else
      match readLiteral? (character :: rest) with
      | some (some (text, rest)) => scan? fuel false (scanner.push (.text text)) rest
      | some none => none
      | none =>
        if isWordStart character then
          let (part, rest) := rest.span isWordPart
          match wordToken? (String.ofList (character :: part)) with
          | some token => scan? fuel false (scanner.push token) rest
          | none => none
        else if Json.isDigit character || (character == '.' && rest.head?.any Json.isDigit) then
          match readNumeral? (character :: rest) with
          | some (token, rest) => scan? fuel false (scanner.push token) rest
          | none => none
        else
          match marks.find? fun mark => mark.toList.isPrefixOf (character :: rest) with
          | some mark =>
            scan? fuel false (scanner.push (.mark mark)) ((character :: rest).drop mark.length)
          | none => none

/-- The tokens of a text; none when it cannot be cut into tokens. -/
def tokens? (text : String) : Option (List Token) :=
  let characters := text.toList
  scan? (2 * characters.length + 2) true {} characters

end ConfigDelivery.Script.Starlark
