import ConfigDelivery.Decimal.Fixed
import ConfigDelivery.Json.Value
import ConfigDelivery.Script.Starlark.Value
/-!
# Starlark values as text

Two ways to write a value: as Starlark writes it, and as JSON. In JSON a whole
number beyond 32 bits is a string, so that no reader rounds it, and keys are the
texts of scalars.
-/

namespace ConfigDelivery.Script.Starlark

open ConfigDelivery.Decimal (Binary64)
open ConfigDelivery.Json (Document)

/-- The digits behind the point in scientific notation, and the power of ten from which a float is
written so. -/
def floatPrecision : Nat := 6

/-- A power of ten behind its letter: a sign and at least two digits. -/
def exponentChars (power : Int) : List Char :=
  let digits := Text.natDigits power.natAbs
  (if power < 0 then '-' else '+') :: (Decimal.zeros (2 - digits.length) ++ digits)

/-- A digit, and behind a point those that follow it, if any. -/
def pointed : List Char → List Char
  | [] => []
  | [digit] => [digit]
  | digit :: rest => digit :: '.' :: rest

/-- Drop the zeros at the end of a list of digits. -/
def dropZeros (digits : List Char) : List Char :=
  (digits.reverse.dropWhile (· == '0')).reverse

/-- The magnitude of a finite float in scientific notation. -/
def scientificChars (letter : Char) (strips : Bool) (number : Binary64) : List Char :=
  let (digits, power) := number.significant .toEven (floatPrecision + 1)
  let tail := if strips then dropZeros (digits.drop 1) else digits.drop 1
  pointed (digits.take 1 ++ tail) ++ letter :: exponentChars power

/-- The text of a float that is infinite or undefined; none for a finite one. -/
def unboundedText? (number : Binary64) : Option String :=
  if number.isFinite then none
  else if number.fractionField ≠ 0 then some "nan"
  else some (if number.isNegative then "-inf" else "+inf")

/-- A finite number's minus sign. -/
def signChars (number : Binary64) : List Char :=
  if number.isNegative then ['-'] else []

/-- The layout of floats of moderate size. -/
def moderateLayout : Decimal.Layout := ⟨400, -400, true⟩

/-- The text of a float: the fewest digits that read back for one of moderate size, and seven
digits for others. -/
def floatText (value : Float) : String :=
  let number : Binary64 := ⟨value.toBits⟩
  match unboundedText? number with
  | some text => text
  | none =>
    let sign := signChars number
    if number.mantissa = 0 then String.ofList (sign ++ ['0', '.', '0'])
    else
      let (top, bottom) := number.ratio
      if floatPrecision ≤ (Decimal.floorLog10 top bottom).natAbs then
        String.ofList (sign ++ scientificChars 'e' true number)
      else String.ofList (sign ++ moderateLayout.write number.shortest)

/-- A character inside the quotes of a text. -/
def quotedChar (character : Char) : List Char :=
  match character with
  | '"' => ['\\', '"']
  | '\\' => ['\\', '\\']
  | '\n' => ['\\', 'n']
  | '\r' => ['\\', 'r']
  | '\t' => ['\\', 't']
  | other =>
    if other.toNat < 0x20 || other.toNat == 0x7f then
      ['\\', 'x', Json.hexDigit (other.toNat / 16), Json.hexDigit (other.toNat % 16)]
    else [other]

/-- A text in quotes. -/
def quotedText (text : String) : String :=
  String.ofList ('"' :: (text.toList.flatMap quotedChar ++ ['"']))

/-- Texts with commas between them. -/
def commaJoined (parts : List String) : String := String.intercalate ", " parts

namespace Value

/-- How Starlark writes a value inside others. A list or dict inside itself is cut short. -/
def repr (objects : Array Object) : Nat → List Cell → Value → String
  | _, _, none => "None"
  | _, _, bool true => "True"
  | _, _, bool false => "False"
  | _, _, int value => Text.integerText value
  | _, _, float value => floatText value
  | _, _, text value => quotedText value
  | depth + 1, inside, tuple items =>
    match items with
    | [item] => "(" ++ repr objects depth inside item ++ ",)"
    | items => "(" ++ commaJoined (items.map (repr objects depth inside)) ++ ")"
  | _, _, range start stop step =>
    if step ≠ 1 then
      "range(" ++ commaJoined ([start, stop, step].map Text.integerText) ++ ")"
    else if start ≠ 0 then "range(" ++ commaJoined ([start, stop].map Text.integerText) ++ ")"
    else "range(" ++ Text.integerText stop ++ ")"
  | depth + 1, inside, list cell =>
    if inside.contains cell then "[...]"
    else
      match objects[cell]? with
      | some (.list items _) =>
        "[" ++ commaJoined (items.toList.map (repr objects depth (cell :: inside))) ++ "]"
      | _ => "[]"
  | depth + 1, inside, dict cell =>
    if inside.contains cell then "\x7b...\x7d"
    else
      match objects[cell]? with
      | some (.dict entries _) =>
        let inside := cell :: inside
        let entry := fun ((key, value) : Value × Value) =>
          repr objects depth inside key ++ ": " ++ repr objects depth inside value
        "\x7b" ++ commaJoined (entries.toList.map entry) ++ "\x7d"
      | _ => "\x7b\x7d"
  | _, _, function cell =>
    match objects[cell]? with
    | some (.closure closure) => closure.function.name
    | _ => "function"
  | _, _, builtin name => name
  | _, _, method _ name => name
  | _, _, json => "json"
  | 0, _, _ => "..."

/-- A value as text: texts stand for themselves. -/
def str (objects : Array Object) : Value → String
  | text value => value
  | other => other.repr objects valueDepth []

/-- The JSON string or number of a whole number: a number up to 32 bits, a string beyond. -/
def integerDocument (value : Int) : Document :=
  if -0x80000000 ≤ value ∧ value < 0x80000000 then .ofInt value
  else .ofString (Text.integerText value)

/-- The JSON number of a float; null for one that is not finite. -/
def floatDocument (value : Float) : Document :=
  let number : Binary64 := ⟨value.toBits⟩
  if number.isFinite then .number (.ofBinary64 number) else .null

/-- The name that a dict's key becomes in JSON. -/
def keyText? : Value → Option String
  | text value => some value
  | int value => some (Text.integerText value)
  | bool value => some (if value then "true" else "false")
  | float value =>
    match floatDocument value with
    | .number numeral => some (String.ofList numeral.chars)
    | _ => Option.none
  | _ => Option.none

/-- The JSON document of a value, or why it has none. -/
def document (objects : Array Object) : Nat → List Cell → Value → Except String Document
  | _, _, none => return .null
  | _, _, bool value => return .bool value
  | _, _, int value => return integerDocument value
  | _, _, float value => return floatDocument value
  | _, _, text value => return .ofString value
  | depth + 1, inside, tuple items =>
    return .array (← items.mapM (document objects depth inside))
  | depth + 1, inside, list cell =>
    if inside.contains cell then
      throw "Cycle detected when serializing value of type `list` to JSON"
    else
      match objects[cell]? with
      | some (.list items _) =>
        return .array (← items.toList.mapM (document objects depth (cell :: inside)))
      | _ => return .array []
  | depth + 1, inside, dict cell =>
    if inside.contains cell then
      throw "Cycle detected when serializing value of type `dict` to JSON"
    else
      match objects[cell]? with
      | some (.dict entries _) => do
        let members ← entries.toList.mapM fun ((key, value) : Value × Value) => do
          match key.keyText? with
          | some name => return (name, ← document objects depth (cell :: inside) value)
          | Option.none => throw "key must be a string"
        return .ofMembers members
      | _ => return .object []
  | _, _, other => throw ("Value of type `" ++ other.typeName ++ "` cannot be encoded")

/-- The value of a JSON value. -/
def ofJson : Nat → Json.Value → Run Value
  | _, .null => return .none
  | _, .bool value => return .bool value
  | _, .number (.integer value _) => return .int value
  | _, .number (.float value) => return .float (Float.ofBits value.bits)
  | _, .string value => return .text value
  | depth + 1, .array items => do Run.newList (← items.mapM (ofJson depth)).toArray
  | depth + 1, .object members => do
    let entries ← members.mapM fun (name, value) => return (Value.text name, ← ofJson depth value)
    Run.newDict entries.toArray
  | 0, _ => return .none

end Value

namespace Run

/-- A value as text. -/
def textOf (value : Value) : Run String := return value.str (← get).objects

/-- How Starlark writes a value inside others. -/
def reprOf (value : Value) : Run String := return value.repr (← get).objects valueDepth []

/-- The JSON text of a value. -/
def jsonOf (value : Value) : Run (Except String String) :=
  return (value.document (← get).objects valueDepth []).map Document.render

/-- The value of a JSON text. -/
def ofJsonText (text : String) : Run Value := do
  match Json.readValue? text with
  | some value => Value.ofJson (Json.depthLimit + 1) value
  | none => fail "invalid JSON"

end Run

/-- The digits of a natural number in a base, in lower case. -/
def digitsOf (base value : Nat) : List Char := Nat.toDigits base value

/-- The text of a whole number in a base. -/
def basedText (base : Nat) (value : Int) : String :=
  String.ofList ((if value < 0 then ['-'] else []) ++ digitsOf base value.natAbs)

/-- Change the letters of a text to upper case. -/
def upperText (text : String) : String := String.ofList (text.toList.map Char.toUpper)

/-- The text of a float by a formatting letter: scientific, fixed, or the shorter of the two. -/
def formattedFloat (letter : Char) (value : Float) : String :=
  let number : Binary64 := ⟨value.toBits⟩
  match unboundedText? number with
  | some text => text
  | none =>
    let sign := signChars number
    match letter with
    | 'e' | 'E' => String.ofList (sign ++ scientificChars letter false number)
    | 'f' | 'F' => String.ofList (sign ++ number.fixedChars .toEven floatPrecision)
    | _ => floatText value

/-- A formatting of one value, by its letter. -/
def formatOne (letter : Char) (value : Value) : Run String := do
  let whole : Run Int := do
    match value with
    | .int number => return number
    | .float number => return Binary64.truncated ⟨number.toBits⟩
    | .bool flag => return if flag then 1 else 0
    | other => Run.fail ("Expected a number, got `" ++ other.typeName ++ "`")
  match letter with
  | 's' => Run.textOf value
  | 'r' => Run.reprOf value
  | 'd' | 'i' => return Text.integerText (← whole)
  | 'o' => return basedText 8 (← whole)
  | 'x' => return basedText 16 (← whole)
  | 'X' => return upperText (basedText 16 (← whole))
  | 'e' | 'E' | 'f' | 'F' | 'g' | 'G' =>
    match value.toFloat? with
    | some number => return formattedFloat letter number
    | none => Run.fail ("Expected a number, got `" ++ value.typeName ++ "`")
  | 'c' =>
    match value with
    | .int code =>
      match Char.ofNat code.toNat with
      | '\x00' => Run.fail "Code point out of range"
      | character => return String.singleton character
    | .text text => return text
    | other => Run.fail ("Expected a character, got `" ++ other.typeName ++ "`")
  | _ => Run.fail "Unsupported format character"

/-- Fill in the marks of a template that start with a percent sign; the answer also has the values
that are left. -/
def fillPercent (named : String → Run Value) : Nat → List Char → List Value →
    Run (List String × List Value)
  | 0, _, values => return ([], values)
  | _ + 1, [], values => return ([], values)
  | fuel + 1, '%' :: rest, values => do
    match rest with
    | '%' :: rest =>
      let (parts, values) ← fillPercent named fuel rest values
      return ("%" :: parts, values)
    | '(' :: rest =>
      let (name, rest) := rest.span (· != ')')
      match rest with
      | ')' :: letter :: rest =>
        let part ← formatOne letter (← named (String.ofList name))
        let (parts, values) ← fillPercent named fuel rest values
        return (part :: parts, values)
      | _ => Run.fail "Incomplete format"
    | letter :: rest =>
      match values with
      | [] => Run.fail "Not enough parameters in format string"
      | value :: values =>
        let part ← formatOne letter value
        let (parts, values) ← fillPercent named fuel rest values
        return (part :: parts, values)
    | [] => Run.fail "Incomplete format"
  | fuel + 1, character :: rest, values => do
    let (parts, values) ← fillPercent named fuel rest values
    return (String.singleton character :: parts, values)

/-- Fill a template with a value, or with those of a tuple. -/
def percentText (template : String) (value : Value) : Run String := do
  let named (name : String) : Run Value := do
    match value with
    | .dict cell =>
      match ← Run.findEntry (← Run.entriesOf cell) (.text name) with
      | some value => return value
      | none => Run.fail "Key was not found"
    | _ => Run.fail "Expected a dict"
  let values :=
    match value with
    | .tuple items => items
    | .dict _ => if template.contains "%(" then [] else [value]
    | other => [other]
  let characters := template.toList
  let (parts, left) ← fillPercent named (characters.length + 1) characters values
  unless left.isEmpty do Run.fail "Too many arguments for format string"
  return String.join parts

end ConfigDelivery.Script.Starlark
