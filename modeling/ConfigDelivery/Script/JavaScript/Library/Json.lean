import ConfigDelivery.Json.Value
import ConfigDelivery.Script.JavaScript.Library.JsonText
import ConfigDelivery.Script.JavaScript.Library.Numbers
/-!
# JSON

Reading JSON text into values and writing values as JSON text. A value says by its
method `toJSON` what stands for it; functions and symbols are left out, holes and
numbers that are none become null, and an object inside itself is refused.
-/

namespace ConfigDelivery.Script.JavaScript.Library

open ConfigDelivery.Text (Units)
open Run

/-- How deep values are nested that are read or written. -/
def jsonDepth : Nat := 1500

/-- The value of a tree; `depth` bounds its nesting. -/
def ofTree : Nat → JsonTree → Run Value
  | _, .null => return .null
  | _, .bool value => return .bool value
  | _, .number value => return .number value
  | _, .text text => return .text text
  | depth + 1, .array items => do newArray (← items.mapM (ofTree depth))
  | depth + 1, .object members => do
    let object ← newObject []
    members.forM fun (name, value) => do
      defineValue object (.text name) (← ofTree depth value)
    return object
  | 0, _ => fail .internal "stack overflow"

/-- Let a function replace the values that were read, those inside first; `depth` bounds the
nesting. -/
def revive (machine : Machine) (function holder : Value) : Nat → Units → Run Value
  | 0, _ => fail .internal "stack overflow"
  | depth + 1, name => do
    let value ← getProperty machine holder (.text name)
    if value matches .object _ then
      (← enumerableKeys value).forM fun name => do
        match ← revive machine function value depth name with
        | .undefined =>
          let _ ← deleteProperty value (.text name)
        | replaced => defineValue value (.text name) replaced
    machine.call function holder [.text name, value]

/-- Read a JSON text. -/
def parseJson (machine : Machine) (arguments : List Value) : Run Value := do
  match JsonTree.read (← toText machine (argument arguments 0)) with
  | .error complaint => fail .badSyntax complaint
  | .ok tree =>
    let value ← ofTree jsonDepth tree
    let reviver := argument arguments 1
    if ← isCallable reviver then
      let holder ← newObject [(.ofString "", value)]
      revive machine reviver holder jsonDepth (Units.ofString "")
    else return value

/-- The units of an escape of four hexadecimal digits. -/
def hexEscape (unit : Nat) : List UInt16 :=
  (Json.unicodeEscape unit).map fun character => character.toNat.toUInt16

/-- A code point inside the quotes of a JSON text. -/
def quotedCode (code : Nat) : List UInt16 :=
  match code with
  | 0x22 => [0x5c, 0x22]
  | 0x5c => [0x5c, 0x5c]
  | 0x08 => [0x5c, 0x62]
  | 0x09 => [0x5c, 0x74]
  | 0x0a => [0x5c, 0x6e]
  | 0x0c => [0x5c, 0x66]
  | 0x0d => [0x5c, 0x72]
  | code =>
    if code < 0x20 || Units.isSurrogate code then hexEscape code else Units.ofCode code

/-- A text in quotes. -/
def quotedUnits (text : Units) : Units :=
  ⟨(0x22 :: (text.codes.flatMap quotedCode ++ [0x22])).toArray⟩

/-- How values are written: which function may replace them, which names are written, and what a
level is indented by. -/
structure JsonWriter where
  replacer : Option Value
  names : Option (List Units)
  indent : Units

/-- Parts with commas between them, inside brackets; each on a line of its own if levels are
indented. -/
def bracketedParts (writer : JsonWriter) (level : Units) (openMark closeMark : String)
    (parts : List Units) : Units :=
  let start := Units.ofString openMark
  let stop := Units.ofString closeMark
  match parts with
  | [] => start ++ stop
  | first :: rest =>
    if writer.indent.isEmpty then
      let comma := Units.ofString ","
      ⟨(rest.foldl (fun done part => done ++ comma.units ++ part.units)
        (start.units ++ first.units)) ++ stop.units⟩
    else
      let inner := Units.ofString "\n" ++ level ++ writer.indent
      let comma := Units.ofString "," ++ inner
      let body := rest.foldl (fun done part => done ++ comma ++ part) (inner ++ first)
      start ++ body ++ Units.ofString "\n" ++ level ++ stop

/-- The value that is written for a property: what its method `toJSON` and the replacing function
make of it, out of a wrapper if it is in one. -/
def writtenValue (machine : Machine) (writer : JsonWriter) (holder : Value) (name : Units) :
    Run Value := do
  let value ← getProperty machine holder (.text name)
  let value ←
    match value with
    | .object _ | .bigInt _ => do
      let method ← getNamed machine value "toJSON"
      if ← isCallable method then machine.call method value [.text name] else pure value
    | value => pure value
  let value ←
    match writer.replacer with
    | some replacer => machine.call replacer holder [.text name, value]
    | none => pure value
  match value with
  | .object cell =>
    match (← load cell).kind with
    | .wrapper (.number _) => return .number (← toNumber machine value)
    | .wrapper (.text _) => return .text (← toText machine value)
    | .wrapper (.bool flag) => return .bool flag
    | .wrapper (.bigInt number) => return .bigInt number
    | _ => return value
  | value => return value

/-- Write the property of a holder; none when it is left out. `depth` bounds the nesting, and
`around` are the objects around it. -/
def writeProperty (machine : Machine) (writer : JsonWriter) :
    Nat → List Cell → Units → Value → Units → Run (Option Units)
  | 0, _, _, _, _ => fail .internal "stack overflow"
  | depth + 1, around, level, holder, name => do
    tick
    match ← writtenValue machine writer holder name with
    | .null => return some (Units.ofString "null")
    | .bool value => return some (Units.ofString (if value then "true" else "false"))
    | .number value =>
      return some (Units.ofString (if value.isFinite then numberText value else "null"))
    | .text text => return some (quotedUnits text)
    | .bigInt _ => failType "Do not know how to serialize a BigInt"
    | .undefined | .symbol _ => return none
    | .object cell =>
      let value := Value.object cell
      if ← isCallable value then return none
      if around.contains cell then failType "circular reference"
      let inner := level ++ writer.indent
      let write (name : Units) : Run (Option Units) :=
        writeProperty machine writer depth (cell :: around) inner value name
      if ← isArray value then
        let length ← lengthOf machine value
        let parts ← (List.range length).mapM fun index => do
          return (← write (indexName index)).getD (Units.ofString "null")
        return some (bracketedParts writer level "[" "]" parts)
      else
        let names ←
          match writer.names with
          | some names => pure names
          | none => enumerableKeys value
        let colon := Units.ofString (if writer.indent.isEmpty then ":" else ": ")
        let parts ← names.filterMapM fun name => do
          return (← write name).map fun text => quotedUnits name ++ colon ++ text
        return some (bracketedParts writer level "\x7b" "\x7d" parts)

/-- What a level is indented by: a text of at most ten units, or as many blanks as a number
says. -/
def indentOf (machine : Machine) (space : Value) : Run Units := do
  let space ←
    match space with
    | .object cell =>
      match (← load cell).kind with
      | .wrapper primitive => pure primitive
      | _ => pure space
    | space => pure space
  match space with
  | .number _ =>
    let count := (max 0 (min 10 (← toInteger machine space))).toNat
    return ⟨Array.replicate count 0x20⟩
  | .text text => return text.slice 0 10
  | _ => return Units.ofString ""

/-- Write a value as JSON text; undefined when it is left out. -/
def stringify (machine : Machine) (arguments : List Value) : Run Value := do
  let replacer := argument arguments 1
  let names ←
    if ← isArray replacer then
      let items ← itemsOf machine replacer
      let names ← items.filterMapM fun item => do
        match item with
        | .text name => return some name
        | .number _ => return some (← toText machine item)
        | _ => return none
      pure (some names.eraseDups)
    else pure none
  let writer : JsonWriter :=
    { replacer := if ← isCallable replacer then some replacer else none
      names
      indent := ← indentOf machine (argument arguments 2) }
  let holder ← newObject [(.ofString "", argument arguments 0)]
  let unnamed := Units.ofString ""
  match ← writeProperty machine writer jsonDepth [] unnamed holder unnamed with
  | some text => return .text text
  | none => return .undefined

/-- Call a function of `JSON`. -/
def callJson (machine : Machine) (name : String) (arguments : List Value) : Run Value :=
  match name with
  | "parse" => parseJson machine arguments
  | _ => stringify machine arguments

end ConfigDelivery.Script.JavaScript.Library
