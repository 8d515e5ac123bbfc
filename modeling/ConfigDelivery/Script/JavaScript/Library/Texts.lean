import ConfigDelivery.Script.JavaScript.Library.Arrays
import ConfigDelivery.Text.Letter
/-!
# Built-in functions on texts

What `String` and the methods of texts do. Positions count UTF-16 units.
-/

namespace ConfigDelivery.Script.JavaScript.Library

open ConfigDelivery.Text (Units)
open Run

/-- The most units that a text may have. -/
def textLimit : Nat := 30000000

/-- A text as often as a count says. -/
def repeatedText (text : Units) (count : Int) : Run Value := do
  if count < 0 then fail .badRange "invalid repeat count"
  if textLimit < text.size * count.toNat then fail .internal "out of memory"
  spend (text.size * count.toNat / 8)
  return .text ⟨(List.replicate count.toNat text.units.toList).flatten.toArray⟩

/-- A text with another one around it until it has a length. -/
def paddedText (machine : Machine) (atStart : Bool) (text : Units) (arguments : List Value) :
    Run Value := do
  let length := (← toInteger machine (argument arguments 0)).toNat
  let filler ←
    match argument arguments 1 with
    | .undefined => pure (Units.ofString " ")
    | filler => toText machine filler
  if length ≤ text.size || filler.isEmpty then return .text text
  if textLimit < length then fail .badRange "invalid string length"
  let missing := length - text.size
  let copies := List.replicate (missing / filler.size + 1) filler.units.toList
  let filling : Units := ⟨(copies.flatten.take missing).toArray⟩
  return .text (if atStart then filling ++ text else text ++ filling)

/-- The pieces of a text between occurrences of a separator; `fuel` bounds their number. -/
def splitUnits (text separator : Units) : Nat → Nat → List Units
  | 0, start => [text.slice start text.size]
  | fuel + 1, start =>
    match text.find? separator start with
    | none => [text.slice start text.size]
    | some position =>
      text.slice start position :: splitUnits text separator fuel (position + separator.size)

/-- Replace the occurrences of a part, the first or all; `fuel` bounds their number. -/
def replaceUnits (text part : Units) (replacement : Nat → Run Units) (all : Bool) :
    Nat → Nat → Run Units
  | 0, start => return text.slice start text.size
  | fuel + 1, start => do
    match text.find? part start with
    | none => return text.slice start text.size
    | some position =>
      let next ← replacement position
      let step := max 1 part.size
      if part.isEmpty && text.size ≤ position then
        return text.slice start position ++ next
      let between := text.slice position (position + step - part.size)
      let behind := position + step
      let rest ←
        if all then replaceUnits text part replacement all fuel behind
        else pure (text.slice behind text.size)
      return text.slice start position ++ next
        ++ (if part.isEmpty then between else Units.ofString "") ++ rest

/-- A replacement with its marks filled in. -/
def expandedReplacement (text part : Units) (position : Nat) : List Nat → List UInt16
  | 0x24 :: 0x24 :: rest => 0x24 :: expandedReplacement text part position rest
  | 0x24 :: 0x26 :: rest => part.units.toList ++ expandedReplacement text part position rest
  | 0x24 :: 0x60 :: rest =>
    (text.slice 0 position).units.toList ++ expandedReplacement text part position rest
  | 0x24 :: 0x27 :: rest =>
    (text.slice (position + part.size) text.size).units.toList
      ++ expandedReplacement text part position rest
  | unit :: rest => unit.toUInt16 :: expandedReplacement text part position rest
  | [] => []

/-- Change the case of a text's letters; a part of a surrogate pair on its own is no letter. -/
def changeCase (change : List Char → List Char) (text : Units) : Units :=
  let units (characters : List Char) : List UInt16 :=
    (change characters).flatMap fun character => Units.ofCode character.toNat
  let rec go : List Char → List Nat → List UInt16
    | run, [] => units run.reverse
    | run, code :: rest =>
      if Units.isSurrogate code then units run.reverse ++ code.toUInt16 :: go [] rest
      else go (Char.ofNat code :: run) rest
  ⟨(go [] text.codes).toArray⟩

/-- Drop blanks at the ends of a text. -/
def trimUnits (atStart atEnd : Bool) (text : Units) : Units :=
  let isSpace (unit : UInt16) : Bool :=
    let character := Units.charOf unit.toNat
    isBlank character || endsLine character
  let units := text.units.toList
  let units := if atStart then units.dropWhile isSpace else units
  let units := if atEnd then (units.reverse.dropWhile isSpace).reverse else units
  ⟨units.toArray⟩

/-- The text that a method of texts works on. -/
def textReceiver (machine : Machine) (receiver : Value) : Run Units := do
  if receiver.isNullish then failType "null or undefined are forbidden"
  match receiver with
  | .object cell =>
    match (← load cell).kind with
    | .wrapper (.text text) => return text
    | _ => toText machine receiver
  | receiver => toText machine receiver

/-- Call a function of `String`. -/
def callText (machine : Machine) (name : String) (arguments : List Value) : Run Value := do
  match name with
  | "fromCharCode" =>
    let units ← arguments.mapM fun value => return (toWord (← toNumber machine value)).toUInt16
    return .text ⟨units.toArray⟩
  | "fromCodePoint" =>
    let units ← arguments.mapM fun value => do
      let code ← toNumber machine value
      match exactInt? code with
      | some code =>
        if code < 0 ∨ 0x10ffff < code then fail .badRange "invalid code point"
        return Units.ofCode code.toNat
      | none => fail .badRange "invalid code point"
    return .text ⟨units.flatten.toArray⟩
  | _ =>
    match arguments with
    | [] => return .text (Units.ofString "")
    | .symbol id :: _ =>
      let description := (((← get).symbols[id]?).join).getD (Units.ofString "")
      return .text (Units.ofString "Symbol(" ++ description ++ Units.ofString ")")
    | value :: _ => return .text (← toText machine value)

/-- Call a method of texts. -/
def callTextPrototype (machine : Machine) (name : String) (receiver : Value)
    (arguments : List Value) : Run Value := do
  match name, receiver with
  | "toString", .object cell | "valueOf", .object cell =>
    match (← load cell).kind with
    | .wrapper (.text text) => return .text text
    | _ => failType "not a string"
  | _, _ => pure ()
  let text ← textReceiver machine receiver
  let size := text.size
  let first := argument arguments 0
  let second := argument arguments 1
  let clamp (value : Value) (otherwise : Nat) : Run Nat := do
    match value with
    | .undefined => return otherwise
    | value => return min size (← toInteger machine value).toNat
  match name with
  | "toString" | "valueOf" => return .text text
  | "charAt" =>
    let position ← toInteger machine first
    if position < 0 then return .text (Units.ofString "")
    return .text (text.slice position.toNat (position.toNat + 1))
  | "at" =>
    let position ← toInteger machine first
    let position := if position < 0 then position + size else position
    if position < 0 ∨ (size : Int) ≤ position then return .undefined
    return .text (text.slice position.toNat (position.toNat + 1))
  | "charCodeAt" =>
    let position ← toInteger machine first
    if position < 0 then return .number (0.0 / 0.0)
    match text.units[position.toNat]? with
    | some unit => return .ofNat unit.toNat
    | none => return .number (0.0 / 0.0)
  | "codePointAt" =>
    let position ← toInteger machine first
    if position < 0 then return .undefined
    match (text.slice position.toNat (position.toNat + 2)).codes with
    | code :: _ => return .ofNat code
    | [] => return .undefined
  | "indexOf" =>
    let part ← toText machine first
    return ((text.find? part (← clamp second 0)).map Value.ofNat).getD (.number (-1))
  | "lastIndexOf" =>
    let part ← toText machine first
    return ((text.findLast? part (← clamp second size)).map Value.ofNat).getD (.number (-1))
  | "includes" =>
    let part ← toText machine first
    return .bool (text.find? part (← clamp second 0)).isSome
  | "startsWith" =>
    let part ← toText machine first
    return .bool (text.hasAt part (← clamp second 0))
  | "endsWith" =>
    let part ← toText machine first
    let stop ← clamp second size
    return .bool (part.size ≤ stop && text.hasAt part (stop - part.size))
  | "slice" =>
    let start ← positionIn machine size 0 first
    let stop ← positionIn machine size size second
    return .text (text.slice start stop)
  | "substring" =>
    let start ← clamp first 0
    let stop ← clamp second size
    return .text (text.slice (min start stop) (max start stop))
  | "substr" =>
    let start ← positionIn machine size 0 first
    let count ← clamp second size
    return .text (text.slice start (start + count))
  | "split" =>
    let limit ←
      match second with
      | .undefined => pure 0x100000000
      | limit => pure (toWord (← toNumber machine limit))
    let pieces ←
      if first matches .undefined then pure [text]
      else
        let separator ← toText machine first
        if separator.isEmpty then pure (text.units.toList.map Units.singleton)
        else pure (splitUnits text separator (size + 1) 0)
    newArray ((pieces.take limit).map Value.text)
  | "toUpperCase" | "toLocaleUpperCase" => return .text (changeCase Text.upperText text)
  | "toLowerCase" | "toLocaleLowerCase" => return .text (changeCase Text.lowerText text)
  | "trim" => return .text (trimUnits true true text)
  | "trimStart" => return .text (trimUnits true false text)
  | "trimEnd" => return .text (trimUnits false true text)
  | "padStart" => paddedText machine true text arguments
  | "padEnd" => paddedText machine false text arguments
  | "repeat" => repeatedText text (← toInteger machine first)
  | "concat" =>
    let parts ← arguments.mapM (toText machine)
    return .text (parts.foldl (· ++ ·) text)
  | "replace" | "replaceAll" =>
    let part ← toText machine first
    let replacement (position : Nat) : Run Units := do
      if ← isCallable second then
        toText machine (← machine.call second .undefined [.text part, .ofNat position, .text text])
      else
        let template ← toText machine second
        return ⟨(expandedReplacement text part position
          (template.units.toList.map UInt16.toNat)).toArray⟩
    return .text
      (← replaceUnits text part replacement (name == "replaceAll") (size + 2) 0)
  | "localeCompare" =>
    let other ← toText machine first
    return .number (if text.precedes other then -1 else if text == other then 0 else 1)
  | "normalize" => return .text text
  | "isWellFormed" => return .bool text.toText?.isSome
  | "toWellFormed" => return .text (Units.ofString text.toText)
  | _ => newIterator (.text text) .values

end ConfigDelivery.Script.JavaScript.Library
