import ConfigDelivery.Json.Value
import ConfigDelivery.Text.Utf8
/-!
# Reading documents as typed data

A decoder reads a document as a value of a type, or refuses it. It is told how
many levels of arrays and objects the document may still open. Records are read
from an object with their field names, where unknown names are ignored whatever
they hold and a known name may stand only once, or from an array of their fields
in declaration order.

Bytes need be text only where a decoder uses them: a string that is ignored may
hold any bytes but control characters.
-/

namespace ConfigDelivery.Json

/-- Reads a document, with room for a number of nested arrays and objects, as a value. -/
abbrev Decoder (Result : Type) := Nat → Document → Option Result

namespace Decoder

variable {Result : Type}

/-- Read a text. -/
def string : Decoder String := fun _ document =>
  match document with
  | .string value => value.text?
  | _ => none

/-- Read a truth value. -/
def bool : Decoder Bool := fun _ document =>
  match document with
  | .bool value => some value
  | _ => none

/-- Read a whole number between two bounds; a numeral with a point, a power or a negative zero is
no whole number. -/
def integer (range : Text.IntegerRange) : Decoder Int := fun _ document =>
  match document with
  | .number numeral =>
    match numeral.number? with
    | some (.integer value _) =>
      if range.low ≤ value ∧ value ≤ range.high then some value else none
    | _ => none
  | _ => none

/-- Read a signed 64-bit number. -/
def int64 : Decoder Int64 := fun depth document =>
  (integer .signed64 depth document).map Int64.ofInt

/-- Read an unsigned 32-bit number. -/
def uint32 : Decoder UInt32 := fun depth document =>
  (integer .unsigned32 depth document).map fun value => UInt32.ofNat value.toNat

/-- Read an unsigned 64-bit number. -/
def nat64 : Decoder Nat := fun depth document =>
  (integer .unsigned64 depth document).map Int.toNat

/-- Read an array of values of one type. -/
def list (item : Decoder Result) : Decoder (List Result) := fun depth document =>
  match depth, document with
  | depth + 1, .array items => items.mapM (item depth)
  | _, _ => none

/-- Read the members of an object of arbitrary values. -/
def members : Decoder Members := fun depth document =>
  match document.value? depth with
  | some (.object members) => some members
  | _ => none

/-- Read null as absence. -/
def nullable (decoder : Decoder Result) : Decoder (Option Result) := fun depth document =>
  match document with
  | .null => some none
  | document => (decoder depth document).map some

/-- The document that stands under a name, when the name stands at most once. -/
inductive Occurrence where
  | absent
  | once (document : Document)
  | repeated

/-- How often a name stands among members, and with which document. -/
def occurrence (name : String) : List (String × Document) → Occurrence
  | [] => .absent
  | (other, document) :: rest =>
    if other = name then
      match occurrence name rest with
      | .absent => .once document
      | _ => .repeated
    else occurrence name rest

/-- The documents of the named fields of an object; none when a field stands twice. -/
def namedFields? (names : List String) (members : List (String × Document)) :
    Option (List (Option Document)) :=
  names.mapM fun name =>
    match occurrence name members with
    | .absent => some none
    | .once document => some (some document)
    | .repeated => none

/-- Members whose names are texts; none when some name is not. -/
def textMembers? (members : List (Quoted × Document)) : Option (List (String × Document)) :=
  members.mapM fun (name, document) => name.text?.map fun name => (name, document)

/-- The documents given for the fields of a record, in declaration order. -/
def fields? (names : List String) : Document → Option (List (Option Document))
  | .object members => textMembers? members >>= namedFields? names
  | .array items =>
    if items.length ≤ names.length then
      some (items.map some ++ List.replicate (names.length - items.length) none)
    else none
  | _ => none

/-- Read a record: `build` gets the documents given for its fields, and the room below it. -/
def record (names : List String) (build : Nat → List (Option Document) → Option Result) :
    Decoder Result := fun depth document =>
  match depth with
  | 0 => none
  | depth + 1 => fields? names document >>= build depth

/-- A field that must be given. -/
def required (decoder : Decoder Result) (depth : Nat) (field : Option Document) : Option Result :=
  field >>= decoder depth

/-- A field that has a default. -/
def defaulting (default : Result) (decoder : Decoder Result) (depth : Nat)
    (field : Option Document) : Option Result :=
  match field with
  | none => some default
  | some document => decoder depth document

/-- Read a JSON text. -/
def readText (decoder : Decoder Result) (text : String) : Option Result :=
  read? text >>= decoder depthLimit

/-- What the reader is shown for bytes that are no text. In a string that is a letter and the
escape of half a character, so the string has no text, whatever stands beside it; everywhere else,
also behind a backslash or among hexadecimal digits, the letter is out of place. -/
def unreadable : List Char := ['x', '\\', 'u', 'd', 'c', '0', '0']

/-- Read JSON from bytes. -/
def readBytes (decoder : Decoder Result) (bytes : List UInt8) : Option Result :=
  decoder.readText (Text.decodeMarking unreadable bytes)

end Decoder

end ConfigDelivery.Json
