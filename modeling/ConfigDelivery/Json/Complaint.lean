import ConfigDelivery.Json.Value
/-!
# Why a text does not decode

When a stored text is not the data it should be, the complaint names the first
thing wrong with it and the place. A text is read once from left to right against
its expected shape, or as a value of any kind; line numbers start at one and
columns count the bytes read on the line. Whether a text decodes at all is the
decoders' business, not this module's.
-/

namespace ConfigDelivery.Json

mutual

/-- The shapes that stored texts have. -/
inductive Shape where
  | string
  | list (item : Shape)
  | record (name : String) (fields : List FieldShape)

/-- A field of a record: its name, whether it must be given, and its shape. -/
inductive FieldShape where
  | mk (name : String) (required : Bool) (shape : Shape)

end

/-- The name of a field. -/
def FieldShape.name : FieldShape → String
  | mk name _ _ => name

/-- A field must be given. -/
def FieldShape.required : FieldShape → Bool
  | mk _ required _ => required

/-- The shape of a field. -/
def FieldShape.shape : FieldShape → Shape
  | mk _ _ shape => shape

/-- What a shape is called in a complaint. -/
def Shape.expectation : Shape → String
  | string => "a string"
  | list _ => "a sequence"
  | record name _ => "struct " ++ name

/-- The characters still to read, and the place reached. -/
structure Cursor where
  rest : List Char
  line : Nat := 1
  column : Nat := 0

/-- What is wrong with a text, and where. -/
structure Complaint where
  what : String
  line : Nat
  column : Nat

/-- The wording of a complaint. -/
def Complaint.message (complaint : Complaint) : String :=
  complaint.what ++ " at line " ++ toString complaint.line ++ " column "
    ++ toString complaint.column

namespace Cursor

/-- The number of bytes of a character in UTF-8. -/
def width (character : Char) : Nat := character.utf8Size

/-- Move over the next character. -/
def advance (cursor : Cursor) : Cursor :=
  match cursor.rest with
  | [] => cursor
  | '\n' :: rest => ⟨rest, cursor.line + 1, 0⟩
  | character :: rest => ⟨rest, cursor.line, cursor.column + width character⟩

/-- Move over a number of characters. -/
def advanceBy : Nat → Cursor → Cursor
  | 0, cursor => cursor
  | count + 1, cursor => advanceBy count cursor.advance

/-- Move over whitespace. -/
def skipSpace (cursor : Cursor) : Cursor :=
  advanceBy (cursor.rest.takeWhile isSpace).length cursor

/-- A complaint about what was just read. -/
def here (cursor : Cursor) (what : String) : Complaint := ⟨what, cursor.line, cursor.column⟩

/-- A complaint about what comes next. -/
def next (cursor : Cursor) (what : String) : Complaint :=
  match cursor.rest with
  | [] => cursor.here what
  | '\n' :: _ => ⟨what, cursor.line + 1, 0⟩
  | _ => ⟨what, cursor.line, cursor.column + 1⟩

/-- Move over the letters of a literal whose first letter has been read. -/
def literal : List Char → Cursor → Except Complaint Cursor
  | [], cursor => .ok cursor
  | letter :: letters, cursor =>
    match cursor.rest with
    | [] => .error (cursor.here "EOF while parsing a value")
    | character :: _ =>
      if character = letter then literal letters cursor.advance
      else .error (cursor.advance.here "expected ident")

/-- Move over four hexadecimal digits. -/
def hex4 (cursor : Cursor) : Except Complaint (Nat × Cursor) :=
  if cursor.rest.length < 4 then
    .error ((cursor.advanceBy cursor.rest.length).here "EOF while parsing a string")
  else
    let after := cursor.advanceBy 4
    match readHex4? cursor.rest with
    | some (value, _) => .ok (value, after)
    | none => .error (after.here "invalid escape")

/-- Move over the second half of a surrogate pair. -/
def trail (lead : Nat) (cursor : Cursor) : Except Complaint (Char × Cursor) :=
  match cursor.rest with
  | [] => .error (cursor.here "EOF while parsing a string")
  | '\\' :: _ =>
    let cursor := cursor.advance
    match cursor.rest with
    | [] => .error (cursor.here "EOF while parsing a string")
    | 'u' :: _ =>
      match hex4 cursor.advance with
      | .error complaint => .error complaint
      | .ok (value, cursor) =>
        if isTrailSurrogate value then .ok (Char.ofNat (combineSurrogates lead value), cursor)
        else .error (cursor.here "lone leading surrogate in hex escape")
    | _ => .error (cursor.advance.here "unexpected end of hex escape")
  | _ => .error (cursor.advance.here "unexpected end of hex escape")

/-- Move over an escape behind its backslash. -/
def escape (cursor : Cursor) : Except Complaint (Char × Cursor) :=
  match cursor.rest with
  | [] => .error (cursor.here "EOF while parsing a string")
  | 'u' :: _ =>
    match hex4 cursor.advance with
    | .error complaint => .error complaint
    | .ok (value, cursor) =>
      if isTrailSurrogate value then
        .error (cursor.here "lone leading surrogate in hex escape")
      else if isLeadSurrogate value then trail value cursor
      else .ok (Char.ofNat value, cursor)
  | letter :: _ =>
    match shortEscape? letter with
    | some character => .ok (character, cursor.advance)
    | none => .error (cursor.advance.here "invalid escape")

/-- Move over the inside of a string and its closing quote; `fuel` bounds the characters. -/
def quoted : Nat → List Char → Cursor → Except Complaint (String × Cursor)
  | 0, _, cursor => .error (cursor.here "EOF while parsing a string")
  | fuel + 1, done, cursor =>
    match cursor.rest with
    | [] => .error (cursor.here "EOF while parsing a string")
    | '"' :: _ => .ok (String.ofList done.reverse, cursor.advance)
    | '\\' :: _ =>
      match escape cursor.advance with
      | .ok (character, cursor) => quoted fuel (character :: done) cursor
      | .error complaint => .error complaint
    | character :: _ =>
      if character.toNat < 0x20 then
        .error (cursor.advance.here
          "control character (\\u0000-\\u001F) found while parsing a string")
      else quoted fuel (character :: done) cursor.advance

/-- Move over a string whose opening quote has been read. -/
def string (cursor : Cursor) : Except Complaint (String × Cursor) :=
  quoted (cursor.rest.length + 1) [] cursor

/-- Move over decimal digits. -/
def digits (cursor : Cursor) : Cursor :=
  advanceBy (cursor.rest.takeWhile isDigit).length cursor

/-- Move over decimal digits of which there must be one. -/
def someDigits (cursor : Cursor) : Except Complaint Cursor :=
  match cursor.rest with
  | [] => .error (cursor.next "EOF while parsing a value")
  | character :: _ =>
    if isDigit character then .ok cursor.digits else .error (cursor.next "invalid number")

/-- Move over a number; it says what kind of number it was. -/
def number (cursor : Cursor) : Except Complaint (String × Cursor) := do
  let start := cursor.rest
  let cursor := if start.head? = some '-' then cursor.advance else cursor
  let cursor ←
    match cursor.rest with
    | [] => .error (cursor.here "EOF while parsing a value")
    | '0' :: digit :: _ =>
      if isDigit digit then .error (cursor.advance.next "invalid number") else .ok cursor.advance
    | character :: _ =>
      if isDigit character then .ok cursor.digits
      else .error (cursor.advance.here "invalid number")
  let cursor ← if cursor.rest.head? = some '.' then cursor.advance.someDigits else .ok cursor
  let cursor ←
    match cursor.rest.head? with
    | some 'e' | some 'E' =>
      let cursor := cursor.advance
      match cursor.rest.head? with
      | some '+' | some '-' => cursor.advance.someDigits
      | _ => cursor.someDigits
    | _ => .ok cursor
  match readNumeral? start with
  | none => .error (cursor.here "invalid number")
  | some (numeral, _) =>
    match numeral.number? with
    | none => .error (cursor.here "number out of range")
    | some (.integer value _) => .ok ("integer \x60" ++ Text.integerText value ++ "\x60", cursor)
    | some (.float value) =>
      let digits := String.ofList (Numeral.ofBinary64 value).chars
      .ok ("floating point \x60" ++ digits ++ "\x60", cursor)

end Cursor

/-- The text of a string between quotes as a complaint shows it. -/
def shownString (text : String) : String :=
  String.ofList ('"' :: (text.toList.flatMap fun character =>
    match character with
    | '"' => ['\\', '"']
    | '\\' => ['\\', '\\']
    | '\n' => ['\\', 'n']
    | '\r' => ['\\', 'r']
    | '\t' => ['\\', 't']
    | '\x00' => ['\\', '0']
    | other => [other]) ++ ['"'])

/-- The complaint about a value of another kind than expected. -/
def wrongKind (expected : String) (cursor : Cursor) : Complaint :=
  let invalid (cursor : Cursor) (found : String) : Complaint :=
    cursor.here ("invalid type: " ++ found ++ ", expected " ++ expected)
  let word (letters : List Char) (found : String) : Complaint :=
    match cursor.advance.literal letters with
    | .ok cursor => invalid cursor found
    | .error complaint => complaint
  match cursor.rest with
  | 'n' :: _ => word ['u', 'l', 'l'] "null"
  | 't' :: _ => word ['r', 'u', 'e'] "boolean \x60true\x60"
  | 'f' :: _ => word ['a', 'l', 's', 'e'] "boolean \x60false\x60"
  | '[' :: _ => invalid cursor "sequence"
  | '{' :: _ => invalid cursor "map"
  | '"' :: _ =>
    match cursor.advance.string with
    | .ok (text, cursor) => invalid cursor ("string " ++ shownString text)
    | .error complaint => complaint
  | character :: _ =>
    if isDigit character || character = '-' then
      match cursor.number with
      | .ok (found, cursor) => invalid cursor found
      | .error complaint => complaint
    else cursor.next "expected value"
  | [] => cursor.next "expected value"

/-- The place after the end of an array that is given up, as far as it can be reached. -/
def leaveArray (cursor : Cursor) : Cursor :=
  let cursor := cursor.skipSpace
  match cursor.rest with
  | ']' :: _ => cursor.advance
  | ',' :: _ => cursor.advance.skipSpace
  | _ => cursor

/-- The place after the end of an object that is given up, as far as it can be reached. -/
def leaveObject (cursor : Cursor) : Cursor :=
  let cursor := cursor.skipSpace
  match cursor.rest with
  | '}' :: _ => cursor.advance
  | _ => cursor

/-- Move over the end of an array that must be here. -/
def endArray (cursor : Cursor) : Except Complaint Cursor :=
  let cursor := cursor.skipSpace
  match cursor.rest with
  | ']' :: _ => .ok cursor.advance
  | ',' :: _ =>
    let cursor := cursor.advance.skipSpace
    match cursor.rest with
    | ']' :: _ => .error (cursor.next "trailing comma")
    | _ => .error (cursor.next "trailing characters")
  | [] => .error (cursor.next "EOF while parsing a list")
  | _ => .error (cursor.next "trailing characters")

/-- Move to the next item of an array, or say that there is none. -/
def nextItem (first : Bool) (cursor : Cursor) : Except Complaint (Bool × Cursor) :=
  let cursor := cursor.skipSpace
  match cursor.rest with
  | [] => .error (cursor.next "EOF while parsing a list")
  | ']' :: _ => .ok (false, cursor)
  | character :: _ =>
    if first then .ok (true, cursor)
    else if character = ',' then
      let cursor := cursor.advance.skipSpace
      match cursor.rest with
      | ']' :: _ => .error (cursor.next "trailing comma")
      | [] => .error (cursor.next "EOF while parsing a value")
      | _ => .ok (true, cursor)
    else .error (cursor.next "expected \x60,\x60 or \x60]\x60")

/-- Move to the next name of an object, or say that there is none. -/
def nextName (first : Bool) (cursor : Cursor) : Except Complaint (Bool × Cursor) :=
  let cursor := cursor.skipSpace
  match cursor.rest with
  | [] => .error (cursor.next "EOF while parsing an object")
  | '}' :: _ => .ok (false, cursor)
  | character :: _ =>
    if first then
      if character = '"' then .ok (true, cursor) else .error (cursor.next "key must be a string")
    else if character = ',' then
      let cursor := cursor.advance.skipSpace
      match cursor.rest with
      | '"' :: _ => .ok (true, cursor)
      | '}' :: _ => .error (cursor.next "trailing comma")
      | [] => .error (cursor.next "EOF while parsing a value")
      | _ => .error (cursor.next "key must be a string")
    else .error (cursor.next "expected \x60,\x60 or \x60\x7d\x60")

/-- Move over the colon behind a name. -/
def colon (cursor : Cursor) : Except Complaint Cursor :=
  let cursor := cursor.skipSpace
  match cursor.rest with
  | ':' :: _ => .ok cursor.advance
  | [] => .error (cursor.next "EOF while parsing an object")
  | _ => .error (cursor.next "expected \x60:\x60")

/-- Move over a value that nobody reads. -/
def skipValue (cursor : Cursor) : Except Complaint Cursor :=
  let cursor := cursor.skipSpace
  match readFrom? (2 * cursor.rest.length + 2) .value [] cursor.rest with
  | some (_, rest) => .ok (cursor.advanceBy (cursor.rest.length - rest.length))
  | none =>
    match cursor.rest with
    | [] => .error (cursor.next "EOF while parsing a value")
    | _ => .error (cursor.next "expected value")

mutual

/-- Move over a value of a shape; `fuel` bounds the steps. -/
def inspect : Nat → Shape → Cursor → Except Complaint Cursor
  | 0, _, cursor => .error (cursor.next "recursion limit exceeded")
  | fuel + 1, shape, cursor =>
    let cursor := cursor.skipSpace
    match cursor.rest, shape with
    | [], _ => .error (cursor.next "EOF while parsing a value")
    | '"' :: _, .string => cursor.advance.string.map Prod.snd
    | '[' :: _, .list item => inspectItems fuel item true cursor.advance
    | '[' :: _, .record name fields => inspectArray fuel name fields.length 0 fields cursor.advance
    | '{' :: _, .record _ fields => inspectMembers fuel fields [] true cursor.advance
    | _, shape => .error (wrongKind shape.expectation cursor)

/-- Move over the items of an array of one shape. -/
def inspectItems : Nat → Shape → Bool → Cursor → Except Complaint Cursor
  | 0, _, _, cursor => .error (cursor.next "recursion limit exceeded")
  | fuel + 1, item, first, cursor =>
    match nextItem first cursor with
    | .error complaint => .error complaint
    | .ok (false, cursor) => endArray cursor
    | .ok (true, cursor) =>
      match inspect fuel item cursor with
      | .error complaint => .error complaint
      | .ok cursor => inspectItems fuel item false cursor

/-- Move over a record that is written as an array. -/
def inspectArray : Nat → String → Nat → Nat → List FieldShape → Cursor → Except Complaint Cursor
  | 0, _, _, _, _, cursor => .error (cursor.next "recursion limit exceeded")
  | _ + 1, _, _, _, [], cursor => endArray cursor
  | fuel + 1, name, size, count, field :: fields, cursor =>
    match nextItem (count = 0) cursor with
    | .error complaint => .error complaint
    | .ok (false, cursor) =>
      if field.required then
        .error ((leaveArray cursor).here ("invalid length " ++ toString count
          ++ ", expected struct " ++ name ++ " with " ++ toString size ++ " elements"))
      else endArray cursor
    | .ok (true, cursor) =>
      match inspect fuel field.shape cursor with
      | .error complaint => .error complaint
      | .ok cursor => inspectArray fuel name size (count + 1) fields cursor

/-- Move over the members of a record; `seen` has the names of the fields already read. -/
def inspectMembers : Nat → List FieldShape → List String → Bool → Cursor →
    Except Complaint Cursor
  | 0, _, _, _, cursor => .error (cursor.next "recursion limit exceeded")
  | fuel + 1, fields, seen, first, cursor =>
    match nextName first cursor with
    | .error complaint => .error complaint
    | .ok (false, cursor) =>
      match fields.find? fun field => field.required && !seen.contains field.name with
      | some field =>
        .error ((leaveObject cursor).here ("missing field \x60" ++ field.name ++ "\x60"))
      | none => .ok cursor.advance
    | .ok (true, cursor) =>
      match cursor.advance.string with
      | .error complaint => .error complaint
      | .ok (name, cursor) =>
        match fields.find? fun field => field.name = name with
        | none =>
          match colon cursor >>= skipValue with
          | .error complaint => .error complaint
          | .ok cursor => inspectMembers fuel fields seen false cursor
        | some field =>
          if seen.contains name then
            .error ((leaveObject cursor).here ("duplicate field \x60" ++ name ++ "\x60"))
          else
            match colon cursor with
            | .error complaint => .error complaint
            | .ok cursor =>
              match inspect fuel field.shape cursor with
              | .error complaint => .error complaint
              | .ok cursor => inspectMembers fuel fields (name :: seen) false cursor

end

mutual

/-- Move over a value of any kind, in which at most `depth` arrays and objects may be nested;
`fuel` bounds the steps. -/
def inspectValue : Nat → Nat → Cursor → Except Complaint Cursor
  | 0, _, cursor => .error (cursor.next "recursion limit exceeded")
  | fuel + 1, depth, cursor =>
    let cursor := cursor.skipSpace
    match cursor.rest, depth with
    | [], _ => .error (cursor.next "EOF while parsing a value")
    | 'n' :: _, _ => cursor.advance.literal ['u', 'l', 'l']
    | 't' :: _, _ => cursor.advance.literal ['r', 'u', 'e']
    | 'f' :: _, _ => cursor.advance.literal ['a', 'l', 's', 'e']
    | '"' :: _, _ => cursor.advance.string.map Prod.snd
    | '[' :: _, 0 | '{' :: _, 0 => .error (cursor.next "recursion limit exceeded")
    | '[' :: _, depth + 1 => inspectValues fuel depth true cursor.advance
    | '{' :: _, depth + 1 => inspectPairs fuel depth true cursor.advance
    | character :: _, _ =>
      if isDigit character || character = '-' then cursor.number.map Prod.snd
      else .error (cursor.next "expected value")

/-- Move over the items of an array. -/
def inspectValues : Nat → Nat → Bool → Cursor → Except Complaint Cursor
  | 0, _, _, cursor => .error (cursor.next "recursion limit exceeded")
  | fuel + 1, depth, first, cursor =>
    match nextItem first cursor with
    | .error complaint => .error complaint
    | .ok (false, cursor) => endArray cursor
    | .ok (true, cursor) =>
      match inspectValue fuel depth cursor with
      | .error complaint => .error complaint
      | .ok cursor => inspectValues fuel depth false cursor

/-- Move over the members of an object. -/
def inspectPairs : Nat → Nat → Bool → Cursor → Except Complaint Cursor
  | 0, _, _, cursor => .error (cursor.next "recursion limit exceeded")
  | fuel + 1, depth, first, cursor =>
    match nextName first cursor with
    | .error complaint => .error complaint
    | .ok (false, cursor) => .ok cursor.advance
    | .ok (true, cursor) =>
      match cursor.advance.string >>= fun (_, cursor) => colon cursor with
      | .error complaint => .error complaint
      | .ok cursor =>
        match inspectValue fuel depth cursor with
        | .error complaint => .error complaint
        | .ok cursor => inspectPairs fuel depth false cursor

end

/-- The first thing wrong with a text that should be one thing, with whitespace around it. -/
def complaintOf? (inspect : Nat → Cursor → Except Complaint Cursor) (text : String) :
    Option String :=
  match inspect (2 * text.length + 20) ⟨text.toList, 1, 0⟩ with
  | .error complaint => some complaint.message
  | .ok cursor =>
    let cursor := cursor.skipSpace
    if cursor.rest.isEmpty then none else some (cursor.next "trailing characters").message

/-- The first thing wrong with a text that should have a shape. -/
def complaint? (shape : Shape) (text : String) : Option String :=
  complaintOf? (fun fuel => inspect fuel shape) text

/-- What is said of a text that is no value. -/
def valueComplaint (text : String) : String :=
  (complaintOf? (fun fuel => inspectValue fuel depthLimit) text).getD ""

/-- What is said of a text that is no object. -/
def membersComplaint (text : String) : String :=
  let inspectObject (fuel : Nat) (cursor : Cursor) : Except Complaint Cursor :=
    match cursor.skipSpace.rest with
    | [] | '{' :: _ => inspectValue fuel depthLimit cursor
    | _ => .error (wrongKind "a map" cursor.skipSpace)
  (complaintOf? inspectObject text).getD ""

end ConfigDelivery.Json
