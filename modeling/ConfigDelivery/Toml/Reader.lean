import ConfigDelivery.Toml.Scalar
/-!
# Reading TOML documents

Values, and the tables that lines and headers build up. A name is given once; a
header may open a table that only other headers implied, and names with points
may go on in tables that such names made, but neither may reopen the other's.
-/

namespace ConfigDelivery.Toml

open Json (Document)

/-- What a name of a table stands for: a value, a table with its origin, or tables in an array. -/
inductive Node where
  | value (document : Document)
  | table (isImplied isDotted : Bool) (entries : List (String × Node))
  | tables (items : List (List (String × Node)))

/-- The entries of a table. -/
abbrev Entries := List (String × Node)

/-- The node of a name. -/
def findNode (name : String) (entries : Entries) : Option Node :=
  (entries.find? fun entry => entry.1 = name).map Prod.snd

/-- Set the node of a name. -/
def setNode (name : String) (node : Node) : Entries → Entries
  | [] => [(name, node)]
  | (other, old) :: rest =>
    if other = name then (name, node) :: rest else (other, old) :: setNode name node rest

/-- Change the table at the end of a path. Tables that are not there are made on the way; a path of
names with points may not enter a table that a header opened. -/
def descend (isDotted : Bool) (change : Entries → Option Entries) :
    List String → Entries → Option Entries
  | [], entries => change entries
  | name :: path, entries =>
    match findNode name entries with
    | none => do
      let inner ← descend isDotted change path []
      return setNode name (.table true isDotted inner) entries
    | some (.value _) => none
    | some (.table isImplied wasDotted inner) =>
      if isDotted && !isImplied then none
      else do
        let inner ← descend isDotted change path inner
        return setNode name (.table isImplied wasDotted inner) entries
    | some (.tables items) =>
      match items.reverse with
      | [] => none
      | last :: earlier => do
        let last ← descend isDotted change path last
        return setNode name (.tables (last :: earlier).reverse) entries

/-- The table that a path of names with points leads to was made by such a path. -/
def isDottedPath : List String → Entries → Bool
  | [], _ => true
  | [name], entries =>
    match findNode name entries with
    | some (.table _ isDotted _) => isDotted
    | none => true
    | _ => false
  | name :: path, entries =>
    match findNode name entries with
    | some (.table _ _ inner) => isDottedPath path inner
    | none => true
    | _ => false

/-- Give a name of a table a value. -/
def addValue (path : List String) (document : Document) (entries : Entries) : Option Entries :=
  match path.reverse with
  | [] => none
  | name :: parents =>
    let parents := parents.reverse
    if isDottedPath parents entries then
      descend true (fun entries =>
        match findNode name entries with
        | none => some (entries ++ [(name, .value document)])
        | some _ => none) parents entries
    else none

/-- Open a table by its header. -/
def openTable (path : List String) (entries : Entries) : Option Entries :=
  match path.reverse with
  | [] => none
  | name :: parents =>
    descend false (fun entries =>
      match findNode name entries with
      | none => some (entries ++ [(name, .table false false [])])
      | some (.table true false inner) => some (setNode name (.table false false inner) entries)
      | some _ => none) parents.reverse entries

/-- Add a table to an array of tables by its header. -/
def openItem (path : List String) (entries : Entries) : Option Entries :=
  match path.reverse with
  | [] => none
  | name :: parents =>
    descend false (fun entries =>
      match findNode name entries with
      | none => some (entries ++ [(name, .tables [[]])])
      | some (.tables items) => some (setNode name (.tables (items ++ [[]])) entries)
      | some _ => none) parents.reverse entries

mutual

/-- The document of a node. -/
def Node.document : Node → Document
  | .value document => document
  | .table _ _ entries => .object (entryDocuments entries)
  | .tables items => .array (itemDocuments items)

/-- The documents of the entries of a table. -/
def entryDocuments : List (String × Node) → List (Json.Quoted × Document)
  | [] => []
  | (name, node) :: rest => (.text name, node.document) :: entryDocuments rest

/-- The documents of tables in an array. -/
def itemDocuments : List (List (String × Node)) → List Document
  | [] => []
  | entries :: rest => .object (entryDocuments entries) :: itemDocuments rest

end

/-- Drop blanks, line breaks and comments; none when a comment is malformed. `fuel` bounds the
pieces. -/
def skipLines? : Nat → List Char → Option (List Char)
  | 0, _ => none
  | fuel + 1, characters =>
    match skipBlank characters with
    | '#' :: rest => skipComment? ('#' :: rest) >>= skipLines? fuel
    | characters =>
      match skipBreak? characters with
      | some rest => skipLines? fuel rest
      | none => some characters

/-- The deepest nesting of values. -/
def nestingLimit : Nat := 79

mutual

/-- Read a value, with room for some arrays and tables inside each other. `fuel` bounds the
steps. -/
def readValue? : Nat → Nat → List Char → Option (Document × List Char)
  | 0, _, _ => none
  | fuel + 1, room, characters =>
    match characters with
    | '"' :: _ | '\'' :: _ =>
      (readString? characters).map fun (text, rest) => (.ofString text, rest)
    | '[' :: rest => if room = 0 then none else readItems? fuel (room - 1) [] rest
    | '{' :: rest =>
      if room = 0 then none
      else
        match skipBlank rest with
        | '}' :: rest => some (.object [], rest)
        | rest => readMembers? fuel (room - 1) [] rest
    | 't' :: 'r' :: 'u' :: 'e' :: rest => some (.bool true, rest)
    | 'f' :: 'a' :: 'l' :: 's' :: 'e' :: rest => some (.bool false, rest)
    | characters => readNumber? characters

/-- Read the items of an array behind its opening bracket; a comma may stand before the end. -/
def readItems? : Nat → Nat → List Document → List Char → Option (Document × List Char)
  | 0, _, _, _ => none
  | fuel + 1, room, done, characters =>
    match skipLines? (characters.length + 1) characters with
    | none => none
    | some (']' :: rest) => some (.array done.reverse, rest)
    | some characters =>
      match readValue? fuel room characters with
      | none => none
      | some (item, rest) =>
        match skipLines? (rest.length + 1) rest with
        | some (',' :: rest) => readItems? fuel room (item :: done) rest
        | some (']' :: rest) => some (.array (item :: done).reverse, rest)
        | _ => none

/-- Read the members of a table on one line behind its opening brace. -/
def readMembers? : Nat → Nat → Entries → List Char → Option (Document × List Char)
  | 0, _, _, _ => none
  | fuel + 1, room, done, characters =>
    match readKey? (characters.length + 1) characters with
    | some (path, '=' :: rest) =>
      match readValue? fuel room (skipBlank rest) with
      | none => none
      | some (document, rest) =>
        match addValue path document done with
        | none => none
        | some done =>
          match skipBlank rest with
          | ',' :: rest => readMembers? fuel room done rest
          | '}' :: rest => some (.object (entryDocuments done), rest)
          | _ => none
    | _ => none

end

/-- What the rest of a line must be: blanks, a comment, and a line break or the end. -/
def endLine? (characters : List Char) : Option (List Char) :=
  match skipComment? (skipBlank characters) with
  | none => none
  | some [] => some []
  | some rest => skipBreak? rest

/-- A document that is being read: its tables, and the path of the table that lines go into. -/
structure Reading where
  root : Entries := []
  path : List String := []

/-- Read the lines of a document; `fuel` bounds them. -/
def readFrom? : Nat → Reading → List Char → Option Entries
  | 0, _, _ => none
  | fuel + 1, reading, characters =>
    match skipBlank characters with
    | [] => some reading.root
    | '[' :: '[' :: rest =>
      match readKey? (rest.length + 1) rest with
      | some (path, ']' :: ']' :: rest) =>
        match openItem path reading.root, endLine? rest with
        | some root, some rest => readFrom? fuel ⟨root, path⟩ rest
        | _, _ => none
      | _ => none
    | '[' :: rest =>
      match readKey? (rest.length + 1) rest with
      | some (path, ']' :: rest) =>
        match openTable path reading.root, endLine? rest with
        | some root, some rest => readFrom? fuel ⟨root, path⟩ rest
        | _, _ => none
      | _ => none
    | '#' :: rest =>
      match endLine? ('#' :: rest) with
      | some rest => readFrom? fuel reading rest
      | none => none
    | characters =>
      match skipBreak? characters with
      | some rest => readFrom? fuel reading rest
      | none =>
        match readKey? (characters.length + 1) characters with
        | some (key, '=' :: rest) =>
          match readValue? (2 * rest.length + 2) nestingLimit (skipBlank rest) with
          | none => none
          | some (document, rest) =>
            match descend false (addValue key document) reading.path reading.root,
                endLine? rest with
            | some root, some rest => readFrom? fuel { reading with root } rest
            | _, _ => none
        | _ => none

/-- Read a text as a TOML document. A byte-order mark in front is dropped. -/
def read? (text : String) : Option Document :=
  let characters :=
    match text.toList with
    | '\ufeff' :: rest => rest
    | characters => characters
  (readFrom? (characters.length + 1) {} characters).map fun entries =>
    .object (entryDocuments entries)

end ConfigDelivery.Toml
