import ConfigDelivery.Script.Starlark.Operators
import ConfigDelivery.Script.Starlark.Token
import ConfigDelivery.Text.Blank
import ConfigDelivery.Text.Letter
/-!
# Methods of Starlark values

The methods of texts, lists and dicts, by name. Positions in texts count
characters.
-/

namespace ConfigDelivery.Script.Starlark

/-- The arguments of a call. -/
structure Arguments where
  positional : List Value
  named : List (String × Value) := []

/-- The methods of texts. -/
def textMethods : List String :=
  ["capitalize", "codepoints", "count", "elems", "endswith", "find", "format", "index", "isalnum",
    "isalpha", "isdigit", "islower", "isspace", "istitle", "isupper", "join", "lower", "lstrip",
    "partition", "removeprefix", "removesuffix", "replace", "rfind", "rindex", "rpartition",
    "rsplit", "rstrip", "split", "splitlines", "startswith", "strip", "title", "upper"]

/-- The methods of lists. -/
def listMethods : List String :=
  ["append", "clear", "extend", "index", "insert", "pop", "remove"]

/-- The methods of dicts. -/
def dictMethods : List String :=
  ["clear", "get", "items", "keys", "pop", "popitem", "setdefault", "update", "values"]

/-- The functions of the JSON module. -/
def jsonFunctions : List String := ["decode", "encode"]

namespace Value

/-- The names of a value's attributes. -/
def attributes : Value → List String
  | text _ => textMethods
  | list _ => listMethods
  | dict _ => dictMethods
  | json => jsonFunctions
  | _ => []

end Value

/-- The positions at which a part occurs in a text, from the left. -/
def occurrences (part : List Char) (characters : List Char) : List Nat :=
  (List.range (characters.length + 1)).filter fun position =>
    part.isPrefixOf (characters.drop position)

/-- The pieces of a text between occurrences of a separator, at most `limit` separators deep. -/
def splitAt (separator : List Char) : Nat → Nat → List Char → List Char → List (List Char)
  | 0, _, done, rest => [done.reverse ++ rest]
  | _ + 1, 0, done, rest => [done.reverse ++ rest]
  | _ + 1, _, done, [] => [done.reverse]
  | fuel + 1, limit + 1, done, character :: rest =>
    if separator.isPrefixOf (character :: rest) then
      done.reverse :: splitAt separator fuel limit [] ((character :: rest).drop separator.length)
    else splitAt separator fuel (limit + 1) (character :: done) rest

/-- The pieces of a text between runs of blanks, at most `limit` runs deep. -/
def splitBlank : Nat → Nat → List Char → List (List Char)
  | 0, _, _ => []
  | fuel + 1, limit, characters =>
    match Text.trimLeft characters with
    | [] => []
    | rest =>
      match limit with
      | 0 => [rest]
      | limit + 1 =>
        let (piece, rest) := rest.span fun character => !Text.isBlank character
        piece :: splitBlank fuel limit rest

/-- The lines of a text; each may keep its end. -/
def linesOf (keepsEnds : Bool) : List Char → List Char → List (List Char)
  | [], [] => []
  | done, [] => [done.reverse]
  | done, '\r' :: '\n' :: rest =>
    (done.reverse ++ if keepsEnds then ['\r', '\n'] else []) :: linesOf keepsEnds [] rest
  | done, character :: rest =>
    if character == '\n' || character == '\r' then
      (done.reverse ++ if keepsEnds then [character] else []) :: linesOf keepsEnds [] rest
    else linesOf keepsEnds (character :: done) rest

/-- Replace the first `count` occurrences of a part; `fuel` bounds the characters. -/
def replaceIn (old new : List Char) : Nat → Nat → List Char → List Char
  | 0, _, rest => rest
  | _ + 1, 0, rest => rest
  | fuel + 1, count + 1, characters =>
    match characters with
    | [] => if old.isEmpty then new else []
    | character :: rest =>
      if old.isEmpty then new ++ character :: replaceIn old new fuel count rest
      else if old.isPrefixOf characters then
        new ++ replaceIn old new fuel count (characters.drop old.length)
      else character :: replaceIn old new fuel (count + 1) rest

/-- A character is a letter: one of ASCII, or one that has another case. -/
def isLetter (character : Char) : Bool := character.isAlpha || Text.isCased character

/-- Change the first letter of every word to upper case and the others to lower case. -/
def titleChars : Bool → List Char → List Char
  | _, [] => []
  | inWord, character :: rest =>
    (if inWord then Text.lowerCase character else Text.upperCase character)
      ++ titleChars (isLetter character) rest

/-- Every word of a text starts with a capital and goes on in lower case, and there is a word. -/
def isTitle (characters : List Char) : Bool :=
  characters.any isLetter && characters == titleChars false characters

/-- The text of a list of characters. -/
def textValue (characters : List Char) : Value := .text (String.ofList characters)

namespace Run

/-- The arguments of a call without names: at least `least`, at most `most`. -/
def positionals (name : String) (least most : Nat) (arguments : Arguments) : Run (List Value) := do
  unless arguments.named.isEmpty do fail ("Unexpected named argument of `" ++ name ++ "`")
  let count := arguments.positional.length
  if count < least then fail ("Missing positional argument of `" ++ name ++ "`")
  if most < count then fail ("Too many positional arguments of `" ++ name ++ "`")
  return arguments.positional

/-- A value that has to be a text. -/
def expectText (value : Value) : Run (List Char) := do
  match value with
  | .text text => return text.toList
  | other => fail ("Type of parameters mismatch, expected `str`, actual `" ++ other.typeName ++ "`")

/-- A value that has to be a whole number. -/
def expectInt (value : Value) : Run Int := do
  match value with
  | .int value => return value
  | other => fail ("Type of parameters mismatch, expected `int`, actual `" ++ other.typeName ++ "`")

/-- The part of a text between two optional positions, and where it starts; none when the first is
behind the second. -/
def window (characters : List Char) (bounds : List Value) : Run (Option (Nat × List Char)) := do
  let length := characters.length
  let place (bound : Option Int) (otherwise : Nat) : Nat :=
    match bound with
    | none => otherwise
    | some bound => (max 0 (min (length : Int) (if bound < 0 then bound + length else bound))).toNat
  let low := place (← bound? bounds[0]?) 0
  let high := place (← bound? bounds[1]?) length
  if high < low then return none
  return some (low, (characters.take high).drop low)

/-- The position of a part of a text, the first or the last; minus one when there is none. -/
def findPart (fromRight : Bool) (characters : List Char) (arguments : List Value) : Run Int := do
  let part ← expectText (arguments.getD 0 .none)
  match ← window characters (arguments.drop 1) with
  | none => return -1
  | some (start, characters) =>
    let found := occurrences part characters
    match if fromRight then found.getLast? else found.head? with
    | some position => return (start + position : Nat)
    | none => return -1

/-- The texts that a value lists. -/
def textsOf (value : Value) : Run (List (List Char)) := do
  (← iterated value).toList.mapM expectText

/-- The characters that stripping takes away: blanks, unless others are given. -/
def stripped (arguments : List Value) : Run (Char → Bool) := do
  match arguments with
  | [] | [.none] => return Text.isBlank
  | first :: _ =>
    let characters ← expectText first
    return characters.contains

/-- A text starts or ends with a text, or with one of a tuple. -/
def anyAffix (arguments : List Value) (holds : List Char → Bool) : Run Bool := do
  match arguments with
  | .tuple items :: _ => return (← items.mapM expectText).any holds
  | value :: _ => return holds (← expectText value)
  | [] => return false

/-- The greatest number of pieces that a limit allows. -/
def limitOf (value : Option Value) (length : Nat) : Run Nat := do
  match ← bound? value with
  | some limit => return if limit < 0 then length + 1 else limit.toNat
  | none => return length + 1

/-- Fill the braces of a template; `next` is the index of the next argument without a name. -/
def fillBraces (arguments : Arguments) : Nat → Nat → List Char → Run (List String)
  | 0, _, _ => return []
  | _ + 1, _, [] => return []
  | fuel + 1, next, '{' :: '{' :: rest => return "\x7b" :: (← fillBraces arguments fuel next rest)
  | fuel + 1, next, '}' :: '}' :: rest => return "\x7d" :: (← fillBraces arguments fuel next rest)
  | fuel + 1, next, '{' :: rest => do
    match rest.span (· != '}') with
    | (_, []) => fail "Unmatched '\x7b' in format string"
    | (inside, _ :: rest) =>
      let (name, conversion) :=
        match Text.cut? '!' inside with
        | some (name, conversion) => (name, conversion)
        | none => (inside, [])
      let (value, next) ←
        if name.isEmpty then pure (arguments.positional[next]?, next + 1)
        else if name.all Json.isDigit then
          pure (arguments.positional[(digitsIn? 10 name).getD 0]?, next)
        else pure ((arguments.named.find? (·.1 == String.ofList name)).map Prod.snd, next)
      match value with
      | none => fail "Not enough parameters in format string"
      | some value =>
        let part ← if conversion == ['r'] then reprOf value else textOf value
        return part :: (← fillBraces arguments fuel next rest)
  | _ + 1, _, '}' :: _ => fail "Unmatched '\x7d' in format string"
  | fuel + 1, next, character :: rest =>
    return String.singleton character :: (← fillBraces arguments fuel next rest)

/-- Call a method of a text. -/
def callText (text : String) (name : String) (arguments : Arguments) : Run Value := do
  let characters := text.toList
  let length := characters.length
  let take (least most : Nat) : Run (List Value) := positionals name least most arguments
  let test (holds : Char → Bool) : Run Value := do
    let _ ← take 0 0
    return .bool (!characters.isEmpty && characters.all holds)
  let whole (value : List Char) : Run Value := do
    let _ ← take 0 0
    return textValue value
  match name with
  | "capitalize" =>
    whole (match characters with
      | [] => []
      | first :: rest => Text.upperCase first ++ Text.lowerText rest)
  | "lower" => whole (Text.lowerText characters)
  | "upper" => whole (Text.upperText characters)
  | "title" => whole (titleChars false characters)
  | "isalnum" => test fun character => isLetter character || character.isDigit
  | "isalpha" => test isLetter
  | "isdigit" => test Char.isDigit
  | "isspace" => test Text.isBlank
  | "islower" => return .bool (characters.any Text.isLower && !characters.any Text.isUpper)
  | "isupper" => return .bool (characters.any Text.isUpper && !characters.any Text.isLower)
  | "istitle" => return .bool (isTitle characters)
  | "elems" => newList (characters.map (Value.text ∘ String.singleton)).toArray
  | "codepoints" => newList (characters.map fun c => Value.int c.toNat).toArray
  | "count" =>
    let arguments ← take 1 3
    let part ← expectText (arguments.getD 0 .none)
    match ← window characters (arguments.drop 1) with
    | none => return .int 0
    | some (_, characters) =>
      return .int ((splitAt part (length + 2) (length + 1) [] characters).length - 1)
  | "find" => return .int (← findPart false characters (← take 1 3))
  | "rfind" => return .int (← findPart true characters (← take 1 3))
  | "index" | "rindex" =>
    let position ← findPart (name == "rindex") characters (← take 1 3)
    if position < 0 then fail "Substring was not found"
    return .int position
  | "startswith" => return .bool (← anyAffix (← take 1 1) (·.isPrefixOf characters))
  | "endswith" => return .bool (← anyAffix (← take 1 1) (·.isSuffixOf characters))
  | "removeprefix" =>
    let part ← expectText ((← take 1 1).getD 0 .none)
    return textValue
      (if part.isPrefixOf characters then characters.drop part.length else characters)
  | "removesuffix" =>
    let part ← expectText ((← take 1 1).getD 0 .none)
    return textValue
      (if part.isSuffixOf characters then characters.take (length - part.length) else characters)
  | "strip" =>
    let drops ← stripped (← take 0 1)
    return textValue ((characters.dropWhile drops).reverse.dropWhile drops).reverse
  | "lstrip" => return textValue (characters.dropWhile (← stripped (← take 0 1)))
  | "rstrip" => return textValue (characters.reverse.dropWhile (← stripped (← take 0 1))).reverse
  | "replace" =>
    let arguments ← take 2 3
    let old ← expectText (arguments.getD 0 .none)
    let new ← expectText (arguments.getD 1 .none)
    let count ← limitOf arguments[2]? length
    return textValue (replaceIn old new (2 * length + 2) count characters)
  | "join" =>
    let parts ← textsOf ((← take 1 1).getD 0 .none)
    return textValue (characters.intercalate parts)
  | "split" =>
    let arguments ← take 0 2
    let limit ← limitOf arguments[1]? length
    match arguments.getD 0 .none with
    | .none => newList ((splitBlank (length + 1) limit characters).map textValue).toArray
    | separator =>
      let separator ← expectText separator
      if separator.isEmpty then fail "Empty separator cannot be used for splitting"
      newList ((splitAt separator (length + 2) limit [] characters).map textValue).toArray
  | "rsplit" =>
    let arguments ← take 0 2
    let limit ← limitOf arguments[1]? length
    let reversed (pieces : List (List Char)) : Run Value :=
      newList (pieces.reverse.map (textValue ∘ List.reverse)).toArray
    match arguments.getD 0 .none with
    | .none => reversed (splitBlank (length + 1) limit characters.reverse)
    | separator =>
      let separator ← expectText separator
      if separator.isEmpty then fail "Empty separator cannot be used for splitting"
      reversed (splitAt separator.reverse (length + 2) limit [] characters.reverse)
  | "splitlines" =>
    let keepsEnds ← isTrue ((← take 0 1).getD 0 (.bool false))
    newList ((linesOf keepsEnds [] characters).map textValue).toArray
  | "partition" | "rpartition" =>
    let part ← expectText ((← take 1 1).getD 0 .none)
    if part.isEmpty then fail "Empty separator cannot be used for partitioning"
    let found := occurrences part characters
    let fromRight := name == "rpartition"
    match if fromRight then found.getLast? else found.head? with
    | some position =>
      return .tuple [textValue (characters.take position), textValue part,
        textValue (characters.drop (position + part.length))]
    | none =>
      return .tuple (if fromRight then [.text "", .text "", .text text]
        else [.text text, .text "", .text ""])
  | "format" =>
    return .text (String.join (← fillBraces arguments (length + 1) 0 characters))
  | other => fail ("Object of type `string` has no attribute `" ++ other ++ "`")

/-- Call a method of a list. -/
def callList (cell : Cell) (name : String) (arguments : Arguments) : Run Value := do
  let take (least most : Nat) : Run (List Value) := positionals name least most arguments
  match name with
  | "append" =>
    let item := (← take 1 1).getD 0 .none
    changeItems cell (·.push item)
    return .none
  | "clear" =>
    let _ ← take 0 0
    changeItems cell fun _ => #[]
    return .none
  | "extend" =>
    let more ← iterated ((← take 1 1).getD 0 .none)
    changeItems cell (· ++ more)
    return .none
  | "index" =>
    let arguments ← take 1 3
    let item := arguments.getD 0 .none
    let items ← itemsOf cell
    let objects := (← get).objects
    let positions := slicePositions items.size (← bound? arguments[1]?) (← bound? arguments[2]?) 1
    match positions.find? fun position =>
      Value.equal objects valueDepth (items.getD position .none) item with
    | some position => return .int position
    | none => fail "Element was not found in the list"
  | "insert" =>
    let arguments ← take 2 2
    let items ← itemsOf cell
    let index ← expectInt (arguments.getD 0 .none)
    let index := if index < 0 then index + items.size else index
    let position := (max 0 (min (items.size : Int) index)).toNat
    let item := arguments.getD 1 .none
    changeItems cell fun items =>
      (items.extract 0 position).push item ++ items.extract position items.size
    return .none
  | "pop" =>
    let arguments ← take 0 1
    let items ← itemsOf cell
    let position ← positionOf items.size (arguments.getD 0 (.int (-1)))
    changeItems cell fun items =>
      items.extract 0 position ++ items.extract (position + 1) items.size
    return items.getD position .none
  | "remove" =>
    let item := (← take 1 1).getD 0 .none
    let items ← itemsOf cell
    let objects := (← get).objects
    match items.findIdx? fun other => Value.equal objects valueDepth other item with
    | some position =>
      changeItems cell fun items =>
        items.extract 0 position ++ items.extract (position + 1) items.size
      return .none
    | none => fail "Element was not found in the list"
  | other => fail ("Object of type `list` has no attribute `" ++ other ++ "`")

/-- The entries that a value lists as pairs, or those of a dict. -/
def pairsOf (value : Value) : Run (List (Value × Value)) := do
  match value with
  | .dict cell => return (← entriesOf cell).toList
  | other =>
    (← iterated other).toList.mapM fun pair => do
      match (← iterated pair).toList with
      | [key, value] => return (key, value)
      | _ => fail "Found a non-pair element in the positional argument of dict()"

/-- Put entries into a dict's entries, those of a listing value before named ones. -/
def withEntries (entries : Array (Value × Value)) (arguments : Arguments) :
    Run (Array (Value × Value)) := do
  let pairs ←
    match arguments.positional with
    | [] => pure []
    | [value] => pairsOf value
    | _ => fail "Too many positional arguments"
  let named := arguments.named.map fun (name, value) => (Value.text name, value)
  (pairs ++ named).foldlM (fun entries (key, value) => putEntry entries key value) entries

/-- Call a method of a dict. -/
def callDict (cell : Cell) (name : String) (arguments : Arguments) : Run Value := do
  let take (least most : Nat) : Run (List Value) := positionals name least most arguments
  let entries ← entriesOf cell
  match name with
  | "clear" =>
    let _ ← take 0 0
    changeEntries cell fun _ => #[]
    return .none
  | "get" =>
    let arguments ← take 1 2
    return (← findEntry entries (arguments.getD 0 .none)).getD (arguments.getD 1 .none)
  | "items" =>
    let _ ← take 0 0
    newList (entries.map fun (key, value) => .tuple [key, value])
  | "keys" =>
    let _ ← take 0 0
    newList (entries.map Prod.fst)
  | "values" =>
    let _ ← take 0 0
    newList (entries.map Prod.snd)
  | "pop" =>
    let arguments ← take 1 2
    let key := arguments.getD 0 .none
    match ← findEntry entries key, arguments[1]? with
    | some value, _ =>
      let left ← dropEntry entries key
      changeEntries cell fun _ => left
      return value
    | none, some default => return default
    | none, none => fail ("Key `" ++ (← reprOf key) ++ "` not found in dictionary")
  | "popitem" =>
    let _ ← take 0 0
    match entries[0]? with
    | some (key, value) =>
      changeEntries cell fun entries => entries.extract 1 entries.size
      return .tuple [key, value]
    | none => fail "Cannot .popitem() on an empty dictionary"
  | "setdefault" =>
    let arguments ← take 1 2
    let key := arguments.getD 0 .none
    match ← findEntry entries key with
    | some value => return value
    | none =>
      let value := arguments.getD 1 .none
      changeEntries cell (·.push (key, value))
      return value
  | "update" =>
    let changed ← withEntries entries arguments
    changeEntries cell fun _ => changed
    return .none
  | other => fail ("Object of type `dict` has no attribute `" ++ other ++ "`")

/-- Call a method of a value. -/
def callMethod (receiver : Value) (name : String) (arguments : Arguments) : Run Value := do
  match receiver with
  | .text text => callText text name arguments
  | .list cell => callList cell name arguments
  | .dict cell => callDict cell name arguments
  | other => fail ("Object of type `" ++ other.typeName ++ "` has no attribute `" ++ name ++ "`")

/-- An attribute of a value. -/
def memberOf (target : Value) (name : String) : Run Value := do
  if target.attributes.contains name then
    match target with
    | .json => return .builtin ("json." ++ name)
    | target => return .method target name
  else fail ("Object of type `" ++ target.typeName ++ "` has no attribute `" ++ name ++ "`")

end Run

end ConfigDelivery.Script.Starlark
