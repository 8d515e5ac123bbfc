import ConfigDelivery.Basic.Table
import ConfigDelivery.Text.Blank
import ConfigDelivery.Text.Integer
import ConfigDelivery.Text.Letter
import ConfigDelivery.Text.Utf8
/-!
# Requests

A request arrives as bytes in pieces of any size. Whether more bytes are needed is
a function of the bytes so far: first the end of the header section is looked
for, then as many bytes as the header section announces. Main definition: reading
a request from the pieces of a stream.
-/

namespace ConfigDelivery.Http

/-- A request: its method, its path without a query, its header fields under names in lower case,
and its body. -/
structure Request where
  method : String
  path : String
  headers : Table String
  body : List UInt8

/-- Why the bytes of a stream are no request. -/
inductive Malformed where
  | headersTooLarge
  | headersCutShort
  | noMethod
  | noPath
  | badLength
  | bodyTooLarge
  | bodyCutShort
  deriving DecidableEq, Repr

/-- The wording for bytes that are no request. -/
def Malformed.message : Malformed → String
  | headersTooLarge => "request headers too large"
  | headersCutShort => "connection closed before end of headers"
  | noMethod => "missing method"
  | noPath => "missing path"
  | badLength => "invalid content-length"
  | bodyTooLarge => "request body too large"
  | bodyCutShort => "connection closed before end of body"

/-- How many bytes may come before the end of the header section is looked for in vain. -/
def maxHeaderBytes : Nat := 8192

/-- How many bytes a body may have. -/
def maxBodyBytes : Nat := 256 * 1024

/-- How many bytes are read from a stream at a time. -/
def pieceBytes : Nat := 4096

/-- The bytes before the first empty line and those after it. -/
def splitHead : List UInt8 → Option (List UInt8 × List UInt8)
  | 13 :: 10 :: 13 :: 10 :: rest => some ([], rest)
  | [] => none
  | byte :: rest => (splitHead rest).map fun (head, body) => (byte :: head, body)

/-- The lines of a header section. -/
def headLines : List Char → List (List Char)
  | [] => [[]]
  | '\r' :: '\n' :: rest => [] :: headLines rest
  | character :: rest =>
    match headLines rest with
    | [] => [[character]]
    | line :: lines => (character :: line) :: lines

/-- The words of a line. -/
def words (line : List Char) : List String :=
  let rec go : List Char → List Char → List String
    | word, [] => if word.isEmpty then [] else [String.ofList word.reverse]
    | word, character :: rest =>
      if Text.isBlank character then
        if word.isEmpty then go [] rest else String.ofList word.reverse :: go [] rest
      else go (character :: word) rest
  go [] line

/-- The name and the value of a header line; a line without a colon has none. -/
def field? (line : List Char) : Option (String × String) :=
  (Text.cut? ':' line).map fun (name, value) =>
    (String.ofList (Text.lowerText (Text.trim (String.ofList name)).toList),
      Text.trim (String.ofList value))

/-- The header fields of some lines; of two with one name the later counts. -/
def fields (lines : List (List Char)) : Table String :=
  lines.foldl
    (fun table line =>
      match field? line with
      | some (name, value) => table.insert name value
      | none => table)
    .empty

/-- A target without its query. -/
def pathOf (target : String) : String :=
  String.ofList (target.toList.takeWhile (· != '?'))

/-- The head of a request: all but its body, and how long that is. -/
structure Head where
  method : String
  path : String
  headers : Table String
  length : Nat

/-- The length of the body that header fields announce. -/
def bodyLength (headers : Table String) : Except Malformed Nat :=
  match headers.find? "content-length" with
  | none => .ok 0
  | some text =>
    match Text.readInteger .unsigned64 text with
    | .error _ => .error .badLength
    | .ok length =>
      if maxBodyBytes < length.toNat then .error .bodyTooLarge else .ok length.toNat

/-- Read a header section. -/
def Head.read (bytes : List UInt8) : Except Malformed Head :=
  match headLines (Text.decodeUtf8 bytes).toList with
  | [] => .error .noMethod
  | first :: lines =>
    match words first with
    | [] => .error .noMethod
    | [_] => .error .noPath
    | method :: target :: _ =>
      let headers := fields lines
      (bodyLength headers).map fun length => ⟨method, pathOf target, headers, length⟩

/-- What is known of a request from the bytes so far. -/
inductive Progress where
  /-- More bytes are needed; the fault is what the end of the stream would make of it. -/
  | unfinished (fault : Malformed)
  | finished (result : Except Malformed Request)

/-- What the bytes of a stream so far are. -/
def progress (bytes : List UInt8) : Progress :=
  match splitHead bytes with
  | none =>
    -- A head whose end has come is not measured.
    if maxHeaderBytes < bytes.length then .finished (.error .headersTooLarge)
    else .unfinished .headersCutShort
  | some (head, rest) =>
    match Head.read head with
    | .error fault => .finished (.error fault)
    | .ok head =>
      if rest.length < head.length then .unfinished .bodyCutShort
      else .finished (.ok ⟨head.method, head.path, head.headers, rest.take head.length⟩)

/-- Read a request from the pieces of a stream, after some bytes. -/
def readFrom (bytes : List UInt8) (pieces : List (List UInt8)) : Except Malformed Request :=
  match progress bytes, pieces with
  | .finished result, _ => result
  | .unfinished fault, [] => .error fault
  | .unfinished _, piece :: rest => readFrom (bytes ++ piece) rest

/-- Read a request from the pieces of a stream. -/
def readRequest (pieces : List (List UInt8)) : Except Malformed Request := readFrom [] pieces

namespace Request

/-- The value of a header field. -/
def header? (request : Request) (name : String) : Option String := request.headers.find? name

/-- The secret that a request carries; an empty one is none. -/
def secret? (request : Request) : Option String :=
  (request.header? "secret").filter fun secret => !secret.isEmpty

end Request

end ConfigDelivery.Http
