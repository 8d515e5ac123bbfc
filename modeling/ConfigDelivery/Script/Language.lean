/-!
# Script languages

The languages that code versions may be written in, and the names that select
them.
-/

namespace ConfigDelivery.Script

/-- A language that scripts may be written in. -/
inductive Language where
  | javascript
  | starlark
  deriving DecidableEq, Repr

namespace Language

/-- The canonical name of a language. -/
def name : Language → String
  | javascript => "javascript"
  | starlark => "starlark"

/-- The language that a name selects. -/
def read? : String → Option Language
  | "javascript" => some javascript
  | "js" => some javascript
  | "starlark" => some starlark
  | _ => none

/-- The wording for a name that selects no language. -/
def unsupported (text : String) : String := "unsupported language: " ++ text

/-- The language that a name selects, or the wording for none. -/
def read (text : String) : Except String Language :=
  match read? text with
  | some language => .ok language
  | none => .error (unsupported text)

end Language

end ConfigDelivery.Script
