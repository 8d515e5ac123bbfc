import ConfigDelivery.Basic.Failure
import ConfigDelivery.Text.Blank
/-!
# Where a database lives

A database is opened by the path of its file, which is created when it is not
there, but in a directory that must be. The empty path and `:memory:` need no
file.
-/

namespace ConfigDelivery.Store

/-- The directory part of a path, and nothing for a path of one name. -/
def directoryOf? (path : String) : Option String :=
  match (Text.splitOn '/' path.toList).reverse with
  | [] => none
  | [_] => none
  | [_, []] => some "/"
  | _ :: parents => some (String.ofList ((parents.reverse.intersperse ['/']).flatten))

/-- The path of a database can be opened when these directories exist. -/
def opens (directories : List String) (path : String) : Bool :=
  path = "" || path = ":memory:" || (!directories.contains path
    && match directoryOf? path with
      | none => true
      | some directory => directories.contains directory)

/-- Open the database of a path, or say why it cannot be opened. -/
def checkOpen (directories : List String) (path : String) : Except Failure Unit :=
  if opens directories path then .ok ()
  else
    .error
      ⟨"failed to open record database " ++ path, ["unable to open database file: " ++ path]⟩

end ConfigDelivery.Store
