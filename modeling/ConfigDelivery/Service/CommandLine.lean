import ConfigDelivery.Text.Blank
/-!
# Command lines

Arguments are options with long names, which take a value or none and may stand
once. They are read from the left; the first one that asks for help or for the
version, or that cannot be understood, ends the reading.
-/

namespace ConfigDelivery.Service

/-- An option: its name, and which values it takes, if it takes one. -/
structure OptionRule where
  name : String
  accepts : Option (String → Bool)

/-- Why the reading of a command line ends early. -/
inductive Stop where
  | misuse
  | help
  | version
  deriving DecidableEq, Repr

/-- Options that were given, with their values. -/
abbrev Given := List (String × String)

/-- The value of an option that was given. -/
def Given.find? (given : Given) (name : String) : Option String :=
  (List.find? (fun entry => entry.1 = name) given).map Prod.snd

/-- An argument is an option and no value. -/
def looksLikeOption (argument : String) : Bool :=
  match argument.toList with
  | '-' :: _ :: _ => true
  | _ => false

/-- A long option: its name, and the value behind an equals sign. -/
def splitLong (characters : List Char) : String × Option String :=
  match Text.cut? '=' characters with
  | some (name, value) => (String.ofList name, some (String.ofList value))
  | none => (String.ofList characters, none)

/-- Take an option that stands for the first time. -/
def Given.add (given : Given) (rule : OptionRule) (value : Option String) : Except Stop Given :=
  if (given.find? rule.name).isSome then .error .misuse
  else
    match rule.accepts, value with
    | none, none => .ok (given ++ [(rule.name, "")])
    | some accepts, some value =>
      if accepts value then .ok (given ++ [(rule.name, value)]) else .error .misuse
    | _, _ => .error .misuse

/-- What an option without a rule does. -/
def unruled (name : String) (value : Option String) : Stop :=
  match name, value with
  | "help", none => .help
  | "version", none => .version
  | _, _ => .misuse

/-- Read arguments after some options, of which one may still wait for its value. -/
def readArguments (rules : List OptionRule) :
    Option OptionRule → Given → List String → Except Stop Given
  | none, given, [] => .ok given
  | some _, _, [] => .error .misuse
  | some rule, given, value :: rest =>
    if looksLikeOption value then .error .misuse
    else
      match given.add rule (some value) with
      | .error stop => .error stop
      | .ok given => readArguments rules none given rest
  | none, given, argument :: rest =>
    match argument.toList with
    | ['-', '-'] => if rest.isEmpty then .ok given else .error .misuse
    | '-' :: '-' :: long =>
      let (name, value) := splitLong long
      match rules.find? fun rule => rule.name = name with
      | none => .error (unruled name value)
      | some rule =>
        if rule.accepts.isSome && value.isNone then readArguments rules (some rule) given rest
        else
          match given.add rule value with
          | .error stop => .error stop
          | .ok given => readArguments rules none given rest
    | '-' :: 'h' :: _ => .error .help
    | '-' :: 'V' :: _ => .error .version
    | _ => .error .misuse

/-- How a command ends: its exit code, what it writes, and what it complains of. -/
structure Ending where
  code : Nat
  output : String := ""
  complaint : Option String := none
  deriving DecidableEq, Repr

/-- The version of the program. -/
def versionText : String := "remote-config 0.3.1\n"

/-- What the program is. -/
def purpose : String :=
  "Remote configuration service - sandboxed script engines, targeting rules and gray release"

/-- How a command ends whose arguments are not for running it. -/
def Stop.ending (help : String) : Stop → Ending
  | .misuse => ⟨2, "", none⟩
  | .help => ⟨0, help, none⟩
  | .version => ⟨0, versionText, none⟩

/-- How a command ends that runs. -/
def Ending.of : Except String String → Ending
  | .ok output => ⟨0, output, none⟩
  | .error complaint => ⟨1, "", some complaint⟩

end ConfigDelivery.Service
