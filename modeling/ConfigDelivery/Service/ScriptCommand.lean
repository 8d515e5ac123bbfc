import ConfigDelivery.Engine.Basic
import ConfigDelivery.Json.Value
import ConfigDelivery.Service.CommandLine
/-!
# Running a script from a file

The command runs one script as the service would run it: on parameters that are a
JSON object, within a time, by an engine with one worker.
-/

namespace ConfigDelivery.Service

open ConfigDelivery.Engine (Engines Interpreters)
open ConfigDelivery.Script (Language)

/-- What the command is told. -/
structure ScriptArguments where
  language : String
  file : String
  params : String
  timeout : Duration

namespace ScriptArguments

/-- The options of the command. -/
def rules : List OptionRule :=
  [⟨"lang", some fun _ => true⟩,
    ⟨"file", some fun value => !value.isEmpty⟩,
    ⟨"params", some fun _ => true⟩,
    ⟨"timeout-ms", some fun value => (Text.readInteger .unsigned64 value).toOption.isSome⟩,
    ⟨"confine", none⟩]

/-- The parameters of a script, unless said otherwise. -/
def defaultParams : String := "\x7b\x7d"

/-- Read the arguments of the command; the language and the file must be given. -/
def read (arguments : List String) : Except Stop ScriptArguments := do
  let given ← readArguments rules none [] arguments
  match given.find? "lang", given.find? "file" with
  | some language, some file =>
    let millis? :=
      given.find? "timeout-ms" >>= fun text => (Text.readInteger .unsigned64 text).toOption
    return {
      language, file
      params := (given.find? "params").getD defaultParams
      timeout :=
        (millis?.map fun millis => Duration.ofMillis millis.toNat).getD Pool.defaultTimeout }
  | _, _ => throw .misuse

/-- The help on the command. -/
def help : String :=
  purpose ++ "\n\nUsage: run_script [OPTIONS] --lang <LANG> --file <FILE>\n\nOptions:\n"
    ++ "      --lang <LANG>              Guest language (javascript|js|starlark)\n"
    ++ "      --file <FILE>              Script file holding the body of the run function\n"
    ++ "      --params <PARAMS>          JSON object passed as `p` [default: \x7b\x7d]\n"
    ++ "      --timeout-ms <TIMEOUT_MS>  Execution timeout in milliseconds [default: 100]\n"
    ++ "      --confine                  Install the syscall filter on the interpreter thread\n"
    ++ "  -h, --help                     Print help\n"
    ++ "  -V, --version                  Print version\n"

end ScriptArguments

/-- Read the parameters of a script from the command line. -/
def readParams (text : String) : Except String String :=
  match Json.readValue? text with
  | none => .error "--params must be JSON"
  | some (.object members) => .ok (Json.Value.object members).render
  | some _ => .error "--params must be a JSON object"

/-- Run the script of a file and answer its result. -/
def runScript (interpreters : Interpreters) (contentOf : String → Option String)
    (arguments : ScriptArguments) : Except String String := do
  let language ← Language.read arguments.language
  match contentOf arguments.file with
  | none => throw ("failed to read script " ++ arguments.file)
  | some source =>
    let params ← readParams arguments.params
    match Engines.new interpreters { poolSize := 1, timeout := arguments.timeout } 0 with
    | .error failure => throw failure.plain
    | .ok engines =>
      match (engines.run 0 ⟨language, "", source, params⟩).outcome with
      | .ok result => return result ++ "\n"
      | .error error => throw error.message

/-- Run the command on its arguments. -/
def scriptCommand (interpreters : Interpreters) (contentOf : String → Option String)
    (arguments : List String) : Ending :=
  match ScriptArguments.read arguments with
  | .error stop => stop.ending ScriptArguments.help
  | .ok arguments => .of (runScript interpreters contentOf arguments)

end ConfigDelivery.Service
