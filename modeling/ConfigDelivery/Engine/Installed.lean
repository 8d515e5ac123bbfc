import ConfigDelivery.Engine.Basic
import ConfigDelivery.Script.JavaScript.Program
import ConfigDelivery.Script.Starlark.Program
/-!
# The interpreters of the service

The engines of the service run scripts in two languages. Only the JavaScript
interpreter looks for a request to stop while it runs.
-/

namespace ConfigDelivery.Engine

open ConfigDelivery.Script

/-- The compiled programs of a language. -/
def Compiled : Language → Type
  | .javascript => JavaScript.Program
  | .starlark => Starlark.Program

/-- The interpreter of a language. A Starlark run cannot be stopped from outside. -/
def interpreter : (language : Language) → Interpreter (Compiled language)
  | .javascript =>
    { compile := fun _ source => (JavaScript.compile source).mapError .badSyntax
      run := JavaScript.Program.run
      isStoppable := true }
  | .starlark =>
    { compile := fun cacheId source => (Starlark.compile cacheId source).mapError .badSyntax
      run := Starlark.Program.run
      isStoppable := false }

/-- The interpreters of the service. -/
def installed : Interpreters := ⟨Compiled, interpreter⟩

end ConfigDelivery.Engine
