import ConfigDelivery.Proofs.Script.Building
import ConfigDelivery.Proofs.Script.Wrapping
/-!
# Scripts that return a literal

A script that returns a literal between three quotes is followed from its text over its tokens and
its tree to the end of its run. Its result is what the literal has become under the header: the text
itself if that is one line, and the text with its further lines indented if not.
-/

namespace ConfigDelivery.Script.Starlark

/-! ## Tokens -/

/-- How a literal between three double quotes is written. -/
def tripleQuoting : Quoting := ⟨'"', true, false⟩

/-- The inside of a literal is read as it stands, up to the quotes behind it. -/
theorem readText?_append_quotes {text : List Char} (noQuote : '"' ∉ text)
    (noBackslash : '\\' ∉ text) (rest done : List Char) {fuel : Nat}
    (enough : text.length < fuel) :
    readText? tripleQuoting fuel done (text ++ quotes ++ rest) =
      some (String.ofList (done.reverse ++ text), rest) := by
  induction text generalizing done fuel with
  | nil =>
    obtain ⟨fuel, rfl⟩ := Nat.exists_eq_add_of_lt enough
    simp [readText?, tripleQuoting, quotes]
  | cons character others ih =>
    obtain ⟨fuel, rfl⟩ : ∃ left, fuel = left + 1 := ⟨fuel - 1, by omega⟩
    simp only [List.mem_cons, not_or] at noQuote noBackslash
    have further := ih noQuote.2 noBackslash.2 (character :: done)
      (Nat.lt_of_succ_lt_succ enough)
    simpa [readText?, tripleQuoting, Ne.symm noQuote.1, Ne.symm noBackslash.1] using further

/-- A plain literal is read up to its closing quotes. -/
theorem readLiteral?_literal {text : List Char} (noQuote : '"' ∉ text)
    (noBackslash : '\\' ∉ text) (rest : List Char) :
    readLiteral? (literal text ++ rest) = some (some (String.ofList text, rest)) := by
  have enough : text.length < (['"', '"'] ++ text ++ quotes ++ rest).length + 1 := by
    simp
    omega
  have read := readText?_append_quotes noQuote noBackslash rest [] enough
  simpa [readLiteral?, literal, quotes, tripleQuoting] using read

/-- The tokens of a wrapped script up to its result. -/
def tokensBefore : List Token :=
  [.keyword "def", .name "run", .mark "(", .name "p", .mark ")", .mark ":", .newline, .indent,
    .name "p", .mark "=", .name "json", .mark ".", .name "decode", .mark "(", .name "p", .mark ")",
    .newline, .keyword "return"]

/-- The tokens of a wrapped script that returns a text. -/
def returningTokens (text : String) : List Token :=
  tokensBefore ++ [.text text, .newline, .dedent]

/-- The header and the word before a result are scanned in 24 steps, and leave one block open. -/
theorem scan?_header (fuel : Nat) (rest : List Char) :
    scan? (fuel + 24) true {} (header ++ indentation ++ returnWord ++ '"' :: rest) =
      scan? fuel false { tokens := tokensBefore.reverse, indents := [4, 0] } ('"' :: rest) := by
  rfl

/-- A plain literal is scanned as one token. -/
theorem scan?_literal {text : List Char} (noQuote : '"' ∉ text) (noBackslash : '\\' ∉ text)
    (fuel : Nat) (scanner : Scanner) (rest : List Char) :
    scan? (fuel + 1) false scanner (literal text ++ rest) =
      scan? fuel false (scanner.push (.text (String.ofList text))) rest := by
  have read := readLiteral?_literal noQuote noBackslash rest
  obtain ⟨behind, opened⟩ : ∃ behind, literal text ++ rest = '"' :: behind := ⟨_, rfl⟩
  rw [opened] at read ⊢
  simp [scan?, read]

/-- The wrapped line is cut into the tokens of a function that returns the text. -/
theorem tokens?_returning {text : List Char} (noQuote : '"' ∉ text)
    (noBackslash : '\\' ∉ text) :
    tokens? (String.ofList (header ++ indentation ++ returnWord ++ literal text ++ ['\n'])) =
      some (returningTokens (String.ofList text)) := by
  obtain ⟨fuel, enough⟩ : ∃ fuel,
      2 * (header ++ indentation ++ returnWord ++ literal text ++ ['\n']).length + 2 =
        fuel + 3 + 24 := by
    refine ⟨2 * (header ++ indentation ++ returnWord ++ literal text ++ ['\n']).length - 25, ?_⟩
    have : header.length = 35 := rfl
    simp
    omega
  -- The header is scanned in front of any quote, so the literal is opened for it and closed again.
  obtain ⟨behind, opened⟩ : ∃ behind, literal text = '"' :: behind := ⟨_, rfl⟩
  rw [tokens?, String.toList_ofList, enough, List.append_assoc, opened, List.cons_append,
    scan?_header, ← List.cons_append, ← opened, scan?_literal noQuote noBackslash]
  rfl

/-! ## The tree -/

/-- The statement that decodes the parameters. -/
def decoding : Statement :=
  .assign (.name "p") (.call (.member (.name "json") "decode") [.positional (.name "p")])

/-- The function whose body returns a text. -/
def returningFunction (text : String) : Function :=
  ⟨entryPoint, [⟨"p", .required⟩], ["p"], [decoding, .return (some (.text text))]⟩

set_option maxRecDepth 4000 in
/-- These tokens are read as the function that returns the text. -/
theorem readProgram_returning {source text : String}
    (cut : tokens? source = some (returningTokens text)) :
    readProgram source = .ok ([.define (returningFunction text)], ["json"]) := by
  rw [readProgram, cut]
  rfl

/-- The line is compiled to the function that returns the indented text. -/
theorem compile_returning (cacheId : String) {text : List Char} (plain : IsPlain text) :
    compile cacheId (String.ofList (returning text)) =
      .ok ⟨fileName cacheId, returningFunction (String.ofList (indented text))⟩ := by
  have noQuote : '"' ∉ indented text := mt (mem_indented (by decide)).mp plain.noQuote
  have noBackslash : '\\' ∉ indented text := mt (mem_indented (by decide)).mp plain.noBackslash
  rw [compile, String.toList_ofList, wrap_returning plain,
    readProgram_returning (tokens?_returning noQuote noBackslash)]
  rfl

/-! ## The run -/

/-- Memory when the body of a script starts: the scope around its function, the function, and the
scope of its parameter. -/
def memoryAtBody (text params : String) (steps : Nat) : Memory where
  objects := #[.scope [(entryPoint, some (.function 1))],
    .closure ⟨returningFunction text, [], [0]⟩, .scope [("p", some (.text params))]]
  steps := steps
  calls := 1

/-- To decode parameters is to build their value. -/
theorem callBuiltin_decode (call : Value → Arguments → Run Value) (params : String) :
    Run.callBuiltin call "json.decode" ⟨[.text params], []⟩ = Run.ofJsonText params := by
  have called : Run.callBuiltin call "json.decode" ⟨[.text params], []⟩ =
      Run.ofJsonText (String.ofList params.toList) := by rfl
  rw [called, String.ofList_toList]

/-- The parameters are decoded by the built-in function, which the name stands for. -/
theorem evaluate_decoded (text params : String) (depth steps : Nat) :
    (machine (depth + 3)).evaluate [2, 0]
        (.call (.member (.name "json") "decode") [.positional (.name "p")])
        (memoryAtBody text params (steps + 5)) =
      Run.callBuiltin ((machine (depth + 2)).call (callLimit - 1)) "json.decode"
        ⟨[.text params], []⟩ (memoryAtBody text params steps) := by
  rfl

/-- The parameter is set in the scope that has it, whatever has come into memory behind it. -/
theorem assignName_parameter (text params : String) (value : Value) (added : Array Object)
    (steps : Nat) :
    ∃ objects, Run.assignName "p" value [2, 0]
        ⟨(memoryAtBody text params 0).objects ++ added, steps, 1⟩ = .ok () ⟨objects, steps, 1⟩ := by
  have found : ((memoryAtBody text params 0).objects ++ added)[2]? =
      some (.scope [("p", some (.text params))]) :=
    Array.getElem?_append_left (by simp [memoryAtBody])
  have loaded : Run.load 2 ⟨(memoryAtBody text params 0).objects ++ added, steps, 1⟩ =
      .ok (.scope [("p", some (.text params))])
        ⟨(memoryAtBody text params 0).objects ++ added, steps, 1⟩ := by
    simp only [Run.load_eq, found, Option.getD_some]
  exact ⟨_, (Run.bind_of_ok loaded).trans rfl⟩

/-- The first statement binds the decoded parameters, for as many steps as they cost. -/
theorem execute_decoding (text : String) {params : String} {cost : Nat} (depth : Nat)
    {steps : Nat} (built : Builds cost (Run.ofJsonText params) fun _ => True)
    (enough : cost ≤ steps) :
    ∃ objects, (machine (depth + 4)).execute [2, 0] decoding
        (memoryAtBody text params (steps + 6)) = .ok .next ⟨objects, steps - cost, 1⟩ := by
  obtain ⟨value, added, -, done⟩ := built (memoryAtBody text params steps) enough
  have decoded := evaluate_decoded text params depth steps
  rw [callBuiltin_decode, done] at decoded
  obtain ⟨objects, assigned⟩ := assignName_parameter text params value added (steps - cost)
  -- The statement's own step comes before its value, and nothing behind the assignment.
  exact ⟨objects, (Run.bind_of_ok rfl).trans <| (Run.bind_of_ok decoded).trans <|
    (Run.bind_of_ok assigned).trans rfl⟩

/-- The second statement returns the text. -/
theorem execute_return (text : String) (depth steps : Nat) (objects : Array Object) :
    (machine (depth + 2)).execute [2, 0] (.return (some (.text text))) ⟨objects, steps + 2, 1⟩ =
      .ok (.return (.text text)) ⟨objects, steps, 1⟩ := by
  rfl

/-- The body of the script decodes the parameters and returns its text. -/
theorem executeAll_returning (text : String) {params : String} {cost : Nat}
    (depth steps : Nat) (built : Builds cost (Run.ofJsonText params) fun _ => True) :
    ∃ after, (machine (depth + 4)).executeAll [2, 0] (returningFunction text).body
        (memoryAtBody text params (cost + steps + 8)) = .ok (.return (.text text)) after := by
  have enough : cost ≤ cost + steps + 2 := by omega
  have left : cost + steps + 2 - cost = steps + 2 := by omega
  obtain ⟨objects, decoded⟩ := execute_decoding text depth built enough
  rw [left] at decoded
  exact ⟨_, (Run.bind_of_ok decoded).trans <|
    (Run.bind_of_ok (execute_return text (depth + 2) steps objects)).trans rfl⟩

/-- Memory when the function of a script is called: its scope, and the function. -/
def memoryAtCall (text : String) (steps : Nat) : Memory where
  objects := #[.scope [(entryPoint, some (.function 1))],
    .closure ⟨returningFunction text, [], [0]⟩]
  steps := steps

/-- A call runs the function's body in a scope of its own, one call deeper. -/
theorem callClosure_returning (text params : String) (machine : Machine) (steps : Nat) :
    machine.callClosure 1 ⟨[.text params], []⟩ (memoryAtCall text steps) =
      (do
        let flow ← machine.executeAll [2, 0] (returningFunction text).body
        modify fun memory => { memory with calls := memory.calls - 1 }
        match flow with
        | .return value => return value
        | _ => return .none : Run Value) (memoryAtBody text params steps) := by
  rfl

/-- A program is put into memory, function and name, and then called. -/
theorem call_returning (name text : String) {params : String} {cost : Nat} (steps : Nat)
    (built : Builds cost (Run.ofJsonText params) fun _ => True) :
    ∃ after, Program.call ⟨name, returningFunction text⟩ params { steps := cost + steps + 9 } =
      .ok (.ok text) after := by
  obtain ⟨after, executed⟩ := executeAll_returning text (nestingLimit - 4) steps built
  have called : (machine nestingLimit).call callLimit (.function 1) ⟨[.text params], []⟩
      (memoryAtCall text (cost + steps + 9)) = .ok (.text text) _ :=
    (Run.bind_of_ok rfl).trans <|
      (callClosure_returning text params (machine nestingLimit) (cost + steps + 8)).trans <|
        (Run.bind_of_ok executed).trans rfl
  -- The scope, the function and its name are put into memory without a step.
  exact ⟨_, (Run.bind_of_ok rfl).trans <| (Run.bind_of_ok rfl).trans <|
    (Run.bind_of_ok rfl).trans <| (Run.bind_of_ok called).trans rfl⟩

/-- A script that returns a literal has a result for all parameters that are JSON, once it has the
steps to decode them. -/
theorem exists_outcome_returning {text params : String} {value : Json.Value}
    (read : Json.readValue? params = some value) (name : String) :
    ∃ enough, ∀ steps, enough ≤ steps →
      (Program.run ⟨name, returningFunction text⟩ params steps).outcome = some (.ok text) := by
  obtain ⟨cost, built⟩ := exists_builds_ofJsonText read
  refine ⟨cost + 9, fun steps enough => ?_⟩
  obtain ⟨after, called⟩ := call_returning name text (steps - cost - 9) built
  have whole : cost + (steps - cost - 9) + 9 = steps := by omega
  rw [whole] at called
  simp [Program.run, called]

/-- The lines of every script come back from under its header. A script that returns the literal of
a text has it in front of the compiler, and returns the text, if and only if the text is one line:
further lines are indented. -/
theorem outcome_of_returning {text : List Char} (plain : IsPlain text) {params : String}
    {value : Json.Value} (read : Json.readValue? params = some value) (cacheId : String) :
    (literal text <:+: wrap (returning text) ↔ '\n' ∉ text) ∧
      (∃ program, compile cacheId (String.ofList (returning text)) = .ok program ∧
        ∃ enough, ∀ steps, enough ≤ steps →
          (program.run params steps).outcome = some (.ok (String.ofList (indented text)))) ∧
      (String.ofList (indented text) = String.ofList text ↔ '\n' ∉ text) ∧
      ∀ source, Wraps source (wrap source) :=
  ⟨literal_isInfix_wrap_iff plain,
    ⟨_, compile_returning cacheId plain, exists_outcome_returning read _⟩,
    String.ofList_inj.trans indented_eq_self_iff, wraps_wrap⟩

namespace TwoLines

theorem outcome_of_returning_line :
    IsPlain "gray".toList ∧ Json.readValue? "\x7b\x7d" = some (.object []) ∧
      literal "gray".toList <:+: wrap (returning "gray".toList) ∧
      ∃ program, compile "" (String.ofList (returning "gray".toList)) = .ok program ∧
        ∃ enough, ∀ steps, enough ≤ steps →
          (program.run "\x7b\x7d" steps).outcome = some (.ok "gray") := by
  have plain : IsPlain "gray".toList := ⟨by decide, by decide, by decide⟩
  have read : Json.readValue? "\x7b\x7d" = some (.object []) := by rfl
  obtain ⟨found, returned, same, -⟩ := outcome_of_returning plain read ""
  have kept := same.mpr (by decide)
  rw [kept] at returned
  exact ⟨plain, read, found.mpr (by decide), returned⟩

/-- A text of two lines. -/
def text : List Char := "a\nb".toList

/-- A script that should return two lines returns others: the second one is indented. -/
theorem returning_indents_second_line :
    IsPlain text ∧ ¬ literal text <:+: wrap (returning text) ∧
      (∃ program, compile "" (String.ofList (returning text)) = .ok program ∧
        ∃ enough, ∀ steps, enough ≤ steps →
          (program.run "\x7b\x7d" steps).outcome = some (.ok "a\n    b")) ∧
      "a\n    b" ≠ String.ofList text := by
  have plain : IsPlain text := ⟨by decide, by decide, by decide⟩
  have broken : ¬ literal text <:+: wrap (returning text) := fun found =>
    (literal_isInfix_wrap_iff plain).mp found (by decide)
  have read : Json.readValue? "\x7b\x7d" = some (.object []) := by rfl
  exact ⟨plain, broken, ⟨_, compile_returning "" plain, exists_outcome_returning read _⟩,
    by decide⟩

end TwoLines

end ConfigDelivery.Script.Starlark
