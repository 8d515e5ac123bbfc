import ConfigDelivery.Script.JavaScript.Library.Json
/-!
# Maps, sets and promises

Collections keep their entries in the order in which they came; an entry that is
deleted leaves its place empty, so that loops under way stay where they are. What
waits for a promise never runs, because a script's result is taken before that.
-/

namespace ConfigDelivery.Script.JavaScript.Library

open ConfigDelivery.Text (Units)
open Run

/-- The entries of a collection. -/
abbrev Entries := Array (Option (Value × Value))

/-- The place of a key among entries. -/
def entryIndex? (entries : Entries) (key : Value) : Option Nat :=
  entries.findIdx? fun entry => entry.any fun (other, _) => other.isSameKey key

/-- Entries with a value for a key. -/
def putEntry (entries : Entries) (key value : Value) : Entries :=
  match entryIndex? entries key with
  | some index => entries.setIfInBounds index (some (key, value))
  | none => entries.push (some (key, value))

/-- The entries of a map or set, and how to replace them. -/
def entriesOf (receiver : Value) : Run (Entries × (Entries → Run Unit)) := do
  match receiver with
  | .object cell =>
    match (← load cell).kind with
    | .map entries =>
      return (entries, fun entries =>
        change cell fun object => { object with kind := .map entries })
    | .set entries =>
      return (entries, fun entries =>
        change cell fun object => { object with kind := .set entries })
    | _ => failType "not a collection"
  | _ => failType "not a collection"

/-- Make a map or set from the values that a value lists. -/
def makeCollection (machine : Machine) (isMap : Bool) (source target : Value) : Run Value := do
  let intrinsic : Intrinsic := if isMap then .mapPrototype else .setPrototype
  let prototype ← machine.prototypeOf target intrinsic
  let values ← if source.isNullish then pure [] else valuesOf machine source
  let entries ← values.foldlM (fun (entries : Entries) value => do
    if isMap then
      unless value matches .object _ do failType "not an object"
      return putEntry entries (← itemAt machine value 0) (← itemAt machine value 1)
    else return putEntry entries value value) #[]
  allocate { prototype := some prototype, kind := if isMap then .map entries else .set entries }

/-- Call a function for each entry of a collection. -/
def overEntries (machine : Machine) (receiver function : Value) :
    List (Option (Value × Value)) → Run Unit
  | [] => return
  | none :: rest => overEntries machine receiver function rest
  | some (key, value) :: rest => do
    tick
    let _ ← machine.call function .undefined [value, key, receiver]
    overEntries machine receiver function rest

/-- Call a method of maps or sets. -/
def callCollection (machine : Machine) (name : String) (receiver : Value)
    (arguments : List Value) : Run Value := do
  let (entries, replace) ← entriesOf receiver
  let key := argument arguments 0
  match name with
  | "get" =>
    let entry := ((entryIndex? entries key).bind fun index => entries[index]?).join
    return (entry.map Prod.snd).getD .undefined
  | "has" => return .bool (entryIndex? entries key).isSome
  | "set" => replace (putEntry entries key (argument arguments 1)); return receiver
  | "add" => replace (putEntry entries key key); return receiver
  | "delete" =>
    match entryIndex? entries key with
    | some index =>
      replace (entries.setIfInBounds index none)
      return .bool true
    | none => return .bool false
  | "clear" => replace (entries.map fun _ => none); return .undefined
  | "get size" => return .ofNat (entries.toList.filterMap id).length
  | "forEach" =>
    expectFunction key
    overEntries machine receiver key entries.toList
    return .undefined
  | "keys" => newIterator receiver .keys
  | "values" => newIterator receiver .values
  | _ => newIterator receiver .entries

/-- A new promise. -/
def newPromise : Run Value :=
  allocate { prototype := some Intrinsic.promisePrototype.cell, kind := .promise }

/-- Make a promise from the function that settles it. -/
def makePromise (machine : Machine) (executor : Value) : Run Value := do
  expectFunction executor
  let promise ← newPromise
  let settle ← allocate
    { prototype := some Intrinsic.functionPrototype.cell
      kind := .native .promise "settle"
      properties := functionProperties 1 "" }
  let run : Run Value := machine.call executor .undefined [settle, settle]
  let _ ← fun memory =>
    match run memory with
    | .error (.thrown _) memory => .ok Value.undefined memory
    | result => result
  return promise

/-- Call a function of `Promise` or a method of promises. -/
def callPromise (name : String) (arguments : List Value) : Run Value := do
  match name, argument arguments 0 with
  | "settle", _ => return .undefined
  | "resolve", .object cell =>
    if (← load cell).kind matches .promise then return .object cell else newPromise
  | _, _ => newPromise

end ConfigDelivery.Script.JavaScript.Library
