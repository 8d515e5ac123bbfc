import ConfigDelivery.Params.Schema
/-!
# Validation as a search for the first fault

The outcome of a validation, stated on the schema's entries: the first entry that the parameters do
not fit is the fault; without one, the parameters that are passed on are those of the entries, each
converted to its declared type, and no others.
-/

namespace ConfigDelivery

/-- What is wrong with the parameter of a schema entry. -/
def paramFault? (params : Json.Members) (spec : ParamSpec) : Option ParamFault :=
  match ParamType.read? spec.type, Json.Value.find? spec.name params with
  | none, _ => some (.unknownType spec.name spec.type)
  | some _, none => some (.missing spec.name)
  | some declared, some value =>
    if declared.accepts (.of value) then none else some (.mismatch spec.name (.of value) declared)

/-- The parameter that a schema entry passes on. -/
def acceptedParam? (params : Json.Members) (spec : ParamSpec) : Option (String × Json.Value) := do
  let declared ← ParamType.read? spec.type
  let value ← Json.Value.find? spec.name params
  return (spec.name, declared.convert value)

/-- Parameters with some others added to them; of two with one name the later stays. -/
def addParams (accepted : Json.Members) (added : List (String × Json.Value)) : Json.Members :=
  added.foldl (fun accepted (name, value) => Json.Value.insert name value accepted) accepted

/-- The parameters that a schema passes on. -/
def acceptedParams (schema : List ParamSpec) (params : Json.Members) : Json.Members :=
  addParams [] (schema.filterMap (acceptedParam? params))

/-- A parameter at fault is refused for that. -/
theorem checkParam_of_fault {params : Json.Members} {spec : ParamSpec} {fault : ParamFault}
    (found : paramFault? params spec = some fault) : checkParam spec params = .error fault := by
  unfold paramFault? at found
  unfold checkParam
  split at found <;> rename_i declared value
  · simp_all
  · simp_all
  · split at found <;> simp_all

/-- A parameter without a fault is passed on as it is accepted. -/
theorem checkParam_of_no_fault {params : Json.Members} {spec : ParamSpec}
    (absent : paramFault? params spec = none) :
    ∃ value, checkParam spec params = .ok value ∧
      acceptedParam? params spec = some (spec.name, value) := by
  unfold paramFault? at absent
  unfold checkParam acceptedParam?
  split at absent
  · cases absent
  · cases absent
  · rename_i declared value read found
    split at absent
    · rename_i accepts
      exact ⟨declared.convert value, by simp [read, found, accepts], by simp [read, found]⟩
    · cases absent

/-- The first fault refuses all parameters; without one, the accepted ones are passed on. -/
theorem validateFrom_eq (params : Json.Members) (accepted : Json.Members)
    (schema : List ParamSpec) :
    validateFrom params accepted schema =
      match schema.findSome? (paramFault? params) with
      | some fault => .error fault
      | none => .ok (addParams accepted (schema.filterMap (acceptedParam? params))) := by
  induction schema generalizing accepted with
  | nil => rfl
  | cons spec rest ih =>
    rw [validateFrom, List.findSome?_cons]
    cases found : paramFault? params spec with
    | some fault => rw [checkParam_of_fault found]
    | none =>
      obtain ⟨value, checked, passed⟩ := checkParam_of_no_fault found
      rw [checked, List.filterMap_cons, passed]
      exact ih _

/-- A validation ends with the first fault of the schema's entries, or accepts their parameters. -/
theorem validate_eq (schema : List ParamSpec) (params : Json.Members) :
    validate schema params =
      match schema.findSome? (paramFault? params) with
      | some fault => .error fault
      | none => .ok (acceptedParams schema params) :=
  validateFrom_eq params [] schema

end ConfigDelivery
