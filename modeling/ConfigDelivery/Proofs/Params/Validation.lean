import ConfigDelivery.Proofs.Decimal.Truncation
import ConfigDelivery.Proofs.Json.Members
import ConfigDelivery.Proofs.Params.Acceptance
import Mathlib.Data.List.Induction
/-!
# What a schema accepts, and what it passes on

A schema entry has at most one fault, and the first entry with one is the fault of the parameters.
Without one, the parameters that are passed on are those of the declared names: of several entries
with one name the last decides whether the value is cut to a whole number. What was passed on is
passed on unchanged by the same schema.
-/

namespace ConfigDelivery

open Decimal (towardZero)

/-- The parameter types, by the names that entries declare them with. -/
def declarableTypes : List (String × ParamType) :=
  [("string", .string), ("int", .int), ("float", .float), ("bool", .bool), ("array", .array),
    ("dictionary", .dictionary)]

/-- The values that fit a parameter type: null fits none, and both number types take any number. -/
inductive Fits : ParamType → Json.Value → Prop where
  | string (text : String) : Fits .string (.string text)
  | int (number : Json.Number) : Fits .int (.number number)
  | float (number : Json.Number) : Fits .float (.number number)
  | bool (value : Bool) : Fits .bool (.bool value)
  | array (items : List Json.Value) : Fits .array (.array items)
  | dictionary (members : Json.Members) : Fits .dictionary (.object members)

/-- The fault of a schema entry: of its declared type, else of the parameter that is not there, else
of the parameter's kind. -/
inductive EntryFault (params : Json.Members) (spec : ParamSpec) : ParamFault → Prop where
  | unknownType (unknown : spec.type ∉ declarableTypes.map Prod.fst) :
      EntryFault params spec (.unknownType spec.name spec.type)
  | missing {declared} (known : (spec.type, declared) ∈ declarableTypes)
      (absent : Json.Value.find? spec.name params = none) :
      EntryFault params spec (.missing spec.name)
  | mismatch {declared value} (known : (spec.type, declared) ∈ declarableTypes)
      (given : Json.Value.find? spec.name params = some value) (unfit : ¬ Fits declared value) :
      EntryFault params spec (.mismatch spec.name (.of value) declared)

/-- The first schema entry with a fault has this one. -/
def FirstEntryFault (params : Json.Members) (schema : List ParamSpec) (fault : ParamFault) : Prop :=
  ∃ earlier spec later, schema = earlier ++ spec :: later ∧
    (∀ other ∈ earlier, ∀ fault, ¬ EntryFault params other fault) ∧ EntryFault params spec fault

/-- The rational number that a JSON number is. -/
def Json.Number.exactValue : Json.Number → ℚ
  | .integer value _ => value
  | .float value => value.exactValue

/-- A number without its fractional part, confined to the signed 64-bit range. -/
def wholeNumber (number : Json.Number) : ℤ :=
  max (-0x8000000000000000) (min 0x7fffffffffffffff (towardZero number.exactValue))

/-- The value that a schema entry passes on: the caller's, but a whole number for an `int`. -/
inductive EntryPasses (params : Json.Members) (spec : ParamSpec) : Json.Value → Prop where
  | unchanged {value} (given : Json.Value.find? spec.name params = some value)
      (other : spec.type ≠ "int") : EntryPasses params spec value
  | whole {number value exact} (given : Json.Value.find? spec.name params = some (.number number))
      (isInt : spec.type = "int") (cut : value = wholeNumber number) :
      EntryPasses params spec (.number (.integer value exact))

/-- A name is passed on with this value, by the last of its entries. -/
def PassesOn (schema : List ParamSpec) (params : Json.Members) (name : String)
    (value : Json.Value) : Prop :=
  ∃ last, (schema.filter fun spec => spec.name = name).getLast? = some last ∧
    EntryPasses params last value

/-- The names of types are read as these types. -/
theorem read?_eq_some_iff (text : String) (declared : ParamType) :
    ParamType.read? text = some declared ↔ (text, declared) ∈ declarableTypes := by
  unfold ParamType.read? declarableTypes
  split <;> simp_all [eq_comm]

/-- Every other text is no type. -/
theorem read?_eq_none_iff (text : String) :
    ParamType.read? text = none ↔ text ∉ declarableTypes.map Prod.fst := by
  unfold ParamType.read? declarableTypes
  split <;> simp_all

/-- A type accepts the values that fit it. -/
theorem accepts_iff (declared : ParamType) (value : Json.Value) :
    declared.accepts (.of value) = true ↔ Fits declared value := by
  constructor
  · intro accepts
    cases value <;> cases declared <;> first | constructor | cases accepts
  · rintro (_ | _ | _ | _ | _ | _) <;> rfl

/-- A declaration is at fault if its type is unknown, or what is given for it is missing or does not
fit. -/
theorem paramFault?_eq_some_iff (params : Json.Members) (spec : ParamSpec) (fault : ParamFault) :
    paramFault? params spec = some fault ↔ EntryFault params spec fault := by
  unfold paramFault?
  constructor
  · intro found
    split at found
    · rename_i unknown
      cases found
      exact .unknownType ((read?_eq_none_iff _).mp unknown)
    · rename_i known absent
      cases found
      exact .missing ((read?_eq_some_iff _ _).mp known) absent
    · rename_i known given
      split at found <;> cases found
      rename_i refused
      exact .mismatch ((read?_eq_some_iff _ _).mp known) given
        fun fits => refused ((accepts_iff _ _).mpr fits)
  · intro faulty
    cases faulty with
    | unknownType unknown => rw [(read?_eq_none_iff _).mpr unknown]
    | missing known absent => rw [(read?_eq_some_iff _ _).mpr known, absent]
    | mismatch known given unfit =>
      rw [(read?_eq_some_iff _ _).mpr known, given]
      dsimp only
      rw [if_neg (mt (accepts_iff _ _).mp unfit)]

/-- A declaration without a fault has none of them. -/
theorem paramFault?_eq_none_iff (params : Json.Members) (spec : ParamSpec) :
    paramFault? params spec = none ↔ ∀ fault, ¬ EntryFault params spec fault := by
  rw [Option.eq_none_iff_forall_ne_some]
  exact forall_congr' fun fault => not_congr (paramFault?_eq_some_iff params spec fault)

/-- A number is made whole by truncating and clamping it. -/
theorem wholeNumber_eq (number : Json.Number) :
    wholeNumber number = clamp64 number.truncated := by
  have cut : towardZero number.exactValue = number.truncated := by
    cases number with
    | integer value exact => exact Decimal.towardZero_intCast value
    | float value => exact (Decimal.Binary64.truncated_eq value).symm
  rw [wholeNumber, cut, clamp64, min_comm]

/-- A whole number of 64 bits is its own whole number. -/
theorem wholeNumber_idem {number : Json.Number} {exact : Json.ExactRange (wholeNumber number)} :
    wholeNumber (.integer (wholeNumber number) exact) = wholeNumber number := by
  have same : towardZero (Json.Number.integer (wholeNumber number) exact).exactValue
      = wholeNumber number := Decimal.towardZero_intCast _
  rw [wholeNumber, same]
  unfold wholeNumber
  omega

/-- Only integers are converted. -/
theorem convert_of_ne_int {declared : ParamType} (other : declared ≠ .int) (value : Json.Value) :
    declared.convert value = value := by
  cases declared with
  | int => exact absurd rfl other
  | _ => rfl

/-- A declarable type has the name of the integers exactly if it is theirs. -/
theorem type_eq_int_iff {spec : ParamSpec} {declared : ParamType}
    (known : (spec.type, declared) ∈ declarableTypes) : spec.type = "int" ↔ declared = .int := by
  revert known
  simp only [declarableTypes, List.mem_cons, List.not_mem_nil, or_false, Prod.mk.injEq]
  rintro (⟨same, rfl⟩ | ⟨same, rfl⟩ | ⟨same, rfl⟩ | ⟨same, rfl⟩ | ⟨same, rfl⟩ | ⟨same, rfl⟩) <;>
    simp [same]

/-- An entry whose declared type a value fits passes that value on, converted to the type. -/
theorem entryPasses_iff {params : Json.Members} {spec : ParamSpec} {declared : ParamType}
    {value : Json.Value} (known : (spec.type, declared) ∈ declarableTypes)
    (given : Json.Value.find? spec.name params = some value) (fits : Fits declared value)
    (passed : Json.Value) :
    EntryPasses params spec passed ↔ passed = declared.convert value := by
  by_cases isInt : declared = .int
  · subst isInt
    obtain ⟨number, rfl⟩ : ∃ number, value = .number number := by
      cases fits
      exact ⟨_, rfl⟩
    have cut := wholeNumber_eq number
    constructor
    · rintro (⟨-, other⟩ | ⟨given', -, rfl⟩)
      · exact absurd ((type_eq_int_iff known).mpr rfl) other
      · cases given.symm.trans given'
        simp only [ParamType.convert, Json.Number.toInteger, cut]
    · rintro rfl
      exact .whole given ((type_eq_int_iff known).mpr rfl) cut.symm
  · rw [convert_of_ne_int isInt]
    constructor
    · rintro (⟨given', -⟩ | ⟨-, int, -⟩)
      · exact Option.some.inj (given'.symm.trans given)
      · exact absurd ((type_eq_int_iff known).mp int) isInt
    · rintro rfl
      exact .unchanged given (mt (type_eq_int_iff known).mp isInt)

/-- A faultless entry has a declared type that the parameter of its name fits. -/
theorem fits_of_faultless {params : Json.Members} {spec : ParamSpec}
    (faultless : paramFault? params spec = none) :
    ∃ declared value, (spec.type, declared) ∈ declarableTypes ∧
      Json.Value.find? spec.name params = some value ∧ Fits declared value ∧
      acceptedParam? params spec = some (spec.name, declared.convert value) := by
  unfold paramFault? at faultless
  split at faultless
  · cases faultless
  · cases faultless
  · rename_i declared value read given
    split at faultless
    · rename_i accepts
      exact ⟨declared, value, (read?_eq_some_iff _ _).mp read, given, (accepts_iff _ _).mp accepts,
        by simp [acceptedParam?, read, given]⟩
    · cases faultless

section Accepted

variable {schema : List ParamSpec} {params : Json.Members}

/-- A further declaration puts its parameter over those before it. -/
theorem acceptedParams_append (schema : List ParamSpec) {spec : ParamSpec} {value : Json.Value}
    (accepted : acceptedParam? params spec = some (spec.name, value)) :
    acceptedParams (schema ++ [spec]) params
      = Json.Value.insert spec.name value (acceptedParams schema params) := by
  simp [acceptedParams, addParams, List.filterMap_append, accepted]

/-- The parameters that are accepted are in order. -/
theorem isOrdered_acceptedParams (schema : List ParamSpec) (params : Json.Members) :
    Json.Value.IsOrdered (acceptedParams schema params) := by
  have kept (added : List (String × Json.Value)) (accepted : Json.Members)
      (ordered : Json.Value.IsOrdered accepted) :
      Json.Value.IsOrdered (addParams accepted added) := by
    induction added generalizing accepted with
    | nil => exact ordered
    | cons param rest ih => exact ih _ (ordered.insert param.1 param.2)
  exact kept _ [] Json.Value.isOrdered_nil

/-- The accepted parameter of a name is the one that the name is passed on with. -/
theorem find?_acceptedParams (faultless : ∀ spec ∈ schema, paramFault? params spec = none)
    (name : String) (value : Json.Value) :
    Json.Value.find? name (acceptedParams schema params) = some value ↔
      PassesOn schema params name value := by
  induction schema using List.reverseRecOn with
  | nil => simp [acceptedParams, addParams, Json.Value.find?, PassesOn]
  | append_singleton schema spec ih =>
    have others := ih fun other mem => faultless other (List.mem_append_left _ mem)
    obtain ⟨declared, given, known, found, fits, accepted⟩ :=
      fits_of_faultless (faultless spec (by simp))
    rw [acceptedParams_append schema accepted, Json.Value.find?_insert]
    by_cases same : spec.name = name
    · rw [if_pos same]
      simp [PassesOn, List.filter_append, same, entryPasses_iff known found fits, eq_comm]
    · rw [if_neg same, others]
      simp [PassesOn, List.filter_append, same]

/-- The accepted parameters are in order, and are those that are passed on. -/
theorem eq_acceptedParams_iff (faultless : ∀ spec ∈ schema, paramFault? params spec = none)
    (passed : Json.Members) :
    passed = acceptedParams schema params ↔
      Json.Value.IsOrdered passed ∧
      ∀ name value, Json.Value.find? name passed = some value ↔
        PassesOn schema params name value := by
  have ordered := isOrdered_acceptedParams schema params
  have accepted := find?_acceptedParams faultless
  constructor
  · rintro rfl
    exact ⟨ordered, accepted⟩
  · rintro ⟨isOrdered, found⟩
    refine isOrdered.ext ordered fun name => Option.ext fun value => ?_
    rw [found, accepted]

/-- Parameters pass if no declaration is at fault, and then as they are accepted. -/
theorem validate_eq_ok_iff (schema : List ParamSpec) (params passed : Json.Members) :
    validate schema params = .ok passed ↔
      (∀ spec ∈ schema, paramFault? params spec = none) ∧
      passed = acceptedParams schema params := by
  rw [validate_eq, ← List.findSome?_eq_none_iff]
  cases schema.findSome? (paramFault? params) with
  | some fault => simp
  | none => simp [eq_comm]

/-- Parameters are refused for the first fault in the order of the declarations. -/
theorem validate_eq_error_iff (schema : List ParamSpec) (params : Json.Members)
    (fault : ParamFault) :
    validate schema params = .error fault ↔ FirstEntryFault params schema fault := by
  have first : schema.findSome? (paramFault? params) = some fault ↔
      FirstEntryFault params schema fault := by
    simp only [List.findSome?_eq_some_iff, paramFault?_eq_some_iff, paramFault?_eq_none_iff]
    constructor
    · rintro ⟨earlier, spec, later, split, faulty, faultless⟩
      exact ⟨earlier, spec, later, split, faultless, faulty⟩
    · rintro ⟨earlier, spec, later, split, faultless, faulty⟩
      exact ⟨earlier, spec, later, split, faulty, faultless⟩
  rw [validate_eq, ← first]
  cases schema.findSome? (paramFault? params) with
  | some other => simp
  | none => simp

/-- The last declaration of a name is a declaration and has that name. -/
theorem name_of_last {name : String} {last : ParamSpec}
    (isLast : (schema.filter fun spec => spec.name = name).getLast? = some last) :
    last ∈ schema ∧ last.name = name := by
  simpa using List.mem_of_getLast? isLast

/-- A declared name has a last entry, and what it is passed on with. -/
theorem exists_passesOn (faultless : ∀ spec ∈ schema, paramFault? params spec = none)
    {name : String} (declared : name ∈ schema.map ParamSpec.name) :
    ∃ value, PassesOn schema params name value := by
  obtain ⟨spec, mem, rfl⟩ := List.mem_map.mp declared
  have filled : (schema.filter fun other => other.name = spec.name) ≠ [] :=
    List.ne_nil_of_mem (List.mem_filter.mpr ⟨mem, by simp⟩)
  obtain ⟨last, isLast⟩ := Option.ne_none_iff_exists'.mp (mt List.getLast?_eq_none_iff.mp filled)
  obtain ⟨type, value, known, given, fits, -⟩ :=
    fits_of_faultless (faultless last (name_of_last isLast).1)
  exact ⟨_, last, isLast, (entryPasses_iff known given fits _).mpr rfl⟩

/-- Only declared parameters are passed on. -/
theorem PassesOn.mem_names {name : String} {value : Json.Value}
    (passes : PassesOn schema params name value) : name ∈ schema.map ParamSpec.name := by
  obtain ⟨last, isLast, -⟩ := passes
  exact List.mem_map.mpr ⟨last, name_of_last isLast⟩

/-- Where one number fits a type, every number does. -/
theorem Fits.of_number {declared : ParamType} {number : Json.Number}
    (fits : Fits declared (.number number)) (other : Json.Number) :
    Fits declared (.number other) := by
  cases fits with
  | int => exact .int other
  | float => exact .float other

/-- A given value that fits a declarable type is no fault. -/
theorem faultless_of_fits {spec : ParamSpec} {declared : ParamType} {value : Json.Value}
    (known : (spec.type, declared) ∈ declarableTypes)
    (given : Json.Value.find? spec.name params = some value) (fits : Fits declared value) :
    paramFault? params spec = none := by
  rw [paramFault?, (read?_eq_some_iff _ _).mpr known, given]
  exact if_pos ((accepts_iff _ _).mpr fits)

/-- What was passed on has no fault for the same schema. -/
theorem faultless_of_passed (faultless : ∀ spec ∈ schema, paramFault? params spec = none)
    {passed : Json.Members}
    (found : ∀ name value, Json.Value.find? name passed = some value ↔
      PassesOn schema params name value) {spec : ParamSpec} (mem : spec ∈ schema) :
    paramFault? passed spec = none := by
  obtain ⟨declared, given, known, isGiven, fits, -⟩ := fits_of_faultless (faultless spec mem)
  obtain ⟨value, passes⟩ := exists_passesOn faultless (List.mem_map_of_mem mem)
  refine faultless_of_fits known ((found _ _).mpr passes) ?_
  obtain ⟨last, isLast, entry⟩ := passes
  have named := (name_of_last isLast).2
  cases entry with
  | unchanged isGiven' _ =>
    rw [named, isGiven] at isGiven'
    exact Option.some.inj isGiven' ▸ fits
  | whole isGiven' _ _ =>
    rw [named, isGiven] at isGiven'
    cases isGiven'
    exact fits.of_number _

/-- What was passed on is passed on again, unchanged. -/
theorem passesOn_passed_iff {passed : Json.Members}
    (found : ∀ name value, Json.Value.find? name passed = some value ↔
      PassesOn schema params name value) (name : String) (value : Json.Value) :
    PassesOn schema passed name value ↔ PassesOn schema params name value := by
  rw [← found]
  constructor
  · rintro ⟨last, isLast, entry⟩
    obtain rfl := (name_of_last isLast).2
    cases entry with
    | unchanged isGiven _ => exact isGiven
    | @whole number whole exact isGiven isInt cut =>
      obtain ⟨last', isLast', entry'⟩ := (found _ _).mp isGiven
      cases isLast.symm.trans isLast'
      cases entry' with
      | unchanged _ other => exact absurd isInt other
      | whole _ _ cut' =>
        subst cut'
        obtain rfl : whole = _ := cut.trans wholeNumber_idem
        exact isGiven
  · intro isPassed
    obtain ⟨last, isLast, entry⟩ := (found _ _).mp isPassed
    obtain rfl := (name_of_last isLast).2
    refine ⟨last, isLast, ?_⟩
    cases entry with
    | unchanged _ other => exact .unchanged isPassed other
    | whole _ isInt cut =>
      subst cut
      exact .whole isPassed isInt wholeNumber_idem.symm

end Accepted

/-- Undeclared parameters do not matter. -/
theorem validate_congr {schema : List ParamSpec} {params others : Json.Members}
    (same : ∀ spec ∈ schema,
      Json.Value.find? spec.name others = Json.Value.find? spec.name params) :
    validate schema others = validate schema params := by
  have checked (accepted : Json.Members) (rest : List ParamSpec)
      (same : ∀ spec ∈ rest,
        Json.Value.find? spec.name others = Json.Value.find? spec.name params) :
      validateFrom others accepted rest = validateFrom params accepted rest := by
    induction rest generalizing accepted with
    | nil => rfl
    | cons spec rest ih =>
      have first : checkParam spec others = checkParam spec params := by
        rw [checkParam, checkParam, same spec (List.mem_cons_self ..)]
      rw [validateFrom, validateFrom, first]
      cases checkParam spec params with
      | error fault => rfl
      | ok value => exact ih _ fun other mem => same other (List.mem_cons_of_mem _ mem)
  exact checked [] schema same

/-- Parameters are refused with the first fault of the schema's entries. Without one, exactly the
declared names are passed on, with the caller's values or, where the last entry of a name is an
`int`, whole numbers; what is passed on is passed on unchanged by the same schema, and parameters
that are not declared do not matter. -/
theorem validate_iff (schema : List ParamSpec) (params : Json.Members) :
    (∀ fault, validate schema params = .error fault ↔ FirstEntryFault params schema fault) ∧
    (∀ passed, validate schema params = .ok passed ↔
      (∀ spec ∈ schema, ∀ fault, ¬ EntryFault params spec fault) ∧
      Json.Value.IsOrdered passed ∧
      ∀ name value, Json.Value.find? name passed = some value ↔
        PassesOn schema params name value) ∧
    (∀ passed, validate schema params = .ok passed →
      (∀ name, name ∈ passed.map Prod.fst ↔ name ∈ schema.map ParamSpec.name) ∧
      validate schema passed = .ok passed) ∧
    ∀ others, (∀ spec ∈ schema,
        Json.Value.find? spec.name others = Json.Value.find? spec.name params) →
      validate schema others = validate schema params := by
  have accepts (params passed : Json.Members) : validate schema params = .ok passed ↔
      (∀ spec ∈ schema, paramFault? params spec = none) ∧ Json.Value.IsOrdered passed ∧
        ∀ name value, Json.Value.find? name passed = some value ↔
          PassesOn schema params name value := by
    rw [validate_eq_ok_iff]
    exact and_congr_right fun faultless => eq_acceptedParams_iff faultless passed
  refine ⟨validate_eq_error_iff schema params, fun passed => ?_, fun passed validated => ?_,
    fun others same => validate_congr same⟩
  · simp only [accepts, paramFault?_eq_none_iff]
  · obtain ⟨faultless, ordered, found⟩ := (accepts params passed).mp validated
    refine ⟨fun name => ?_, (accepts passed passed).mpr ⟨?_, ordered, fun name value => ?_⟩⟩
    · rw [Json.Value.mem_names_iff]
      constructor
      · rintro ⟨value, isPassed⟩
        exact ((found name value).mp isPassed).mem_names
      · intro declared
        obtain ⟨value, passes⟩ := exists_passesOn faultless declared
        exact ⟨value, (found name value).mpr passes⟩
    · exact fun spec mem => faultless_of_passed faultless found mem
    · rw [passesOn_passed_iff found, found]

/-! ## A name that is declared three times -/

namespace RepeatedName

/-- A name of two number types, with another between them. -/
def schema : List ParamSpec :=
  [⟨"count", "int"⟩, ⟨"ratio", "float"⟩, ⟨"count", "float"⟩, ⟨"count", "int"⟩]

/-- One half. -/
def half : Json.Value := .number (.float ⟨0x3fe0000000000000⟩)

/-- A caller's parameters: the count is too great for a signed number. -/
def params : Json.Members :=
  [("count", .number (.integer 0xffffffffffffffff (by decide))), ("ratio", half)]

/-- What is passed on. -/
def passed : Json.Members :=
  [("count", .number (.integer 0x7fffffffffffffff (by decide))), ("ratio", half)]

/-- The count is confined to the signed range; what is passed on comes through once more, and a
parameter that is not declared does not matter. -/
theorem validate_iff_repeated :
    validate schema params = .ok passed ∧ validate schema passed = .ok passed ∧
    validate schema (("any", .null) :: params) = validate schema params := by
  obtain ⟨-, -, again, undeclared⟩ := validate_iff schema params
  have validated : validate schema params = .ok passed := rfl
  refine ⟨validated, (again passed validated).2, undeclared _ fun spec mem => ?_⟩
  simp only [schema, List.mem_cons, List.not_mem_nil, or_false] at mem
  rcases mem with rfl | rfl | rfl | rfl <;> rfl

end RepeatedName

end ConfigDelivery
