import ConfigDelivery.Targeting.Eligibility
/-!
# Targeting rules as a decision on their comparisons

The verdict of some rules, stated on the comparisons that they are made of: the first malformed one
among the groups of the request's platform is the fault, wherever it stands; without one, the last
of these groups decides by its alternatives.
-/

namespace ConfigDelivery.Targeting

/-- What is wrong with a comparison. -/
def ruleFault? (rule : Rule) : Option RuleFault :=
  if rule.field ≠ "version" then some (.unknownField rule.field)
  else if rule.compare ∉ ["<", "<=", "=", ">", ">="] then some (.unknownComparator rule.compare)
  else
    match Text.readInteger .signed64 (Text.trim rule.value) with
    | .ok _ => none
    | .error fault => some (.badThreshold rule.value rule.field fault)

/-- A comparison holds. -/
def ruleHolds (request : RequestMeta) (rule : Rule) : Bool :=
  match Text.readInteger .signed64 (Text.trim rule.value) with
  | .error _ => false
  | .ok threshold =>
    let version := request.version.toInt
    (rule.compare = "<" && version < threshold)
      || (rule.compare = "<=" && version ≤ threshold)
      || (rule.compare = "=" && version = threshold)
      || (rule.compare = ">" && threshold < version)
      || (rule.compare = ">=" && threshold ≤ version)

/-- The groups of rules for the platform of a request. -/
def platformGroups (rules : List PlatformRule) (request : RequestMeta) : List PlatformRule :=
  rules.filter fun group => group.platform = request.platform

/-- The first malformed comparison of some groups. -/
def groupsFault? (groups : List PlatformRule) : Option RuleFault :=
  (groups.flatMap fun group => group.rules.flatten).findSome? ruleFault?

/-- A group lets a request pass: it has no alternatives, or one that holds as a whole. -/
def groupPasses (request : RequestMeta) (group : PlatformRule) : Bool :=
  group.rules.isEmpty || group.rules.any fun alternative => alternative.all (ruleHolds request)

/-- The last of some groups lets a request pass, if there is one. -/
def isEligible (request : RequestMeta) (groups : List PlatformRule) : Bool :=
  groups.getLast?.all (groupPasses request)

/-- A fault, or else a verdict. -/
def faultOr (fault? : Option RuleFault) (verdict : Bool) : Except RuleFault Bool :=
  match fault? with
  | some fault => .error fault
  | none => .ok verdict

@[simp] theorem faultOr_some (fault : RuleFault) (verdict : Bool) :
    faultOr (some fault) verdict = .error fault := rfl

@[simp] theorem faultOr_none (verdict : Bool) : faultOr none verdict = .ok verdict := rfl

variable (request : RequestMeta)

/-- A sign is read as its comparator, or is unknown. -/
theorem readComparator_eq (text : String) :
    readComparator text =
      match Comparator.read? text with
      | some comparator => .ok comparator
      | none => .error (.unknownComparator text) := rfl

/-- There are five signs. -/
theorem read?_eq_none_iff (text : String) :
    Comparator.read? text = none ↔ text ∉ ["<", "<=", "=", ">", ">="] := by
  unfold Comparator.read?
  split <;> simp_all

/-- Each sign holds as it does between integers. -/
theorem holds_of_read? {text : String} {comparator : Comparator}
    (read : Comparator.read? text = some comparator) (version threshold : Int) :
    comparator.holds version threshold =
      ((text = "<" && version < threshold)
        || (text = "<=" && version ≤ threshold)
        || (text = "=" && version = threshold)
        || (text = ">" && threshold < version)
        || (text = ">=" && threshold ≤ version)) := by
  unfold Comparator.read? at read
  split at read <;> cases read <;> simp [Comparator.holds]

/-- A comparison is at fault or has a verdict. -/
theorem compare_eq (rule : Rule) :
    compare rule request = faultOr (ruleFault? rule) (ruleHolds request rule) := by
  unfold compare ruleFault? ruleHolds readThreshold
  by_cases field : rule.field = "version"
  · rw [if_pos field, if_neg (not_not_intro field), readComparator_eq]
    cases read : Comparator.read? rule.compare with
    | none =>
      rw [if_pos ((read?_eq_none_iff _).mp read)]
      rfl
    | some comparator =>
      have known : ¬ rule.compare ∉ ["<", "<=", "=", ">", ">="] := by
        rw [← read?_eq_none_iff, read]
        exact Option.some_ne_none comparator
      rw [if_neg known]
      cases Text.readInteger .signed64 (Text.trim rule.value) with
      | error fault => rfl
      | ok threshold => simp [holds_of_read? read]
  · rw [if_neg field, if_pos field]
    rfl

/-- An alternative holds if all its comparisons do, unless one is at fault. -/
theorem alternativeHolds_eq (alternative : List Rule) :
    alternativeHolds request alternative
      = faultOr (alternative.findSome? ruleFault?) (alternative.all (ruleHolds request)) := by
  induction alternative with
  | nil => rfl
  | cons rule rest ih =>
    rw [alternativeHolds, compare_eq, ih, List.findSome?_cons, List.all_cons]
    cases ruleFault? rule <;> cases rest.findSome? ruleFault? <;> rfl

/-- Alternatives hold if one of them does, unless a comparison is at fault. -/
theorem someAlternativeHolds_eq (alternatives : List (List Rule)) :
    someAlternativeHolds request alternatives
      = faultOr (alternatives.flatten.findSome? ruleFault?)
        (alternatives.any fun alternative => alternative.all (ruleHolds request)) := by
  induction alternatives with
  | nil => rfl
  | cons alternative rest ih =>
    rw [someAlternativeHolds, alternativeHolds_eq, ih, List.flatten_cons, List.findSome?_append,
      List.any_cons]
    cases alternative.findSome? ruleFault? <;> cases rest.flatten.findSome? ruleFault? <;> rfl

/-- A group has a verdict unless a comparison in it is at fault. -/
theorem groupVerdict_eq (group : PlatformRule) :
    groupVerdict request group
      = faultOr (group.rules.flatten.findSome? ruleFault?) (groupPasses request group) := by
  unfold groupVerdict groupPasses
  rw [someAlternativeHolds_eq]
  cases group.rules with
  | nil => rfl
  | cons alternative rest => simp

/-- The last group has the verdict unless a comparison in any group is at fault. -/
theorem lastVerdict_eq (verdict : Bool) (groups : List PlatformRule) :
    lastVerdict request verdict groups
      = faultOr (groupsFault? groups)
        ((groups.getLast?.map (groupPasses request)).getD verdict) := by
  induction groups generalizing verdict with
  | nil => rfl
  | cons group rest ih =>
    rw [lastVerdict, groupVerdict_eq, groupsFault?, List.flatMap_cons, List.findSome?_append]
    cases group.rules.flatten.findSome? ruleFault? with
    | some fault => rfl
    | none =>
      simp only [faultOr_none, Option.none_or, ih, groupsFault?]
      congr 1
      rw [List.getLast?_cons]
      cases rest.getLast? <;> rfl

/-- The verdict of some rules is that of their comparisons. -/
theorem evaluate_eq (rules : List PlatformRule) :
    evaluate rules request
      = faultOr (groupsFault? (platformGroups rules request))
        (isEligible request (platformGroups rules request)) := by
  rw [evaluate, lastVerdict_eq, isEligible, platformGroups]
  congr 1
  cases (rules.filter fun group => group.platform = request.platform).getLast? <;> rfl

end ConfigDelivery.Targeting
