import ConfigDelivery.Targeting.Comparison
/-!
# Eligibility of a request for a code version

Only the rules of the request's platform count. Each of them decides anew, so
the last one has the final word; but every comparison on the way is made, and
a malformed one is never hidden by what the others say.
-/

namespace ConfigDelivery.Targeting

/-- All comparisons of an alternative hold; each of them is made. -/
def alternativeHolds (request : RequestMeta) : List Rule → Except RuleFault Bool
  | [] => .ok true
  | rule :: rest =>
    match compare rule request with
    | .error fault => .error fault
    | .ok holds =>
      match alternativeHolds request rest with
      | .error fault => .error fault
      | .ok others => .ok (holds && others)

/-- Some alternative holds; each of them is judged. -/
def someAlternativeHolds (request : RequestMeta) : List (List Rule) → Except RuleFault Bool
  | [] => .ok false
  | alternative :: rest =>
    match alternativeHolds request alternative with
    | .error fault => .error fault
    | .ok holds =>
      match someAlternativeHolds request rest with
      | .error fault => .error fault
      | .ok others => .ok (holds || others)

/-- The verdict of one platform's rules: no alternatives let everyone in. -/
def groupVerdict (request : RequestMeta) (group : PlatformRule) : Except RuleFault Bool :=
  if group.rules.isEmpty then .ok true else someAlternativeHolds request group.rules

/-- The verdict of the last of some rules, after the verdict so far. -/
def lastVerdict (request : RequestMeta) : Bool → List PlatformRule → Except RuleFault Bool
  | verdict, [] => .ok verdict
  | _, group :: rest =>
    match groupVerdict request group with
    | .error fault => .error fault
    -- The verdict so far is given up, but the rules behind are judged all the same.
    | .ok verdict => lastVerdict request verdict rest

/-- A request is eligible for a code version with these rules. -/
def evaluate (rules : List PlatformRule) (request : RequestMeta) : Except RuleFault Bool :=
  lastVerdict request true (rules.filter fun group => group.platform = request.platform)

end ConfigDelivery.Targeting
