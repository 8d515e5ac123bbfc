import ConfigDelivery.Proofs.Targeting.Eligibility
import ConfigDelivery.Proofs.Text.Blank
import ConfigDelivery.Proofs.Text.Integer
/-!
# What targeting rules mean

The rules of a code version, as their author reads them: a comparison is well formed or has one
fault, a group of rules admits a request or not, and of the groups for the request's platform the
last one decides. The evaluation of rules agrees with this reading, for every list of rules and
every request.
-/

namespace ConfigDelivery.Targeting

/-- The signs that a comparison may have. -/
abbrev comparatorSigns : List String := ["<", "<=", "=", ">", ">="]

/-- Two integers stand in the relation of a sign. -/
inductive Related : String → Int → Int → Prop where
  | less {left right} (holds : left < right) : Related "<" left right
  | lessOrEqual {left right} (holds : left ≤ right) : Related "<=" left right
  | equal {left right} (holds : left = right) : Related "=" left right
  | greater {left right} (holds : left > right) : Related ">" left right
  | greaterOrEqual {left right} (holds : left ≥ right) : Related ">=" left right

/-- A threshold denotes an integer: between blanks it writes one of 64 bits. -/
def Denotes (text : String) (value : Int) : Prop :=
  ∃ core, Text.IsTrimmed text core ∧ Text.WritesInteger core value ∧
    -0x8000000000000000 ≤ value ∧ value ≤ 0x7fffffffffffffff

/-- A comparison that can be made. -/
structure IsWellFormed (rule : Rule) : Prop where
  field : rule.field = "version"
  compare : rule.compare ∈ comparatorSigns
  threshold : ∃ value, Denotes rule.value value

/-- The fault of a comparison: of its field, else of its comparator, else of its threshold. -/
inductive HasFault (rule : Rule) : RuleFault → Prop where
  | field (other : rule.field ≠ "version") : HasFault rule (.unknownField rule.field)
  | comparator (field : rule.field = "version") (other : rule.compare ∉ comparatorSigns) :
      HasFault rule (.unknownComparator rule.compare)
  | threshold {core fault} (field : rule.field = "version")
      (comparator : rule.compare ∈ comparatorSigns) (trimmed : Text.IsTrimmed rule.value core)
      (refused : Text.IsRefused .signed64 core fault) :
      HasFault rule (.badThreshold rule.value rule.field fault)

/-- A comparison holds for a request. -/
def Holds (request : RequestMeta) (rule : Rule) : Prop :=
  ∃ threshold, Denotes rule.value threshold ∧
    Related rule.compare request.version.toInt threshold

/-- A group lets a request pass: it has no alternatives, or one all of whose comparisons hold. -/
def Admits (request : RequestMeta) (group : PlatformRule) : Prop :=
  group.rules = [] ∨ ∃ alternative ∈ group.rules, ∀ rule ∈ alternative, Holds request rule

/-- The comparisons of some groups, in the order in which they are written. -/
def comparisons (groups : List PlatformRule) : List Rule :=
  groups.flatMap fun group => group.rules.flatten

/-- The first comparison that is not well formed has this fault. -/
def FirstFault (rules : List Rule) (fault : RuleFault) : Prop :=
  ∃ earlier rule later, rules = earlier ++ rule :: later ∧
    (∀ other ∈ earlier, IsWellFormed other) ∧ HasFault rule fault

/-- A text denotes an integer if it is read as it once the blanks around it are gone. -/
theorem denotes_iff (text : String) (value : Int) :
    Denotes text value ↔ Text.readInteger .signed64 (Text.trim text) = .ok value := by
  rw [Text.readInteger_eq_ok_iff (by decide) (by decide)]
  constructor
  · rintro ⟨core, trimmed, denoted⟩
    exact trimmed.eq_trim ▸ denoted
  · exact fun denoted => ⟨_, Text.isTrimmed_trim text, denoted⟩

/-- A text is refused as an integer as its reader refuses it. -/
theorem isRefused_iff (text : String) (fault : Text.IntegerFault) :
    (∃ core, Text.IsTrimmed text core ∧ Text.IsRefused .signed64 core fault) ↔
      Text.readInteger .signed64 (Text.trim text) = .error fault := by
  rw [Text.readInteger_eq_error_iff (by decide) (by decide)]
  constructor
  · rintro ⟨core, trimmed, refused⟩
    exact trimmed.eq_trim ▸ refused
  · exact fun refused => ⟨_, Text.isTrimmed_trim text, refused⟩

/-- A comparison is at fault in the way that is found. -/
theorem ruleFault?_eq_some_iff (rule : Rule) (fault : RuleFault) :
    ruleFault? rule = some fault ↔ HasFault rule fault := by
  unfold ruleFault?
  constructor
  · intro found
    split at found
    · cases found
      exact .field ‹_›
    · rename_i field
      have field := not_not.mp field
      split at found
      · cases found
        exact .comparator field ‹_›
      · rename_i comparator
        split at found <;> cases found
        rename_i refused
        obtain ⟨core, trimmed, refused⟩ := (isRefused_iff _ _).mpr refused
        exact .threshold field (not_not.mp comparator) trimmed refused
  · intro faulty
    cases faulty with
    | field other => rw [if_pos other]
    | comparator field other => rw [if_neg (not_not.mpr field), if_pos other]
    | threshold field comparator trimmed refused =>
      rw [if_neg (not_not.mpr field), if_neg (not_not.mpr comparator),
        (isRefused_iff _ _).mp ⟨_, trimmed, refused⟩]

/-- A comparison is well formed if no fault is found. -/
theorem ruleFault?_eq_none_iff (rule : Rule) : ruleFault? rule = none ↔ IsWellFormed rule := by
  unfold ruleFault?
  constructor
  · intro faultless
    split at faultless
    · cases faultless
    · rename_i field
      split at faultless
      · cases faultless
      · rename_i comparator
        split at faultless
        · rename_i value read
          exact ⟨not_not.mp field, not_not.mp comparator, value, (denotes_iff _ _).mpr read⟩
        · cases faultless
  · rintro ⟨field, comparator, value, denoted⟩
    rw [if_neg (not_not.mpr field), if_neg (not_not.mpr comparator),
      (denotes_iff _ _).mp denoted]

/-- Integers are related by one of five signs. -/
theorem related_iff (sign : String) (left right : Int) :
    Related sign left right ↔
      sign = "<" ∧ left < right ∨ sign = "<=" ∧ left ≤ right ∨ sign = "=" ∧ left = right ∨
        sign = ">" ∧ left > right ∨ sign = ">=" ∧ left ≥ right := by
  constructor
  · intro related
    cases related <;> simp_all
  · rintro (⟨rfl, holds⟩ | ⟨rfl, holds⟩ | ⟨rfl, holds⟩ | ⟨rfl, holds⟩ | ⟨rfl, holds⟩)
    · exact .less holds
    · exact .lessOrEqual holds
    · exact .equal holds
    · exact .greater holds
    · exact .greaterOrEqual holds

/-- A comparison is found to hold if it does. -/
theorem ruleHolds_iff (request : RequestMeta) (rule : Rule) :
    ruleHolds request rule = true ↔ Holds request rule := by
  unfold ruleHolds Holds
  simp only [denotes_iff]
  cases Text.readInteger .signed64 (Text.trim rule.value) with
  | error fault => simp
  | ok threshold => simp [related_iff, or_assoc]

/-- A group is found to pass if it admits the request. -/
theorem groupPasses_iff (request : RequestMeta) (group : PlatformRule) :
    groupPasses request group = true ↔ Admits request group := by
  simp only [groupPasses, Admits, Bool.or_eq_true, List.isEmpty_iff, List.any_eq_true,
    List.all_eq_true, ruleHolds_iff]

/-- A request is eligible if there are no groups or the last one admits it. -/
theorem isEligible_iff (request : RequestMeta) (groups : List PlatformRule) :
    isEligible request groups = true ↔
      groups = [] ∨ ∃ earlier last, groups = earlier ++ [last] ∧ Admits request last := by
  unfold isEligible
  rcases List.eq_nil_or_concat groups with rfl | ⟨earlier, last, rfl⟩
  · simp
  · have decides : (earlier.concat last).getLast?.all (groupPasses request)
        = groupPasses request last := by simp
    rw [decides, groupPasses_iff, List.concat_eq_append]
    constructor
    · exact fun admits => .inr ⟨earlier, last, rfl, admits⟩
    · rintro (nothing | ⟨before, group, split, admits⟩)
      · simp at nothing
      · obtain ⟨-, same⟩ := List.append_inj' split rfl
        exact List.singleton_inj.mp same ▸ admits

/-- The fault that is found is the first one in the order of the comparisons. -/
theorem groupsFault?_eq_some_iff (groups : List PlatformRule) (fault : RuleFault) :
    groupsFault? groups = some fault ↔ FirstFault (comparisons groups) fault := by
  simp only [groupsFault?, List.findSome?_eq_some_iff, ruleFault?_eq_some_iff,
    ruleFault?_eq_none_iff]
  constructor
  · rintro ⟨earlier, rule, later, split, faulty, wellFormed⟩
    exact ⟨earlier, rule, later, split, wellFormed, faulty⟩
  · rintro ⟨earlier, rule, later, split, wellFormed, faulty⟩
    exact ⟨earlier, rule, later, split, faulty, wellFormed⟩

/-- No fault is found if all comparisons are well formed. -/
theorem groupsFault?_eq_none_iff (groups : List PlatformRule) :
    groupsFault? groups = none ↔ ∀ rule ∈ comparisons groups, IsWellFormed rule := by
  simp only [groupsFault?, List.findSome?_eq_none_iff, ruleFault?_eq_none_iff, comparisons]

/-- Rules are evaluated as they are meant. Of the groups for the request's platform, the first
comparison that is malformed is the fault, wherever it stands; without one, the last group has the
verdict, and everyone is let in where there is none. Other groups do not matter. -/
theorem evaluate_iff (rules : List PlatformRule) (request : RequestMeta) :
    let groups := platformGroups rules request
    (∀ fault, evaluate rules request = .error fault ↔ FirstFault (comparisons groups) fault) ∧
    (∀ verdict, evaluate rules request = .ok verdict ↔
      (∀ rule ∈ comparisons groups, IsWellFormed rule) ∧
      (verdict = true ↔
        groups = [] ∨ ∃ earlier last, groups = earlier ++ [last] ∧ Admits request last)) ∧
    ∀ others, platformGroups others request = groups →
      evaluate others request = evaluate rules request := by
  intro groups
  refine ⟨fun fault => ?_, fun verdict => ?_, fun others same => ?_⟩
  · rw [evaluate_eq, ← groupsFault?_eq_some_iff]
    cases groupsFault? groups <;> simp [faultOr]
  · rw [evaluate_eq, ← groupsFault?_eq_none_iff, ← isEligible_iff]
    cases groupsFault? groups with
    | some fault => simp
    | none => cases verdict <;> simp [faultOr, groups]
  · rw [evaluate_eq, evaluate_eq, same]

/-! ## A malformed comparison behind a false one -/

namespace HiddenFault

/-- A request of a phone. -/
def request : RequestMeta := { version := 12, platform := "iphone" }

/-- A comparison that is false for the request. -/
def tooOld : Rule := ⟨"version", "<", " +5 "⟩

/-- A comparison whose threshold is no number. -/
def unreadable : Rule := ⟨"version", ">=", " ten "⟩

/-- The rules for phones: everyone is let in, until the last group has the verdict. -/
def rules : List PlatformRule := [⟨"iphone", []⟩, ⟨"iphone", [[tooOld, unreadable], []]⟩]

/-- A malformed group for another platform. -/
def foreign : PlatformRule := ⟨"android", [[⟨"locale", "!=", ""⟩]]⟩

theorem isWellFormed_tooOld : IsWellFormed tooOld := by
  refine ⟨rfl, by decide, 5, "+5", ⟨⟨[' '], [' '], rfl, ?_⟩, ?_, ?_⟩,
    ⟨false, ['5'], rfl, by decide, ?_, rfl⟩, by decide, by decide⟩
  · simp [Text.isBlank, Text.blankRanges]
  · simp [Text.isBlank, Text.blankRanges]
  · simp [Text.isBlank, Text.blankRanges]
  · simp [Char.isDigit]

theorem hasFault_unreadable :
    HasFault unreadable (.badThreshold " ten " "version" .foreignCharacter) := by
  have parts : Text.splitSign "ten".toList = (false, [] ++ 't' :: ['e', 'n']) := rfl
  have refused : Text.IsRefused .signed64 "ten" .foreignCharacter :=
    .foreignCharacter parts (by simp) rfl (by decide) (by decide)
  refine .threshold rfl (by decide) ⟨⟨[' '], [' '], rfl, ?_⟩, ?_, ?_⟩ refused
  · simp [Text.isBlank, Text.blankRanges]
  · simp [Text.isBlank, Text.blankRanges]
  · simp [Text.isBlank, Text.blankRanges]

/-- The malformed threshold is the fault, though the comparison before it is false and the
alternative behind it lets everyone in; the group for the other platform does not matter. -/
theorem evaluate_iff_hidden :
    evaluate rules request = .error (.badThreshold " ten " "version" .foreignCharacter) ∧
    platformGroups (foreign :: rules) request = platformGroups rules request ∧
    evaluate (foreign :: rules) request = evaluate rules request := by
  have groups : platformGroups rules request = rules := rfl
  have same : platformGroups (foreign :: rules) request = platformGroups rules request := rfl
  obtain ⟨faults, -, others⟩ := evaluate_iff rules request
  refine ⟨(faults _).mpr ?_, same, others _ same⟩
  rw [groups]
  exact ⟨[tooOld], unreadable, [], rfl, by simp [isWellFormed_tooOld], hasFault_unreadable⟩

end HiddenFault

end ConfigDelivery.Targeting
