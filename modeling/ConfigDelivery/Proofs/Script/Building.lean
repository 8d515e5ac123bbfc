import ConfigDelivery.Script.Starlark.Writing
/-!
# Building values in memory

Decoding JSON in a script needs a number of steps that only the document tells, and only adds
objects to memory: whatever was there before is there afterwards, unchanged.
-/

namespace ConfigDelivery.Script.Starlark

variable {Result Next : Type}

/-- A step that succeeds is followed by what comes next. -/
theorem Run.bind_of_ok {action : Run Result} {next : Result → Run Next} {memory after : Memory}
    {result : Result} (done : action memory = .ok result after) :
    (action >>= next) memory = next result after := by
  simp only [bind, EStateM.bind, done]

/-- To load a cell changes nothing. -/
theorem Run.load_eq (cell : Cell) (memory : Memory) :
    Run.load cell memory = .ok (memory.objects[cell]?.getD (.scope [])) memory := by
  rfl

/-- With enough steps an action has a result of some kind, and all that it does to memory is to add
objects. -/
def Builds (cost : Nat) (action : Run Result) (kind : Result → Prop) : Prop :=
  ∀ memory, cost ≤ memory.steps → ∃ result added, kind result ∧
    action memory = .ok result
      { memory with objects := memory.objects ++ added, steps := memory.steps - cost }

namespace Builds

theorem pure {result : Result} {kind : Result → Prop} (isKind : kind result) :
    Builds 0 (pure result) kind :=
  fun memory _ => ⟨result, #[], isKind, by simp [Pure.pure, EStateM.pure]⟩

/-- What is built in two steps costs what both do. -/
theorem bind {cost others : Nat} {action : Run Result} {next : Result → Run Next}
    {kind : Result → Prop} {last : Next → Prop} (first : Builds cost action kind)
    (rest : ∀ result, kind result → Builds others (next result) last) :
    Builds (cost + others) (action >>= next) last := by
  intro memory enough
  obtain ⟨result, added, isKind, done⟩ := first memory (by omega)
  have left : others ≤ memory.steps - cost := by omega
  obtain ⟨final, more, isLast, ended⟩ := rest result isKind
    { memory with objects := memory.objects ++ added, steps := memory.steps - cost } left
  refine ⟨final, added ++ more, isLast, ?_⟩
  rw [Run.bind_of_ok done, ended]
  simp [Nat.sub_sub, Array.append_assoc]

/-- To make an object costs nothing. -/
theorem allocate (object : Object) : Builds 0 (Run.allocate object) fun _ => True :=
  fun memory _ => ⟨memory.objects.size, #[object], trivial, by simp [Run.allocate]⟩

/-- To spend steps costs them. -/
theorem spend (count : Nat) : Builds count (Run.spend count) fun _ => True := by
  intro memory enough
  exact ⟨(), #[], trivial, by simp [Run.spend, Nat.not_lt.mpr enough]⟩

/-- A list costs a step for every eight of its items. -/
theorem newList (items : Array Value) :
    Builds (items.size / 8) (Run.newList items) fun _ => True :=
  (spend _).bind fun _ _ => (allocate _).bind fun _ _ => pure trivial

/-- A dictionary costs nothing beyond its entries. -/
theorem newDict (entries : Array (Value × Value)) :
    Builds 0 (Run.newDict entries) fun _ => True :=
  (allocate _).bind fun _ _ => pure trivial

/-- What can be built for each item can be built for all of them, one after the other. -/
theorem exists_mapM {Item : Type} {action : Item → Run Result} {items : List Item}
    (each : ∀ item ∈ items, ∃ cost, Builds cost (action item) fun _ => True) :
    ∃ cost, Builds cost (items.mapM action) fun results => results.length = items.length := by
  induction items with
  | nil => exact ⟨0, pure rfl⟩
  | cons item rest ih =>
    obtain ⟨cost, first⟩ := each item List.mem_cons_self
    obtain ⟨others, built⟩ := ih fun item isItem => each item (List.mem_cons_of_mem _ isItem)
    refine ⟨cost + (others + 0), ?_⟩
    rw [List.mapM_cons]
    exact first.bind fun _ _ => built.bind fun results sameLength => pure (by simp [sameLength])

/-- The value of every JSON value can be built. -/
theorem exists_ofJson (depth : Nat) (value : Json.Value) :
    ∃ cost, Builds cost (Value.ofJson depth value) fun _ => True := by
  induction depth generalizing value with
  | zero =>
    refine ⟨0, ?_⟩
    cases value with
    | number numeral => cases numeral <;> exact pure trivial
    | _ => exact pure trivial
  | succ depth ih =>
    cases value with
    | null | bool | string => exact ⟨0, pure trivial⟩
    | number numeral => cases numeral <;> exact ⟨0, pure trivial⟩
    | array items =>
      obtain ⟨cost, built⟩ := exists_mapM fun item (_ : item ∈ items) => ih item
      refine ⟨cost + items.length / 8, built.bind fun results sameLength => ?_⟩
      simpa [sameLength] using newList results.toArray
    | object members =>
      have each (member : String × Json.Value) (_ : member ∈ members) :
          ∃ cost, Builds cost
            (do return (Value.text member.1, ← Value.ofJson depth member.2)) fun _ => True := by
        obtain ⟨cost, built⟩ := ih member.2
        exact ⟨cost + 0, built.bind fun _ _ => pure trivial⟩
      obtain ⟨cost, built⟩ := exists_mapM each
      exact ⟨cost + 0, built.bind fun entries _ => newDict entries.toArray⟩

end Builds

/-- A script can decode every text that is JSON. -/
theorem exists_builds_ofJsonText {text : String} {value : Json.Value}
    (read : Json.readValue? text = some value) :
    ∃ cost, Builds cost (Run.ofJsonText text) fun _ => True := by
  simp only [Run.ofJsonText, read]
  exact Builds.exists_ofJson _ value

end ConfigDelivery.Script.Starlark
