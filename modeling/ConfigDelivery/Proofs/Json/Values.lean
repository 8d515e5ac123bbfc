import ConfigDelivery.Proofs.Json.Decoding
import ConfigDelivery.Proofs.Json.Equality
import ConfigDelivery.Proofs.Json.Members
import ConfigDelivery.Proofs.Json.Recognition
/-!
# The texts of a value

A value has many texts: all those of the documents that denote it. Which texts these are is a
matter of the grammar. What is read from a text is nested no deeper than a text may be, and a value
that is not nested deeper is read back from its compact text whenever its binary64 numbers are.
-/

namespace ConfigDelivery.Json

/-! ## Texts -/

/-- A text of a value. -/
def Value.IsText (value : Value) (text : String) : Prop :=
  ∃ document : Document, document.IsText text ∧ document.value? depthLimit = some value

/-- What a text is read as is the value that it is a text of. -/
theorem readValue?_eq_some_iff {text : String} {value : Value} :
    readValue? text = some value ↔ value.IsText text := by
  simp only [readValue?, Option.bind_eq_bind, Option.bind_eq_some_iff, read?_eq_some_iff,
    Value.IsText]

instance (value : Value) (text : String) : Decidable (value.IsText text) :=
  decidable_of_iff _ readValue?_eq_some_iff

/-! ## How deep values are nested -/

/-- A value with at most some arrays and objects inside each other, whose objects are in order. -/
inductive Value.IsNested : Nat → Value → Prop where
  | null {depth : Nat} : IsNested depth .null
  | bool {depth : Nat} (value : Bool) : IsNested depth (.bool value)
  | number {depth : Nat} (value : Number) : IsNested depth (.number value)
  | string {depth : Nat} (value : String) : IsNested depth (.string value)
  | array {depth : Nat} {items : List Value} (nested : ∀ item ∈ items, IsNested depth item) :
      IsNested (depth + 1) (.array items)
  | object {depth : Nat} {members : Members} (ordered : Value.IsOrdered members)
      (nested : ∀ member ∈ members, IsNested depth member.2) :
      IsNested (depth + 1) (.object members)

theorem Value.IsNested.mono {depth limit : Nat} {value : Value} (nested : value.IsNested depth)
    (deeper : depth ≤ limit) : value.IsNested limit := by
  induction nested generalizing limit with
  | null => exact .null
  | bool truth => exact .bool truth
  | number number => exact .number number
  | string text => exact .string text
  | array _ ih =>
    cases limit with
    | zero => cases deeper
    | succ limit => exact .array fun item mem => ih item mem (Nat.le_of_succ_le_succ deeper)
  | object ordered _ ih =>
    cases limit with
    | zero => cases deeper
    | succ limit =>
      exact .object ordered fun member mem => ih member mem (Nat.le_of_succ_le_succ deeper)

/-- A number stands somewhere in a value. -/
inductive Value.Mentions (number : Number) : Value → Prop where
  | number : Mentions number (.number number)
  | item {items : List Value} {item : Value} (mem : item ∈ items)
      (mentions : Mentions number item) : Mentions number (.array items)
  | member {members : Members} {member : String × Value} (mem : member ∈ members)
      (mentions : Mentions number member.2) : Mentions number (.object members)

namespace Value

/-- A member after one was put in is that one or was there before. -/
theorem mem_insert {name : String} {value : Value} {members : Members}
    {member : String × Value} (mem : member ∈ insert name value members) :
    member = (name, value) ∨ member ∈ members := by
  induction members with
  | nil => exact .inl (List.mem_singleton.mp mem)
  | cons first rest ih =>
    obtain ⟨other, old⟩ := first
    rw [insert] at mem
    split at mem
    · exact List.mem_cons.mp mem
    · split at mem
      · exact (List.mem_cons.mp mem).imp_right (List.mem_cons_of_mem _)
      · rcases List.mem_cons.mp mem with rfl | later
        · exact .inr (List.mem_cons_self ..)
        · exact (ih later).imp_right (List.mem_cons_of_mem _)

/-- A name behind all others is put at the end. -/
theorem insert_last {name : String} {value : Value} {members : Members}
    (last : ∀ other ∈ members.map Prod.fst, other < name) :
    insert name value members = members ++ [(name, value)] := by
  induction members with
  | nil => rfl
  | cons first rest ih =>
    obtain ⟨other, old⟩ := first
    have before : other < name := last other (List.mem_cons_self ..)
    rw [insert, if_neg (not_lt_of_gt before), if_neg (ne_of_gt before),
      ih fun name mem => last name (List.mem_cons_of_mem _ mem)]
    rfl

end Value

mutual

/-- What a document denotes is not nested deeper than allowed. -/
theorem Document.isNested_of_value? {depth : Nat} (document : Document) {value : Value}
    (denotes : document.value? depth = some value) : value.IsNested depth := by
  cases document with
  | null =>
    rw [value?] at denotes
    cases denotes
    exact .null
  | bool truth =>
    rw [value?] at denotes
    cases denotes
    exact .bool truth
  | number numeral =>
    rw [value?] at denotes
    obtain ⟨number, _, rfl⟩ := Option.map_eq_some_iff.mp denotes
    exact .number number
  | string text =>
    rw [value?] at denotes
    obtain ⟨content, _, rfl⟩ := Option.map_eq_some_iff.mp denotes
    exact .string content
  | array items =>
    cases depth with
    | zero =>
      rw [value?] at denotes
      cases denotes
    | succ depth =>
      rw [value?] at denotes
      obtain ⟨values, found, rfl⟩ := Option.map_eq_some_iff.mp denotes
      exact .array (isNested_of_itemValues? items found)
  | object members =>
    cases depth with
    | zero =>
      rw [value?] at denotes
      cases denotes
    | succ depth =>
      rw [value?] at denotes
      obtain ⟨found, read, rfl⟩ := Option.map_eq_some_iff.mp denotes
      obtain ⟨ordered, nested⟩ := isNested_of_memberValues? members Value.isOrdered_nil
        (fun _ mem => absurd mem List.not_mem_nil) read
      exact .object ordered nested

/-- The items of an array that can be read are nested no deeper than was allowed. -/
theorem Document.isNested_of_itemValues? {depth : Nat} (items : List Document)
    {values : List Value} (denote : itemValues? depth items = some values) :
    ∀ value ∈ values, value.IsNested depth := by
  cases items with
  | nil =>
    rw [itemValues?] at denote
    cases denote
    exact fun _ mem => absurd mem List.not_mem_nil
  | cons item rest =>
    simp only [itemValues?, Option.bind_eq_bind, Option.bind_eq_some_iff, Option.pure_def,
      Option.some.injEq] at denote
    obtain ⟨value, first, others, found, rfl⟩ := denote
    exact List.forall_mem_cons.mpr
      ⟨isNested_of_value? item first, isNested_of_itemValues? rest found⟩

/-- The members of an object that can be read are in order, and nested no deeper than was
allowed. -/
theorem Document.isNested_of_memberValues? {depth : Nat} (members : List (Quoted × Document))
    {done found : Members} (ordered : Value.IsOrdered done)
    (nested : ∀ member ∈ done, member.2.IsNested depth)
    (denote : memberValues? depth members done = some found) :
    Value.IsOrdered found ∧ ∀ member ∈ found, member.2.IsNested depth := by
  cases members with
  | nil =>
    rw [memberValues?] at denote
    cases denote
    exact ⟨ordered, nested⟩
  | cons member rest =>
    obtain ⟨name, item⟩ := member
    simp only [memberValues?, Option.bind_eq_bind, Option.bind_eq_some_iff] at denote
    obtain ⟨name, _, value, first, others⟩ := denote
    have isNested : value.IsNested depth := isNested_of_value? item first
    refine isNested_of_memberValues? rest (ordered.insert name value) (fun other mem => ?_) others
    rcases Value.mem_insert mem with rfl | old
    · exact isNested
    · exact nested other old

end

/-- A value that has a text is nested no deeper than a text may be. -/
theorem Value.IsText.isNested {value : Value} {text : String} (isText : value.IsText text) :
    value.IsNested depthLimit := by
  obtain ⟨document, _, denotes⟩ := isText
  exact document.isNested_of_value? denotes

/-! ## Printed values -/

/-- A number is read back from its text. -/
def Number.ReadsBack (number : Number) : Prop :=
  readValue? (Value.number number).render = some (.number number)

instance (number : Number) : Decidable number.ReadsBack := inferInstanceAs (Decidable (_ = _))

/-- An exact integer is read back from its text. -/
theorem Number.readsBack_integer (value : Int) (exact : ExactRange value) :
    (integer value exact).ReadsBack := by
  have read := read?_render (.number (Numeral.isWritten_ofInt value))
  simp [ReadsBack, readValue?, Value.render, Value.document, read, Document.value?,
    Numeral.number?_ofInt exact]

/-- The compact text of a value is that of a document that denotes it. -/
structure Value.IsPrintedAs (depth : Nat) (value : Value) (whole : Padded Document) : Prop where
  blank : whole.IsBlank
  written : whole.content.Writes whole.text
  chars : value.document.chars = whole.chars
  denotes : whole.content.value? depth = some value

/-- No nesting is counted in a number. -/
theorem Document.value?_number {document : Document} {depth : Nat} {number : Number}
    (denotes : document.value? depth = some (.number number)) (other : Nat) :
    document.value? other = some (.number number) := by
  cases document with
  | null | bool | string => simp [value?] at denotes
  | number numeral => simpa only [value?] using denotes
  | array | object => cases depth <;> simp [value?] at denotes

namespace Value

/-- A value without parts that a document of one token denotes. -/
theorem isPrintedAs_bare {depth : Nat} {value : Value} (written : value.document.IsWritten)
    (denotes : value.document.value? depth = some value) :
    value.IsPrintedAs depth value.document.printed where
  blank := Padded.isBlank_bare ..
  written := written.writes
  chars := (Padded.chars_bare ..).symm
  denotes := denotes

/-- A number that is read back is printed at every depth. -/
theorem exists_isPrintedAs_number {number : Number} (back : number.ReadsBack) (depth : Nat) :
    ∃ whole, (Value.number number).IsPrintedAs depth whole := by
  obtain ⟨document, ⟨whole, blank, rfl, written, chars⟩, denotes⟩ := readValue?_eq_some_iff.mp back
  rw [render, Document.render, String.toList_ofList] at chars
  exact ⟨whole, blank, written, chars, Document.value?_number denotes depth⟩

/-- Items are printed one by one. -/
theorem itemDocuments_eq_map (items : List Value) : itemDocuments items = items.map document := by
  induction items with
  | nil => rfl
  | cons item rest ih => rw [itemDocuments, ih, List.map_cons]

/-- Members are printed one by one. -/
theorem memberDocuments_eq_map (members : Members) :
    memberDocuments members = members.map fun member => (.text member.1, member.2.document) := by
  induction members with
  | nil => rfl
  | cons member rest ih => rw [memberDocuments, ih, List.map_cons]

/-- Items that are each printed are read back. -/
theorem itemValues?_map {depth : Nat} {items : List Value} {whole : Value → Padded Document}
    (denote : ∀ item ∈ items, (whole item).content.value? depth = some item) :
    Document.itemValues? depth (items.map fun item => (whole item).content) = some items := by
  induction items with
  | nil => rfl
  | cons item rest ih =>
    obtain ⟨first, others⟩ := List.forall_mem_cons.mp denote
    simp [Document.itemValues?, first, ih others]

/-- Members in order whose values are each printed are read back. -/
theorem memberValues?_map {depth : Nat} {members done : Members}
    {whole : String × Value → Padded Document} (ordered : IsOrdered (done ++ members))
    (denote : ∀ member ∈ members, (whole member).content.value? depth = some member.2) :
    Document.memberValues? depth
        (members.map fun member => (.text member.1, (whole member).content)) done
      = some (done ++ members) := by
  induction members generalizing done with
  | nil => simp [Document.memberValues?]
  | cons member rest ih =>
    obtain ⟨name, value⟩ := member
    obtain ⟨first, others⟩ := List.forall_mem_cons.mp denote
    have last : ∀ other ∈ done.map Prod.fst, other < name := by
      unfold IsOrdered at ordered
      rw [List.map_append] at ordered
      exact fun other mem => (List.pairwise_append.mp ordered).2.2 _ mem _ (List.mem_cons_self ..)
    have moved : done ++ (name, value) :: rest = done ++ [(name, value)] ++ rest := by simp
    rw [moved] at ordered ⊢
    simp only [List.map_cons, Document.memberValues?, Quoted.text?, first, Option.bind_eq_bind,
      Option.bind_some, insert_last last]
    exact ih ordered others

/-- An array is printed a level above its items. -/
theorem exists_isPrintedAs_array {depth : Nat} {items : List Value}
    (printed : ∀ item ∈ items, ∃ whole, item.IsPrintedAs depth whole) :
    ∃ whole, (Value.array items).IsPrintedAs (depth + 1) whole := by
  cases items with
  | nil => exact ⟨_, isPrintedAs_bare (.array (by simp [itemDocuments])) rfl⟩
  | cons first rest =>
    have : Nonempty (Padded Document) := ⟨.bare .null []⟩
    choose! whole isPrinted using printed
    have chars : ∀ item ∈ first :: rest, item.document.chars = (whole item).chars :=
      fun item mem => (isPrinted item mem).chars
    have blank : ∀ item ∈ (first :: rest).map whole, item.IsBlank :=
      List.forall_mem_map.mpr fun item mem => (isPrinted item mem).blank
    have written : ∀ item ∈ (first :: rest).map whole, item.content.Writes item.text :=
      List.forall_mem_map.mpr fun item mem => (isPrinted item mem).written
    refine ⟨_, Padded.isBlank_bare .., .array blank written, ?_, ?_⟩
    · have later : rest.map (Document.chars ∘ document) = rest.map (Padded.chars ∘ whole) :=
        List.map_congr_left fun item mem => chars item (List.mem_cons_of_mem _ mem)
      rw [document, itemDocuments_eq_map, Document.chars, List.map_cons, Document.itemChars_cons,
        chars first (List.mem_cons_self ..), List.map_map, later]
      simp
    · have values := itemValues?_map fun item mem => (isPrinted item mem).denotes
      simpa [Document.value?, Function.comp_def, Padded.bare] using values

/-- A member with its name as it is printed. -/
def memberText (whole : String × Value → Padded Document) (member : String × Value) :
    MemberText where
  name := .bare (.text member.1) (Quoted.text member.1).chars
  value := whole member

/-- An object in order is printed a level above its members. -/
theorem exists_isPrintedAs_object {depth : Nat} {members : Members}
    (ordered : IsOrdered members)
    (printed : ∀ member ∈ members, ∃ whole, member.2.IsPrintedAs depth whole) :
    ∃ whole, (Value.object members).IsPrintedAs (depth + 1) whole := by
  cases members with
  | nil => exact ⟨_, isPrintedAs_bare (.object (by simp [memberDocuments])) rfl⟩
  | cons first rest =>
    have : Nonempty (Padded Document) := ⟨.bare .null []⟩
    choose! whole isPrinted using printed
    have named : ∀ member ∈ (first :: rest).map (memberText whole), member.IsNamed :=
      List.forall_mem_map.mpr fun member mem =>
        ⟨Quoted.writes_chars _, Padded.isBlank_bare .., (isPrinted member mem).blank⟩
    have written : ∀ member ∈ (first :: rest).map (memberText whole),
        member.value.content.Writes member.value.text :=
      List.forall_mem_map.mpr fun member mem => (isPrinted member mem).written
    refine ⟨_, Padded.isBlank_bare .., .object named written, ?_, ?_⟩
    · have chars : ∀ member ∈ first :: rest,
          (MemberText.printed (.text member.1, member.2.document)).chars
            = (memberText whole member).chars := fun member mem => by
        simp [MemberText.chars, MemberText.printed, Document.printed, memberText,
          (isPrinted member mem).chars]
      have later : rest.map ((MemberText.chars ∘ MemberText.printed)
            ∘ fun member => (.text member.1, member.2.document))
          = rest.map (MemberText.chars ∘ memberText whole) :=
        List.map_congr_left fun member mem => chars member (List.mem_cons_of_mem _ mem)
      rw [document, memberDocuments_eq_map, Document.chars, List.map_cons,
        Document.memberChars_cons, chars first (List.mem_cons_self ..), List.map_map, later]
      simp
    · have values := @memberValues?_map depth (first :: rest) [] whole ordered
        fun member mem => (isPrinted member mem).denotes
      simpa [Document.value?, Function.comp_def, MemberText.member, memberText, Padded.bare]
        using values

/-- A value that is not nested too deep is printed as a text of it, provided that its numbers are
read back. -/
theorem IsNested.exists_isPrintedAs {depth : Nat} {value : Value} (nested : value.IsNested depth)
    (back : ∀ number, value.Mentions number → number.ReadsBack) :
    ∃ whole, value.IsPrintedAs depth whole := by
  induction nested with
  | null => exact ⟨_, isPrintedAs_bare .null rfl⟩
  | bool truth => exact ⟨_, isPrintedAs_bare (.bool truth) rfl⟩
  | number number => exact exists_isPrintedAs_number (back number .number) _
  | string text => exact ⟨_, isPrintedAs_bare (.string _) rfl⟩
  | array _ ih =>
    exact exists_isPrintedAs_array fun item mem =>
      ih item mem fun number mentions => back number (.item mem mentions)
  | object ordered _ ih =>
    exact exists_isPrintedAs_object ordered fun member mem =>
      ih member mem fun number mentions => back number (.member mem mentions)

/-- The compact text of a value is a text of it, when it is not nested too deep and its binary64
numbers are read back. -/
theorem IsNested.isText_render {value : Value} (nested : value.IsNested depthLimit)
    (back : ∀ float, value.Mentions (.float float) → (Number.float float).ReadsBack) :
    value.IsText value.render := by
  have allBack : ∀ number, value.Mentions number → number.ReadsBack := by
    intro number mentions
    cases number with
    | integer value exact => exact Number.readsBack_integer value exact
    | float float => exact back float mentions
  obtain ⟨whole, blank, written, chars, denotes⟩ := nested.exists_isPrintedAs allBack
  refine ⟨_, ⟨whole, blank, rfl, written, ?_⟩, denotes⟩
  rw [render, Document.render, String.toList_ofList, chars]

end Value

end ConfigDelivery.Json
