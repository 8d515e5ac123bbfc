import ConfigDelivery.Proofs.Json.Decoding
import Mathlib.Data.List.Forall2
/-!
# The forms that typed data may be written in

A printer writes each value in one way, and a decoder accepts more: the fields of a record in any
order, beside others that it does not know, without those that have their default, or as the mere
list of their values. A form says which documents write a value, without a word on how they are
read. A decoder that reads a form reads every document of it back as the value, and decoders of
records do so as soon as those of their fields do.
-/

namespace ConfigDelivery.Json

/-- Which documents write a value. -/
abbrev Form (Value : Type) := Value → Document → Prop

namespace Form

/-- Texts are strings. -/
def string : Form String := fun value document => document = .ofString value

/-- Truth values. -/
def bool : Form Bool := fun value document => document = .bool value

/-- Signed numbers are written in decimal. -/
def int64 : Form Int64 := fun value document => document = .ofInt value.toInt

/-- Unsigned numbers are written in decimal. -/
def uint32 : Form UInt32 := fun value document => document = .ofInt value.toNat

/-- Lists are arrays, item by item. -/
def list {Value : Type} (item : Form Value) : Form (List Value) := fun values document =>
  ∃ items, document = .array items ∧ List.Forall₂ item values items

end Form

@[simp] theorem Form.string_ofString (value : String) : Form.string value (.ofString value) := rfl

@[simp] theorem Form.bool_bool (value : Bool) : Form.bool value (.bool value) := rfl

@[simp] theorem Form.int64_ofInt (value : Int64) : Form.int64 value (.ofInt value.toInt) := rfl

@[simp] theorem Form.uint32_ofInt (value : UInt32) : Form.uint32 value (.ofInt value.toNat) := rfl

/-- A list is written by writing its items. -/
theorem Form.list_map {Value : Type} {item : Form Value} {print : Value → Document}
    (writes : ∀ value, item value (print value)) (values : List Value) :
    Form.list item values (.array (values.map print)) :=
  ⟨_, rfl, List.forall₂_map_right_iff.mpr (List.forall₂_same.mpr fun value _ => writes value)⟩

/-! ## Forms of records -/

/-- What a record has in a field: the name of the field, the documents that write its value, and
whether it is the default of the field. -/
structure FieldForm where
  name : String
  writes : Document → Prop
  isDefault : Prop

namespace FieldForm

variable {Value : Type}

/-- A field without a default. -/
def required (name : String) (form : Form Value) (value : Value) : FieldForm :=
  ⟨name, form value, False⟩

/-- A field with a default. -/
def defaulting (name : String) (default : Value) (form : Form Value) (value : Value) : FieldForm :=
  ⟨name, form value, value = default⟩

@[simp] theorem required_name (name : String) (form : Form Value) (value : Value) :
    (required name form value).name = name := rfl

@[simp] theorem required_writes (name : String) (form : Form Value) (value : Value) :
    (required name form value).writes = form value := rfl

@[simp] theorem defaulting_name (name : String) (default : Value) (form : Form Value)
    (value : Value) : (defaulting name default form value).name = name := rfl

@[simp] theorem defaulting_writes (name : String) (default : Value) (form : Form Value)
    (value : Value) : (defaulting name default form value).writes = form value := rfl

/-- What may be given for a field: a document that writes its value, or nothing when that is the
default. -/
def Accepts (field : FieldForm) : Option Document → Prop
  | some document => field.writes document
  | none => field.isDefault

end FieldForm

/-- Members that write the fields of a record, in declaration order. -/
inductive WritesFields : List FieldForm → List (String × Document) → Prop where
  | nil : WritesFields [] []
  | given {field fields members} {document : Document} (writes : field.writes document)
      (others : WritesFields fields members) :
      WritesFields (field :: fields) ((field.name, document) :: members)
  | leftOut {field fields members} (isDefault : field.isDefault)
      (others : WritesFields fields members) : WritesFields (field :: fields) members

/-- A record is written as an object of its fields, in any order and beside unknown ones, or as the
array of its fields in declaration order. -/
inductive WritesRecord (fields : List FieldForm) : Document → Prop where
  | object {known unknown members} (writes : WritesFields fields known)
      (foreign : ∀ member ∈ unknown, member.1 ∉ fields.map FieldForm.name)
      (order : members.Perm (known ++ unknown)) : WritesRecord fields (.ofMembers members)
  | array {items} (writes : List.Forall₂ FieldForm.writes fields items) :
      WritesRecord fields (.array items)

/-- Members that write each field, one after the other. -/
theorem WritesFields.of_forall₂ {fields : List FieldForm} {members : List (String × Document)}
    (writes : List.Forall₂ (fun field member => member.1 = field.name ∧ field.writes member.2)
      fields members) : WritesFields fields members := by
  induction writes with
  | nil => exact .nil
  | @cons field member fields members first others ih =>
    obtain ⟨name, document⟩ := member
    obtain ⟨rfl, writes⟩ := first
    exact .given writes ih

/-- The object of all fields in declaration order. -/
theorem WritesRecord.of_forall₂ {fields : List FieldForm} {members : List (String × Document)}
    (writes : List.Forall₂ (fun field member => member.1 = field.name ∧ field.writes member.2)
      fields members) : WritesRecord fields (.ofMembers members) := by
  have order : members.Perm (members ++ []) := .of_eq (List.append_nil members).symm
  exact .object (.of_forall₂ writes) (by simp) order

/-! ## The documents given for the fields -/

/-- The members under a name. -/
def membersNamed (name : String) (members : List (String × Document)) :
    List (String × Document) :=
  members.filter fun member => member.1 = name

/-- A member of the name is among those of the name. -/
theorem membersNamed_cons_self (name : String) (document : Document)
    (members : List (String × Document)) :
    membersNamed name ((name, document) :: members)
      = (name, document) :: membersNamed name members := by
  simp [membersNamed]

/-- A member of another name is not among those of the name. -/
theorem membersNamed_cons_of_ne {name : String} {member : String × Document}
    (differs : member.1 ≠ name) (members : List (String × Document)) :
    membersNamed name (member :: members) = membersNamed name members := by
  simp [membersNamed, differs]

/-- Without a member of the name, there are none of the name. -/
theorem membersNamed_eq_nil {name : String} {members : List (String × Document)}
    (absent : ∀ member ∈ members, member.1 ≠ name) : membersNamed name members = [] :=
  List.filter_eq_nil_iff.mpr fun member mem => by simpa using absent member mem

/-- A document is given for a name when a member under it is the only one. -/
structure IsGiven (members : List (String × Document)) (name : String)
    (given : Option Document) : Prop where
  named : membersNamed name members = given.toList.map (Prod.mk name)

/-- How often a name stands for which a document is given, or none. -/
def occurrenceOf : Option Document → Decoder.Occurrence
  | none => .absent
  | some document => .once document

/-- What is given for a name is what occurs for it. -/
theorem IsGiven.occurrence_eq {members : List (String × Document)} {name : String}
    {given : Option Document} (isGiven : IsGiven members name given) :
    Decoder.occurrence name members = occurrenceOf given := by
  obtain ⟨named⟩ := isGiven
  induction members generalizing given with
  | nil =>
    cases given with
    | none => rfl
    | some document => cases named
  | cons member others ih =>
    obtain ⟨other, document⟩ := member
    by_cases same : other = name
    · subst same
      rw [membersNamed_cons_self] at named
      cases given with
      | none => cases named
      | some only =>
        obtain ⟨first, rest⟩ := List.cons.inj named
        cases first
        have absent : Decoder.occurrence other others = .absent := @ih none rest
        simp only [Decoder.occurrence, if_true, absent, occurrenceOf]
    · rw [membersNamed_cons_of_ne same] at named
      simp only [Decoder.occurrence, if_neg same, ih named]

/-- The document of the only member under a name. -/
def givenIn (members : List (String × Document)) (name : String) : Option Document :=
  (membersNamed name members).head?.map Prod.snd

/-- What is given for a name is what the members are found to give for it. -/
theorem IsGiven.eq_givenIn {members : List (String × Document)} {name : String}
    {given : Option Document} (isGiven : IsGiven members name given) :
    givenIn members name = given := by
  rw [givenIn, isGiven.named]
  cases given <;> rfl

/-- Members that are written for fields have their names. -/
theorem WritesFields.name_mem {fields : List FieldForm} {members : List (String × Document)}
    (writes : WritesFields fields members) :
    ∀ member ∈ members, member.1 ∈ fields.map FieldForm.name := by
  induction writes with
  | nil => simp
  | given _ _ ih =>
    intro member mem
    rcases List.mem_cons.mp mem with rfl | mem
    · exact List.mem_cons_self ..
    · exact List.mem_cons_of_mem _ (ih member mem)
  | leftOut _ _ ih => exact fun member mem => List.mem_cons_of_mem _ (ih member mem)

/-- Each field of a record is given as the record has it. -/
theorem WritesFields.isGiven {fields : List FieldForm} {members : List (String × Document)}
    (writes : WritesFields fields members) (distinct : (fields.map FieldForm.name).Nodup) :
    ∀ field ∈ fields, ∃ given, field.Accepts given ∧ IsGiven members field.name given := by
  induction writes with
  | nil => simp
  | @given field fields members document writes others ih =>
    obtain ⟨fresh, distinct⟩ := List.nodup_cons.mp distinct
    intro picked mem
    rcases List.mem_cons.mp mem with rfl | mem
    · refine ⟨some document, writes, ⟨?_⟩⟩
      rw [membersNamed_cons_self, membersNamed_eq_nil]
      · rfl
      · rintro member mem same
        exact fresh (same ▸ others.name_mem member mem)
    · have differs : field.name ≠ picked.name := fun same =>
        fresh (same ▸ List.mem_map_of_mem mem)
      obtain ⟨given, accepts, ⟨named⟩⟩ := ih distinct picked mem
      exact ⟨given, accepts, ⟨(membersNamed_cons_of_ne differs _).trans named⟩⟩
  | @leftOut field fields members isDefault others ih =>
    obtain ⟨fresh, distinct⟩ := List.nodup_cons.mp distinct
    intro picked mem
    rcases List.mem_cons.mp mem with rfl | mem
    · refine ⟨none, isDefault, ⟨membersNamed_eq_nil ?_⟩⟩
      rintro member mem same
      exact fresh (same ▸ others.name_mem member mem)
    · exact ih distinct picked mem

/-- Neither the order of the members nor unknown ones matter to what is given. -/
theorem IsGiven.of_perm {known unknown members : List (String × Document)} {name : String}
    {given : Option Document} (isGiven : IsGiven known name given)
    (foreign : ∀ member ∈ unknown, member.1 ≠ name)
    (order : members.Perm (known ++ unknown)) : IsGiven members name given where
  named := by
    have same : (membersNamed name members).Perm (given.toList.map (Prod.mk name)) := by
      rw [← isGiven.named]
      refine (order.filter _).trans (.of_eq ?_)
      rw [List.filter_append]
      exact (congrArg _ (membersNamed_eq_nil foreign)).trans (List.append_nil _)
    cases given with
    | none => exact List.perm_nil.mp same
    | some document => exact List.perm_singleton.mp same

/-- Distinct names can be given any documents. -/
theorem exists_map_eq {names : List String} (distinct : names.Nodup)
    {given : List (Option Document)} (all : names.length = given.length) :
    ∃ look : String → Option Document, names.map look = given := by
  induction names generalizing given with
  | nil => exact ⟨fun _ => none, (List.length_eq_zero_iff.mp all.symm).symm⟩
  | cons name names ih =>
    obtain ⟨fresh, distinct⟩ := List.nodup_cons.mp distinct
    obtain ⟨first, others, rfl⟩ := List.exists_cons_of_length_eq_add_one all.symm
    obtain ⟨look, rfl⟩ := ih distinct (Nat.succ.inj all)
    refine ⟨fun other => if other = name then first else look other, ?_⟩
    rw [List.map_cons, if_pos rfl]
    refine congrArg _ (List.map_congr_left fun other mem => if_neg ?_)
    rintro rfl
    exact fresh mem

/-- What is given for each name is found for it. -/
theorem namedFields?_eq {names : List String} {members : List (String × Document)}
    {look : String → Option Document} (isGiven : ∀ name ∈ names, IsGiven members name (look name)) :
    Decoder.namedFields? names members = some (names.map look) := by
  induction names with
  | nil => rfl
  | cons name names ih =>
    obtain ⟨first, others⟩ := List.forall_mem_cons.mp isGiven
    have rest := ih others
    rw [Decoder.namedFields?] at rest ⊢
    rw [List.mapM_cons, rest, first.occurrence_eq, List.map_cons]
    cases look name <;> rfl

/-- A record is read from the documents that its fields are given as. -/
theorem fields?_of_writesRecord {fields : List FieldForm} {document : Document}
    (writes : WritesRecord fields document) (distinct : (fields.map FieldForm.name).Nodup) :
    ∃ look : String → Option Document, (∀ field ∈ fields, field.Accepts (look field.name)) ∧
      Decoder.fields? (fields.map FieldForm.name) document
        = some ((fields.map FieldForm.name).map look) := by
  cases writes with
  | @object known unknown members writes foreign order =>
    have isGiven : ∀ field ∈ fields, field.Accepts (givenIn members field.name) ∧
        IsGiven members field.name (givenIn members field.name) := by
      intro field mem
      obtain ⟨given, accepts, isGiven⟩ := writes.isGiven distinct field mem
      have isGiven := isGiven.of_perm (fun member inside same =>
        foreign member inside (same ▸ List.mem_map_of_mem mem)) order
      rw [isGiven.eq_givenIn]
      exact ⟨accepts, isGiven⟩
    refine ⟨givenIn members, fun field mem => (isGiven field mem).1, ?_⟩
    simp only [Decoder.fields?, Document.ofMembers, Decoder.textMembers?_text]
    refine namedFields?_eq fun name mem => ?_
    obtain ⟨field, inside, rfl⟩ := List.mem_map.mp mem
    exact (isGiven field inside).2
  | @array items writes =>
    have all : fields.length = items.length := writes.length_eq
    have paired : (fields.map FieldForm.name).length = (items.map some).length := by simp [all]
    obtain ⟨look, given⟩ := exists_map_eq distinct paired
    refine ⟨look, ?_, ?_⟩
    · have accepted : List.Forall₂ FieldForm.Accepts fields (items.map some) :=
        List.forall₂_map_right_iff.mpr writes
      rw [← given, List.map_map] at accepted
      exact List.forall₂_same.mp (List.forall₂_map_right_iff.mp accepted)
    · rw [given]
      simp [Decoder.fields?, all]

/-! ## Decoders of forms -/

namespace Decoder

variable {Value : Type}

/-- A decoder reads every document that writes a value as that value; they nest `levels` arrays and
objects, apart from those in unknown fields. -/
def ReadsForms (decoder : Decoder Value) (form : Form Value) (levels : Nat) : Prop :=
  ∀ value document depth, form value document → levels ≤ depth →
    decoder depth document = some value

theorem readsForms_string : ReadsForms string Form.string 0 := by
  rintro value _ depth rfl room
  exact readsBack_string value depth room

theorem readsForms_bool : ReadsForms bool Form.bool 0 := by
  rintro value _ depth rfl room
  exact readsBack_bool value depth room

theorem readsForms_int64 : ReadsForms int64 Form.int64 0 := by
  rintro value _ depth rfl room
  exact readsBack_int64 value depth room

theorem readsForms_uint32 : ReadsForms uint32 Form.uint32 0 := by
  rintro value _ depth rfl room
  exact readsBack_uint32 value depth room

namespace ReadsForms

variable {decoder : Decoder Value} {form : Form Value} {levels : Nat}

/-- Every form of a list is read, a level below its items. -/
theorem list (reads : ReadsForms decoder form levels) :
    ReadsForms (Decoder.list decoder) (Form.list form) (levels + 1) := by
  rintro values _ depth ⟨items, rfl, written⟩ room
  obtain ⟨depth, rfl⟩ : ∃ below, depth = below + 1 := ⟨depth - 1, by omega⟩
  rw [Decoder.list]
  induction written with
  | nil => rfl
  | cons first others ih => simp [List.mapM_cons, reads _ _ depth first (by omega), ih]

/-- What is written for a required field is read. -/
theorem required (reads : ReadsForms decoder form levels) {depth : Nat} (room : levels ≤ depth)
    {name : String} {value : Value} {look : String → Option Document}
    (accepts : (FieldForm.required name form value).Accepts (look name)) :
    Decoder.required decoder depth (look name) = some value := by
  cases given : look name with
  | none =>
    rw [given] at accepts
    exact accepts.elim
  | some document =>
    rw [given] at accepts
    exact reads value document depth accepts room

/-- What is written for a field with a default is read, and its absence as the default. -/
theorem defaulting (reads : ReadsForms decoder form levels) {depth : Nat} (room : levels ≤ depth)
    {name : String} {default value : Value} {look : String → Option Document}
    (accepts : (FieldForm.defaulting name default form value).Accepts (look name)) :
    Decoder.defaulting default decoder depth (look name) = some value := by
  cases given : look name with
  | none =>
    rw [given] at accepts
    exact congrArg some accepts.symm
  | some document =>
    rw [given] at accepts
    exact reads value document depth accepts room

/-- A decoder of records reads their forms when it builds a record from whatever its fields are
given as. -/
theorem record {names : List String} {build : Nat → List (Option Document) → Option Value}
    {fields : Value → List FieldForm} (distinct : names.Nodup)
    (named : ∀ value, (fields value).map FieldForm.name = names)
    (builds : ∀ value depth (look : String → Option Document), levels ≤ depth →
      (∀ field ∈ fields value, field.Accepts (look field.name)) →
      build depth (names.map look) = some value) :
    ReadsForms (Decoder.record names build) (fun value => WritesRecord (fields value))
      (levels + 1) := by
  intro value document depth writes room
  obtain ⟨depth, rfl⟩ : ∃ below, depth = below + 1 := ⟨depth - 1, by omega⟩
  obtain ⟨look, accepted, given⟩ := fields?_of_writesRecord writes (by rw [named]; exact distinct)
  rw [named] at given
  simp only [Decoder.record, given]
  exact builds value depth look (by omega) accepted

/-- A printer that writes a form is read back. -/
theorem readsBack (reads : ReadsForms decoder form levels) {print : Value → Document}
    (writes : ∀ value, form value (print value)) : ReadsBack decoder print levels :=
  fun value depth room => reads value _ depth (writes value) room

/-- A text of a form is read as the value. -/
theorem readText (reads : ReadsForms decoder form levels) (room : levels ≤ depthLimit)
    {value : Value} {document : Document} (writes : form value document) {text : String}
    (read : read? text = some document) : decoder.readText text = some value := by
  rw [Decoder.readText, read]
  exact reads value document depthLimit writes room

end ReadsForms

end Decoder

end ConfigDelivery.Json
