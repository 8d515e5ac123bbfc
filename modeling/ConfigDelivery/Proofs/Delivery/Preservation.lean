import ConfigDelivery.Proofs.Delivery.Loading
import ConfigDelivery.Proofs.Record.RoundTrip
import ConfigDelivery.Proofs.Store.Laws
/-!
# Records survive their texts

A record that is written as a text and read again is that record, whichever of its forms the text
has. So it is for the texts that a look-up keeps in the cache of record texts, and for the columns
of rules and parameters in the table of code versions.
-/

namespace ConfigDelivery

open Cache (RecordCacheOps)
open Json (Decoder Document Form WritesFields)

/-- The texts of a kind of record lose nothing of it. -/
structure LosesNothing {Record : Type} (decoder : Decoder Record) (document : Record → Document)
    (form : Form Record) : Prop where
  /-- The compact text is read as the record that it was written for. -/
  compact : ∀ record, decoder.readText (document record).render = some record
  /-- Every text of a form of the record is read as the record. -/
  anyText : ∀ {record written text}, form record written → Json.read? text = some written →
    decoder.readText text = some record
  /-- The compact text of a form is such a text. -/
  printed : ∀ {record written}, form record written → written.IsWritten →
    decoder.readText written.render = some record

/-- A decoder that reads every form of a record reads back what is written of it. -/
theorem LosesNothing.of_readsForms {Record : Type} {decoder : Decoder Record}
    {document : Record → Document} {form : Form Record} {levels : Nat}
    (reads : Decoder.ReadsForms decoder form levels) (room : levels ≤ Json.depthLimit)
    (writes : ∀ record, form record (document record))
    (written : ∀ record, (document record).IsWritten) : LosesNothing decoder document form where
  compact record := reads.readText room (writes record) (Json.read?_render (written record))
  anyText writes read := reads.readText room writes read
  printed writes written := reads.readText room writes (Json.read?_render written)

namespace Delivery

variable {Stored Kept Engines Record : Type}

/-- A record that a look-up reads from the store is kept as a text that later look-ups read as that
record, whenever the cache answers it. -/
structure Components.KeepsReadable (components : Components Stored Kept Engines)
    (kind : RecordKind Stored Record) : Prop where
  reads : ∀ {records : RecordCacheOps Kept} {cached : Bool} {id : String}
    {world : World Stored Kept Engines} {record : Record},
    components.records = some records →
    kind.fetch world.stored id = .ok (some record) →
    (cached = true →
      readKept kind.decoder (records.get world.kept world.now (kind.key id)).1 = none) →
    ∃ seen text,
      components.loadRecord kind cached id world
        = (.ok (some record), { world with
            kept := (records.set seen world.now (kind.key id) text
              components.settings.recordTimeToLive).2 }) ∧
      ∀ later : World Stored Kept Engines,
        (records.get later.kept later.now (kind.key id)).1 = .ok (some text) →
        (components.loadRecord kind true id later).1 = .ok (some record)

/-- A record that is read back from its compact text can be read where it is kept. -/
theorem Components.keepsReadable (components : Components Stored Kept Engines)
    (kind : RecordKind Stored Record)
    (compact : ∀ record, kind.decoder.readText (kind.document record).render = some record) :
    components.KeepsReadable kind := by
  constructor
  intro records cached id world record caching fetched unread
  have later (later : World Stored Kept Engines)
      (answered : (records.get later.kept later.now (kind.key id)).1
        = .ok (some (kind.document record).render)) :
      (components.loadRecord kind true id later).1 = .ok (some record) := by
    rw [components.loadRecord_of_cached kind id later caching]
    simp only [answered, readKept, compact]
  have fetch (kept : Kept) :
      components.fetchRecord kind id { world with kept }
        = (.ok (some record), { world with
            kept := (records.set kept world.now (kind.key id) (kind.document record).render
              components.settings.recordTimeToLive).2 }) := by
    rw [components.fetchRecord_eq]
    simp only [refreshed, caching, fetched]
  cases cached with
  | false =>
    refine ⟨world.kept, _, ?_, later⟩
    rw [components.loadRecord_of_uncached kind id world (.inl rfl)]
    exact fetch world.kept
  | true =>
    refine ⟨(records.get world.kept world.now (kind.key id)).2, _, ?_, later⟩
    rw [components.loadRecord_of_cached kind id world caching]
    simp only [unread rfl]
    exact fetch _

end Delivery

/-- Every record is read back from its compact text, and from the texts of all its other forms. So
look-ups keep records of the store readably, and a code version comes back from its row with its
rules and parameters. -/
theorem records_survive :
    LosesNothing RequestMeta.decoder RequestMeta.document RequestMeta.form ∧
    LosesNothing Config.decoder Config.document Config.form ∧
    LosesNothing Code.decoder Code.document Code.form ∧
    LosesNothing TestCase.decoder TestCase.document TestCase.form ∧
    LosesNothing ErrorReport.decoder ErrorReport.document ErrorReport.form ∧
    (∀ {Stored Kept Engines : Type} (components : Delivery.Components Stored Kept Engines),
      components.KeepsReadable components.configs ∧
      components.KeepsReadable components.codes) ∧
    ∀ (tables : Store.Tables) (code : Code), ∃ row,
      (tables.putCode code).codeRow? code.codeId = some row ∧
      (Decoder.list PlatformRule.decoder).readText row.rules = some code.rules ∧
      (Decoder.list ParamSpec.decoder).readText row.params = some code.params ∧
      (tables.putCode code).getCode code.codeId = .ok (some code) := by
  refine ⟨?_, ?_, ?_, ?_, ?_, ?_, ?_⟩
  · exact .of_readsForms RequestMeta.readsForms (by decide) RequestMeta.form_document
      RequestMeta.document_isWritten
  · exact .of_readsForms Config.readsForms (by decide) Config.form_document
      Config.document_isWritten
  · exact .of_readsForms Code.readsForms (by decide) Code.form_document Code.document_isWritten
  · exact .of_readsForms TestCase.readsForms (by decide) TestCase.form_document
      TestCase.document_isWritten
  · exact .of_readsForms ErrorReport.readsForms (by decide) ErrorReport.form_document
      ErrorReport.document_isWritten
  · intro Stored Kept Engines components
    exact ⟨components.keepsReadable components.configs Config.readText_render,
      components.keepsReadable components.codes Code.readText_render⟩
  · intro tables code
    obtain ⟨rowId, written⟩ := tables.codeRow?_putCode code
    refine ⟨.ofCode rowId code, (written code.codeId).trans (if_pos rfl),
      Code.readText_rules code.rules, Code.readText_params code.params, ?_⟩
    rw [tables.getCode_putCode, if_pos rfl]

/-! ## A code version in an unusual form -/

namespace UnusualCode

/-- A code version for newer devices of one platform. -/
def code : Code :=
  { codeId := "next", lang := "starlark", content := "return 1",
    rules := [⟨"ios", [[⟨"version", "ge", "3"⟩]]⟩] }

/-- Its rules, with arrays in place of objects. -/
def rules : Document :=
  .array [.array [.ofString "ios",
    .array [.array [.array [.ofString "version", .ofString "ge", .ofString "3"]]]]]

/-- Its fields without those that have their default. -/
def known : List (String × Document) := [
  ("code_id", .ofString "next"),
  ("lang", .ofString "starlark"),
  ("rules", rules),
  ("content", .ofString "return 1")]

/-- A field that code versions do not have. -/
def unknown : String × Document := ("revision", .ofInt 15)

/-- All of these in another order. -/
def written : Document := .ofMembers (unknown :: known.reverse)

theorem rules_written : Form.list PlatformRule.form code.rules rules := by
  have rule : Rule.form ⟨"version", "ge", "3"⟩
      (.array [.ofString "version", .ofString "ge", .ofString "3"]) :=
    .array (.cons rfl (.cons rfl (.cons rfl .nil)))
  have alternatives : Form.list (Form.list Rule.form) [[⟨"version", "ge", "3"⟩]]
      (.array [.array [.array [.ofString "version", .ofString "ge", .ofString "3"]]]) :=
    ⟨_, rfl, .cons ⟨_, rfl, .cons rule .nil⟩ .nil⟩
  exact ⟨_, rfl, .cons (.array (.cons rfl (.cons alternatives .nil))) .nil⟩

theorem known_written : WritesFields code.fields known :=
  .given rfl (.given rfl (.given rules_written (.leftOut rfl (.given rfl (.leftOut rfl
    (.leftOut rfl .nil))))))

theorem form_written : Code.form code written := by
  have order : (unknown :: known.reverse).Perm (known ++ [unknown]) :=
    (known.reverse_perm.cons unknown).trans (List.perm_append_singleton unknown known).symm
  refine .object known_written ?_ order
  rintro member mem
  rw [List.mem_singleton.mp mem]
  decide

theorem written_isWritten : written.IsWritten :=
  Document.isWritten_ofMembers (by simp [known, unknown, rules, Document.isWritten_array_iff])

/-- The code version is read from the text of that. -/
theorem records_survive_unusual :
    Code.form code written ∧ written.IsWritten ∧
    Code.decoder.readText written.render = some code :=
  ⟨form_written, written_isWritten, records_survive.2.2.1.printed form_written written_isWritten⟩

end UnusualCode

end ConfigDelivery
