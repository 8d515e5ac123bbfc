import ConfigDelivery.Proofs.Record.Forms
/-!
# Stored record texts

The text that a configuration or a code version is kept as reads back as that very record. Records
nest at most six arrays and objects, so the depth limit of the reader is out of their reach.
-/

namespace ConfigDelivery

open Json (Decoder Document Form)
open Json.Decoder (ReadsBack)

/-! ## The documents of records are forms of them -/

theorem RequestMeta.form_document (record : RequestMeta) : form record record.document :=
  .of_forall₂ (by simp [fields])

theorem Config.form_document (record : Config) : form record record.document :=
  .of_forall₂ (by simp [fields])

theorem Rule.form_document (record : Rule) : form record record.document :=
  .of_forall₂ (by simp [fields])

theorem PlatformRule.form_document (record : PlatformRule) : form record record.document := by
  have rules := Form.list_map (Form.list_map Rule.form_document) record.rules
  exact .of_forall₂ (by simp [fields, rules])

theorem ParamSpec.form_document (record : ParamSpec) : form record record.document :=
  .of_forall₂ (by simp [fields])

theorem Code.form_rulesDocument (rules : List PlatformRule) :
    Form.list PlatformRule.form rules (rulesDocument rules) :=
  Form.list_map PlatformRule.form_document rules

theorem Code.form_paramsDocument (params : List ParamSpec) :
    Form.list ParamSpec.form params (paramsDocument params) :=
  Form.list_map ParamSpec.form_document params

theorem Code.form_document (record : Code) : form record record.document :=
  .of_forall₂ (by simp [fields, form_rulesDocument, form_paramsDocument])

theorem TestCase.form_document (record : TestCase) : form record record.document :=
  .of_forall₂ (by simp [fields])

theorem ErrorReport.form_document (record : ErrorReport) : form record record.document :=
  .of_forall₂ (by simp [fields])

/-- A configuration is decoded as it was printed. -/
theorem Config.readsBack : ReadsBack Config.decoder Config.document 1 :=
  readsForms.readsBack form_document

/-- A code version is decoded as it was printed. -/
theorem Code.readsBack : ReadsBack Code.decoder Code.document 6 :=
  readsForms.readsBack form_document

/-- Rules are decoded as they were printed. -/
theorem Code.readsBack_rules : ReadsBack (.list PlatformRule.decoder) rulesDocument 5 :=
  PlatformRule.readsForms.list.readsBack form_rulesDocument

/-- Declarations are decoded as they were printed. -/
theorem Code.readsBack_params : ReadsBack (.list ParamSpec.decoder) paramsDocument 2 :=
  ParamSpec.readsForms.list.readsBack form_paramsDocument

/-! ## The documents of records are written ones -/

/-- Members that can be written are an object that can be. -/
theorem Json.Document.isWritten_ofMembers {members : List (String × Document)}
    (written : ∀ member ∈ members, member.2.IsWritten) :
    (Document.ofMembers members).IsWritten := by
  refine .object fun member mem => ?_
  obtain ⟨⟨name, document⟩, inside, rfl⟩ := List.mem_map.mp mem
  exact written (name, document) inside

/-- An array can be written if its items can be. -/
theorem Json.Document.isWritten_array_iff (items : List Document) :
    (Document.array items).IsWritten ↔ ∀ item ∈ items, item.IsWritten := by
  refine ⟨fun written => ?_, .array⟩
  cases written with
  | array written => exact written

/-- Records whose documents can be written are an array that can be. -/
theorem Json.Document.isWritten_map {Record : Type} {document : Record → Document}
    (written : ∀ record, (document record).IsWritten) (records : List Record) :
    (Document.array (records.map document)).IsWritten := by
  refine .array fun item mem => ?_
  obtain ⟨record, _, rfl⟩ := List.mem_map.mp mem
  exact written record

@[simp] theorem Json.Document.isWritten_ofString (text : String) :
    (Document.ofString text).IsWritten :=
  .string _

@[simp] theorem Json.Document.isWritten_ofInt (value : Int) : (Document.ofInt value).IsWritten :=
  .number (Json.Numeral.isWritten_ofInt value)

@[simp] theorem Json.Document.isWritten_bool (value : Bool) : (Document.bool value).IsWritten :=
  .bool value

theorem RequestMeta.document_isWritten (record : RequestMeta) : record.document.IsWritten :=
  Document.isWritten_ofMembers (by simp)

theorem Config.document_isWritten (record : Config) : record.document.IsWritten :=
  Document.isWritten_ofMembers (by simp)

theorem Rule.document_isWritten (record : Rule) : record.document.IsWritten :=
  Document.isWritten_ofMembers (by simp)

theorem PlatformRule.document_isWritten (record : PlatformRule) : record.document.IsWritten := by
  have rules := Document.isWritten_map (Document.isWritten_map Rule.document_isWritten) record.rules
  exact Document.isWritten_ofMembers (by simp [rules])

theorem ParamSpec.document_isWritten (record : ParamSpec) : record.document.IsWritten :=
  Document.isWritten_ofMembers (by simp)

theorem Code.rulesDocument_isWritten (rules : List PlatformRule) :
    (rulesDocument rules).IsWritten :=
  Document.isWritten_map PlatformRule.document_isWritten rules

theorem Code.paramsDocument_isWritten (params : List ParamSpec) :
    (paramsDocument params).IsWritten :=
  Document.isWritten_map ParamSpec.document_isWritten params

theorem Code.document_isWritten (record : Code) : record.document.IsWritten :=
  Document.isWritten_ofMembers (by simp [rulesDocument_isWritten, paramsDocument_isWritten])

theorem TestCase.document_isWritten (record : TestCase) : record.document.IsWritten :=
  Document.isWritten_ofMembers (by simp)

theorem ErrorReport.document_isWritten (record : ErrorReport) : record.document.IsWritten :=
  Document.isWritten_ofMembers (by simp)

/-- A configuration is read back from the text that it is kept as. -/
theorem Config.readText_render (record : Config) :
    Config.decoder.readText record.document.render = some record :=
  Config.readsBack.readText_render (by decide) Config.document_isWritten record

/-- A code version is read back from the text that it is kept as. -/
theorem Code.readText_render (record : Code) :
    Code.decoder.readText record.document.render = some record :=
  Code.readsBack.readText_render (by decide) Code.document_isWritten record

/-- Rules are read back from the text of their column. -/
theorem Code.readText_rules (rules : List PlatformRule) :
    (Decoder.list PlatformRule.decoder).readText (rulesDocument rules).render = some rules :=
  readsBack_rules.readText_render (by decide) rulesDocument_isWritten rules

/-- Declared parameters are read back from the text of their column. -/
theorem Code.readText_params (params : List ParamSpec) :
    (Decoder.list ParamSpec.decoder).readText (paramsDocument params).render = some params :=
  readsBack_params.readText_render (by decide) paramsDocument_isWritten params

end ConfigDelivery
