import ConfigDelivery.Proofs.Json.Forms
import ConfigDelivery.Record.Codec
/-!
# The forms of records

What each record has in its fields, under their names in JSON and with their defaults, and that its
decoder reads every form that these fields may be written in. The records inside a record may be
written in any of their forms too.
-/

namespace ConfigDelivery

open Json (FieldForm Form WritesRecord)
open Json.Decoder (ReadsForms readsForms_bool readsForms_int64 readsForms_string readsForms_uint32)
open Json.FieldForm (defaulting required)

namespace RequestMeta

/-- The fields of a client's account of its device. -/
def fields (record : RequestMeta) : List FieldForm := [
  defaulting "version" 0 .int64 record.version,
  defaulting "platform" "" .string record.platform,
  defaulting "device_id" "" .string record.deviceId]

/-- The forms of a client's account of its device. -/
def form : Form RequestMeta := fun record => WritesRecord record.fields

theorem readsForms : ReadsForms decoder form 1 := by
  refine ReadsForms.record (by decide) (fun _ => rfl) ?_
  intro record depth look room accepted
  simp only [fields, List.forall_mem_cons] at accepted
  obtain ⟨version, platform, deviceId, -⟩ := accepted
  simp only [fieldNames, List.map_cons, List.map_nil, readsForms_int64.defaulting room version,
    readsForms_string.defaulting room platform, readsForms_string.defaulting room deviceId]
  rfl

end RequestMeta

namespace Config

/-- The fields of a configuration. -/
def fields (record : Config) : List FieldForm := [
  required "config_id" .string record.configId,
  required "released_code" .string record.releasedCode,
  defaulting "test_code" "" .string record.testCode,
  defaulting "gray_release_code" "" .string record.grayReleaseCode,
  defaulting "percentage" 0 .uint32 record.percentage,
  required "status" .string record.status,
  defaulting "secret" "" .string record.secret]

/-- The forms of a configuration. -/
def form : Form Config := fun record => WritesRecord record.fields

theorem readsForms : ReadsForms decoder form 1 := by
  refine ReadsForms.record (by decide) (fun _ => rfl) ?_
  intro record depth look room accepted
  simp only [fields, List.forall_mem_cons] at accepted
  obtain ⟨configId, releasedCode, testCode, grayReleaseCode, percentage, status, secret, -⟩ :=
    accepted
  simp only [fieldNames, List.map_cons, List.map_nil, readsForms_string.required room configId,
    readsForms_string.required room releasedCode, readsForms_string.defaulting room testCode,
    readsForms_string.defaulting room grayReleaseCode,
    readsForms_uint32.defaulting room percentage, readsForms_string.required room status,
    readsForms_string.defaulting room secret]
  rfl

end Config

namespace Rule

/-- The fields of a comparison. -/
def fields (record : Rule) : List FieldForm := [
  required "field" .string record.field,
  required "compare" .string record.compare,
  required "value" .string record.value]

/-- The forms of a comparison. -/
def form : Form Rule := fun record => WritesRecord record.fields

theorem readsForms : ReadsForms decoder form 1 := by
  refine ReadsForms.record (by decide) (fun _ => rfl) ?_
  intro record depth look room accepted
  simp only [fields, List.forall_mem_cons] at accepted
  obtain ⟨field, compare, value, -⟩ := accepted
  simp only [fieldNames, List.map_cons, List.map_nil, readsForms_string.required room field,
    readsForms_string.required room compare, readsForms_string.required room value]
  rfl

end Rule

namespace PlatformRule

/-- The fields of the alternatives of a platform. -/
def fields (record : PlatformRule) : List FieldForm := [
  required "platform" .string record.platform,
  defaulting "rules" [] (.list (.list Rule.form)) record.rules]

/-- The forms of the alternatives of a platform. -/
def form : Form PlatformRule := fun record => WritesRecord record.fields

theorem readsForms : ReadsForms decoder form 4 := by
  refine ReadsForms.record (by decide) (fun _ => rfl) ?_
  intro record depth look room accepted
  simp only [fields, List.forall_mem_cons] at accepted
  obtain ⟨platform, rules, -⟩ := accepted
  simp only [fieldNames, List.map_cons, List.map_nil,
    readsForms_string.required (Nat.zero_le _) platform,
    Rule.readsForms.list.list.defaulting room rules]
  rfl

end PlatformRule

namespace ParamSpec

/-- The fields of a declared parameter. -/
def fields (record : ParamSpec) : List FieldForm := [
  required "name" .string record.name,
  required "type" .string record.type]

/-- The forms of a declared parameter. -/
def form : Form ParamSpec := fun record => WritesRecord record.fields

theorem readsForms : ReadsForms decoder form 1 := by
  refine ReadsForms.record (by decide) (fun _ => rfl) ?_
  intro record depth look room accepted
  simp only [fields, List.forall_mem_cons] at accepted
  obtain ⟨name, type, -⟩ := accepted
  simp only [fieldNames, List.map_cons, List.map_nil, readsForms_string.required room name,
    readsForms_string.required room type]
  rfl

end ParamSpec

namespace Code

/-- The fields of a code version. -/
def fields (record : Code) : List FieldForm := [
  required "code_id" .string record.codeId,
  required "lang" .string record.lang,
  defaulting "rules" [] (.list PlatformRule.form) record.rules,
  defaulting "params" [] (.list ParamSpec.form) record.params,
  required "content" .string record.content,
  defaulting "is_broken" false .bool record.isBroken,
  defaulting "error_count" 0 .uint32 record.errorCount]

/-- The forms of a code version. -/
def form : Form Code := fun record => WritesRecord record.fields

theorem readsForms : ReadsForms decoder form 6 := by
  refine ReadsForms.record (by decide) (fun _ => rfl) ?_
  intro record depth look room accepted
  simp only [fields, List.forall_mem_cons] at accepted
  obtain ⟨codeId, lang, rules, params, content, isBroken, errorCount, -⟩ := accepted
  have plain : 0 ≤ depth := Nat.zero_le _
  simp only [fieldNames, List.map_cons, List.map_nil, readsForms_string.required plain codeId,
    readsForms_string.required plain lang, PlatformRule.readsForms.list.defaulting room rules,
    ParamSpec.readsForms.list.defaulting (by omega : 2 ≤ depth) params,
    readsForms_string.required plain content, readsForms_bool.defaulting plain isBroken,
    readsForms_uint32.defaulting plain errorCount]
  rfl

end Code

namespace TestCase

/-- The fields of a unit test. -/
def fields (record : TestCase) : List FieldForm := [
  required "test_id" .string record.testId,
  required "input" .string record.input,
  required "output" .string record.output,
  required "code_id" .string record.codeId]

/-- The forms of a unit test. -/
def form : Form TestCase := fun record => WritesRecord record.fields

theorem readsForms : ReadsForms decoder form 1 := by
  refine ReadsForms.record (by decide) (fun _ => rfl) ?_
  intro record depth look room accepted
  simp only [fields, List.forall_mem_cons] at accepted
  obtain ⟨testId, input, output, codeId, -⟩ := accepted
  simp only [fieldNames, List.map_cons, List.map_nil, readsForms_string.required room testId,
    readsForms_string.required room input, readsForms_string.required room output,
    readsForms_string.required room codeId]
  rfl

end TestCase

namespace ErrorReport

/-- The fields of an error report. -/
def fields (record : ErrorReport) : List FieldForm := [
  defaulting "err_time" 0 .int64 record.time,
  defaulting "message" "" .string record.message]

/-- The forms of an error report. -/
def form : Form ErrorReport := fun record => WritesRecord record.fields

theorem readsForms : ReadsForms decoder form 1 := by
  refine ReadsForms.record (by decide) (fun _ => rfl) ?_
  intro record depth look room accepted
  simp only [fields, List.forall_mem_cons] at accepted
  obtain ⟨time, message, -⟩ := accepted
  simp only [fieldNames, List.map_cons, List.map_nil, readsForms_int64.defaulting room time,
    readsForms_string.defaulting room message]
  rfl

end ErrorReport

end ConfigDelivery
