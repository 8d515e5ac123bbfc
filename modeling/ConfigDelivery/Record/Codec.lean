import ConfigDelivery.Json.Decode
import ConfigDelivery.Record.Basic
/-!
# Records as JSON

Every record is written as an object of all its fields in declaration order.
It is read from such an object in any order, with unknown fields ignored, or
from an array; a field that has a default may be left out.
-/

namespace ConfigDelivery

open Json (Decoder Document)
open Json.Decoder (required defaulting)

namespace RequestMeta

/-- The field names in declaration order. -/
def fieldNames : List String := ["version", "platform", "device_id"]

/-- Read a client's account of its device. -/
def decoder : Decoder RequestMeta := Decoder.record fieldNames fun depth fields =>
  match fields with
  | [version, platform, deviceId] => do
    return {
      version := ← defaulting 0 Decoder.int64 depth version
      platform := ← defaulting "" Decoder.string depth platform
      deviceId := ← defaulting "" Decoder.string depth deviceId }
  | _ => none

/-- The document of a client's account of its device. -/
def document (record : RequestMeta) : Document := .ofMembers [
  ("version", .ofInt record.version.toInt),
  ("platform", .ofString record.platform),
  ("device_id", .ofString record.deviceId)]

end RequestMeta

namespace Config

/-- The field names in declaration order. -/
def fieldNames : List String :=
  ["config_id", "released_code", "test_code", "gray_release_code", "percentage", "status", "secret"]

/-- Read a configuration. -/
def decoder : Decoder Config := Decoder.record fieldNames fun depth fields =>
  match fields with
  | [configId, releasedCode, testCode, grayReleaseCode, percentage, status, secret] => do
    return {
      configId := ← required Decoder.string depth configId
      releasedCode := ← required Decoder.string depth releasedCode
      testCode := ← defaulting "" Decoder.string depth testCode
      grayReleaseCode := ← defaulting "" Decoder.string depth grayReleaseCode
      percentage := ← defaulting 0 Decoder.uint32 depth percentage
      status := ← required Decoder.string depth status
      secret := ← defaulting "" Decoder.string depth secret }
  | _ => none

/-- The document of a configuration. -/
def document (record : Config) : Document := .ofMembers [
  ("config_id", .ofString record.configId),
  ("released_code", .ofString record.releasedCode),
  ("test_code", .ofString record.testCode),
  ("gray_release_code", .ofString record.grayReleaseCode),
  ("percentage", .ofInt record.percentage.toNat),
  ("status", .ofString record.status),
  ("secret", .ofString record.secret)]

end Config

namespace Rule

/-- The field names in declaration order. -/
def fieldNames : List String := ["field", "compare", "value"]

/-- Read a comparison. -/
def decoder : Decoder Rule := Decoder.record fieldNames fun depth fields =>
  match fields with
  | [field, compare, value] => do
    return {
      field := ← required Decoder.string depth field
      compare := ← required Decoder.string depth compare
      value := ← required Decoder.string depth value }
  | _ => none

/-- The document of a comparison. -/
def document (record : Rule) : Document := .ofMembers [
  ("field", .ofString record.field),
  ("compare", .ofString record.compare),
  ("value", .ofString record.value)]

end Rule

namespace PlatformRule

/-- The field names in declaration order. -/
def fieldNames : List String := ["platform", "rules"]

/-- Read the alternatives of a platform. -/
def decoder : Decoder PlatformRule := Decoder.record fieldNames fun depth fields =>
  match fields with
  | [platform, rules] => do
    return {
      platform := ← required Decoder.string depth platform
      rules := ← defaulting [] (Decoder.list (Decoder.list Rule.decoder)) depth rules }
  | _ => none

/-- The document of the alternatives of a platform. -/
def document (record : PlatformRule) : Document := .ofMembers [
  ("platform", .ofString record.platform),
  ("rules", .array (record.rules.map fun rules => .array (rules.map Rule.document)))]

end PlatformRule

namespace ParamSpec

/-- The field names in declaration order. -/
def fieldNames : List String := ["name", "type"]

/-- Read a declared parameter. -/
def decoder : Decoder ParamSpec := Decoder.record fieldNames fun depth fields =>
  match fields with
  | [name, type] => do
    return {
      name := ← required Decoder.string depth name
      type := ← required Decoder.string depth type }
  | _ => none

/-- The document of a declared parameter. -/
def document (record : ParamSpec) : Document := .ofMembers [
  ("name", .ofString record.name),
  ("type", .ofString record.type)]

end ParamSpec

namespace Code

/-- The field names in declaration order. -/
def fieldNames : List String :=
  ["code_id", "lang", "rules", "params", "content", "is_broken", "error_count"]

/-- Read a code version. -/
def decoder : Decoder Code := Decoder.record fieldNames fun depth fields =>
  match fields with
  | [codeId, lang, rules, params, content, isBroken, errorCount] => do
    return {
      codeId := ← required Decoder.string depth codeId
      lang := ← required Decoder.string depth lang
      rules := ← defaulting [] (Decoder.list PlatformRule.decoder) depth rules
      params := ← defaulting [] (Decoder.list ParamSpec.decoder) depth params
      content := ← required Decoder.string depth content
      isBroken := ← defaulting false Decoder.bool depth isBroken
      errorCount := ← defaulting 0 Decoder.uint32 depth errorCount }
  | _ => none

/-- The document of a list of platform rules. -/
def rulesDocument (rules : List PlatformRule) : Document :=
  .array (rules.map PlatformRule.document)

/-- The document of a list of declared parameters. -/
def paramsDocument (params : List ParamSpec) : Document :=
  .array (params.map ParamSpec.document)

/-- The document of a code version. -/
def document (record : Code) : Document := .ofMembers [
  ("code_id", .ofString record.codeId),
  ("lang", .ofString record.lang),
  ("rules", rulesDocument record.rules),
  ("params", paramsDocument record.params),
  ("content", .ofString record.content),
  ("is_broken", .bool record.isBroken),
  ("error_count", .ofInt record.errorCount.toNat)]

end Code

namespace TestCase

/-- The field names in declaration order. -/
def fieldNames : List String := ["test_id", "input", "output", "code_id"]

/-- Read a unit test. -/
def decoder : Decoder TestCase := Decoder.record fieldNames fun depth fields =>
  match fields with
  | [testId, input, output, codeId] => do
    return {
      testId := ← required Decoder.string depth testId
      input := ← required Decoder.string depth input
      output := ← required Decoder.string depth output
      codeId := ← required Decoder.string depth codeId }
  | _ => none

/-- The document of a unit test. -/
def document (record : TestCase) : Document := .ofMembers [
  ("test_id", .ofString record.testId),
  ("input", .ofString record.input),
  ("output", .ofString record.output),
  ("code_id", .ofString record.codeId)]

end TestCase

namespace ErrorReport

/-- The field names in declaration order. -/
def fieldNames : List String := ["err_time", "message"]

/-- Read an error report. -/
def decoder : Decoder ErrorReport := Decoder.record fieldNames fun depth fields =>
  match fields with
  | [time, message] => do
    return {
      time := ← defaulting 0 Decoder.int64 depth time
      message := ← defaulting "" Decoder.string depth message }
  | _ => none

/-- The document of an error report. -/
def document (record : ErrorReport) : Document := .ofMembers [
  ("err_time", .ofInt record.time.toInt),
  ("message", .ofString record.message)]

end ErrorReport

namespace ConfigRequest

/-- The field names in declaration order. -/
def fieldNames : List String := ["meta", "cached", "params"]

/-- Read a request for a configuration. -/
def decoder : Decoder ConfigRequest := Decoder.record fieldNames fun depth fields =>
  match fields with
  | [requestMeta, cached, params] => do
    return {
      requestMeta := ← defaulting {} RequestMeta.decoder depth requestMeta
      cached := ← defaulting false Decoder.bool depth cached
      params := ← defaulting [] Decoder.members depth params }
  | _ => none

end ConfigRequest

namespace PlaygroundRequest

/-- The field names in declaration order. -/
def fieldNames : List String := ["code", "params"]

/-- Read a request to run code that is not stored. -/
def decoder : Decoder PlaygroundRequest := Decoder.record fieldNames fun depth fields =>
  match fields with
  | [code, params] => do
    return {
      code := ← required Decoder.string depth code
      params := ← defaulting [] Decoder.members depth params }
  | _ => none

end PlaygroundRequest

namespace ConfigResponse

/-- The field names in declaration order. -/
def fieldNames : List String := ["result", "code_id"]

/-- Read the answer to a request for a configuration. -/
def decoder : Decoder ConfigResponse := Decoder.record fieldNames fun depth fields =>
  match fields with
  | [result, codeId] => do
    return {
      result := ← required Decoder.string depth result
      codeId := ← required Decoder.string depth codeId }
  | _ => none

/-- The document of the answer to a request for a configuration. -/
def document (response : ConfigResponse) : Document := .ofMembers [
  ("result", .ofString response.result),
  ("code_id", .ofString response.codeId)]

end ConfigResponse

namespace TestReport

/-- The field names in declaration order. -/
def fieldNames : List String := ["duration", "succeed", "message"]

/-- Read the verdict on a unit test. -/
def decoder : Decoder TestReport := Decoder.record fieldNames fun depth fields =>
  match fields with
  | [duration, succeed, message] => do
    return {
      duration := ← required Decoder.nat64 depth duration
      succeed := ← required Decoder.bool depth succeed
      message := ← required Decoder.string depth message }
  | _ => none

/-- The document of the verdict on a unit test. -/
def document (report : TestReport) : Document := .ofMembers [
  ("duration", .ofInt report.duration),
  ("succeed", .bool report.succeed),
  ("message", .ofString report.message)]

end TestReport

namespace ReportOutcome

/-- The field names in declaration order. -/
def fieldNames : List String := ["code_id", "error_count", "is_broken"]

/-- Read the answer to an error report. -/
def decoder : Decoder ReportOutcome := Decoder.record fieldNames fun depth fields =>
  match fields with
  | [codeId, errorCount, isBroken] => do
    return {
      codeId := ← required Decoder.string depth codeId
      errorCount := ← required Decoder.uint32 depth errorCount
      isBroken := ← required Decoder.bool depth isBroken }
  | _ => none

/-- The document of the answer to an error report. -/
def document (outcome : ReportOutcome) : Document := .ofMembers [
  ("code_id", .ofString outcome.codeId),
  ("error_count", .ofInt outcome.errorCount.toNat),
  ("is_broken", .bool outcome.isBroken)]

end ReportOutcome

end ConfigDelivery
