/-!
# Record identifiers

The identifiers that a request path may name: 1 to 64 ASCII letters, digits,
underscores, points and hyphens.
-/

namespace ConfigDelivery

/-- A character that an identifier may have. -/
def isIdChar (character : Char) : Bool :=
  ('A' ≤ character && character ≤ 'Z') || ('a' ≤ character && character ≤ 'z')
    || ('0' ≤ character && character ≤ '9') || character == '_' || character == '.'
    || character == '-'

/-- A text is an identifier. -/
def isRecordId (text : String) : Bool :=
  1 ≤ text.toList.length && text.toList.length ≤ 64 && text.toList.all isIdChar

/-- The wording for a text that is no identifier. -/
def invalidRecordId : String :=
  "invalid record id: must match ^[A-Za-z0-9_.-]\x7b1,64\x7d$"

/-- Accept an identifier. -/
def validateRecordId (text : String) : Except String Unit :=
  if isRecordId text then .ok () else .error invalidRecordId

end ConfigDelivery
