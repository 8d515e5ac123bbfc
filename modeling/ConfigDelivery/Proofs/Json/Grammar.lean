import ConfigDelivery.Json.Reader
/-!
# The grammar of JSON texts

Which texts write a document, without a word on how they are read: blanks stand around every token,
a numeral has its power of ten behind either letter and with a sign or without, and a character of a
string stands for itself or is escaped in one of several ways. An escape by code units writes a
character by one unit or by a pair of surrogates; a surrogate that has no partner leaves the string
without a text.
-/

namespace ConfigDelivery.Json

/-- Blanks between tokens. -/
def AreSpaces (text : List Char) : Prop := ∀ character ∈ text, isSpace character = true

/-! ## Numerals -/

/-- Some digits. -/
structure AreDigits (digits : List Char) : Prop where
  filled : digits ≠ []
  all : ∀ digit ∈ digits, isDigit digit = true

/-- Digits as they stand before the point: zero alone, or digits that start with another. -/
structure AreWhole (digits : List Char) : Prop extends AreDigits digits where
  leading : digits.head? = some '0' → digits = ['0']

/-- The texts of a fraction, which may be missing. -/
inductive WritesFraction : Option (List Char) → List Char → Prop where
  | none : WritesFraction none []
  | some {digits : List Char} (areDigits : AreDigits digits) :
      WritesFraction (some digits) ('.' :: digits)

/-- The signs of a power of ten that is negative or not. -/
inductive WritesSign : Bool → List Char → Prop where
  | unsigned : WritesSign false []
  | plus : WritesSign false ['+']
  | minus : WritesSign true ['-']

/-- The texts of a power of ten, which may be missing. -/
inductive WritesPower : Option PowerText → List Char → Prop where
  | none : WritesPower none []
  | some {mark : Char} {negative : Bool} {sign digits : List Char}
      (isMark : mark = 'e' ∨ mark = 'E') (signed : WritesSign negative sign)
      (areDigits : AreDigits digits) :
      WritesPower (some ⟨negative, digits⟩) (mark :: (sign ++ digits))

/-- The minus in front of a negative numeral. -/
def signChars (negative : Bool) : List Char := if negative then ['-'] else []

/-- The texts of a numeral. -/
inductive Numeral.Writes : Numeral → List Char → Prop where
  | numeral {negative : Bool} {whole : List Char} {fraction : Option (List Char)}
      {power : Option PowerText} {fractionText powerText : List Char} (areWhole : AreWhole whole)
      (writesFraction : WritesFraction fraction fractionText)
      (writesPower : WritesPower power powerText) :
      Writes ⟨negative, whole, fraction, power⟩
        (signChars negative ++ (whole ++ (fractionText ++ powerText)))

/-! ## Strings -/

/-- Four hexadecimal digits write a code unit. -/
inductive WritesUnit : Nat → List Char → Prop where
  | unit {first second third fourth : Char} {a b c d : Nat} (isFirst : hexValue? first = some a)
      (isSecond : hexValue? second = some b) (isThird : hexValue? third = some c)
      (isFourth : hexValue? fourth = some d) :
      WritesUnit (((a * 16 + b) * 16 + c) * 16 + d) [first, second, third, fourth]

/-- A part of a string: a character, or a code unit that may be half of one. -/
inductive StringPart where
  | character (value : Char)
  | unit (code : Nat)

/-- The texts of a part of a string. -/
inductive StringPart.Writes : StringPart → List Char → Prop where
  | plain {value : Char} (noQuote : value ≠ '"') (noBackslash : value ≠ '\\')
      (noControl : 0x20 ≤ value.toNat) : Writes (.character value) [value]
  | short {letter value : Char} (stands : shortEscape? letter = some value) :
      Writes (.character value) ['\\', letter]
  | unit {code : Nat} {digits : List Char} (written : WritesUnit code digits) :
      Writes (.unit code) ('\\' :: 'u' :: digits)

/-- The texts of some parts, one after the other. -/
inductive WritesParts : List StringPart → List Char → Prop where
  | nil : WritesParts [] []
  | cons {part : StringPart} {parts : List StringPart} {text rest : List Char}
      (first : part.Writes text) (others : WritesParts parts rest) :
      WritesParts (part :: parts) (text ++ rest)

/-- The characters that some parts stand for, unless half of a pair stands alone. -/
def StringPart.decode : List StringPart → Option (List Char)
  | [] => some []
  | .character value :: rest => (decode rest).map (value :: ·)
  | .unit lead :: .unit trail :: rest =>
    if isLeadSurrogate lead && isTrailSurrogate trail then
      (decode rest).map (Char.ofNat (combineSurrogates lead trail) :: ·)
    else if isLeadSurrogate lead || isTrailSurrogate lead then none
    else (decode (.unit trail :: rest)).map (Char.ofNat lead :: ·)
  | .unit code :: rest =>
    if isLeadSurrogate code || isTrailSurrogate code then none
    else (decode rest).map (Char.ofNat code :: ·)

/-- The string of some parts. -/
def Quoted.ofParts (parts : List StringPart) : Quoted :=
  match StringPart.decode parts with
  | some characters => .text (String.ofList characters)
  | none => .loneSurrogate

/-- The texts of a string. -/
inductive Quoted.Writes : Quoted → List Char → Prop where
  | quoted {parts : List StringPart} {inside : List Char} (written : WritesParts parts inside) :
      Writes (.ofParts parts) ('"' :: (inside ++ ['"']))

/-! ## Documents -/

/-- A token with the blanks around it. -/
structure Padded (Content : Type) where
  content : Content
  before : List Char := []
  text : List Char
  after : List Char := []

namespace Padded

variable {Content : Type}

/-- The text of a token and of the blanks. -/
def chars (piece : Padded Content) : List Char := piece.before ++ (piece.text ++ piece.after)

/-- There is nothing but blanks around the token. -/
structure IsBlank (piece : Padded Content) : Prop where
  before : AreSpaces piece.before
  after : AreSpaces piece.after

end Padded

/-- A member of an object as written. -/
structure MemberText where
  name : Padded Quoted
  value : Padded Document

namespace MemberText

/-- The member that is written. -/
def member (text : MemberText) : Quoted × Document := (text.name.content, text.value.content)

/-- The text of the member. -/
def chars (text : MemberText) : List Char := text.name.chars ++ ':' :: text.value.chars

/-- The name is written, and there is nothing but blanks around it and the value. -/
structure IsNamed (text : MemberText) : Prop where
  written : text.name.content.Writes text.name.text
  name : text.name.IsBlank
  value : text.value.IsBlank

end MemberText

/-- Texts with a comma in front of each. -/
def commaChars (texts : List (List Char)) : List Char := texts.flatMap (',' :: ·)

/-- The texts of a document. -/
inductive Document.Writes : Document → List Char → Prop where
  | literalNull : Writes .null ['n', 'u', 'l', 'l']
  | literalTrue : Writes (.bool true) ['t', 'r', 'u', 'e']
  | literalFalse : Writes (.bool false) ['f', 'a', 'l', 's', 'e']
  | number {numeral : Numeral} {text : List Char} (written : numeral.Writes text) :
      Writes (.number numeral) text
  | string {value : Quoted} {text : List Char} (written : value.Writes text) :
      Writes (.string value) text
  | emptyArray {spaces : List Char} (blank : AreSpaces spaces) :
      Writes (.array []) ('[' :: (spaces ++ [']']))
  | array {first : Padded Document} {others : List (Padded Document)}
      (blank : ∀ item ∈ first :: others, item.IsBlank)
      (written : ∀ item ∈ first :: others, Writes item.content item.text) :
      Writes (.array ((first :: others).map Padded.content))
        ('[' :: (first.chars ++ (commaChars (others.map Padded.chars) ++ [']'])))
  | emptyObject {spaces : List Char} (blank : AreSpaces spaces) :
      Writes (.object []) ('{' :: (spaces ++ ['}']))
  | object {first : MemberText} {others : List MemberText}
      (named : ∀ member ∈ first :: others, member.IsNamed)
      (written : ∀ member ∈ first :: others, Writes member.value.content member.value.text) :
      Writes (.object ((first :: others).map MemberText.member))
        ('{' :: (first.chars ++ (commaChars (others.map MemberText.chars) ++ ['}'])))

/-- A whole text is one that writes a document, with blanks around it. -/
def Document.IsText (document : Document) (text : String) : Prop :=
  ∃ whole : Padded Document, whole.IsBlank ∧ whole.content = document ∧
    document.Writes whole.text ∧ text.toList = whole.chars

end ConfigDelivery.Json
