import CloudGrant.Json.Value

/-!
# Why a JSON text is refused

`Json.Error` has one constructor for each cause; `Json.Error.message` is its wording. Syntax errors
come from the text alone, the others compare a value (`Found`) with what was asked for (`Wanted`).
-/

namespace CloudGrant.Json

/-- What stands in the text. -/
inductive Found where
  | null
  | bool (b : Bool)
  | number (n : Number)
  | text (s : String)
  | list
  | object
deriving DecidableEq

/-- What was asked for. -/
inductive Wanted where
  | text
  | object
  | list
  | int64
  | null
  | variantName
  | record (name : String)
deriving DecidableEq

/-- Why a JSON text is refused. -/
inductive Error where
  | endOfValue
  | endOfList
  | endOfObject
  | endOfText
  | expectedValue
  | expectedWord
  | expectedColon
  | expectedListComma
  | expectedObjectComma
  | keyNotText
  | trailingComma
  | trailingCharacters
  | invalidNumber
  | numberOutOfRange
  | invalidEscape
  | shortHexEscape
  | loneSurrogate
  | controlCharacter
  | invalidCodePoint
  | tooDeep
  | mismatch (found : Found) (wanted : Wanted)
  | outOfInt64 (n : Int)
  | tooShort (length : Nat) (name : String) (fields : Nat)
  | missingField (name : String)
  | duplicateField (name : String)
  | unknownVariant (name : String) (known : List String)
deriving DecidableEq

/-- A name between grave accents. -/
def ticked (s : String) : String := "`" ++ s ++ "`"

def Found.describe : Found → String
  | .null => "null"
  | .bool true => "boolean " ++ ticked "true"
  | .bool false => "boolean " ++ ticked "false"
  | .number (.int n) => "integer " ++ ticked (toString n)
  | .number n => "floating point " ++ ticked n.text
  | .text s => "string " ++ Text.Quoted.quote s
  | .list => "sequence"
  | .object => "map"

def Wanted.describe : Wanted → String
  | .text => "a string"
  | .object => "a map"
  | .list => "a sequence"
  | .int64 => "i64"
  | .null => "unit"
  | .variantName => "variant identifier"
  | .record name => "struct " ++ name

namespace Error

/-- The wording of a refusal. -/
def message : Error → String
  | endOfValue => "EOF while parsing a value"
  | endOfList => "EOF while parsing a list"
  | endOfObject => "EOF while parsing an object"
  | endOfText => "EOF while parsing a string"
  | expectedValue => "expected value"
  | expectedWord => "expected ident"
  | expectedColon => "expected " ++ ticked ":"
  | expectedListComma => "expected " ++ ticked "," ++ " or " ++ ticked "]"
  | expectedObjectComma => "expected " ++ ticked "," ++ " or " ++ ticked "\x7d"
  | keyNotText => "key must be a string"
  | trailingComma => "trailing comma"
  | trailingCharacters => "trailing characters"
  | invalidNumber => "invalid number"
  | numberOutOfRange => "number out of range"
  | invalidEscape => "invalid escape"
  | shortHexEscape => "unexpected end of hex escape"
  | loneSurrogate => "lone leading surrogate in hex escape"
  | controlCharacter => "control character (\\u0000-\\u001F) found while parsing a string"
  | invalidCodePoint => "invalid unicode code point"
  | tooDeep => "recursion limit exceeded"
  | mismatch found wanted =>
    "invalid type: " ++ found.describe ++ ", expected " ++ wanted.describe
  | outOfInt64 n =>
    "invalid value: integer " ++ ticked (toString n) ++ ", expected " ++ Wanted.int64.describe
  | tooShort length name fields =>
    "invalid length " ++ toString length ++ ", expected struct " ++ name ++ " with "
      ++ toString fields ++ (if fields = 1 then " element" else " elements")
  | missingField name => "missing field " ++ ticked name
  | duplicateField name => "duplicate field " ++ ticked name
  | unknownVariant name known =>
    "unknown variant " ++ ticked name ++ ", expected one of "
      ++ ", ".intercalate (known.map ticked)

end Error

end CloudGrant.Json
