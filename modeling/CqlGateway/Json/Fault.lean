import CqlGateway.Json.Basic
import CqlGateway.Numeral.Shortest
import CqlGateway.Text.Quoted

/-! Why a JSON text is not accepted, and where. -/

namespace CqlGateway.Json

/-- A place in a text. Lines count from one; a column is the number of bytes in front of it. -/
structure Position where
  line : Nat
  column : Nat
deriving DecidableEq, Repr

/-- What a text has in the place of something else. -/
inductive Found where
  | null
  | boolean (value : Bool)
  | integer (numeral : String)
  | real (numeral : String)
  | text (content : String)
  | list
  | object
deriving DecidableEq, Repr

def Found.label : Found → String
  | .null => "null"
  | .boolean true => "boolean `true`"
  | .boolean false => "boolean `false`"
  | .integer numeral => "integer `" ++ numeral ++ "`"
  | .real numeral => "floating point `" ++ numeral ++ "`"
  | .text content => "string " ++ Text.quoted content
  | .list => "sequence"
  | .object => "map"

def Found.ofNumber : JsonNumber → Found
  | .natural value => .integer (toString value)
  | .negative magnitude => .integer ("-" ++ toString magnitude)
  | .real value => .real value.text

/-- What is wrong with a text: its form, or what it has for what was expected. -/
inductive Cause where
  | endInValue
  | endInList
  | endInObject
  | endInString
  | noValue
  | noWord
  | noColon
  | openList
  | openObject
  | nameWithoutQuotes
  | trailingComma
  | trailingText
  | malformedNumber
  | numberOutOfRange
  | unknownEscape
  | loneSurrogate
  | brokenSurrogatePair
  | controlCharacter
  | wrongKind (found : Found) (expected : String)
  | wrongValue (found : Found) (expected : String)
  | wrongLength (length : Nat) (expected : String)
  | unknownChoice (name : String) (choices : List String)
  | missingField (name : String)
  | duplicateField (name : String)
deriving DecidableEq, Repr

/-- The choices there are, each in backticks. -/
def choiceLabel (choices : List String) : String :=
  match choices.map fun name => "`" ++ name ++ "`" with
  | [first, second] => first ++ " or " ++ second
  | names => "one of " ++ String.intercalate ", " names

def Cause.message : Cause → String
  | .endInValue => "EOF while parsing a value"
  | .endInList => "EOF while parsing a list"
  | .endInObject => "EOF while parsing an object"
  | .endInString => "EOF while parsing a string"
  | .noValue => "expected value"
  | .noWord => "expected ident"
  | .noColon => "expected `:`"
  | .openList => "expected `,` or `]`"
  | .openObject => "expected `,` or `\x7d`"
  | .nameWithoutQuotes => "key must be a string"
  | .trailingComma => "trailing comma"
  | .trailingText => "trailing characters"
  | .malformedNumber => "invalid number"
  | .numberOutOfRange => "number out of range"
  | .unknownEscape => "invalid escape"
  | .loneSurrogate => "lone leading surrogate in hex escape"
  | .brokenSurrogatePair => "unexpected end of hex escape"
  | .controlCharacter => "control character (\\u0000-\\u001F) found while parsing a string"
  | .wrongKind found expected => "invalid type: " ++ found.label ++ ", expected " ++ expected
  | .wrongValue found expected => "invalid value: " ++ found.label ++ ", expected " ++ expected
  | .wrongLength length expected =>
      "invalid length " ++ toString length ++ ", expected " ++ expected
  | .unknownChoice name choices =>
      "unknown variant `" ++ name ++ "`, expected " ++ choiceLabel choices
  | .missingField name => "missing field `" ++ name ++ "`"
  | .duplicateField name => "duplicate field `" ++ name ++ "`"

/-- Why a text is not accepted, and the place up to which it was read. -/
structure Fault where
  cause : Cause
  position : Position
deriving DecidableEq, Repr

def Fault.message (fault : Fault) : String :=
  fault.cause.message ++ " at line " ++ toString fault.position.line ++ " column "
    ++ toString fault.position.column

end CqlGateway.Json
