import CqlGateway.Json.Reader

/-! Reads records and other typed values out of JSON. A record is an object, whose further members
do not matter, or an array of its fields in order. A field that is left out may have a default; a
field that is given twice is refused.
-/

namespace CqlGateway.Json

abbrev Decoder (α : Type) := Json → Option α

namespace Decoder

variable {α : Type}

def text : Decoder String
  | .string content => some content
  | _ => none

def boolean : Decoder Bool
  | .boolean value => some value
  | _ => none

/-- A whole number of at most 64 bits. -/
def count : Decoder Nat
  | .number (.natural value) => some value
  | _ => none

def list (item : Decoder α) : Decoder (List α)
  | .array items => items.mapM item
  | _ => none

/-- An array of exactly two texts. -/
def textPair : Decoder (String × String)
  | .array [.string first, .string second] => some (first, second)
  | _ => none

/-- One of several named choices: its name, or an object with the name alone and no value. -/
def choice (choices : List (String × α)) : Decoder α
  | .string name => choices.lookup name
  | .object [(name, .null)] => choices.lookup name
  | _ => none

/-- A value or null. -/
def optional (value : Decoder α) : Decoder (Option α)
  | .null => some none
  | json => (value json).map some

/-- The members of an object; a name that comes again counts with its last value. -/
def members (value : Decoder α) : Decoder (List (String × α))
  | .object members =>
      members.mapM fun (name, json) => (value json).map fun decoded => (name, decoded)
  | _ => none

/-- The fields of a record, each with its value if it is given. -/
def fields (names : List String) : Decoder (List (Option Json))
  | .object members =>
      names.mapM fun name =>
        match members.filter (·.1 = name) with
        | [] => some none
        | [(_, value)] => some (some value)
        | _ => none
  | .array items =>
      if items.length ≤ names.length then
        some (items.map some ++ List.replicate (names.length - items.length) none)
      else
        none
  | _ => none

/-- A field that must be given. -/
def required (value : Decoder α) (field : Option Json) : Option α :=
  field.bind value

/-- A field that may be left out. -/
def withDefault (default : α) (value : Decoder α) (field : Option Json) : Option α :=
  match field with
  | some json => value json
  | none => some default

end Decoder

end CqlGateway.Json
