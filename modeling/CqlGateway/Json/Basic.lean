import CqlGateway.Numeral.Binary64

/-! JSON values. An object keeps its members in the order of the text, repeated names included: what
a repetition means is for the reader of the object to say.
-/

namespace CqlGateway

/-- A number: whole and not negative, whole and negative, or any other. Whole numbers are at most 64
bits wide.
-/
inductive JsonNumber where
  | natural (value : Nat)
  | negative (magnitude : Nat)
  | real (value : Binary64)
deriving DecidableEq

inductive Json where
  | null
  | boolean (value : Bool)
  | number (value : JsonNumber)
  | string (text : String)
  /-- Something well formed that has no value: a string or a name with an unpaired surrogate, or a
  number out of range.
  -/
  | valueless
  | array (items : List Json)
  | object (members : List (String × Json))

namespace Json

/-- The value of the last member with a name. -/
def member? (name : String) : Json → Option Json
  | .object members => (members.reverse.find? (·.1 = name)).map (·.2)
  | _ => none

end Json

end CqlGateway
