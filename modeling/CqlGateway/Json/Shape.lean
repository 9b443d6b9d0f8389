import CqlGateway.Json.Cursor

/-! Forms of JSON values, and the first fault of a text that has another form than it should. -/

namespace CqlGateway.Json

/-- What a value has to be. -/
inductive Shape where
  | text
  | boolean
  /-- A whole number of at most 64 bits, with a name for it. -/
  | count (label : String)
  /-- One of several names. -/
  | choice (names : List String)
  | textPair
  | list (item : Shape)
  /-- An object with any names. -/
  | members (value : Shape)
  /-- A value or null. -/
  | optional (value : Shape)
  /-- The fields of a record, each with its name and whether it must be given. -/
  | record (label : String) (fields : List (String × Bool × Shape))

/-- A field of a record: its name, whether it must be given, and how its value is read. -/
structure FieldReading where
  name : String
  needed : Bool
  value : Reading Unit

namespace Reading

variable (fuel : Nat)

def expectText : Reading Unit := do
  if (← valueStart) = '"' then
    let _ ← string fuel
  else
    unexpected fuel "a string"

def expectBoolean : Reading Unit := do
  match ← valueStart with
  | 't' => letters ['t', 'r', 'u', 'e']
  | 'f' => letters ['f', 'a', 'l', 's', 'e']
  | _ => unexpected fuel "a boolean"

def expectCount (label : String) : Reading Unit := do
  let first ← valueStart
  if first.isDigit || first = '-' then
    match ← number with
    | .natural _ => pure ()
    | .negative magnitude => failHere (.wrongValue (.ofNumber (.negative magnitude)) label)
    | .real value => failHere (.wrongKind (.ofNumber (.real value)) label)
  else
    unexpected fuel label

/-- Passes a name that has to be one of several. -/
def expectName (names : List String) : Reading Unit := do
  let name ← string fuel
  if !names.contains name then
    failHere (.unknownChoice name names)

/-- A choice is a name, or an object with that name alone and null. -/
def expectChoice (names : List String) : Reading Unit := do
  match ← valueStart with
  | '"' => expectName fuel names
  | '{' =>
      advance
      match ← valueStart with
      | '"' => expectName fuel names
      | '}' => failAt .noValue
      | _ => failAt .nameWithoutQuotes
      colon
      if (← valueStart) = 'n' then
        letters ['n', 'u', 'l', 'l']
      else
        unexpected fuel "unit"
      match ← next? with
      | none => failHere .endInObject
      | some '}' => advance
      | some _ => failHere .noValue
  | _ => failAt .noValue

/-- The items of a list up to the closing bracket. -/
def itemsRest (item : Reading Unit) : (fuel : Nat) → (first : Bool) → Reading Unit
  | 0, _ => pure ()
  | fuel + 1, first => do
      if ← nextItem first then
        item
        itemsRest item fuel false
      else
        closeList

/-- The members of an object up to the closing brace. -/
def membersRest (value : Reading Unit) : (fuel : Nat) → (first : Bool) → Reading Unit
  | 0, _ => pure ()
  | fuel + 1, first => do
      if ← nextName first then
        let _ ← string fuel
        colon
        value
        membersRest value fuel false
      else
        advance

/-- The fields of a record in their order, up to the closing bracket of a list. Only those that need
not be given may be missing at the end.
-/
def slotsRest (label : String) : (place : Nat) → (first : Bool) → List FieldReading → Reading Unit
  | _, _, [] => closeList
  | place, first, field :: rest => do
      if ← nextItem first then
        field.value
        slotsRest label (place + 1) false rest
      else if field.needed then
        closeList
        failHere (.wrongLength place label)
      else
        slotsRest label (place + 1) first rest

/-- The fields of a record by their names, up to the closing brace of an object. A name given twice
is a fault once the blanks behind it are passed, and a closing brace that stands there.
-/
def fieldsRest (fields : List FieldReading)
    : (fuel : Nat) → (first : Bool) → (seen : List String) → Reading Unit
  | 0, _, _ => pure ()
  | fuel + 1, first, seen => do
      if ← nextName first then
        let name ← string fuel
        match fields.find? (·.name = name) with
        | some field =>
            if seen.contains name then
              if (← next?) = some '}' then
                advance
              failHere (.duplicateField name)
            colon
            field.value
            fieldsRest fields fuel false (name :: seen)
        | none =>
            colon
            skipValue fuel
            fieldsRest fields fuel false seen
      else
        advance
        match fields.find? fun field => field.needed && !seen.contains field.name with
        | some field => failHere (.missingField field.name)
        | none => pure ()

def expectList (item : Reading Unit) : Reading Unit := do
  if (← valueStart) = '[' then
    advance
    itemsRest item fuel true
  else
    unexpected fuel "a sequence"

def expectMembers (value : Reading Unit) : Reading Unit := do
  if (← valueStart) = '{' then
    advance
    membersRest value fuel true
  else
    unexpected fuel "a map"

def expectTextPair : Reading Unit := do
  let label := "a tuple of size 2"
  if (← valueStart) = '[' then
    advance
    slotsRest label 0 true [⟨"", true, expectText fuel⟩, ⟨"", true, expectText fuel⟩]
  else
    unexpected fuel label

def expectOptional (value : Reading Unit) : Reading Unit := do
  if (← valueStart) = 'n' then
    letters ['n', 'u', 'l', 'l']
  else
    value

/-- A record is an object, or a list of its fields in order. -/
def expectRecord (label : String) (fields : List FieldReading) : Reading Unit := do
  match ← valueStart with
  | '[' =>
      advance
      slotsRest (label ++ " with " ++ toString fields.length ++ " elements") 0 true fields
  | '{' =>
      advance
      fieldsRest fields fuel true []
  | _ => unexpected fuel label

end Reading

namespace Shape

mutual

/-- Passes a value of the shape. -/
def reading (fuel : Nat) : Shape → Reading Unit
  | .text => Reading.expectText fuel
  | .boolean => Reading.expectBoolean fuel
  | .count label => Reading.expectCount fuel label
  | .choice names => Reading.expectChoice fuel names
  | .textPair => Reading.expectTextPair fuel
  | .list item => Reading.expectList fuel (reading fuel item)
  | .members value => Reading.expectMembers fuel (reading fuel value)
  | .optional value => Reading.expectOptional (reading fuel value)
  | .record label fields => Reading.expectRecord fuel label (fieldReadings fuel fields)

def fieldReadings (fuel : Nat) : List (String × Bool × Shape) → List FieldReading
  | [] => []
  | (name, needed, shape) :: rest => ⟨name, needed, reading fuel shape⟩ :: fieldReadings fuel rest

end

/-- Reads a value that starts a text of so many characters, and the blanks behind it. -/
def whole (length : Nat) (shape : Shape) : Reading Unit := do
  shape.reading (2 * length + 2)
  let _ ← Reading.next?

/-- The fault of a text that is not accepted: the first one of its value, or else that more than the
value is there.
-/
def fault (shape : Shape) (text : String) : Fault :=
  let characters := text.toList
  match (shape.whole characters.length).run ⟨characters, ⟨1, 0⟩⟩ with
  | .error fault => fault
  | .ok (_, behind) => ⟨.trailingText, behind.position.forward behind.rest 1⟩

end Shape

end CqlGateway.Json
