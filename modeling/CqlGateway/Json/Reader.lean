import CqlGateway.Json.Token

/-! Reads a JSON text. The tokens are taken in one by one; what is still open stands on a stack, so
nesting of any depth is read without recursion.
-/

namespace CqlGateway.Json

/-- A member with its name, if that has a content. -/
abbrev Member := Option String × Json

/-- An object of members, last one first. It has no value if one of the names has no content. -/
def ofMembers (members : List Member) : Json :=
  match members.reverse.mapM fun (name, value) => name.map fun name => (name, value) with
  | some members => .object members
  | none => .valueless

/-- A container that is still open. Items and members stand last one first; an object waits for the
value of `name`.
-/
inductive Container where
  | array (items : List Json)
  | object (members : List Member) (name : Option String)

/-- What may come next, with the containers around it, innermost first. -/
inductive ReadState where
  /-- A value must follow. -/
  | awaitValue (around : List Container)
  /-- An array was opened: a value or its end must follow. -/
  | firstItem (around : List Container)
  /-- An object was opened: a name or its end must follow. -/
  | firstName (around : List Container)
  /-- Another name must follow. -/
  | nextName (members : List Member) (around : List Container)
  /-- The colon behind a name must follow. -/
  | colon (members : List Member) (name : Option String) (around : List Container)
  /-- A value is complete: its container goes on or ends. -/
  | complete (value : Json) (around : List Container)

namespace ReadState

/-- Takes in the first token of a value. -/
def stepValue? (around : List Container) (token : JsonToken) : Option ReadState :=
  match token with
  | .scalar value => some (.complete value around)
  | .text content => some (.complete ((content.map .string).getD .valueless) around)
  | .openArray => some (.firstItem around)
  | .openObject => some (.firstName around)
  | _ => none

/-- Takes in a token that follows a complete value. -/
def stepComplete? (value : Json) (around : List Container) (token : JsonToken) : Option ReadState :=
  match around, token with
  | .array items :: outer, .comma => some (.awaitValue (.array (value :: items) :: outer))
  | .array items :: outer, .closeArray => some (.complete (.array (value :: items).reverse) outer)
  | .object members name :: outer, .comma => some (.nextName ((name, value) :: members) outer)
  | .object members name :: outer, .closeObject =>
      some (.complete (ofMembers ((name, value) :: members)) outer)
  | _, _ => none

/-- Takes in one token. -/
def step? (state : ReadState) (token : JsonToken) : Option ReadState :=
  match state, token with
  | .awaitValue around, token => stepValue? around token
  | .firstItem around, .closeArray => some (.complete (.array []) around)
  | .firstItem around, token => stepValue? (.array [] :: around) token
  | .firstName around, .closeObject => some (.complete (.object []) around)
  | .firstName around, .text name => some (.colon [] name around)
  | .nextName members around, .text name => some (.colon members name around)
  | .colon members name around, .colon => some (.awaitValue (.object members name :: around))
  | .complete value around, token => stepComplete? value around token
  | _, _ => none

end ReadState

/-- The value of a row of tokens, all of which belong to it. -/
def ofTokens? (tokens : List JsonToken) : Option Json :=
  match tokens.foldlM ReadState.step? (.awaitValue []) with
  | some (.complete value []) => some value
  | _ => none

/-- The value of a text. Nothing but blanks may stand before and behind it. -/
def read? (text : String) : Option Json :=
  (JsonToken.all? text.toList).bind ofTokens?

end CqlGateway.Json
