import CqlGateway.Numeral.Unsigned
import CqlGateway.Text.Lowercase
import CqlGateway.Compilation.Error

/-! What modifiers mean. A name that is well formed but unknown has no effect. -/

namespace CqlGateway.Modifier

def isAsciiLetter (character : Char) : Bool :=
  ('a' ≤ character && character ≤ 'z') || ('A' ≤ character && character ≤ 'Z')

/-- True of a character that may stand behind the first one of a name. -/
def isNameChar (character : Char) : Bool :=
  isAsciiLetter character || character.isDigit || character = '_' || character = '.'
    || character = '-'

/-- True of an ASCII letter and any letters, digits, underscores, points and hyphens behind it. -/
def isWellFormedName (name : List Char) : Bool :=
  match name with
  | [] => false
  | first :: rest => isAsciiLetter first && rest.all isNameChar

/-- The name of a modifier in lower case, if it is well formed. -/
def checkedName (modifier : Modifier) : Except CompilationError String :=
  if isWellFormedName modifier.name.toList then
    .ok (Text.lowercase modifier.name)
  else
    .error (.malformedModifier modifier .malformedName)

/-- The escaping behind a modifier, given the one before it. -/
def escapingAfter (escaping : Escaping) (modifier : Modifier) : Except CompilationError Escaping :=
  modifier.checkedName.map fun
    | "cql.unmasked" | "unmasked" => .literal
    | "cql.masked" | "masked" => .masked
    | _ => escaping

/-- The escaping of a clause. The last modifier that chooses one wins. -/
def escaping (field : Escaping) (modifiers : List Modifier) : Except CompilationError Escaping :=
  modifiers.foldlM escapingAfter field

/-- Whether the order behind a modifier is descending, given the one before it. -/
def descendingAfter (descending : Bool) (modifier : Modifier) : Except CompilationError Bool :=
  modifier.checkedName.map fun
    | "sort.descending" | "descending" => true
    | "sort.ascending" | "ascending" => false
    | _ => descending

/-- Whether a sort key is descending. It ascends unless a modifier says otherwise; the last one
wins.
-/
def descending (modifiers : List Modifier) : Except CompilationError Bool :=
  modifiers.foldlM descendingAfter false

/-- The slop of a proximity query without a distance. -/
def standardSlop : Nat := 1

/-- The largest distance that can be written. -/
def distanceLimit : Nat := Nat.pow 2 32 - 1

/-- The slop that a distance asks for. -/
def slopOfDistance (modifier : Modifier) : Except CompilationError Nat :=
  match modifier.comparison with
  | none => .error (.malformedModifier modifier .missingDistance)
  | some (symbol, value) =>
      match readUnsigned? distanceLimit value.toList with
      | none => .error (.malformedModifier modifier .malformedDistance)
      | some distance =>
          match symbol with
          | .equal => .ok distance
          | .atMost => .ok distance
          | .less =>
              if 0 < distance then
                .ok (distance - 1)
              else
                .error (.malformedModifier modifier .impossibleDistance)
          | _ => .error (.malformedModifier modifier .unsupportedComparison)

/-- The slop behind a modifier, given the one before it. -/
def slopAfter (slop : Nat) (modifier : Modifier) : Except CompilationError Nat := do
  match ← modifier.checkedName with
  | "distance" | "prox.distance" => slopOfDistance modifier
  | _ => return slop

/-- The slop of a proximity query. The last distance wins, but all must be well formed. -/
def slop (modifiers : List Modifier) : Except CompilationError Nat :=
  modifiers.foldlM slopAfter standardSlop

end CqlGateway.Modifier
