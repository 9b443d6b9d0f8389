import CqlGateway.Term.Escape

/-! What the catalog knows of a field of the index engine. -/

namespace CqlGateway

/-- What the values of a field are. -/
inductive FieldType where
  /-- Text that the engine splits into words. -/
  | text
  /-- One string as a whole. -/
  | string
  | numeric
  | date
deriving DecidableEq, Repr

/-- What a query may use a field for. -/
inductive FieldUsage where
  | search
  | relation
  | both
deriving DecidableEq, Repr

/-- Whether a query looks for records or follows relations between them. -/
inductive QueryKind where
  | search
  | relation
deriving DecidableEq, Repr

/-- The kind of query as messages name it. -/
def QueryKind.label : QueryKind → String
  | .search => "search"
  | .relation => "relation lookup"

def FieldUsage.allows (usage : FieldUsage) (kind : QueryKind) : Bool :=
  match usage, kind with
  | .both, _ => true
  | .search, .search => true
  | .relation, .relation => true
  | _, _ => false

structure EngineField where
  name : String
  type : FieldType
  multiValued : Bool
  escaping : Escaping
  usage : FieldUsage
deriving DecidableEq, Repr

namespace EngineField

/-- A text field as the catalogs have it. -/
def text (name : String) : EngineField :=
  {
    name := name
    type := .text
    multiValued := true
    escaping := .masked
    usage := .search
  }

/-- A field of one literal value. -/
def literal (name : String) (type : FieldType) : EngineField :=
  {
    name := name
    type := type
    multiValued := false
    escaping := .literal
    usage := .search
  }

/-- True of fields whose terms are split into words. -/
def isTokenized (field : EngineField) : Bool :=
  field.type = .text

end EngineField

end CqlGateway
