/-! Tables from names to values, in the order of the names by code point. A table that is built by
`insert` holds each name once, so equal contents give equal tables.
-/

namespace CqlGateway

abbrev NameMap (α : Type) := List (String × α)

namespace NameMap

variable {α : Type}

def lookup? (table : NameMap α) (name : String) : Option α :=
  (table.find? (·.1 = name)).map (·.2)

def contains (table : NameMap α) (name : String) : Bool :=
  table.any (·.1 = name)

/-- Puts the value at the name's place; a value that stands there is replaced. -/
def insert (table : NameMap α) (name : String) (value : α) : NameMap α :=
  match table with
  | [] => [(name, value)]
  | (other, held) :: rest =>
      if name = other then
        (name, value) :: rest
      else if name < other then
        (name, value) :: (other, held) :: rest
      else
        (other, held) :: insert rest name value

/-- Changes the value at a name. A name that has none is put in first, with a value to start from.
-/
def update (table : NameMap α) (name : String) (start : α) (change : α → α) : NameMap α :=
  table.insert name (change ((table.lookup? name).getD start))

/-- The table that results from inserting the entries one after the other. -/
def ofList (entries : List (String × α)) : NameMap α :=
  entries.foldl (fun table entry => table.insert entry.1 entry.2) []

/-- The names in order. -/
def names (table : NameMap α) : List String :=
  table.map (·.1)

end NameMap

end CqlGateway
