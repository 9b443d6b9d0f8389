/-! Texts in columns. A text that is wider than its column stands as it is. -/

namespace CqlGateway.Text

/-- So many blanks. -/
def blanks (count : Nat) : String :=
  String.ofList (List.replicate count ' ')

/-- The text at the right end of a column. -/
def padStart (width : Nat) (text : String) : String :=
  blanks (width - text.length) ++ text

/-- The text at the left end of a column. -/
def padEnd (width : Nat) (text : String) : String :=
  text ++ blanks (width - text.length)

end CqlGateway.Text
