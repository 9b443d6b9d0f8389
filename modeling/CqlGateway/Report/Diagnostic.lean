import CqlGateway.Error
import CqlGateway.Report.Basic

/-! Shows an error. One that is tied to a place of the query comes with the query and a caret under
that place.
-/

namespace CqlGateway.Report

/-- As wide as a character is in print, but blank. -/
def blankFor (character : Char) : Char :=
  if character = '\t' then '\t' else ' '

/-- What stands in front of the caret. -/
def caretIndent (query : String) (offset : Nat) : String :=
  String.ofList ((query.toList.take offset).map blankFor)

/-- The query, and under it a caret at the offset. -/
def ofPlace (query : String) (offset : Nat) : Report :=
  [
    .plain ("  " ++ query ++ "\n"),
    .plain ("  " ++ caretIndent query offset),
    .bold .red "^",
    .lineEnd
  ]

def ofError (query : String) (error : Error) : Report :=
  [
    .bold .red "error",
    .plain ("[" ++ error.code ++ "]: " ++ error.message ++ "\n")
  ]
    ++ (error.offset?.map (ofPlace query)).getD []

end CqlGateway.Report
