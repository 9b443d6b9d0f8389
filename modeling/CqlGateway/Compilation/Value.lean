import CqlGateway.Catalog.Field
import CqlGateway.Numeral.Decimal
import CqlGateway.Text.DecimalDigit
import CqlGateway.Text.WhiteSpace
import CqlGateway.Compilation.Error

/-! Which values the types of fields accept. -/

namespace CqlGateway.FieldType

/-- True of exactly so many decimal digits of any script. -/
def isDigits (count : Nat) (text : List Char) : Bool :=
  text.length = count && text.all Text.isDecimalDigit

/-- True of a year, a year and a month, or a year, a month and a day. -/
def isDate (text : List Char) : Bool :=
  isDigits 4 text
    || (isDigits 4 (text.take 4) && (text.drop 4).take 1 = ['-']
      && (isDigits 2 (text.drop 5)
        || (isDigits 2 ((text.drop 5).take 2) && (text.drop 7).take 1 = ['-']
          && isDigits 2 (text.drop 8))))

/-- What is wrong with a value of the type, if anything. -/
def fault? (type : FieldType) (value : List Char) : Option ValueFault :=
  if Text.isBlank value then
    some .emptyTerm
  else
    match type with
    | .numeric => if isFiniteNumeral value then none else some .notNumber
    | .date => if isDate value then none else some .notDate
    | .text | .string => none

end CqlGateway.FieldType
