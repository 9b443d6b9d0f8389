import CqlGateway.Text.CaseTables
import CqlGateway.Text.LowercaseTable

/-! Lower case of a whole text. Every letter has one lower case form but for two: the capital I with
a dot becomes two characters, and the capital sigma has a form of its own at the end of a word.
-/

namespace CqlGateway.Text

/-- The lower case form of a letter; any other character is its own. -/
def lowerChar (character : Char) : Char :=
  if character.toNat < 0x80 then
    if 0x41 ≤ character.toNat && character.toNat ≤ 0x5A then
      Char.ofNat (character.toNat + 0x20)
    else
      character
  else
    match caseRuns.find? (·.covers character.toNat) with
    | some run => Char.ofNat (character.toNat + run.shift).toNat
    | none => character

/-- True when the next character that is not passed over is a cased one. -/
def leadsToCased (characters : List Char) : Bool :=
  ((characters.dropWhile isCaseIgnorable).head?.map isCased).getD false

/-- True of a sigma that ends a word: a letter stands before it and none behind it. -/
def isFinalSigma (before after : List Char) : Bool :=
  leadsToCased before && !leadsToCased after

/-- The lower case of `character`, which stands behind `before` (last character first) and in front
of `after`.
-/
def lowerIn (before : List Char) (character : Char) (after : List Char) : List Char :=
  if character = 'Σ' then
    if isFinalSigma before after then ['ς'] else ['σ']
  else if character = 'İ' then
    ['i', '\u0307']
  else
    [lowerChar character]

/-- The lower case of the rest of a text whose characters so far are `before`, last character first.
-/
def lowercaseFrom (before : List Char) : List Char → List Char
  | [] => []
  | character :: rest => lowerIn before character rest ++ lowercaseFrom (character :: before) rest

/-- The text in lower case. Names and keywords are compared in this form. -/
def lowercase (text : String) : String :=
  String.ofList (lowercaseFrom [] text.toList)

end CqlGateway.Text
