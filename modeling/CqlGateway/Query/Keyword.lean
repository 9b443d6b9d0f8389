import CqlGateway.Ordered.NameMap
import CqlGateway.Query.Token
import CqlGateway.Text.Lowercase

/-! The words of a query that are not terms. Operators have words of their own in each language, and
more can be added; words are compared in lower case.
-/

namespace CqlGateway

/-- The words for the operators, in lower case. -/
abbrev BooleanKeywords := NameMap BooleanOperator

namespace BooleanKeywords

/-- Makes a word stand for an operator, also if it stood for another one. -/
def withSynonym (keywords : BooleanKeywords) (word : String) (operator : BooleanOperator)
    : BooleanKeywords :=
  NameMap.insert keywords (Text.lowercase word) operator

/-- Makes several words stand for operators, one after the other. -/
def withSynonyms (keywords : BooleanKeywords) (synonyms : List (String × BooleanOperator))
    : BooleanKeywords :=
  synonyms.foldl (fun keywords (word, operator) => withSynonym keywords word operator) keywords

def english : BooleanKeywords :=
  withSynonyms [] [("and", .and), ("or", .or), ("not", .not), ("prox", .prox)]

/-- The English words and the Danish ones. -/
def danish : BooleanKeywords :=
  withSynonyms english [("og", .and), ("eller", .or), ("ikke", .not), ("nær", .prox)]

/-- The words of a language, by one of its names. -/
def forLocale? (locale : String) : Option BooleanKeywords :=
  match Text.lowercase locale with
  | "en" | "eng" | "english" => some english
  | "da" | "dan" | "danish" => some danish
  | _ => none

/-- The operator that a word stands for. -/
def operator? (keywords : BooleanKeywords) (word : String) : Option BooleanOperator :=
  NameMap.lookup? keywords (Text.lowercase word)

end BooleanKeywords

/-- The relations that a query may name, in lower case. -/
abbrev RelationKeywords := List String

namespace RelationKeywords

def ofNames (names : List String) : RelationKeywords :=
  names.map Text.lowercase

/-- The relations that are known unless others are chosen. -/
def standardNames : List String :=
  ["adj", "all", "any", "within", "encloses", "exact"]

def standard : RelationKeywords :=
  ofNames standardNames

/-- True of a word that names a relation. -/
def names (keywords : RelationKeywords) (word : String) : Bool :=
  List.contains keywords (Text.lowercase word)

end RelationKeywords

/-- All words that a scanner tells from terms. -/
structure Vocabulary where
  booleans : BooleanKeywords
  relations : RelationKeywords

/-- The English operators and the standard relations. -/
def Vocabulary.standard : Vocabulary :=
  {
    booleans := .english
    relations := .standard
  }

/-- A choice of words: a language, words for operators besides, and the relations. -/
structure KeywordSettings where
  locale : String
  synonyms : List (String × String)
  relations : List String
deriving DecidableEq

namespace KeywordSettings

def standard : KeywordSettings :=
  {
    locale := "en"
    synonyms := []
    relations := RelationKeywords.standardNames
  }

/-- The operator with an English name. -/
def operatorNamed? (name : String) : Option BooleanOperator :=
  match Text.lowercase name with
  | "and" => some .and
  | "or" => some .or
  | "not" => some .not
  | "prox" => some .prox
  | _ => none

/-- The words for operators. A language or an operator without meaning gives none. -/
def booleans? (settings : KeywordSettings) : Option BooleanKeywords := do
  let base ← BooleanKeywords.forLocale? settings.locale
  settings.synonyms.foldlM
    (fun keywords (word, name) => (operatorNamed? name).map (keywords.withSynonym word)) base

/-- The words of the choice. -/
def vocabulary? (settings : KeywordSettings) : Option Vocabulary :=
  settings.booleans?.map fun booleans =>
    {
      booleans := booleans
      relations := RelationKeywords.ofNames settings.relations
    }

end KeywordSettings

end CqlGateway
