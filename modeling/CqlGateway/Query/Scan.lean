import CqlGateway.Query.Keyword
import CqlGateway.Text.WhiteSpace

/-! Splits a query into tokens. A quoted term runs to the quote it was opened with; any other run of
characters goes on to the next white space or delimiter. A backslash takes the next character into
the term whatever it is.
-/

namespace CqlGateway

inductive ScanFault where
  | unterminatedTerm
  | danglingBackslash
deriving DecidableEq, Repr

/-- Why a query has no tokens, and where. -/
structure ScanError where
  offset : Nat
  fault : ScanFault
deriving DecidableEq, Repr

namespace Vocabulary

/-- True of a character that is a token of its own or starts one. -/
def isDelimiter (character : Char) : Bool :=
  character = '(' || character = ')' || character = '=' || character = '<' || character = '>'
    || character = '/'

/-- True of a character that ends a run. -/
def endsRun (character : Char) : Bool :=
  Text.isWhiteSpace character || isDelimiter character

/-- The run at the front of a text that begins at a place. A backslash that has no character to take
is refused where it stands.
-/
def runFrom (place : Nat) : List Char → Except ScanError (List Char)
  | [] => .ok []
  | ['\\'] => .error ⟨place, .danglingBackslash⟩
  | '\\' :: character :: rest => (['\\', character] ++ ·) <$> runFrom (place + 2) rest
  | character :: rest =>
      if endsRun character then .ok [] else (character :: ·) <$> runFrom (place + 1) rest

/-- What stands in front of the closing quote, from a place on. A term that is left open is refused
where it was opened.
-/
def quotedTextFrom (quote : Char) (opened place : Nat) : List Char → Except ScanError (List Char)
  | [] => .error ⟨opened, .unterminatedTerm⟩
  | ['\\'] => .error ⟨place, .danglingBackslash⟩
  | '\\' :: character :: rest =>
      (['\\', character] ++ ·) <$> quotedTextFrom quote opened (place + 2) rest
  | character :: rest =>
      if character = quote then
        .ok []
      else
        (character :: ·) <$> quotedTextFrom quote opened (place + 1) rest

/-- The longest comparison that starts with a character. -/
def comparison? (first : Char) (rest : List Char) : Option Comparison :=
  match first, rest with
  | '=', '=' :: _ => some .identical
  | '=', _ => some .equal
  | '<', '=' :: _ => some .atMost
  | '<', '>' :: _ => some .different
  | '<', _ => some .less
  | '>', '=' :: _ => some .atLeast
  | '>', _ => some .greater
  | _, _ => none

def sortKeyword : String := "sortby"

/-- What an unquoted run is: the sort keyword, an operator, a relation, or a term. -/
def classify (vocabulary : Vocabulary) (run : String) : TokenData :=
  if Text.lowercase run = sortKeyword then
    .sortBy run
  else
    match vocabulary.booleans.operator? run with
    | some operator => .operator operator run
    | none =>
        if vocabulary.relations.names run then
          .relation (Text.lowercase run)
        else
          .term run run false

/-- A term between quotes. -/
def quotedTerm (quote : Char) (value : List Char) : TokenData :=
  .term (String.ofList (quote :: value ++ [quote])) (String.ofList value) true

/-- The token that starts at an offset with a character which is no white space, and how many
characters behind it belong to it.
-/
def lexeme (vocabulary : Vocabulary) (offset : Nat) (first : Char) (rest : List Char)
    : Except ScanError (TokenData × Nat) :=
  if first = '(' then
    .ok (.openParen, 0)
  else if first = ')' then
    .ok (.closeParen, 0)
  else if first = '/' then
    .ok (.slash, 0)
  else if first = '"' || first = '\'' then
    (fun value => (quotedTerm first value, value.length + 1))
      <$> quotedTextFrom first offset (offset + 1) rest
  else
    match comparison? first rest with
    | some comparison => .ok (.comparison comparison, comparison.symbol.length - 1)
    | none =>
        (fun run => (vocabulary.classify (String.ofList run), run.length - 1))
          <$> runFrom offset (first :: rest)

/-- The tokens of a text that starts at an offset. The last one is the end. -/
def tokensFrom (vocabulary : Vocabulary) (offset : Nat) (text : List Char)
    : Except ScanError (List Token) :=
  match text with
  | [] => .ok [⟨.endOfInput, offset⟩]
  | first :: rest =>
      if Text.isWhiteSpace first then
        tokensFrom vocabulary (offset + 1) rest
      else
        match vocabulary.lexeme offset first rest with
        | .error error => .error error
        | .ok (data, behind) =>
            (⟨data, offset⟩ :: ·) <$> tokensFrom vocabulary (offset + 1 + behind) (rest.drop behind)
termination_by text.length

/-- The tokens of a query. -/
def tokens (vocabulary : Vocabulary) (query : String) : Except ScanError (List Token) :=
  vocabulary.tokensFrom 0 query.toList

end Vocabulary

end CqlGateway
