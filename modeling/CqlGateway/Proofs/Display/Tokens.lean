import CqlGateway.Proofs.Display.Form
import CqlGateway.Proofs.Query.Scanning

/-! The display of a query is scanned piece by piece: each name and value as one token, and each
term as a quoted one.
-/

namespace CqlGateway

-----------------------------------------------------------------------------------------
-- What the displays are scanned as
-----------------------------------------------------------------------------------------

variable (vocabulary : Vocabulary)

/-- The tokens of a modifier and its slash. -/
def Modifier.tokenData (modifier : Modifier) : List TokenData :=
  match modifier.comparison with
  | some (symbol, value) => [
      .slash,
      vocabulary.classify modifier.name,
      .comparison symbol,
      vocabulary.classify value
    ]
  | none => [.slash, vocabulary.classify modifier.name]

def Relation.tokenData : Relation → TokenData
  | .comparison symbol => .comparison symbol
  | .named name => .relation name

/-- The token of a term between double quotes. -/
def Term.tokenData (term : String) : TokenData :=
  .term (Term.quoted term) (Term.withMaskedQuotes term) true

def SearchClause.tokenData (clause : SearchClause) : List TokenData :=
  match clause.index with
  | some index =>
      vocabulary.classify index :: clause.relation.tokenData
        :: (clause.modifiers.flatMap (Modifier.tokenData vocabulary)
          ++ [Term.tokenData clause.term])
  | none => [Term.tokenData clause.term]

def QueryTree.tokenData : QueryTree → List TokenData
  | .search clause => clause.tokenData vocabulary
  | .boolean operator modifiers left right =>
      .openParen :: (left.tokenData ++ .operator operator operator.word
        :: (modifiers.flatMap (Modifier.tokenData vocabulary) ++ right.tokenData
          ++ [.closeParen]))

def SortKey.tokenData (key : SortKey) : List TokenData :=
  vocabulary.classify key.index :: key.modifiers.flatMap (Modifier.tokenData vocabulary)

def CqlQuery.tokenData (query : CqlQuery) : List TokenData :=
  query.root.tokenData vocabulary
    ++ match query.sort with
      | some keys =>
          .sortBy Vocabulary.sortKeyword :: keys.flatMap (SortKey.tokenData vocabulary)
      | none => []

-----------------------------------------------------------------------------------------
-- Names and modifiers
-----------------------------------------------------------------------------------------

namespace Vocabulary

/-- Names and values are runs, and operators are called by their English words. -/
def runs : Spelling :=
  {
    name := fun name => IsRun name.toList
    value := fun value => IsRun value.toList
    operator := fun operator =>
      vocabulary.classify operator.word = .operator operator operator.word
  }

/-- The name of a relation as the scanner gives it. -/
def IsRelation (name : String) : Prop :=
  IsRun name.toList ∧ vocabulary.classify name = .relation name

variable {vocabulary : Vocabulary} {rest : List Char}

@[simp]
theorem endsRun_nil : EndsRun [] := by
  simp [EndsRun]

@[simp]
theorem endsRun_cons {first : Char} : EndsRun (first :: rest) ↔ endsRun first = true := by
  simp [EndsRun]

theorem endsRun_symbol (symbol : Comparison) : EndsRun (symbol.symbol.toList ++ rest) := by
  cases symbol <;> exact endsRun_cons.mpr rfl

theorem endsRun_modifiersText (modifiers : List Modifier) (ends : EndsRun rest)
    : EndsRun ((modifiersText modifiers).toList ++ rest) := by
  cases modifiers with
  | nil => exact ends
  | cons modifier others => simp [modifiersText, String.toList_join, endsRun, isDelimiter]

theorem scans_name {name : String} (isRun : IsRun name.toList) (ends : EndsRun rest)
    : Scans vocabulary name.toList [vocabulary.classify name] rest := by
  have scans := @scans_run vocabulary _ _ isRun ends
  rwa [String.ofList_toList] at scans

/-- A symbol stays what it is in front of a run, which does not begin with one. -/
theorem scans_symbol_of_isRun (symbol : Comparison) {run : List Char} (isRun : IsRun run)
    : Scans vocabulary symbol.symbol.toList [.comparison symbol] (run ++ rest) := by
  refine scans_symbol symbol ?_
  cases run with
  | nil => exact absurd rfl isRun.ne_nil
  | cons first others =>
      intro next leads
      obtain rfl := Option.some.inj leads
      have inside := isRun.endsRun_eq_false
      refine ⟨?_, ?_⟩
      · rintro rfl
        cases inside
      · rintro rfl
        cases inside

theorem scans_modifier {modifier : Modifier} (spelled : modifier.IsSpelled vocabulary.runs)
    (ends : EndsRun rest)
    : Scans vocabulary ("/" ++ modifier.text).toList (modifier.tokenData vocabulary) rest := by
  obtain ⟨name, comparison, offset⟩ := modifier
  obtain ⟨isName, isValue⟩ := spelled
  cases comparison with
  | none =>
      rw [String.toList_append]
      exact .append scans_slash (scans_name isName ends)
  | some compared =>
      obtain ⟨symbol, value⟩ := compared
      have isRun : IsRun value.toList := isValue (symbol, value) rfl
      have parts : ("/" ++ Modifier.text ⟨name, some (symbol, value), offset⟩).toList
          = ['/'] ++ (name.toList ++ (symbol.symbol.toList ++ value.toList)) := by
        simp [Modifier.text]
      have compared : Scans vocabulary (symbol.symbol.toList ++ value.toList)
          [.comparison symbol, vocabulary.classify value] rest :=
        (scans_symbol_of_isRun symbol isRun).append (scans_name isRun ends)
      have named : Scans vocabulary name.toList [vocabulary.classify name]
          ((symbol.symbol.toList ++ value.toList) ++ rest) := by
        rw [List.append_assoc]
        exact scans_name isName (endsRun_symbol symbol)
      rw [parts]
      exact .append scans_slash (named.append compared)

/-- Modifiers are scanned one after the other, by list induction. -/
theorem scans_modifiers {modifiers : List Modifier}
    (spelled : ∀ modifier ∈ modifiers, modifier.IsSpelled vocabulary.runs) (ends : EndsRun rest)
    : Scans vocabulary (modifiersText modifiers).toList
        (modifiers.flatMap (Modifier.tokenData vocabulary)) rest := by
  induction modifiers with
  | nil => exact .nil
  | cons modifier others ih =>
      obtain ⟨first, later⟩ := List.forall_mem_cons.mp spelled
      have parts : (modifiersText (modifier :: others)).toList
          = ("/" ++ modifier.text).toList ++ (modifiersText others).toList := by
        simp [modifiersText, String.toList_join]
      rw [parts]
      exact .append (scans_modifier first (endsRun_modifiersText others ends)) (ih later)

-----------------------------------------------------------------------------------------
-- Clauses and trees
-----------------------------------------------------------------------------------------

theorem scans_term {term : String} (whole : .dangling ∉ Term.pieces term.toList)
    : Scans vocabulary (Term.quoted term).toList [Term.tokenData term] rest := by
  have scans := @scans_quoted vocabulary _ _ rest (.inl rfl)
    (Term.isBetween_withMaskedQuotes whole)
  have parts : (Term.quoted term).toList
      = '"' :: ((Term.withMaskedQuotes term).toList ++ ['"']) := by
    simp [Term.quoted_eq]
  have token : Term.tokenData term = quotedTerm '"' (Term.withMaskedQuotes term).toList := by
    have raw : Term.quoted term
        = String.ofList ('"' :: (Term.withMaskedQuotes term).toList ++ ['"']) := by
      rw [List.cons_append, ← parts, String.ofList_toList]
    rw [Term.tokenData, quotedTerm, ← raw, String.ofList_toList]
  rw [parts, token]
  exact scans

/-- Only modifiers or a space come next. -/
def Separates (rest : List Char) : Prop :=
  ∀ first ∈ rest.head?, first = '/' ∨ first = ' '

theorem separates_modifiersText (modifiers : List Modifier)
    : Separates ((modifiersText modifiers).toList ++ ' ' :: rest) := by
  cases modifiers with
  | nil => simp [Separates, modifiersText]
  | cons modifier others => simp [Separates, modifiersText, String.toList_join]

theorem Separates.endsRun (separates : Separates rest) : EndsRun rest := by
  intro first leads
  rcases separates first leads with rfl | rfl
  · rfl
  · rfl

theorem scans_relation {relation : Relation}
    (named : relation.IsNamed vocabulary.IsRelation) (separates : Separates rest)
    : Scans vocabulary relation.text.toList [relation.tokenData] rest := by
  cases relation with
  | comparison symbol =>
      refine scans_symbol symbol ?_
      intro first leads
      rcases separates first leads with rfl | rfl
      · decide
      · decide
  | named name =>
      obtain ⟨isRun, known⟩ := named
      have scans := @scans_name vocabulary rest name isRun separates.endsRun
      rwa [known] at scans

theorem scans_clause {clause : SearchClause} (spelled : clause.IsSpelled vocabulary.runs)
    (formed : clause.IsFormed vocabulary.IsRelation)
    : Scans vocabulary clause.text.toList (clause.tokenData vocabulary) rest := by
  obtain ⟨index, relation, modifiers, term, offset⟩ := clause
  have quoted := @scans_term vocabulary rest term formed.term
  cases index with
  | none => exact quoted
  | some index =>
      have afterModifiers : EndsRun (' ' :: (Term.quoted term).toList ++ rest) :=
        endsRun_cons.mpr rfl
      have modified := (scans_modifiers spelled.modifiers afterModifiers).append
        quoted.behindSpace
      have separates := @separates_modifiersText ((Term.quoted term).toList ++ rest) modifiers
      rw [← List.cons_append, ← List.append_assoc] at separates
      have related := (scans_relation formed.relation separates).append modified
      have named := scans_name (spelled.index index rfl) (endsRun_cons.mpr rfl)
        |>.append related.behindSpace
      have parts : (SearchClause.text ⟨some index, relation, modifiers, term, offset⟩).toList
          = index.toList ++ ' ' :: (relation.text.toList ++ ((modifiersText modifiers).toList
            ++ ' ' :: (Term.quoted term).toList)) := by
        simp [SearchClause.text]
      rw [parts]
      exact named

theorem isRun_word (operator : BooleanOperator) : IsRun operator.word.toList := by
  cases operator with
  | and | or | not | prox => decide

theorem scans_operator {operator : BooleanOperator}
    (known : vocabulary.runs.operator operator) (separates : Separates rest)
    : Scans vocabulary operator.word.toList [.operator operator operator.word] rest := by
  have scans := @scans_name vocabulary rest _ (isRun_word operator) separates.endsRun
  rwa [known] at scans

/-- A tree is scanned whatever comes behind it, by induction on the tree. -/
theorem scans_tree {tree : QueryTree} (spelled : tree.IsSpelled vocabulary.runs)
    (formed : tree.IsFormed vocabulary.IsRelation)
    : Scans vocabulary tree.text.toList (tree.tokenData vocabulary) rest := by
  induction tree generalizing rest with
  | search clause => exact scans_clause spelled formed
  | boolean operator modifiers left right leftScans rightScans =>
      obtain ⟨known, named, leftSpelled, rightSpelled⟩ := spelled
      obtain ⟨-, leftFormed, rightFormed⟩ := formed
      have closed := (@rightScans (')' :: rest) rightSpelled rightFormed).append scans_closeParen
      have afterModifiers : EndsRun (' ' :: (right.text.toList ++ [')']) ++ rest) :=
        endsRun_cons.mpr rfl
      have modified := (scans_modifiers named afterModifiers).append closed.behindSpace
      have separates := @separates_modifiersText (right.text.toList ++ [')'] ++ rest) modifiers
      rw [← List.cons_append, ← List.append_assoc] at separates
      have joined := (scans_operator known separates).append modified
      have inner := (leftScans leftSpelled leftFormed).append joined.behindSpace
      have parts : (QueryTree.boolean operator modifiers left right).text.toList
          = '(' :: (left.text.toList ++ ' ' :: (operator.word.toList
            ++ ((modifiersText modifiers).toList ++ ' ' :: (right.text.toList ++ [')'])))) := by
        simp [QueryTree.text]
      have data : (QueryTree.boolean operator modifiers left right).tokenData vocabulary
          = [.openParen] ++ (left.tokenData vocabulary ++ ([.operator operator operator.word]
            ++ (modifiers.flatMap (Modifier.tokenData vocabulary)
              ++ (right.tokenData vocabulary ++ [.closeParen])))) := by
        simp [QueryTree.tokenData]
      rw [parts, data]
      exact scans_openParen.append inner

-----------------------------------------------------------------------------------------
-- Queries
-----------------------------------------------------------------------------------------

theorem isRun_sortKeyword : IsRun sortKeyword.toList := by decide

theorem classify_sortKeyword : vocabulary.classify sortKeyword = .sortBy sortKeyword := by
  have lower : Text.lowercase sortKeyword = sortKeyword := by decide +kernel
  rw [classify, if_pos lower]

/-- Sort keys are scanned one after the other, by list induction. -/
theorem scans_sortKeys {keys : List SortKey}
    (spelled : ∀ key ∈ keys, key.IsSpelled vocabulary.runs)
    : Scans vocabulary (String.join (keys.map fun key => " " ++ key.text)).toList
          (keys.flatMap (SortKey.tokenData vocabulary)) []
      ∧ EndsRun (String.join (keys.map fun key => " " ++ key.text)).toList := by
  induction keys with
  | nil => exact ⟨.nil, by simp⟩
  | cons key others ih =>
      obtain ⟨first, later⟩ := List.forall_mem_cons.mp spelled
      obtain ⟨scans, ends⟩ := ih later
      rw [← List.append_nil (String.toList _)] at ends
      have modified := scans_modifiers first.modifiers ends
      have named := (scans_name first.index (endsRun_modifiersText key.modifiers ends)).append
        modified
      have keyScans := named.append scans
      have parts : (String.join ((key :: others).map fun key => " " ++ key.text)).toList
          = ' ' :: (key.index.toList ++ (modifiersText key.modifiers).toList
            ++ (String.join (others.map fun key => " " ++ key.text)).toList) := by
        simp [SortKey.text, String.toList_join]
      rw [parts]
      exact ⟨keyScans.behindSpace, endsRun_cons.mpr rfl⟩

/-- The display of a query is scanned to its end. -/
theorem scans_query {query : CqlQuery} (spelled : query.IsSpelled vocabulary.runs)
    (formed : query.IsFormed vocabulary.IsRelation)
    : Scans vocabulary query.text.toList (query.tokenData vocabulary) [] := by
  obtain ⟨root, sort⟩ := query
  cases sort with
  | none =>
      have scans := @scans_tree vocabulary [] _ spelled.root formed.root
      rw [CqlQuery.tokenData, List.append_nil]
      exact scans
  | some keys =>
      obtain ⟨scans, ends⟩ := scans_sortKeys (spelled.sort keys rfl)
      rw [← List.append_nil (String.toList _)] at ends
      have keyword := @scans_name vocabulary _ _ isRun_sortKeyword ends
      rw [classify_sortKeyword] at keyword
      have sorted := (keyword.append scans).behindSpace
      have parts : (CqlQuery.text ⟨root, some keys⟩).toList
          = root.text.toList ++ ' ' :: (sortKeyword.toList
            ++ (String.join (keys.map fun key => " " ++ key.text)).toList) := by
        simp [CqlQuery.text, sortKeyword]
      rw [parts]
      exact (scans_tree spelled.root formed.root).append sorted

end Vocabulary

end CqlGateway
