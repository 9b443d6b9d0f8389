import CqlGateway.Proofs.Display.Places

/-! An accepted query whose names can be displayed as they are is not changed by its display: it is
refused, or accepted as the same query.
-/

namespace CqlGateway

open Grammar

variable {vocabulary : Vocabulary}

-----------------------------------------------------------------------------------------
-- The form of parsed queries
-----------------------------------------------------------------------------------------

theorem WordToken.dangling_notMem {word : WordToken}
    (scanned : vocabulary.IsScanned word.token.data)
    : .dangling ∉ Term.pieces word.text.toList := by
  obtain ⟨⟨data, offset⟩, isWord⟩ := word
  cases data with
  | term | operator | sortBy => exact scanned
  | relation name => exact scanned.1.dangling_notMem
  | _ => simp [Token.kind, TokenData.kind] at isWord

theorem ClausePhrase.isFormed {phrase : ClausePhrase}
    (scanned : ∀ token ∈ phrase.tokens, vocabulary.IsScanned token.data)
    : phrase.clause.IsFormed vocabulary.IsRelation := by
  cases phrase with
  | bare term =>
      have whole := scanned term.token (by simp [ClausePhrase.tokens])
      exact ⟨fun _ => ⟨rfl, rfl⟩, trivial, whole⟩
  | qualified index relation modifiers word =>
      have known := scanned relation.token (by simp [ClausePhrase.tokens])
      have whole := scanned word.token (by simp [ClausePhrase.tokens])
      refine ⟨by rintro ⟨⟩, ?_, WordToken.dangling_notMem whole⟩
      obtain ⟨relation, offset⟩ := relation
      cases relation with
      | comparison => exact trivial
      | named name => exact known

mutual

/-- Operands of scanned tokens have the form of parsed queries, by induction on them. -/
theorem Operand.isFormed (operand : Operand)
    (scanned : ∀ token ∈ operand.tokens, vocabulary.IsScanned token.data)
    : operand.tree.IsFormed vocabulary.IsRelation :=
  match operand with
  | .clause phrase => by
      rw [Operand.tokens] at scanned
      rw [Operand.tree]
      exact ClausePhrase.isFormed scanned
  | .group opening first others closing => by
      simp only [Operand.tokens, List.forall_mem_cons, List.forall_mem_append] at scanned
      obtain ⟨-, ⟨firstScanned, othersScanned⟩, -⟩ := scanned
      rw [Operand.tree]
      exact Joined.isFormed others othersScanned (Operand.isFormed first firstScanned)

theorem Joined.isFormed {left : QueryTree} (joined : Joined)
    (scanned : ∀ token ∈ joined.tokens, vocabulary.IsScanned token.data)
    (leftFormed : left.IsFormed vocabulary.IsRelation)
    : (joined.treeFrom left).IsFormed vocabulary.IsRelation :=
  match joined with
  | .none => by
      rw [Joined.treeFrom]
      exact leftFormed
  | .more operator right others => by
      simp only [Joined.tokens, List.forall_mem_append] at scanned
      obtain ⟨⟨-, rightScanned⟩, othersScanned⟩ := scanned
      have bare : operator.operator ≠ .prox
          → operator.modifiers.map ModifierPhrase.modifier = [] := by
        intro other
        rw [operator.bare_unless_prox other]
        rfl
      rw [Joined.treeFrom]
      exact Joined.isFormed others othersScanned
        ⟨bare, leftFormed, Operand.isFormed right rightScanned⟩

end

/-- Parsed queries have the form of parsed queries. -/
theorem isFormed_of_parse {text : String} {query : CqlQuery}
    (accepted : vocabulary.parse text = .ok query)
    : query.IsFormed vocabulary.IsRelation := by
  obtain ⟨⟨first, others, sort⟩, last, -, scanned, -, rfl⟩ :=
    Vocabulary.exists_derivation_of_parse accepted
  simp only [Derivation.tokens, List.forall_mem_append] at scanned
  obtain ⟨⟨firstScanned, othersScanned⟩, -⟩ := scanned
  refine ⟨Joined.isFormed others othersScanned (Operand.isFormed first firstScanned), ?_⟩
  cases sort with
  | none => rintro ⟨⟩
  | some phrase =>
      intro noKeys
      exact phrase.some_keys (by simpa [Derivation.query] using noKeys)

-----------------------------------------------------------------------------------------
-- Accepted displays
-----------------------------------------------------------------------------------------

/-- Where a display is accepted, all names and values in it were scanned as terms. -/
theorem verbatim_of_parse_text {query redisplayed : CqlQuery}
    (spelled : query.IsSpelled vocabulary.displayable)
    (formed : query.IsFormed vocabulary.IsRelation)
    (accepted : vocabulary.parse query.text = .ok redisplayed)
    : query.IsSpelled vocabulary.verbatim ∧ query.root.height ≤ maxNesting := by
  have scans := Vocabulary.scans_query (spelled.mono vocabulary.displayable_entails_runs) formed
  obtain ⟨body, last, found, data⟩ := scans.tokens
  obtain ⟨tokens, scanned, read⟩ := Vocabulary.parse_eq_ok.mp accepted
  obtain rfl := Except.ok.inj (found.symm.trans scanned)
  have fits := (CqlQuery.ofTokens_accepts_iff rfl (Vocabulary.kind_ne_of_tokens scanned)).mp
    ⟨redisplayed, read⟩
  obtain ⟨reached, follows, -⟩ := Place.misfit?_eq_none fits
  rw [data] at follows
  exact verbatim_of_query spelled formed follows

/-- A query with displayable names and operators is not changed by its display: where that is
accepted, it is read as the query with masked quotes. It is refused if a name or a value in it is a
keyword, or if its parentheses would be nested too deeply.
-/
theorem CqlQuery.redisplay_keeps_query (vocabulary : Vocabulary) {text : String}
    {query redisplayed : CqlQuery} (accepted : vocabulary.parse text = .ok query)
    (spelled : query.IsSpelled vocabulary.displayable)
    (again : vocabulary.parse query.text = .ok redisplayed)
    : redisplayed.withoutOffsets = query.withMaskedQuotes.withoutOffsets
      ∧ query.IsSpelled vocabulary.verbatim
      ∧ query.root.height ≤ maxNesting := by
  have formed := isFormed_of_parse accepted
  obtain ⟨verbatim, height⟩ := verbatim_of_parse_text spelled formed again
  obtain ⟨result, read, same⟩ := exists_parse_text verbatim formed height
  obtain rfl := Except.ok.inj (read.symm.trans again)
  exact ⟨same, verbatim, height⟩

/-- The Danish operators and the standard relations. -/
def danish : Vocabulary :=
  {
    booleans := .danish
    relations := .standard
  }

/-- An escaped name, a keyword behind a relation, and quotes in terms. -/
def danishText : String :=
  "titel any/\\x/n=\"1\" 'sig \"hej\"' OG (b = Sortby ikke \"c \\\"\") sortby år/nedad"

def danishQuery : CqlQuery :=
  {
    root := .boolean .and []
      (.search {
        index := some "titel"
        relation := .named "any"
        modifiers := [⟨"x", none, 10⟩, ⟨"n", some (.equal, "1"), 13⟩]
        term := "sig \"hej\""
        offset := 0
      })
      (.boolean .not []
        (.search {
          index := some "b"
          relation := .comparison .equal
          modifiers := []
          term := "Sortby"
          offset := 35
        })
        (.search (.bare "c \\\"" 51)))
    sort := some [⟨"år", [⟨"nedad", none, 69⟩]⟩]
  }

theorem CqlQuery.redisplay_keeps_query_danishWords
    : danish.parse danishText = .ok danishQuery
      ∧ danishQuery.IsSpelled danish.displayable
      ∧ danishQuery.text
        = "(titel any/x/n=1 \"sig \\\"hej\\\"\" and (b = \"Sortby\" not \"c \\\"\")) sortby år/nedad"
      ∧ ∃ redisplayed,
        danish.parse danishQuery.text = .ok redisplayed
        ∧ redisplayed.withoutOffsets = danishQuery.withMaskedQuotes.withoutOffsets
        ∧ danishQuery.IsSpelled danish.verbatim := by
  have accepted : danish.parse danishText = .ok danishQuery := by
    rw [← Outcome.toOption_eq_some]
    decide +kernel
  have spelled : danishQuery.IsSpelled danish.displayable := by decide +kernel
  have present : (danish.parse danishQuery.text).toOption.isSome = true := by decide +kernel
  obtain ⟨redisplayed, again⟩ := Option.isSome_iff_exists.mp present
  rw [Outcome.toOption_eq_some] at again
  obtain ⟨same, verbatim, -⟩ := CqlQuery.redisplay_keeps_query danish accepted spelled again
  exact ⟨accepted, spelled, by decide +kernel, redisplayed, again, same, verbatim⟩

-----------------------------------------------------------------------------------------
-- Displays that are misread
-----------------------------------------------------------------------------------------

/-- The text is accepted, and so is the display of its query, but as another query. -/
def IsMisread (vocabulary : Vocabulary) (text : String) : Prop :=
  ∃ query ∈ (vocabulary.parse text).toOption,
    ∃ redisplayed ∈ (vocabulary.parse query.text).toOption,
      redisplayed.withoutOffsets ≠ query.withMaskedQuotes.withoutOffsets

instance (vocabulary : Vocabulary) (text : String) : Decidable (IsMisread vocabulary text) :=
  inferInstanceAs (Decidable (∃ query ∈ _, ∃ redisplayed ∈ _, _))

/-- The word `und` for `and`, and `and` for another operator. -/
def renamedAnd : KeywordSettings :=
  {
    locale := "en"
    synonyms := [("und", "and"), ("and", "or")]
    relations := []
  }

/-- Names with a space, a backslash, a slash, a quote in front or nothing in them are misread, and so
are values with a space, a slash, a quote in front or nothing in them, and operators that are
called otherwise.
-/
theorem CqlQuery.redisplay_changes_undisplayable
    : (∃ vocabulary ∈ KeywordSettings.standard.vocabulary?,
        IsMisread vocabulary "\"x and y\" = z"
        ∧ IsMisread vocabulary "a\\\\b = c"
        ∧ IsMisread vocabulary "a sortby \"k/m\""
        ∧ IsMisread vocabulary "\\\"a = \"and x\""
        ∧ IsMisread vocabulary "a sortby \"\" b"
        ∧ IsMisread vocabulary "a sortby k/m=\"1 j\""
        ∧ IsMisread vocabulary "a sortby k/m=\"1/n\""
        ∧ IsMisread vocabulary "a sortby k/m='\"x\"'"
        ∧ IsMisread vocabulary "a sortby k/m=\"\" j")
      ∧ ∃ vocabulary ∈ renamedAnd.vocabulary?, IsMisread vocabulary "a und b" := by
  decide +kernel

end CqlGateway
