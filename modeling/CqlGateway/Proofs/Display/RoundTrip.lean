import CqlGateway.Proofs.Display.ReadBack

/-! The display of a query is parsed back as the query, with the words that are known unless others
are chosen.
-/

namespace CqlGateway

/-- Names and values are plain, and terms in the standard vocabulary. -/
def Spelling.plain : Spelling :=
  {
    name := fun name =>
      Term.IsPlain name ∧ (Vocabulary.standard.classify name).kind = .term
    value := fun value =>
      Term.IsPlain value ∧ (Vocabulary.standard.classify value).kind = .term
    operator := fun _ => True
  }

instance : DecidablePred Spelling.plain.name := fun name =>
  inferInstanceAs (Decidable (Term.IsPlain name ∧ _))

instance : DecidablePred Spelling.plain.value := fun value =>
  inferInstanceAs (Decidable (Term.IsPlain value ∧ _))

instance : DecidablePred Spelling.plain.operator := fun _ =>
  inferInstanceAs (Decidable True)

/-- The English words stand for their operators in the standard vocabulary. -/
theorem Spelling.plain_entails_verbatim : plain.Entails Vocabulary.standard.verbatim := by
  refine ⟨fun _ known => known, fun _ known => ⟨known.1.isRun, known.2⟩, ?_⟩
  intro operator _
  refine Vocabulary.classify_word ?_
  cases operator with
  | and | or | not | prox => decide +kernel

theorem isRelation_of_mem_standardNames {name : String}
    (known : name ∈ RelationKeywords.standardNames)
    : Vocabulary.standard.IsRelation name := by
  simp only [RelationKeywords.standardNames, List.mem_cons, List.not_mem_nil, or_false] at known
  rcases known with rfl | rfl | rfl | rfl | rfl | rfl
  all_goals exact ⟨by decide, by decide +kernel⟩

/-- The display of a query with plain names is accepted, unless more operators lie on a path than
parentheses may be nested. It is read as the query with masked quotes and displayed as before.
-/
theorem CqlQuery.text_parses_back (query : CqlQuery) (spelled : query.IsSpelled .plain)
    (formed : query.IsFormed (· ∈ RelationKeywords.standardNames))
    (bound : query.root.height ≤ 256)
    : ∃ result,
        Vocabulary.standard.parse query.text = .ok result
        ∧ result.withoutOffsets = query.withMaskedQuotes.withoutOffsets
        ∧ result.text = query.text := by
  obtain ⟨result, accepted, same⟩ := exists_parse_text
    (spelled.mono Spelling.plain_entails_verbatim)
    (formed.mono fun _ => isRelation_of_mem_standardNames) bound
  refine ⟨result, accepted, same, ?_⟩
  calc
    result.text = result.withoutOffsets.text := result.text_withoutOffsets.symm
    _ = query.withMaskedQuotes.withoutOffsets.text := by rw [same]
    _ = query.withMaskedQuotes.text := query.withMaskedQuotes.text_withoutOffsets
    _ = query.text := query.text_withMaskedQuotes formed

/-- Quotes and a backslash in a term, a keyword as a term, and modifiers in all places. -/
def quotesNearProximity : CqlQuery :=
  {
    root := .boolean .prox [⟨"distance", some (.atMost, "2"), 7⟩, ⟨"ordered", none, 7⟩]
      (.boolean .not []
        (.search {
          index := some "dc.title"
          relation := .named "any"
          modifiers := [⟨"cql.masked", none, 0⟩]
          term := "say \"hi\" (\\\"\\\\)"
          offset := 3
        })
        (.search (.bare "and" 5)))
      (.search {
        index := some "it'sBy\"x"
        relation := .comparison .different
        modifiers := [⟨"unit", some (.equal, "ord"), 0⟩]
        term := ""
        offset := 3
      })
    sort := some [⟨"date", [⟨"sort.descending", none, 1⟩]⟩, ⟨"title", []⟩]
  }

theorem CqlQuery.text_parses_back_quotesNearProximity
    : quotesNearProximity.text
        = "((dc.title any/cql.masked \"say \\\"hi\\\" (\\\"\\\\)\" not \"and\") "
          ++ "prox/distance<=2/ordered it'sBy\"x <>/unit=ord \"\") "
          ++ "sortby date/sort.descending title"
      ∧ ∃ result,
        Vocabulary.standard.parse quotesNearProximity.text = .ok result
        ∧ result.withoutOffsets = quotesNearProximity.withMaskedQuotes.withoutOffsets
        ∧ result.text = quotesNearProximity.text := by
  have spelled : quotesNearProximity.IsSpelled .plain := by decide +kernel
  have formed : quotesNearProximity.IsFormed (· ∈ RelationKeywords.standardNames) := by
    decide +kernel
  exact ⟨by decide +kernel,
    CqlQuery.text_parses_back quotesNearProximity spelled formed (by decide)⟩

end CqlGateway
