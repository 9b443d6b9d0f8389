import CqlGateway.Proofs.EngineQuery.Reader
import CqlGateway.Proofs.EngineQuery.Truth

/-! The text of an engine query says what the query does. Read back, it has the same truth whatever
the truth of the field matches, and it needs no rule on which connective binds closer.
-/

namespace CqlGateway.EngineQuery

open EngineText

/-- Every conjunction and every disjunction has an operand. -/
inductive HasOperands : EngineQuery → Prop
  | all : HasOperands .all
  | leaf (condition : FieldMatch) : HasOperands (.leaf condition)
  | not {operand : EngineQuery} (inner : HasOperands operand) : HasOperands (.not operand)
  | and {operands : List EngineQuery} (nonempty : operands ≠ [])
    (inner : ∀ operand ∈ operands, HasOperands operand)
    : HasOperands (.and operands)
  | or {operands : List EngineQuery} (nonempty : operands ≠ [])
    (inner : ∀ operand ∈ operands, HasOperands operand)
    : HasOperands (.or operands)

/-- The fields of the query have names that are written as they are. -/
def HasPlainNames (query : EngineQuery) : Prop :=
  ∀ condition ∈ query.leaves, IsPlainName condition.field

/-- The truth of a query, given that of its field matches as they are written. -/
def holds (query : EngineQuery) (truth : String → Bool) : Bool :=
  query.eval fun condition => truth condition.text

theorem holds_all : holds .all = fun _ => true := by
  funext truth
  simp [holds]

theorem holds_not (operand : EngineQuery)
    : holds (.not operand) = fun truth => !operand.holds truth := by
  funext truth
  simp [holds]

theorem holds_and (operands : List EngineQuery)
    : holds (.and operands) = fun truth => operands.all (·.holds truth) := by
  funext truth
  simp only [holds, eval_and]

theorem holds_or (operands : List EngineQuery)
    : holds (.or operands) = fun truth => operands.any (·.holds truth) := by
  funext truth
  simp only [holds, eval_or]

-----------------------------------------------------------------------------------------
-- What a text adds to the level in which it stands
-----------------------------------------------------------------------------------------

/-- The text is an operand wherever one may stand. -/
def ReadsAsOne (text : String) (value : (String → Bool) → Bool) : Prop :=
  ∃ expression : Expression,
    expression.IsClear
    ∧ expression.isNegation = false
    ∧ (∀ truth, expression.eval truth = value truth)
    ∧ ∀ before after, before.add? expression = some after → Reads text before after

/-- The text is some operands of an alternative, all negated only if `negated`. -/
def ReadsAsAll (text : String) (negated : Bool) (value : (String → Bool) → Bool) : Prop :=
  ∃ operands : List Expression,
    operands ≠ []
    ∧ (∀ operand ∈ operands, operand.IsClear)
    ∧ (negated = false → ∃ operand ∈ operands, operand.isNegation = false)
    ∧ (∀ truth, operands.all (·.eval truth) = value truth)
    ∧ ∀ alternatives others,
        Reads text ⟨alternatives, others, .operand⟩
          ⟨alternatives, others ++ operands, .connective⟩

/-- The text is some alternatives of one operand each. -/
def ReadsAsAny (text : String) (value : (String → Bool) → Bool) : Prop :=
  ∃ (initial : List Expression) (last : Expression),
    (∀ operand ∈ initial ++ [last], operand.IsClear ∧ operand.isNegation = false)
    ∧ (∀ truth, (initial ++ [last]).any (·.eval truth) = value truth)
    ∧ ∀ alternatives,
        Reads text ⟨alternatives, [], .operand⟩
          ⟨alternatives ++ initial.map ([·]), [last], .connective⟩

variable {text : String} {value : (String → Bool) → Bool}

theorem ReadsAsOne.all (one : ReadsAsOne text value) (negated : Bool)
    : ReadsAsAll text negated value := by
  obtain ⟨operand, clear, positive, same, reads⟩ := one
  refine ⟨[operand], by simp, by simpa using clear, ?_, by simpa using same, ?_⟩
  · exact fun _ => ⟨operand, by simp, positive⟩
  · intro alternatives others
    exact reads _ _ rfl

theorem ReadsAsOne.any (one : ReadsAsOne text value) : ReadsAsAny text value := by
  obtain ⟨operand, clear, positive, same, reads⟩ := one
  refine ⟨[], operand, by simpa using ⟨clear, positive⟩, by simpa using same, ?_⟩
  intro alternatives
  simpa using reads ⟨alternatives, [], .operand⟩ ⟨alternatives, [operand], .connective⟩ rfl

/-- The level that some operands make on their own. -/
theorem ReadsAsAll.level (every : ReadsAsAll text false value)
    : ∃ operands : List Expression,
        (Expression.level [operands]).IsClear
        ∧ (∀ truth, (Expression.level [operands]).eval truth = value truth)
        ∧ Reads text .empty ⟨[], operands, .connective⟩ := by
  obtain ⟨operands, _, clear, positive, same, reads⟩ := every
  refine ⟨operands, .level (.inl (by simp)) ?_ ?_, by simpa using same, reads [] []⟩
  · simpa using positive rfl
  · simpa using clear

/-- The level that some alternatives make on their own. -/
theorem ReadsAsAny.level (some : ReadsAsAny text value)
    : ∃ (initial : List Expression) (last : Expression),
        (Expression.level (initial.map ([·]) ++ [[last]])).IsClear
        ∧ (∀ truth, (Expression.level (initial.map ([·]) ++ [[last]])).eval truth = value truth)
        ∧ Reads text .empty ⟨initial.map ([·]), [last], .connective⟩ := by
  obtain ⟨initial, last, each, same, reads⟩ := some
  have singles : ∀ operands ∈ initial.map ([·]) ++ [[last]],
      ∃ operand ∈ initial ++ [last], operands = [operand] := by
    intro operands member
    rcases List.mem_append.mp member with earlier | final
    · obtain ⟨operand, inInitial, rfl⟩ := List.mem_map.mp earlier
      exact ⟨operand, by simp [inInitial], rfl⟩
    · exact ⟨last, by simp, List.mem_singleton.mp final⟩
  refine ⟨initial, last, .level (.inr ?_) ?_ ?_, ?_, reads []⟩
  · intro operands member
    obtain ⟨operand, _, rfl⟩ := singles operands member
    simp
  · intro operands member
    obtain ⟨operand, known, rfl⟩ := singles operands member
    exact ⟨operand, by simp, (each operand known).2⟩
  · intro operands member operand inOperands
    obtain ⟨only, known, rfl⟩ := singles operands member
    exact List.mem_singleton.mp inOperands ▸ (each only known).1
  · intro truth
    rw [← same truth]
    simp [List.any_append, Function.comp_def]

theorem ReadsAsAll.parenthesized (every : ReadsAsAll text false value)
    : ReadsAsOne (EngineQuery.parenthesized text) value := by
  obtain ⟨operands, clear, same, reads⟩ := every.level
  exact ⟨_, clear, rfl, same, fun before after added => reads.parenthesized rfl added⟩

theorem ReadsAsAny.parenthesized (some : ReadsAsAny text value)
    : ReadsAsOne (EngineQuery.parenthesized text) value := by
  obtain ⟨initial, last, clear, same, reads⟩ := some.level
  exact ⟨_, clear, rfl, same, fun before after added => reads.parenthesized rfl added⟩

-----------------------------------------------------------------------------------------
-- Connectives
-----------------------------------------------------------------------------------------

theorem reads_and (alternatives : List (List Expression)) (operands : List Expression)
    : Reads "AND" ⟨alternatives, operands, .connective⟩ ⟨alternatives, operands, .operand⟩ :=
  .word (by rfl) (by decide) (by simp [OpenLevel.afterWord?])

theorem reads_or (alternatives : List (List Expression)) (operands : List Expression)
    : Reads "OR" ⟨alternatives, operands, .connective⟩
        ⟨alternatives ++ [operands], [], .operand⟩ :=
  .word (by rfl) (by decide) (by simp [OpenLevel.afterWord?])

/-- A negation may come where an operand may, and behind an operand. -/
theorem reads_not (alternatives : List (List Expression)) (operands : List Expression)
    (awaited : Awaited) (single : awaited ≠ .negated)
    : Reads "NOT" ⟨alternatives, operands, awaited⟩ ⟨alternatives, operands, .negated⟩ :=
  .word (by rfl) (by decide) (by simp [OpenLevel.afterWord?, single])

/-- Texts joined by a conjunction bring their operands into one alternative. -/
theorem ReadsAsAll.and {left right : String} {leftNegated rightNegated : Bool}
    {leftValue rightValue : (String → Bool) → Bool}
    (hl : ReadsAsAll left leftNegated leftValue) (hr : ReadsAsAll right rightNegated rightValue)
    : ReadsAsAll (left ++ " AND " ++ right) (leftNegated && rightNegated)
        fun truth => leftValue truth && rightValue truth := by
  obtain ⟨first, nonempty, firstClear, firstPositive, firstSame, firstReads⟩ := hl
  obtain ⟨second, _, secondClear, secondPositive, secondSame, secondReads⟩ := hr
  refine ⟨first ++ second, by simp [nonempty], ?_, ?_, ?_, ?_⟩
  · intro operand member
    exact (List.mem_append.mp member).elim (firstClear operand) (secondClear operand)
  · intro positive
    rcases Bool.and_eq_false_iff.mp positive with inLeft | inRight
    · obtain ⟨operand, member, plain⟩ := firstPositive inLeft
      exact ⟨operand, List.mem_append_left second member, plain⟩
    · obtain ⟨operand, member, plain⟩ := secondPositive inRight
      exact ⟨operand, List.mem_append_right first member, plain⟩
  · intro truth
    simp [List.all_append, ← firstSame truth, ← secondSame truth]
  · intro alternatives others
    have joined := (firstReads alternatives others).space
      ((reads_and alternatives (others ++ first)).space
        (secondReads alternatives (others ++ first)))
    have spelled : " AND " = " " ++ "AND" ++ " " := by rfl
    rw [spelled]
    simpa only [String.append_assoc, List.append_assoc] using joined

/-- Texts joined by a disjunction bring their alternatives into one level. -/
theorem ReadsAsAny.or {left right : String} {leftValue rightValue : (String → Bool) → Bool}
    (hl : ReadsAsAny left leftValue) (hr : ReadsAsAny right rightValue)
    : ReadsAsAny (left ++ " OR " ++ right) fun truth => leftValue truth || rightValue truth := by
  obtain ⟨first, middle, firstEach, firstSame, firstReads⟩ := hl
  obtain ⟨second, last, secondEach, secondSame, secondReads⟩ := hr
  refine ⟨first ++ [middle] ++ second, last, ?_, ?_, ?_⟩
  · intro operand member
    rw [List.append_assoc] at member
    exact (List.mem_append.mp member).elim (firstEach operand) (secondEach operand)
  · intro truth
    rw [List.append_assoc, List.any_append, firstSame truth, secondSame truth]
  · intro alternatives
    have joined := (firstReads alternatives).space
      ((reads_or (alternatives ++ first.map ([·])) [middle]).space
        (secondReads (alternatives ++ first.map ([·]) ++ [[middle]])))
    have spelled : " OR " = " " ++ "OR" ++ " " := by rfl
    rw [spelled]
    simpa [- String.reduceAppend, String.append_assoc] using joined

/-- A negation is an operand of an alternative. -/
theorem ReadsAsOne.not (one : ReadsAsOne text value)
    : ReadsAsAll ("NOT " ++ text) true fun truth => !value truth := by
  obtain ⟨operand, clear, _, same, reads⟩ := one
  refine ⟨[.negation operand], by simp, by simpa using .negation clear, by simp,
    by simpa using same, ?_⟩
  intro alternatives others
  have negated := (reads_not alternatives others .operand (by decide)).space
    (reads ⟨alternatives, others, .negated⟩ _ rfl)
  simpa [String.append_assoc] using negated

/-- What matches everything is an operand wherever one may stand. -/
theorem readsAsOne_everything : ReadsAsOne everything fun _ => true := by
  refine ⟨.everything, .everything, rfl, by simp, ?_⟩
  intro before after added
  exact .word (by rfl) (by decide)
    (by simpa [OpenLevel.afterWord?, OpenLevel.operand?, everything] using added)

/-- A negation behind what matches everything has an operand that is not negated beside it. -/
theorem ReadsAsOne.subtracted (one : ReadsAsOne text value)
    : ReadsAsAll (everything ++ " " ++ ("NOT " ++ text)) false fun truth => !value truth := by
  obtain ⟨operand, clear, _, same, reads⟩ := one
  refine ⟨[.everything, .negation operand], by simp, ?_, fun _ => ⟨.everything, by simp, rfl⟩,
    by simpa using same, ?_⟩
  · simpa using ⟨.everything, .negation clear⟩
  · intro alternatives others
    have anchor : Reads everything ⟨alternatives, others, .operand⟩
        ⟨alternatives, others ++ [.everything], .connective⟩ :=
      .word (by rfl) (by decide)
        (by simp [OpenLevel.afterWord?, OpenLevel.operand?, everything, OpenLevel.add?])
    have negated := (reads_not alternatives (others ++ [.everything]) .connective
      (by decide)).space (reads _ _ rfl)
    simpa [String.append_assoc, List.append_assoc] using anchor.space negated

-----------------------------------------------------------------------------------------
-- Queries
-----------------------------------------------------------------------------------------

/-- A field match is an operand wherever one may stand. Witness: it is a single word with a colon,
and begins with a character that is no star.
-/
theorem readsAsOne_leaf {condition : FieldMatch} (ordinary : IsPlainName condition.field)
    : ReadsAsOne condition.text (holds (.leaf condition)) := by
  refine ⟨.atom condition.text, .atom _, rfl, by simp [holds], ?_⟩
  intro before after added
  have colon : ':' ∈ condition.text.toList := by
    simp [text_eq]
  have notWord {word : String} (noColon : ':' ∉ word.toList) : condition.text ≠ word := by
    rintro rfl
    exact noColon colon
  have notEverything : condition.text ≠ everything := by
    intro same
    have characters := congrArg String.toList same
    simp only [text_eq, String.toList_append] at characters
    cases found : condition.field.toList with
    | nil => simp [found, everything] at characters
    | cons first rest =>
        simp [found, everything] at characters
        have special := ordinary first (by simp [found])
        rw [characters.1] at special
        exact absurd special (by decide)
  refine .word (isWord_text ordinary) (notWord (by decide)) ?_
  simpa [OpenLevel.afterWord?, OpenLevel.operand?, notWord, notEverything, colon] using added

theorem textsAt_eq (place : Place) (operands : List EngineQuery)
    : textsAt place operands = operands.map (textAt place) := by
  induction operands with
  | nil => simp only [textsAt, List.map_nil]
  | cons operand rest ih => simp only [textsAt, List.map_cons, ih]

/-- Operands joined by conjunctions are read as all of them, by list induction. -/
theorem readsAsAll_join {operands : List EngineQuery} (nonempty : operands ≠ [])
    (each
      : ∀ operand ∈ operands, ReadsAsAll (textAt .inAnd operand) operand.isNot operand.holds)
    : ReadsAsAll (String.intercalate " AND " (textsAt .inAnd operands)) (operands.all isNot)
        fun truth => operands.all (·.holds truth) := by
  induction operands with
  | nil => exact absurd rfl nonempty
  | cons operand rest ih =>
      have first := each operand (by simp)
      cases rest with
      | nil => simpa [textsAt] using first
      | cons next others =>
          have later := ih (by simp) fun other member => each other (by simp [member])
          have joined := first.and later
          simp only [textsAt_eq, List.map_cons, String.intercalate_cons_cons] at joined ⊢
          simpa only [List.all_cons] using joined

/-- Operands joined by disjunctions are read as any of them, by list induction. -/
theorem readsAsAny_join {operands : List EngineQuery} (nonempty : operands ≠ [])
    (each : ∀ operand ∈ operands, ReadsAsAny (textAt .inOr operand) operand.holds)
    : ReadsAsAny (String.intercalate " OR " (textsAt .inOr operands))
        fun truth => operands.any (·.holds truth) := by
  induction operands with
  | nil => exact absurd rfl nonempty
  | cons operand rest ih =>
      have first := each operand (by simp)
      cases rest with
      | nil => simpa [textsAt] using first
      | cons next others =>
          have later := ih (by simp) fun other member => each other (by simp [member])
          have joined := first.or later
          simp only [textsAt_eq, List.map_cons, String.intercalate_cons_cons] at joined ⊢
          simpa only [List.any_cons] using joined

/-- The text of a conjunction without parentheses: negations alone are joined to what matches
everything.
-/
def conjunctionText (operands : List EngineQuery) : String :=
  (if operands.all isNot then everything ++ " AND " else "")
    ++ String.intercalate " AND " (textsAt .inAnd operands)

theorem readsAsAll_conjunctionText {operands : List EngineQuery} (nonempty : operands ≠ [])
    (each
      : ∀ operand ∈ operands, ReadsAsAll (textAt .inAnd operand) operand.isNot operand.holds)
    : ReadsAsAll (conjunctionText operands) false fun truth => operands.all (·.holds truth) := by
  have joined := readsAsAll_join nonempty each
  unfold conjunctionText
  split
  · next negations =>
      have anchored := (readsAsOne_everything.all false).and joined
      simpa using anchored
  · next mixed =>
      rw [Bool.not_eq_true] at mixed
      rw [mixed] at joined
      simpa using joined

/-- What the text of a query adds to the level in which it stands, at each place where a query may
stand.
-/
structure ReadsEverywhere (query : EngineQuery) : Prop where
  inNot : ReadsAsOne (textAt .inNot query) query.holds
  inAnd : ReadsAsAll (textAt .inAnd query) query.isNot query.holds
  inOr : ReadsAsAny (textAt .inOr query) query.holds

/-- A query that is written the same at each place is an operand at each place. -/
theorem ReadsEverywhere.of_one {query : EngineQuery}
    (one : ReadsAsOne (textAt .inNot query) query.holds)
    (inAnd : textAt .inAnd query = textAt .inNot query)
    (inOr : textAt .inOr query = textAt .inNot query)
    : ReadsEverywhere query where
  inNot := one
  inAnd := inAnd ▸ one.all query.isNot
  inOr := inOr ▸ one.any

theorem readsEverywhere_all : ReadsEverywhere .all := by
  refine .of_one ?_ (by simp only [textAt]) (by simp only [textAt])
  rw [holds_all]
  simpa only [textAt] using readsAsOne_everything

theorem readsEverywhere_leaf {condition : FieldMatch} (ordinary : IsPlainName condition.field)
    : ReadsEverywhere (.leaf condition) := by
  refine .of_one ?_ (by simp only [textAt]) (by simp only [textAt])
  simpa only [textAt] using readsAsOne_leaf ordinary

/-- A negation stands bare only in a conjunction, where it is an operand of its own. -/
theorem ReadsEverywhere.not {operand : EngineQuery} (inner : ReadsEverywhere operand)
    : ReadsEverywhere (.not operand) := by
  have grouped : ReadsAsOne (textAt .inNot (.not operand)) (holds (.not operand)) := by
    rw [holds_not]
    simpa only [textAt] using inner.inNot.subtracted.parenthesized
  refine {
    inNot := grouped
    inAnd := ?_
    inOr := ?_
  }
  · rw [holds_not]
    simpa only [textAt, isNot] using inner.inNot.not
  · simpa only [textAt] using grouped.any

/-- A conjunction stands bare only in a conjunction, into which it brings its operands. -/
theorem ReadsEverywhere.and {operands : List EngineQuery} (nonempty : operands ≠ [])
    (inner : ∀ operand ∈ operands, ReadsEverywhere operand)
    : ReadsEverywhere (.and operands) := by
  have joined := readsAsAll_conjunctionText nonempty fun operand member =>
    (inner operand member).inAnd
  rw [← holds_and] at joined
  have grouped : ReadsAsOne (textAt .inNot (.and operands)) (holds (.and operands)) := by
    simpa only [textAt, conjunctionText] using joined.parenthesized
  refine {
    inNot := grouped
    inAnd := ?_
    inOr := ?_
  }
  · simpa only [textAt, conjunctionText, isNot] using joined
  · simpa only [textAt] using grouped.any

/-- A disjunction stands bare only in a disjunction, into which it brings its alternatives. -/
theorem ReadsEverywhere.or {operands : List EngineQuery} (nonempty : operands ≠ [])
    (inner : ∀ operand ∈ operands, ReadsEverywhere operand)
    : ReadsEverywhere (.or operands) := by
  have joined := readsAsAny_join nonempty fun operand member => (inner operand member).inOr
  rw [← holds_or] at joined
  have grouped : ReadsAsOne (textAt .inNot (.or operands)) (holds (.or operands)) := by
    simpa only [textAt] using joined.parenthesized
  refine {
    inNot := grouped
    inAnd := ?_
    inOr := ?_
  }
  · simpa only [textAt, isNot] using grouped.all false
  · simpa only [textAt] using joined

theorem HasPlainNames.of_mem {operands : List EngineQuery} {operand : EngineQuery}
    (plain : ∀ condition ∈ operands.flatMap leaves, IsPlainName condition.field)
    (member : operand ∈ operands)
    : operand.HasPlainNames :=
  fun condition inOperand => plain condition (List.mem_flatMap.mpr ⟨operand, member, inOperand⟩)

/-- Every query is read as it is meant at every place, by induction over its operands. -/
theorem readsEverywhere {query : EngineQuery} (operands : query.HasOperands)
    (plain : query.HasPlainNames)
    : ReadsEverywhere query := by
  induction operands with
  | all => exact readsEverywhere_all
  | leaf condition => exact readsEverywhere_leaf (plain condition (by simp))
  | not _ ih => exact (ih (by simpa [HasPlainNames] using plain)).not
  | and nonempty _ ih =>
      rw [HasPlainNames, leaves_and] at plain
      exact .and nonempty fun operand member => ih operand member (.of_mem plain member)
  | or nonempty _ ih =>
      rw [HasPlainNames, leaves_or] at plain
      exact .or nonempty fun operand member => ih operand member (.of_mem plain member)

/-- Text that is read as some operands is read as one level of them. -/
theorem ReadsAsAll.read? (every : ReadsAsAll text false value)
    : ∃ expression,
        EngineText.read? text = some expression
        ∧ expression.IsClear
        ∧ ∀ truth, expression.eval truth = value truth := by
  obtain ⟨operands, clear, same, reads⟩ := every.level
  exact ⟨_, reads.read? rfl, clear, same⟩

/-- Text that is read as some alternatives is read as one level of them. -/
theorem ReadsAsAny.read? (some : ReadsAsAny text value)
    : ∃ expression,
        EngineText.read? text = .some expression
        ∧ expression.IsClear
        ∧ ∀ truth, expression.eval truth = value truth := by
  obtain ⟨initial, last, clear, same, reads⟩ := some.level
  exact ⟨_, reads.read? rfl, clear, same⟩

/-- The text of a query is read as an expression with the truth of the query, whatever the truth of
the field matches. No level of it mixes connectives, and no conjunction has only negations.
-/
theorem read?_text (query : EngineQuery) (operands : query.HasOperands)
    (plain : query.HasPlainNames)
    : ∃ expression,
        EngineText.read? query.text = some expression
        ∧ expression.IsClear
        ∧ ∀ truth, expression.eval truth = query.eval fun condition => truth condition.text := by
  have everywhere := readsEverywhere operands plain
  cases operands with
  | all | leaf =>
      have one := everywhere.inNot.all false
      simp only [textAt] at one
      simp only [text, textAt]
      exact one.read?
  | not inner =>
      have single := (readsEverywhere inner (by simpa [HasPlainNames] using plain)).inNot
      have subtracted := single.subtracted
      rw [← holds_not] at subtracted
      simp only [text, textAt]
      exact subtracted.read?
  | and nonempty inner =>
      have joined := everywhere.inAnd
      simp only [textAt, isNot] at joined
      simp only [text, textAt]
      exact joined.read?
  | or nonempty inner =>
      have joined := everywhere.inOr
      simp only [textAt] at joined
      simp only [text, textAt]
      exact joined.read?

/-- A query whose values look like connectives, quotes and parentheses. -/
def disguised : EngineQuery :=
  .or [
    .not (.and [.not .all, .term "title" .literal "x) OR (y"]),
    .or [.all, .phrase "title" .masked "\" AND ("]
  ]

theorem read?_text_disguised
    : ∃ expression,
        EngineText.read? disguised.text = some expression
        ∧ expression.IsClear
        ∧ ∀ truth,
          expression.eval truth = disguised.eval fun condition => truth condition.text := by
  refine read?_text disguised ?_ ?_
  · exact .or (by simp) (by
      simpa using ⟨.not (.and (by simp) (by simpa using ⟨.not .all, .leaf _⟩)),
        .or (by simp) (by simpa using ⟨.all, .leaf _⟩)⟩)
  · have names : ∀ condition ∈ disguised.leaves, condition.field = "title" := by
      decide
    intro condition member
    rw [names condition member]
    decide

end CqlGateway.EngineQuery
