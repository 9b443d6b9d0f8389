import CqlGateway.Proofs.EngineQuery.Truth

/-! The form in which the ways to join queries leave them: what could be spliced, collapsed or
cancelled out has been.
-/

namespace CqlGateway.EngineQuery

/-- A conjunction or disjunction has several operands, none of its own kind, and a negation is of
something that is not negated, at every depth.
-/
inductive IsNormal : EngineQuery → Prop
  | all : IsNormal .all
  | leaf (condition : FieldMatch) : IsNormal (.leaf condition)
  | not {operand : EngineQuery} (single : operand.isNot = false) (inner : IsNormal operand)
    : IsNormal (.not operand)
  | and {operands : List EngineQuery} (several : 2 ≤ operands.length)
    (spliced : ∀ operand ∈ operands, operand.isAnd = false)
    (inner : ∀ operand ∈ operands, IsNormal operand)
    : IsNormal (.and operands)
  | or {operands : List EngineQuery} (several : 2 ≤ operands.length)
    (spliced : ∀ operand ∈ operands, operand.isOr = false)
    (inner : ∀ operand ∈ operands, IsNormal operand)
    : IsNormal (.or operands)

namespace IsNormal

/-- What a query in normal form brings into a conjunction is in normal form and no conjunction. -/
theorem of_mem_conjuncts {query operand : EngineQuery} (normal : query.IsNormal)
    (member : operand ∈ query.conjuncts)
    : operand.IsNormal ∧ operand.isAnd = false := by
  cases single : query.isAnd with
  | false =>
      rw [conjuncts_eq_singleton single, List.mem_singleton] at member
      exact member ▸ ⟨normal, single⟩
  | true =>
      cases normal with
      | and _ spliced inner => exact ⟨inner operand member, spliced operand member⟩
      | all | leaf | not | or => cases single

/-- What a query in normal form brings into a disjunction is in normal form and no disjunction. -/
theorem of_mem_disjuncts {query operand : EngineQuery} (normal : query.IsNormal)
    (member : operand ∈ query.disjuncts)
    : operand.IsNormal ∧ operand.isOr = false := by
  cases single : query.isOr with
  | false =>
      rw [disjuncts_eq_singleton single, List.mem_singleton] at member
      exact member ▸ ⟨normal, single⟩
  | true =>
      cases normal with
      | or _ spliced inner => exact ⟨inner operand member, spliced operand member⟩
      | all | leaf | not | and => cases single

/-- A query in normal form brings something into a conjunction. -/
theorem conjuncts_ne_nil {query : EngineQuery} (normal : query.IsNormal)
    : query.conjuncts ≠ [] := by
  cases normal with
  | and several _ _ =>
      intro none
      simp only [conjuncts] at none
      simp [none] at several
  | all | leaf | not | or => simp [conjuncts]

/-- A query in normal form brings something into a disjunction. -/
theorem disjuncts_ne_nil {query : EngineQuery} (normal : query.IsNormal)
    : query.disjuncts ≠ [] := by
  cases normal with
  | or several _ _ =>
      intro none
      simp only [disjuncts] at none
      simp [none] at several
  | all | leaf | not | and => simp [disjuncts]

/-- Conjunctions of queries in normal form are in normal form, by the number of spliced operands.
-/
theorem conjunction {operands : List EngineQuery} (normal : ∀ operand ∈ operands, operand.IsNormal)
    : (conjunction operands).IsNormal := by
  have each : ∀ operand ∈ operands.flatMap conjuncts,
      operand.IsNormal ∧ operand.isAnd = false := by
    intro operand member
    obtain ⟨query, inOperands, brought⟩ := List.mem_flatMap.mp member
    exact (normal query inOperands).of_mem_conjuncts brought
  refine conjunction_cases
    (motive := fun brought query =>
      (∀ operand ∈ brought, operand.IsNormal ∧ operand.isAnd = false) → query.IsNormal)
    ?_ ?_ ?_ operands each
  · exact fun _ => .all
  · exact fun operand brought => (brought operand (by simp)).1
  · exact fun several enough brought =>
      .and enough (fun operand member => (brought operand member).2)
        (fun operand member => (brought operand member).1)

/-- The query that matches nothing is in normal form. -/
theorem nothing : nothing.IsNormal :=
  .not rfl .all

/-- Disjunctions of queries in normal form are in normal form, by the number of spliced operands.
-/
theorem disjunction {operands : List EngineQuery} (normal : ∀ operand ∈ operands, operand.IsNormal)
    : (disjunction operands).IsNormal := by
  have each : ∀ operand ∈ operands.flatMap disjuncts,
      operand.IsNormal ∧ operand.isOr = false := by
    intro operand member
    obtain ⟨query, inOperands, brought⟩ := List.mem_flatMap.mp member
    exact (normal query inOperands).of_mem_disjuncts brought
  refine disjunction_cases
    (motive := fun brought query =>
      (∀ operand ∈ brought, operand.IsNormal ∧ operand.isOr = false) → query.IsNormal)
    ?_ ?_ ?_ operands each
  · exact fun _ => nothing
  · exact fun operand brought => (brought operand (by simp)).1
  · exact fun several enough brought =>
      .or enough (fun operand member => (brought operand member).2)
        (fun operand member => (brought operand member).1)

/-- Negations of queries in normal form are in normal form. -/
theorem negation {query : EngineQuery} (normal : query.IsNormal) : (negation query).IsNormal := by
  cases normal with
  | not _ inner => exact inner
  | all => exact .not rfl .all
  | leaf condition => exact .not rfl (.leaf condition)
  | and several spliced inner => exact .not rfl (.and several spliced inner)
  | or several spliced inner => exact .not rfl (.or several spliced inner)

end IsNormal

-----------------------------------------------------------------------------------------
-- Flat queries
-----------------------------------------------------------------------------------------

theorem areFlat_eq (operands : List EngineQuery) : areFlat operands = operands.all isFlat := by
  induction operands with
  | nil => simp only [areFlat, List.all_nil]
  | cons operand rest ih => simp only [areFlat, List.all_cons, ih]

/-- A query in normal form is flat: it has no operands of its own kind at any depth. -/
theorem IsNormal.isFlat {query : EngineQuery} (normal : query.IsNormal)
    : query.isFlat = true := by
  induction normal with
  | all | leaf => simp only [EngineQuery.isFlat]
  | not _ _ ih => simpa only [EngineQuery.isFlat] using ih
  | and _ spliced _ ih =>
      simp only [EngineQuery.isFlat, areFlat_eq, Bool.and_eq_true, List.all_eq_true,
        Bool.not_eq_true']
      exact ⟨spliced, ih⟩
  | or _ spliced _ ih =>
      simp only [EngineQuery.isFlat, areFlat_eq, Bool.and_eq_true, List.all_eq_true,
        Bool.not_eq_true']
      exact ⟨spliced, ih⟩

end CqlGateway.EngineQuery
