import CqlGateway.EngineQuery.Measure

/-! The truth of an engine query when the truth of its field matches is given. The ways to join
queries keep it, and keep the field matches from left to right.
-/

namespace CqlGateway.EngineQuery

-----------------------------------------------------------------------------------------
-- Joined queries by the number of operands that are brought in
-----------------------------------------------------------------------------------------

/-- What is no conjunction is brought into one as it is. -/
theorem conjuncts_eq_singleton {query : EngineQuery} (single : query.isAnd = false)
    : query.conjuncts = [query] := by
  cases query with
  | and => cases single
  | all | or | not | leaf => rfl

/-- What is no disjunction is brought into one as it is. -/
theorem disjuncts_eq_singleton {query : EngineQuery} (single : query.isOr = false)
    : query.disjuncts = [query] := by
  cases query with
  | or => cases single
  | all | and | not | leaf => rfl

/-- What holds of no operands and everything, of one operand, and of several and their conjunction
holds of the operands that are brought into a conjunction.
-/
theorem conjunction_cases {motive : List EngineQuery → EngineQuery → Prop} (none : motive [] .all)
    (one : ∀ operand, motive [operand] operand)
    (several : ∀ operands, 2 ≤ operands.length → motive operands (.and operands))
    (operands : List EngineQuery)
    : motive (operands.flatMap conjuncts) (conjunction operands) := by
  unfold conjunction
  cases operands.flatMap conjuncts with
  | nil => exact none
  | cons first others =>
      cases others with
      | nil => exact one first
      | cons second rest => exact several (first :: second :: rest) (by simp)

/-- What holds of no operands and nothing, of one operand, and of several and their disjunction holds
of the operands that are brought into a disjunction.
-/
theorem disjunction_cases {motive : List EngineQuery → EngineQuery → Prop}
    (none : motive [] nothing) (one : ∀ operand, motive [operand] operand)
    (several : ∀ operands, 2 ≤ operands.length → motive operands (.or operands))
    (operands : List EngineQuery)
    : motive (operands.flatMap disjuncts) (disjunction operands) := by
  unfold disjunction
  cases operands.flatMap disjuncts with
  | nil => exact none
  | cons first others =>
      cases others with
      | nil => exact one first
      | cons second rest => exact several (first :: second :: rest) (by simp)

-----------------------------------------------------------------------------------------
-- Truth
-----------------------------------------------------------------------------------------

mutual

/-- The truth of a query, given that of field matches. -/
def eval (truth : FieldMatch → Bool) : EngineQuery → Bool
  | .all => true
  | .leaf condition => truth condition
  | .not operand => !eval truth operand
  | .and operands => evalEvery truth operands
  | .or operands => evalSome truth operands

def evalEvery (truth : FieldMatch → Bool) : List EngineQuery → Bool
  | [] => true
  | operand :: rest => eval truth operand && evalEvery truth rest

def evalSome (truth : FieldMatch → Bool) : List EngineQuery → Bool
  | [] => false
  | operand :: rest => eval truth operand || evalSome truth rest

end

section Truth

variable (truth : FieldMatch → Bool)

@[simp]
theorem eval_all : eval truth .all = true := by
  simp only [eval]

@[simp]
theorem eval_leaf (condition : FieldMatch) : eval truth (.leaf condition) = truth condition := by
  simp only [eval]

@[simp]
theorem eval_not (operand : EngineQuery) : eval truth (.not operand) = !eval truth operand := by
  simp only [eval]

@[simp]
theorem eval_and (operands : List EngineQuery)
    : eval truth (.and operands) = operands.all (eval truth) := by
  simp only [eval]
  induction operands with
  | nil => simp only [evalEvery, List.all_nil]
  | cons operand rest ih => simp only [evalEvery, List.all_cons, ih]

@[simp]
theorem eval_or (operands : List EngineQuery)
    : eval truth (.or operands) = operands.any (eval truth) := by
  simp only [eval]
  induction operands with
  | nil => simp only [evalSome, List.any_nil]
  | cons operand rest ih => simp only [evalSome, List.any_cons, ih]

/-- A query is as true as all that it brings into a conjunction. -/
theorem all_conjuncts (query : EngineQuery)
    : query.conjuncts.all (eval truth) = eval truth query := by
  cases query <;> simp [conjuncts]

/-- A query is as true as one of what it brings into a disjunction. -/
theorem any_disjuncts (query : EngineQuery)
    : query.disjuncts.any (eval truth) = eval truth query := by
  cases query <;> simp [disjuncts]

/-- A conjunction is true if all its operands are. Witness: splicing replaces an operand by what it
brings in, and a single operand stands for itself.
-/
theorem eval_conjunction (operands : List EngineQuery)
    : eval truth (conjunction operands) = operands.all (eval truth) := by
  have spliced : (operands.flatMap conjuncts).all (eval truth) = operands.all (eval truth) := by
    simp only [List.all_flatMap, all_conjuncts]
  rw [← spliced]
  exact conjunction_cases
    (motive := fun brought query => eval truth query = brought.all (eval truth))
    (by simp) (by simp) (fun brought _ => eval_and truth brought) operands

/-- A disjunction is true if one of its operands is, and false if there is none. -/
theorem eval_disjunction (operands : List EngineQuery)
    : eval truth (disjunction operands) = operands.any (eval truth) := by
  have spliced : (operands.flatMap disjuncts).any (eval truth) = operands.any (eval truth) := by
    simp only [List.any_flatMap, any_disjuncts]
  rw [← spliced]
  exact disjunction_cases
    (motive := fun brought query => eval truth query = brought.any (eval truth))
    (by simp [nothing]) (by simp) (fun brought _ => eval_or truth brought) operands

/-- A negation is true if its operand is not, also where two negations cancel out. -/
theorem eval_negation (query : EngineQuery)
    : eval truth (negation query) = !eval truth query := by
  cases query <;> simp [negation]

end Truth

-----------------------------------------------------------------------------------------
-- Field matches from left to right
-----------------------------------------------------------------------------------------

@[simp]
theorem leaves_all : leaves .all = [] := by
  simp only [leaves]

@[simp]
theorem leaves_leaf (condition : FieldMatch) : leaves (.leaf condition) = [condition] := by
  simp only [leaves]

@[simp]
theorem leaves_not (operand : EngineQuery) : leaves (.not operand) = leaves operand := by
  simp only [leaves]

theorem allLeaves_eq (operands : List EngineQuery)
    : allLeaves operands = operands.flatMap leaves := by
  induction operands with
  | nil => simp only [allLeaves, List.flatMap_nil]
  | cons operand rest ih => simp only [allLeaves, List.flatMap_cons, ih]

@[simp]
theorem leaves_and (operands : List EngineQuery)
    : leaves (.and operands) = operands.flatMap leaves := by
  simp only [leaves, allLeaves_eq]

@[simp]
theorem leaves_or (operands : List EngineQuery)
    : leaves (.or operands) = operands.flatMap leaves := by
  simp only [leaves, allLeaves_eq]

theorem flatMap_conjuncts_leaves (query : EngineQuery)
    : query.conjuncts.flatMap leaves = leaves query := by
  cases query <;> simp [conjuncts]

theorem flatMap_disjuncts_leaves (query : EngineQuery)
    : query.disjuncts.flatMap leaves = leaves query := by
  cases query <;> simp [disjuncts]

/-- A conjunction has the field matches of its operands, one operand after the other. -/
theorem leaves_conjunction (operands : List EngineQuery)
    : leaves (conjunction operands) = operands.flatMap leaves := by
  have spliced : (operands.flatMap conjuncts).flatMap leaves = operands.flatMap leaves := by
    simp only [List.flatMap_assoc, flatMap_conjuncts_leaves]
  rw [← spliced]
  exact conjunction_cases (motive := fun brought query => leaves query = brought.flatMap leaves)
    (by simp) (by simp) (fun brought _ => leaves_and brought) operands

/-- A disjunction has the field matches of its operands, one operand after the other. -/
theorem leaves_disjunction (operands : List EngineQuery)
    : leaves (disjunction operands) = operands.flatMap leaves := by
  have spliced : (operands.flatMap disjuncts).flatMap leaves = operands.flatMap leaves := by
    simp only [List.flatMap_assoc, flatMap_disjuncts_leaves]
  rw [← spliced]
  exact disjunction_cases (motive := fun brought query => leaves query = brought.flatMap leaves)
    (by simp [nothing]) (by simp) (fun brought _ => leaves_or brought) operands

/-- A negation has the field matches of its operand, also where two negations cancel out. -/
theorem leaves_negation (query : EngineQuery) : leaves (negation query) = leaves query := by
  cases query <;> simp [negation]

end CqlGateway.EngineQuery
