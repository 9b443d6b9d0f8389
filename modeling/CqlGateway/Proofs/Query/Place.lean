import CqlGateway.Query.Parse

/-! Places in a query. From each place one reads on to the next token's place, or the token cannot
stand there. A place is all there is to know about the tokens in front of it: they can be completed
to a query from every place.
-/

namespace CqlGateway.Grammar

/-- What modifiers belong to, and how many parentheses are open there. Sort keys stand outside. -/
inductive ModifierOwner where
  | relation (nesting : Nat)
  | proximity (nesting : Nat)
  | sortKey

/-- A place between two tokens, and how many parentheses are open there. -/
inductive Place where
  /-- An operand must come. -/
  | operand (nesting : Nat)
  /-- Behind the first term of an operand. It may turn out to be an index. -/
  | leadingTerm (nesting : Nat)
  | operandEnd (nesting : Nat)
  /-- Modifiers may come, or what stands behind them. -/
  | modifiers (owner : ModifierOwner)
  | modifierName (owner : ModifierOwner)
  /-- Behind the name of a modifier. A comparison may follow. -/
  | namedModifier (owner : ModifierOwner)
  | modifierValue (owner : ModifierOwner)
  /-- Behind the sort keyword. -/
  | sortBegin

namespace Place

-----------------------------------------------------------------------------------------
-- Reading on
-----------------------------------------------------------------------------------------

def afterOperandBegin (nesting : Nat) : TokenData → Option Place
  | .term _ _ _ => some (.leadingTerm nesting)
  | .openParen => if nesting < maxNesting then some (.operand (nesting + 1)) else none
  | _ => none

def afterOperandEnd : Nat → TokenData → Option Place
  | nesting, .operator operator _ =>
      some (if operator = .prox then .modifiers (.proximity nesting) else .operand nesting)
  | nesting + 1, .closeParen => some (.operandEnd nesting)
  | 0, .sortBy _ => some .sortBegin
  | _, _ => none

/-- Where one comes to by what stands behind modifiers. -/
def afterModifiers : ModifierOwner → TokenData → Option Place
  | .relation nesting, data =>
      if (Parser.textAfterRelation? data).isSome then some (.operandEnd nesting) else none
  | .proximity nesting, data => afterOperandBegin nesting data
  | .sortKey, .term _ _ _ => some (.modifiers .sortKey)
  | .sortKey, _ => none

def afterModifier (owner : ModifierOwner) : TokenData → Option Place
  | .slash => some (.modifierName owner)
  | data => afterModifiers owner data

/-- The place behind a token, if it may stand here. -/
def step : Place → TokenData → Option Place
  | .operand nesting, data => afterOperandBegin nesting data
  | .leadingTerm nesting, .comparison _ => some (.modifiers (.relation nesting))
  | .leadingTerm nesting, .relation _ => some (.modifiers (.relation nesting))
  | .leadingTerm nesting, data => afterOperandEnd nesting data
  | .operandEnd nesting, data => afterOperandEnd nesting data
  | .modifiers owner, data => afterModifier owner data
  | .modifierName owner, .term _ _ _ => some (.namedModifier owner)
  | .namedModifier owner, .comparison _ => some (.modifierValue owner)
  | .namedModifier owner, data => afterModifier owner data
  | .modifierValue owner, .term _ _ _ => some (.modifiers owner)
  | .sortBegin, .term _ _ _ => some (.modifiers .sortKey)
  | _, _ => none

/-- True where the query may end. -/
def mayEnd : Place → Bool
  | .leadingTerm 0 | .operandEnd 0 | .modifiers .sortKey | .namedModifier .sortKey => true
  | _ => false

/-- The first token that cannot stand where it does. That is `last`, which stands behind all others,
if the query must go on.
-/
def misfit? (last : Token) : Place → List Token → Option Token
  | place, [] => if place.mayEnd then none else some last
  | place, token :: rest =>
      match place.step token.data with
      | some next => next.misfit? last rest
      | none => some token

/-- The place behind tokens with these data, if all of them may stand where they do. -/
def after? : Place → List TokenData → Option Place
  | place, [] => some place
  | place, data :: rest => (place.step data).bind (·.after? rest)

variable {place next reached other : Place} {token found last : Token} {tokens rest : List Token}

theorem misfit?_nil : place.misfit? last [] = if place.mayEnd then none else some last := by
  simp only [misfit?]

theorem misfit?_cons_of_step (fits : place.step token.data = some next)
    : place.misfit? last (token :: rest) = next.misfit? last rest := by
  simp only [misfit?, fits]

theorem misfit?_cons_of_none (stuck : place.step token.data = none)
    : place.misfit? last (token :: rest) = some token := by
  simp only [misfit?, stuck]

/-- Places that go on alike from the next token on have the same misfit. -/
theorem misfit?_congr
    (ends : tokens = [] → place.mayEnd = other.mayEnd)
    (steps : ∀ token ∈ tokens.head?, place.step token.data = other.step token.data)
    : place.misfit? last tokens = other.misfit? last tokens := by
  cases tokens with
  | nil => rw [misfit?_nil, misfit?_nil, ends rfl]
  | cons token rest =>
      have same := steps token (by simp)
      simp only [misfit?, same]

theorem after?_cons_eq_some {data : TokenData} {others : List TokenData}
    : place.after? (data :: others) = some reached
      ↔ ∃ next, place.step data = some next ∧ next.after? others = some reached := by
  rw [after?, Option.bind_eq_some_iff]

theorem after?_append (front behind : List TokenData)
    : place.after? (front ++ behind) = (place.after? front).bind (·.after? behind) := by
  induction front generalizing place with
  | nil => rfl
  | cons data others ih =>
      rw [List.cons_append, after?, after?]
      cases place.step data with
      | none => rfl
      | some next => exact ih

theorem after?_append_eq_some {front behind : List TokenData}
    : place.after? (front ++ behind) = some reached
      ↔ ∃ next, place.after? front = some next ∧ next.after? behind = some reached := by
  rw [after?_append, Option.bind_eq_some_iff]

theorem misfit?_append {front : List Token}
    (fits : place.after? (front.map Token.data) = some reached)
    : place.misfit? last (front ++ rest) = reached.misfit? last rest := by
  induction front generalizing place with
  | nil =>
      obtain rfl := Option.some.inj fits
      rfl
  | cons token others ih =>
      obtain ⟨next, step, later⟩ := Option.bind_eq_some_iff.mp fits
      rw [List.cons_append, misfit?_cons_of_step step]
      exact ih later

/-- Where there is no misfit, the tokens lead to a place where the query may end. -/
theorem misfit?_eq_none (fits : place.misfit? last tokens = none)
    : ∃ reached, place.after? (tokens.map Token.data) = some reached ∧ reached.mayEnd = true := by
  induction tokens generalizing place with
  | nil =>
      rw [misfit?_nil] at fits
      split at fits
      · next finished => exact ⟨place, rfl, finished⟩
      · cases fits
  | cons token rest ih =>
      cases step : place.step token.data with
      | none =>
          rw [misfit?_cons_of_none step] at fits
          cases fits
      | some next =>
          rw [misfit?_cons_of_step step] at fits
          obtain ⟨reached, later, finished⟩ := ih fits
          exact ⟨reached, by rw [List.map_cons, after?, step]; exact later, finished⟩

/-- In front of a misfit all tokens may stand where they do, and it may not: either it is the last
token and the query must go on, or it cannot stand in its place.
-/
theorem misfit?_eq_some (stops : place.misfit? last tokens = some found)
    : ∃ front reached,
        place.after? (front.map Token.data) = some reached
        ∧ (tokens = front ∧ found = last ∧ reached.mayEnd = false
          ∨ ∃ behind, tokens = front ++ found :: behind ∧ reached.step found.data = none) := by
  induction tokens generalizing place with
  | nil =>
      rw [misfit?_nil] at stops
      split at stops
      · cases stops
      · next unfinished =>
          obtain rfl := Option.some.inj stops
          exact ⟨[], place, rfl, .inl ⟨rfl, rfl, by simpa using unfinished⟩⟩
  | cons token rest ih =>
      cases step : place.step token.data with
      | none =>
          rw [misfit?_cons_of_none step] at stops
          obtain rfl := Option.some.inj stops
          exact ⟨[], place, rfl, .inr ⟨rest, rfl, step⟩⟩
      | some next =>
          rw [misfit?_cons_of_step step] at stops
          obtain ⟨front, reached, fits, stuck⟩ := ih stops
          refine ⟨token :: front, reached, by rw [List.map_cons, after?, step]; exact fits, ?_⟩
          rcases stuck with ⟨rfl, rfl, unfinished⟩ | ⟨behind, rfl, stuck⟩
          · exact .inl ⟨rfl, rfl, unfinished⟩
          · exact .inr ⟨behind, rfl, stuck⟩

-----------------------------------------------------------------------------------------
-- Completion
-----------------------------------------------------------------------------------------

/-- Some tokens, none of which is an end, make up a query with what stands in front of the place. -/
def CanBeCompleted (place : Place) : Prop :=
  ∃ tail : List Token,
    (∀ token ∈ tail, token.kind ≠ .endOfInput)
    ∧ ∀ last, place.misfit? last tail = none

theorem CanBeCompleted.of_mayEnd (finished : place.mayEnd = true) : place.CanBeCompleted :=
  ⟨[], by simp, fun last => by rw [misfit?_nil, if_pos finished]⟩

theorem CanBeCompleted.of_step (data : TokenData) (noEnd : data.kind ≠ .endOfInput)
    (fits : place.step data = some next) (completed : next.CanBeCompleted)
    : place.CanBeCompleted := by
  obtain ⟨tail, noEnds, accepted⟩ := completed
  refine ⟨⟨data, 0⟩ :: tail, ?_, ?_⟩
  · simp only [List.forall_mem_cons]
    exact ⟨noEnd, noEnds⟩
  · intro last
    rw [misfit?_cons_of_step fits]
    exact accepted last

/-- Behind an operand the open parentheses can be closed, by induction on their number. -/
theorem canBeCompleted_operandEnd (nesting : Nat) : (operandEnd nesting).CanBeCompleted := by
  induction nesting with
  | zero => exact .of_mayEnd rfl
  | succ nesting ih => exact .of_step .closeParen (by decide) rfl ih

/-- A term with nothing special about it. -/
def anyTerm : TokenData :=
  .term "x" "x" false

theorem canBeCompleted_leadingTerm (nesting : Nat) : (leadingTerm nesting).CanBeCompleted := by
  cases nesting with
  | zero => exact .of_mayEnd rfl
  | succ nesting => exact .of_step .closeParen (by decide) rfl (canBeCompleted_operandEnd nesting)

theorem canBeCompleted_operand (nesting : Nat) : (operand nesting).CanBeCompleted :=
  .of_step anyTerm (by decide) rfl (canBeCompleted_leadingTerm nesting)

theorem canBeCompleted_modifiers (owner : ModifierOwner) : (modifiers owner).CanBeCompleted := by
  cases owner with
  | relation nesting => exact .of_step anyTerm (by decide) rfl (canBeCompleted_operandEnd nesting)
  | proximity nesting =>
      exact .of_step anyTerm (by decide) rfl (canBeCompleted_leadingTerm nesting)
  | sortKey => exact .of_mayEnd rfl

theorem canBeCompleted_modifierValue (owner : ModifierOwner)
    : (modifierValue owner).CanBeCompleted :=
  .of_step anyTerm (by decide) rfl (canBeCompleted_modifiers owner)

theorem canBeCompleted_namedModifier (owner : ModifierOwner)
    : (namedModifier owner).CanBeCompleted :=
  .of_step (.comparison .equal) (by decide) rfl (canBeCompleted_modifierValue owner)

/-- There is no dead end: whatever place has been reached, a query can be completed from it. -/
theorem canBeCompleted (place : Place) : place.CanBeCompleted := by
  cases place with
  | operand nesting => exact canBeCompleted_operand nesting
  | leadingTerm nesting => exact canBeCompleted_leadingTerm nesting
  | operandEnd nesting => exact canBeCompleted_operandEnd nesting
  | modifiers owner => exact canBeCompleted_modifiers owner
  | modifierName owner =>
      exact .of_step anyTerm (by decide) rfl (canBeCompleted_namedModifier owner)
  | namedModifier owner => exact canBeCompleted_namedModifier owner
  | modifierValue owner => exact canBeCompleted_modifierValue owner
  | sortBegin => exact .of_step anyTerm (by decide) rfl (canBeCompleted_modifiers .sortKey)

end Place

end CqlGateway.Grammar
