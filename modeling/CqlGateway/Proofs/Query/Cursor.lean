import Mathlib.Data.List.Forall2
import CqlGateway.Numeral.Count
import CqlGateway.Query.TokenCursor

/-! The operations on a cursor agree about what stands ahead. Each of them looks at the end of the
row in a way of its own; by all of them a cursor stays on a token, moves forward only, and moves
past a whole pattern or not at all.
-/

namespace CqlGateway

namespace TokenCursor

variable {cursor : TokenCursor} {pattern : List TokenKind} {kind : TokenKind} {taken : List Token}

-----------------------------------------------------------------------------------------
-- What stands ahead
-----------------------------------------------------------------------------------------

@[simp]
theorem getElem?_ahead (cursor : TokenCursor) (distance : Nat)
    : cursor.ahead[distance]? = cursor.tokens[cursor.position + distance]? :=
  List.getElem?_drop

theorem length_ahead (cursor : TokenCursor)
    : cursor.position + cursor.ahead.length = cursor.tokens.length := by
  have here := cursor.position_lt
  rw [ahead, List.length_drop]
  omega

/-- The place that is looked at is the one ahead, or the last one of the row. -/
theorem getElem?_peekAt (cursor : TokenCursor) (distance : Nat)
    : cursor.tokens[min (cursor.position + distance) cursor.lastPosition]?
      = some (cursor.peekAt distance) :=
  List.getElem?_eq_getElem _

theorem peekAt_of_getElem? {distance : Nat} {token : Token}
    (there : cursor.tokens[cursor.position + distance]? = some token)
    : cursor.peekAt distance = token := by
  obtain ⟨inRow, -⟩ := List.getElem?_eq_some_iff.mp there
  have same := cursor.getElem?_peekAt distance
  rw [Nat.min_eq_left (by unfold lastPosition; omega), there] at same
  exact (Option.some.inj same).symm

/-- Past the row the last token is looked at. -/
theorem some_peekAt (cursor : TokenCursor) (distance : Nat)
    : some (cursor.peekAt distance)
      = (cursor.ahead[distance]?).or cursor.tokens.getLast? := by
  rw [getElem?_ahead]
  cases there : cursor.tokens[cursor.position + distance]? with
  | some token => rw [peekAt_of_getElem? there, Option.some_or]
  | none =>
      have past := List.getElem?_eq_none_iff.mp there
      rw [Option.none_or, List.getLast?_eq_getElem?, ← getElem?_peekAt,
        Nat.min_eq_right (by unfold lastPosition; omega), lastPosition]

theorem getElem?_position (cursor : TokenCursor)
    : cursor.tokens[cursor.position]? = some cursor.peek := by
  have here := cursor.getElem?_peekAt 0
  rwa [Nat.add_zero, Nat.min_eq_left] at here
  have := cursor.position_lt
  unfold lastPosition
  omega

/-- The tokens from the cursor on begin with the one at the cursor. -/
theorem ahead_eq_cons (cursor : TokenCursor)
    : ∃ rest, cursor.ahead = cursor.peek :: rest := by
  have here := cursor.getElem?_position
  rw [← Nat.add_zero cursor.position, ← getElem?_ahead, ← List.head?_eq_getElem?] at here
  exact List.head?_eq_some_iff.mp here

-----------------------------------------------------------------------------------------
-- Patterns
-----------------------------------------------------------------------------------------

/-- The next tokens are of these kinds. -/
def IsAt (cursor : TokenCursor) (pattern : List TokenKind) : Prop :=
  pattern <+: cursor.ahead.map Token.kind

/-- A place with a token of a kind, as it is looked at. -/
theorem kind_peekAt_iff {distance : Nat}
    : cursor.position + distance < cursor.tokens.length ∧ (cursor.peekAt distance).kind = kind
      ↔ (cursor.ahead.map Token.kind)[distance]? = some kind := by
  rw [List.getElem?_map, getElem?_ahead, Option.map_eq_some_iff]
  constructor
  · rintro ⟨inRow, same⟩
    have there := List.getElem?_eq_getElem inRow
    exact ⟨_, there, by rw [← peekAt_of_getElem? there, same]⟩
  · rintro ⟨token, there, same⟩
    exact ⟨(List.getElem?_eq_some_iff.mp there).1, by rw [peekAt_of_getElem? there, same]⟩

theorem lookingAt_iff : cursor.lookingAt pattern = true ↔ cursor.IsAt pattern := by
  simp only [lookingAt, List.all_eq_true, Bool.and_eq_true, decide_eq_true_eq, Prod.forall,
    kind_peekAt_iff, List.mk_mem_zipIdx_iff_getElem?, IsAt, List.prefix_iff_getElem?]
  constructor
  · intro each distance inPattern
    exact each _ distance (List.getElem?_eq_getElem inPattern)
  · intro each kind distance there
    obtain ⟨inPattern, rfl⟩ := List.getElem?_eq_some_iff.mp there
    exact each distance inPattern

/-- As many tokens as kinds are of these kinds, compared one by one. -/
theorem all_zip_iff {window : List Token} (long : window.length = pattern.length)
    : ((window.zip pattern).all fun (token, kind) => token.kind = kind) = true
      ↔ window.map Token.kind = pattern := by
  rw [← List.forall₂_eq_eq_eq, List.forall₂_map_left_iff, List.forall₂_iff_zip]
  simp [long]

theorem map_kind_take_iff
    : (cursor.ahead.take pattern.length).map Token.kind = pattern ↔ cursor.IsAt pattern := by
  rw [IsAt, List.prefix_iff_eq_take, List.map_take, eq_comm]

/-- There are tokens for all kinds of a pattern that is ahead. -/
theorem IsAt.position_add_length_le (isAt : cursor.IsAt pattern)
    : cursor.position + pattern.length ≤ cursor.tokens.length := by
  have fits := isAt.length_le
  have whole := cursor.length_ahead
  rw [List.length_map] at fits
  omega

theorem all_zip_ahead_iff (enough : cursor.position + pattern.length ≤ cursor.tokens.length)
    : (((cursor.ahead.take pattern.length).zip pattern).all
          fun (token, kind) => token.kind = kind)
        = true
      ↔ cursor.IsAt pattern := by
  have whole := cursor.length_ahead
  rw [all_zip_iff, map_kind_take_iff]
  rw [List.length_take]
  omega

theorem take_of_isAt (isAt : cursor.IsAt pattern)
    : cursor.take pattern
      = (
          some (cursor.ahead.take pattern.length),
          cursor.moveTo (cursor.position + pattern.length)
        ) := by
  have enough := isAt.position_add_length_le
  rw [take, if_neg (Nat.not_lt.mpr enough)]
  exact if_pos ((all_zip_ahead_iff enough).mpr isAt)

theorem take_of_not_isAt (differs : ¬ cursor.IsAt pattern)
    : cursor.take pattern = (none, cursor) := by
  rw [take]
  split
  · rfl
  · next enough => exact if_neg (mt (all_zip_ahead_iff (Nat.not_lt.mp enough)).mp differs)

theorem exists_take_iff
    : (∃ taken, (cursor.take pattern).1 = some taken) ↔ cursor.IsAt pattern := by
  by_cases isAt : cursor.IsAt pattern
  · simp [take_of_isAt isAt, isAt]
  · simp [take_of_not_isAt isAt, isAt]

-----------------------------------------------------------------------------------------
-- Single tokens
-----------------------------------------------------------------------------------------

theorem isAt_singleton : cursor.IsAt [kind] ↔ cursor.peek.kind = kind := by
  obtain ⟨rest, ahead⟩ := cursor.ahead_eq_cons
  simp [IsAt, ahead, eq_comm]

/-- At the last token the cursor stays, as it does if it moves past the row. -/
theorem advance_eq (cursor : TokenCursor)
    : cursor.advance = (cursor.peek, cursor.moveTo (cursor.position + 1)) := by
  obtain ⟨tokens, position, inRow⟩ := cursor
  unfold advance moveTo
  split
  · next before => simp only [Nat.min_eq_left (Nat.succ_le_of_lt before)]
  · next last =>
      have same : min (position + 1) (tokens.length - 1) = position := by
        simp only [lastPosition] at last
        omega
      simp only [lastPosition, same]

/-- A single token is accepted as a pattern of its own is taken. -/
theorem accept_eq_take (cursor : TokenCursor) (kind : TokenKind)
    : (cursor.accept kind).1.map ([·]) = (cursor.take [kind]).1
      ∧ (cursor.accept kind).2 = (cursor.take [kind]).2 := by
  obtain ⟨rest, ahead⟩ := cursor.ahead_eq_cons
  by_cases same : cursor.peek.kind = kind
  · rw [accept, if_pos same, take_of_isAt (isAt_singleton.mpr same), advance_eq, ahead]
    exact ⟨rfl, rfl⟩
  · rw [accept, if_neg same, take_of_not_isAt (mt isAt_singleton.mp same)]
    exact ⟨rfl, rfl⟩

theorem accept_of_none (refused : (cursor.accept kind).1 = none)
    : (cursor.accept kind).2 = cursor := by
  unfold accept at refused ⊢
  split at refused
  · cases refused
  · rw [if_neg (by assumption)]

-----------------------------------------------------------------------------------------
-- Runs
-----------------------------------------------------------------------------------------

/-- What is done with a cursor. -/
inductive Operation where
  | peek
  | peekAt (distance : Nat)
  | advance
  | accept (kind : TokenKind)
  | take (pattern : List TokenKind)
  | lookingAt (pattern : List TokenKind)
  | atEnd

/-- The cursor behind an operation. -/
def after (cursor : TokenCursor) : Operation → TokenCursor
  | .peek | .peekAt _ | .lookingAt _ | .atEnd => cursor
  | .advance => cursor.advance.2
  | .accept kind => (cursor.accept kind).2
  | .take pattern => (cursor.take pattern).2

/-- The cursor behind operations, one after the other. -/
def run (cursor : TokenCursor) (operations : List Operation) : TokenCursor :=
  operations.foldl after cursor

/-- One cursor is at another one, or further on in the same row. -/
structure Reaches (start cursor : TokenCursor) : Prop where
  tokens : cursor.tokens = start.tokens
  position : start.position ≤ cursor.position

theorem Reaches.refl (cursor : TokenCursor) : cursor.Reaches cursor :=
  ⟨rfl, Nat.le_refl _⟩

theorem Reaches.trans {start next last : TokenCursor} (first : start.Reaches next)
    (others : next.Reaches last)
    : start.Reaches last :=
  ⟨others.tokens.trans first.tokens, Nat.le_trans first.position others.position⟩

theorem reaches_moveTo {position : Nat} (forward : cursor.position ≤ position)
    : cursor.Reaches (cursor.moveTo position) := by
  have here := cursor.position_lt
  refine ⟨rfl, Nat.le_min.mpr ⟨forward, ?_⟩⟩
  unfold lastPosition
  omega

theorem reaches_take (cursor : TokenCursor) (pattern : List TokenKind)
    : cursor.Reaches (cursor.take pattern).2 := by
  by_cases isAt : cursor.IsAt pattern
  · rw [take_of_isAt isAt]
    exact reaches_moveTo (Nat.le_add_right _ _)
  · rw [take_of_not_isAt isAt]
    exact .refl cursor

/-- One operation more does not move the cursor back, by the cases of the operation. -/
theorem reaches_after (cursor : TokenCursor) (operation : Operation)
    : cursor.Reaches (cursor.after operation) := by
  cases operation with
  | peek | peekAt | lookingAt | atEnd => exact .refl cursor
  | advance =>
      rw [after, advance_eq]
      exact reaches_moveTo (Nat.le_add_right _ _)
  | accept kind =>
      rw [after, (cursor.accept_eq_take kind).2]
      exact reaches_take cursor [kind]
  | take pattern => exact reaches_take cursor pattern

/-- A run goes on from where the cursor is, by induction over the operations. -/
theorem reaches_run (cursor : TokenCursor) (operations : List Operation)
    : cursor.Reaches (cursor.run operations) := by
  induction operations generalizing cursor with
  | nil => exact .refl cursor
  | cons operation rest ih => exact (cursor.reaches_after operation).trans (ih _)

theorem run_append (cursor : TokenCursor) (operations more : List Operation)
    : cursor.run (operations ++ more) = (cursor.run operations).run more :=
  List.foldl_append

/-- What the operations tell and do where the cursor is. -/
structure IsReliable (tokens : List Token) (cursor : TokenCursor) : Prop where
  row : cursor.tokens = tokens
  here : tokens[cursor.position]? = some cursor.peek
  /-- No sum of a position and a distance passes 64 bits. -/
  inRange : ∀ distance,
    distance + tokens.length ≤ countLimit
    → wrappingAdd cursor.position distance = cursor.position + distance
  peekAt : ∀ distance,
    some (cursor.peekAt distance) = tokens[cursor.position + distance]?.or tokens.getLast?
  last : cursor.position + 1 = tokens.length → cursor.atEnd = true
  advance : cursor.advance.1 = cursor.peek
    ∧ cursor.advance.2.position = min (cursor.position + 1) (tokens.length - 1)
  lookingAt : ∀ pattern,
    cursor.lookingAt pattern = true ↔ pattern <+: (tokens.drop cursor.position).map Token.kind
  takes : ∀ pattern,
    cursor.lookingAt pattern = true ↔ ∃ taken, (cursor.take pattern).1 = some taken
  taken : ∀ pattern taken,
    (cursor.take pattern).1 = some taken
    → taken <+: tokens.drop cursor.position
      ∧ taken.map Token.kind = pattern
      ∧ (cursor.take pattern).2.position
        = min (cursor.position + pattern.length) (tokens.length - 1)
  untaken : ∀ pattern, (cursor.take pattern).1 = none → (cursor.take pattern).2 = cursor
  accept : ∀ kind,
    (cursor.accept kind).1.map ([·]) = (cursor.take [kind]).1
    ∧ (cursor.accept kind).2 = (cursor.take [kind]).2
  unaccepted : ∀ kind, (cursor.accept kind).1 = none → (cursor.accept kind).2 = cursor

theorem wrappingAdd_position {distance : Nat}
    (fits : distance + cursor.tokens.length ≤ countLimit)
    : wrappingAdd cursor.position distance = cursor.position + distance := by
  have here := cursor.position_lt
  exact Nat.mod_eq_of_lt (by omega)

theorem isReliable (ends : cursor.tokens.getLast?.map Token.kind = some .endOfInput)
    : cursor.IsReliable cursor.tokens where
  row := rfl
  here := cursor.getElem?_position
  inRange _ := wrappingAdd_position
  peekAt distance := by rw [some_peekAt, getElem?_ahead]
  last isLast := by
    have same : cursor.tokens.getLast? = some cursor.peek := by
      rw [List.getLast?_eq_getElem?, ← isLast, Nat.add_sub_cancel, getElem?_position]
    rw [same] at ends
    exact decide_eq_true (Option.some.inj ends)
  advance := by
    rw [advance_eq]
    exact ⟨rfl, rfl⟩
  lookingAt _ := lookingAt_iff
  takes _ := lookingAt_iff.trans exists_take_iff.symm
  taken pattern taken found := by
    have isAt := exists_take_iff.mp ⟨taken, found⟩
    rw [take_of_isAt isAt] at found ⊢
    obtain rfl := Option.some.inj found
    exact ⟨List.take_prefix _ _, map_kind_take_iff.mpr isAt, rfl⟩
  untaken pattern refused := by
    have differs : ¬ cursor.IsAt pattern := by simp [← exists_take_iff, refused]
    rw [take_of_not_isAt differs]
  accept := cursor.accept_eq_take
  unaccepted _ := accept_of_none

theorem exists_ofTokens?_eq_some {tokens : List Token} (nonempty : tokens ≠ [])
    : ∃ start, ofTokens? tokens = some start ∧ start.tokens = tokens ∧ start.position = 0 :=
  ⟨_, dif_pos (List.length_pos_iff.mpr nonempty), rfl, rfl⟩

/-- However a cursor is used, it is at a token of its row, goes on from there only, and its
operations agree about what stands ahead.
-/
theorem run_isReliable {tokens : List Token}
    (ends : tokens.getLast?.map Token.kind = some .endOfInput)
    : ∃ start,
        ofTokens? tokens = some start
        ∧ start.position = 0
        ∧ ∀ operations,
          (start.run operations).IsReliable tokens
          ∧ ∀ more,
            (start.run operations).position ≤ (start.run (operations ++ more)).position := by
  have nonempty : tokens ≠ [] := by
    rintro rfl
    cases ends
  obtain ⟨start, found, rfl, first⟩ := exists_ofTokens?_eq_some nonempty
  refine ⟨start, found, first, fun operations => ⟨?_, fun more => ?_⟩⟩
  · have same := (start.reaches_run operations).tokens
    rw [← same] at ends ⊢
    exact isReliable ends
  · rw [run_append]
    exact (reaches_run _ more).position

/-- The tokens of a comparison. -/
def comparedTerm : List Token :=
  [⟨.term "a" "a" false, 0⟩, ⟨.comparison .equal, 2⟩, ⟨.term "b" "b" false, 4⟩, ⟨.endOfInput, 5⟩]

/-- Patterns that do not fit, one that fits, and one that reaches past the last token. -/
def patternsToTheEnd : List Operation :=
  [
    .take [.term, .relation], .accept .slash, .take [.term, .comparison],
    .take [.term, .endOfInput, .term], .take [.term, .endOfInput], .advance
  ]

theorem run_isReliable_toTheEnd
    : comparedTerm.getLast?.map Token.kind = some .endOfInput
      ∧ ∃ start,
        ofTokens? comparedTerm = some start
        ∧ (start.run (patternsToTheEnd.take 2)).position = 0
        ∧ (start.run (patternsToTheEnd.take 4)).position = 2
        ∧ (start.run patternsToTheEnd).position = 3
        ∧ (start.run patternsToTheEnd).IsReliable comparedTerm := by
  have ends : comparedTerm.getLast?.map Token.kind = some .endOfInput := by rfl
  obtain ⟨start, found, -, runs⟩ := run_isReliable ends
  have reliable := (runs patternsToTheEnd).1
  obtain rfl := Option.some.inj found
  exact ⟨ends, _, rfl, by decide, by decide, by decide, reliable⟩

end TokenCursor

end CqlGateway
