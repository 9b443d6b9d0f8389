import CqlGateway.Proofs.EngineQuery.Reader

/-! Where the parts of a text of the engine's language stand: in how many parentheses, and whether
in quotes or brackets. A text that is read as a single alternative has no alternative outside
parentheses.
-/

namespace CqlGateway.EngineText

/-- Where the next character of a text stands. -/
structure Position where
  mode : Mode
  /-- The number of parentheses that are open. -/
  depth : Nat
deriving DecidableEq

namespace Position

/-- Outside all parentheses, quotes and brackets. -/
def outside : Position :=
  ⟨.plain, 0⟩

/-- Where the character behind this one stands, unless this one closes a parenthesis that was never
opened.
-/
def after? (position : Position) (character : Char) : Option Position :=
  let mode := position.mode.after character
  if position.mode = .plain && character = '(' then
    some ⟨mode, position.depth + 1⟩
  else if position.mode = .plain && character = ')' then
    match position.depth with
    | 0 => none
    | depth + 1 => some ⟨mode, depth⟩
  else
    some ⟨mode, position.depth⟩

def through? (position : Position) (text : List Char) : Option Position :=
  text.foldlM after? position

/-- Where a text ends that begins outside. -/
def end? (text : List Char) : Option Position :=
  outside.through? text

end Position

/-- No connective of alternatives begins outside parentheses, quotes and brackets. -/
def HasNoOuterAlternative (text : String) : Prop :=
  ∀ before rest,
    text.toList = before ++ " OR ".toList ++ rest → Position.end? before ≠ some .outside

-----------------------------------------------------------------------------------------
-- What a reader does with a character
-----------------------------------------------------------------------------------------

theorem OpenLevel.alternatives_add? {level next : OpenLevel} {operand : Expression}
    (added : level.add? operand = some next)
    : next.alternatives = level.alternatives := by
  unfold add? at added
  split at added
  · obtain rfl := Option.some.inj added
    rfl
  · obtain rfl := Option.some.inj added
    rfl
  · cases added

namespace Reader

/-- Ending a word begins none. -/
theorem eq_between_of_endWord? {reader next : Reader} (plain : reader.mode = .plain)
    (ended : reader.endWord? = some next)
    : next = between next.level reader.outer := by
  unfold endWord? at ended
  split at ended
  · next none =>
      obtain rfl := Option.some.inj ended
      rw [List.isEmpty_iff] at none
      cases reader
      simp_all [between]
  · obtain ⟨level, _, rfl⟩ := Option.map_eq_some_iff.mp ended
    simp [between, plain]

theorem eq_between_of_openLevel? {reader next : Reader} (opened : reader.openLevel? = some next)
    : next = between .empty (reader.level :: reader.outer) := by
  unfold openLevel? at opened
  split at opened
  · cases opened
  · exact (Option.some.inj opened).symm

/-- Ending a level adds no alternative to the one around it. -/
theorem eq_between_of_closeLevel? {reader next : Reader} (closed : reader.closeLevel? = some next)
    : ∃ around outer joined,
        reader.outer = around :: outer
        ∧ joined.alternatives = around.alternatives
        ∧ next = between joined outer := by
  unfold closeLevel? at closed
  split at closed
  · cases closed
  · next around outer found =>
      obtain ⟨operand, _, closed⟩ := Option.bind_eq_some_iff.mp closed
      obtain ⟨joined, added, closed⟩ := Option.bind_eq_some_iff.mp closed
      exact ⟨around, outer, joined, found, OpenLevel.alternatives_add? added,
        (Option.some.inj closed).symm⟩

/-- What a reader does with a character that ends a word: it goes a level down, a level up, or on at
the same level.
-/
theorem after?_separator {reader next : Reader} {character : Char}
    (plain : reader.mode = .plain) (separates : Mode.isSeparator character = true)
    (step : reader.after? character = some next)
    : ∃ level,
        reader.endWord? = some (between level reader.outer)
        ∧ (character = '(' ∧ next = between .empty (level :: reader.outer)
          ∨ (character = ')'
            ∧ ∃ around outer joined,
              reader.outer = around :: outer
              ∧ joined.alternatives = around.alternatives
              ∧ next = between joined outer)
          ∨ character = ' ' ∧ next = between level reader.outer) := by
  have ended : ∃ middle, reader.endWord? = some middle := by
    cases found : reader.endWord? with
    | none => simp [after?, plain, separates, found] at step
    | some middle => exact ⟨middle, rfl⟩
  obtain ⟨middle, ended⟩ := ended
  rw [eq_between_of_endWord? plain ended] at ended
  refine ⟨middle.level, ended, ?_⟩
  simp only [Mode.isSeparator, Bool.or_eq_true, decide_eq_true_eq] at separates
  rcases separates with (rfl | rfl) | rfl
  · have spaced : some (between middle.level reader.outer) = some next := by
      simpa [after?, plain, Mode.isSeparator, ended] using step
    exact .inr (.inr ⟨rfl, (Option.some.inj spaced).symm⟩)
  · have opened : (between middle.level reader.outer).openLevel? = some next := by
      simpa [after?, plain, Mode.isSeparator, ended] using step
    exact .inl ⟨rfl, eq_between_of_openLevel? opened⟩
  · have closed : (between middle.level reader.outer).closeLevel? = some next := by
      simpa [after?, plain, Mode.isSeparator, ended] using step
    have up := eq_between_of_closeLevel? closed
    exact .inr (.inl ⟨rfl, up⟩)

theorem after?_inWord {reader next : Reader} {character : Char}
    (inWord : ¬ (reader.mode = .plain && Mode.isSeparator character) = true)
    (step : reader.after? character = some next)
    : next = { reader with
        mode := reader.mode.after character
        word := reader.word ++ [character]
      } := by
  simp only [after?, if_neg inWord] at step
  exact (Option.some.inj step).symm

-----------------------------------------------------------------------------------------
-- A reader knows where it stands
-----------------------------------------------------------------------------------------

/-- Where the next character stands. -/
def position (reader : Reader) : Position :=
  ⟨reader.mode, reader.outer.length⟩

/-- A reader that goes on stands where the character puts it. -/
theorem position_after? {reader next : Reader} {character : Char}
    (step : reader.after? character = some next)
    : reader.position.after? character = some next.position := by
  by_cases ends : (reader.mode = .plain && Mode.isSeparator character) = true
  · rw [Bool.and_eq_true, decide_eq_true_eq] at ends
    obtain ⟨level, _, opens | closes | spaces⟩ := after?_separator ends.1 ends.2 step
    · obtain ⟨rfl, rfl⟩ := opens
      simp [Position.after?, position, ends.1, between, Mode.after, Enclosure.after, Mode.plain]
    · obtain ⟨rfl, around, outer, joined, found, _, rfl⟩ := closes
      simp [Position.after?, position, ends.1, found, between, Mode.after, Enclosure.after,
        Mode.plain]
    · obtain ⟨rfl, rfl⟩ := spaces
      simp [Position.after?, position, ends.1, between, Mode.after, Enclosure.after, Mode.plain]
  · obtain rfl := after?_inWord ends step
    have notOpening : ¬ (reader.position.mode = .plain && character = '(') = true := by
      intro opening
      rw [Bool.and_eq_true, decide_eq_true_eq, decide_eq_true_eq] at opening
      exact ends (by simp [show reader.mode = .plain from opening.1, opening.2, Mode.isSeparator])
    have notClosing : ¬ (reader.position.mode = .plain && character = ')') = true := by
      intro closing
      rw [Bool.and_eq_true, decide_eq_true_eq, decide_eq_true_eq] at closing
      exact ends (by simp [show reader.mode = .plain from closing.1, closing.2, Mode.isSeparator])
    unfold Position.after?
    rw [if_neg notOpening, if_neg notClosing]
    rfl

/-- A reader that reads a text stands where the text puts it, by list induction. -/
theorem position_through? {reader final : Reader} {text : List Char}
    (read : reader.through? text = some final)
    : reader.position.through? text = some final.position := by
  induction text generalizing reader with
  | nil =>
      obtain rfl := Option.some.inj read
      rfl
  | cons character rest ih =>
      rw [through?_cons] at read
      obtain ⟨next, step, others⟩ := Option.bind_eq_some_iff.mp read
      simp only [Position.through?, List.foldlM_cons, position_after? step]
      exact ih others

end Reader

-----------------------------------------------------------------------------------------
-- Alternatives of the outermost level
-----------------------------------------------------------------------------------------

/-- A word ends no alternative, or makes an alternative of the operands in front of it. -/
theorem OpenLevel.alternatives_afterWord? {level next : OpenLevel} {word : String}
    (taken : level.afterWord? word = some next)
    : next.alternatives = level.alternatives
      ∨ next.alternatives = level.alternatives ++ [level.operands] := by
  unfold afterWord? at taken
  split at taken
  · split at taken
    · obtain rfl := Option.some.inj taken
      exact .inl rfl
    · cases taken
  · split at taken
    · split at taken
      · obtain rfl := Option.some.inj taken
        exact .inr rfl
      · cases taken
    · split at taken
      · split at taken
        · cases taken
        · obtain rfl := Option.some.inj taken
          exact .inl rfl
      · obtain ⟨operand, _, added⟩ := Option.bind_eq_some_iff.mp taken
        exact .inl (alternatives_add? added)

namespace Reader

/-- The level outside all parentheses. -/
def outermost (reader : Reader) : OpenLevel :=
  reader.outer.getLast?.getD reader.level

/-- Nothing outside parentheses was read as an alternative to what comes next. -/
def IsUndivided (reader : Reader) : Prop :=
  reader.outermost.alternatives = []

theorem outermost_between_cons (level around : OpenLevel) (outer : List OpenLevel)
    : (between level (around :: outer)).outermost = (between around outer).outermost := by
  simp [outermost, between, List.getLast?_cons]

/-- Around a level that keeps its alternatives, the outermost one keeps its own. -/
theorem isUndivided_between_congr {level other : OpenLevel} (outer : List OpenLevel)
    (same : other.alternatives = level.alternatives)
    : (between other outer).IsUndivided ↔ (between level outer).IsUndivided := by
  cases found : outer.getLast? <;> simp [IsUndivided, outermost, between, found, same]

theorem isUndivided_of_endWord? {reader next : Reader} (ended : reader.endWord? = some next)
    (undivided : next.IsUndivided)
    : reader.IsUndivided := by
  unfold endWord? at ended
  split at ended
  · exact Option.some.inj ended ▸ undivided
  · obtain ⟨level, taken, rfl⟩ := Option.map_eq_some_iff.mp ended
    cases found : reader.outer.getLast? with
    | some last => simpa [IsUndivided, outermost, found] using undivided
    | none =>
        have none : level.alternatives = [] := by
          simpa [IsUndivided, outermost, found] using undivided
        rcases OpenLevel.alternatives_afterWord? taken with same | longer
        · simpa [IsUndivided, outermost, found, ← same] using none
        · simp [longer] at none

/-- No character takes back an alternative. -/
theorem isUndivided_of_after? {reader next : Reader} {character : Char}
    (step : reader.after? character = some next) (undivided : next.IsUndivided)
    : reader.IsUndivided := by
  by_cases ends : (reader.mode = .plain && Mode.isSeparator character) = true
  · rw [Bool.and_eq_true, decide_eq_true_eq] at ends
    obtain ⟨level, ended, opens | closes | spaces⟩ := after?_separator ends.1 ends.2 step
    · obtain ⟨_, rfl⟩ := opens
      rw [IsUndivided, outermost_between_cons] at undivided
      exact isUndivided_of_endWord? ended undivided
    · obtain ⟨_, around, outer, joined, found, same, rfl⟩ := closes
      refine isUndivided_of_endWord? ended ?_
      rw [IsUndivided, found, outermost_between_cons]
      exact (isUndivided_between_congr outer same).mp undivided
    · exact isUndivided_of_endWord? ended (spaces.2 ▸ undivided)
  · obtain rfl := after?_inWord ends step
    exact undivided

/-- A text takes back no alternative, by list induction. -/
theorem isUndivided_of_through? {reader final : Reader} {text : List Char}
    (read : reader.through? text = some final) (undivided : final.IsUndivided)
    : reader.IsUndivided := by
  induction text generalizing reader with
  | nil => exact Option.some.inj read ▸ undivided
  | cons character rest ih =>
      rw [through?_cons] at read
      obtain ⟨next, step, others⟩ := Option.bind_eq_some_iff.mp read
      exact isUndivided_of_after? step (ih others)

/-- Outside parentheses, a connective of alternatives makes an alternative. Witness: the space in
front of it ends the word that has begun, so that it is a word of its own.
-/
theorem not_isUndivided_of_or {reader final : Reader} (outside : reader.position = .outside)
    (read : reader.through? " OR ".toList = some final)
    : ¬ final.IsUndivided := by
  have plain : reader.mode = .plain := congrArg Position.mode outside
  have none : reader.outer = [] := List.length_eq_zero_iff.mp (congrArg Position.depth outside)
  have parts : " OR ".toList = [' ', 'O', 'R', ' '] := by rfl
  rw [parts, through?_cons] at read
  obtain ⟨spaced, step, rest⟩ := Option.bind_eq_some_iff.mp read
  have ended : reader.endWord? = some spaced := by
    simpa [after?, plain, Mode.isSeparator] using step
  obtain ⟨level, rfl⟩ : ∃ level, spaced = between level [] :=
    ⟨spaced.level, none ▸ eq_between_of_endWord? plain ended⟩
  have word : (between level []).through? ['O', 'R', ' ']
      = (Reader.mk level [] .plain ['O', 'R']).endWord? := by
    simp [through?_cons, after?, between, Mode.isSeparator, Mode.after, Enclosure.after, Mode.plain]
  rw [word] at rest
  obtain ⟨next, taken, rfl⟩ := Option.map_eq_some_iff.mp rest
  intro undivided
  have divided : next.alternatives = level.alternatives ++ [level.operands] := by
    simp [OpenLevel.afterWord?] at taken
    simp [← taken.2]
  simp [IsUndivided, outermost, divided] at undivided

end Reader

-----------------------------------------------------------------------------------------
-- Texts that a level is read from
-----------------------------------------------------------------------------------------

/-- A text that is read as a whole closes all that it opens. -/
theorem Reads.end? {text : String} {after : OpenLevel} (reads : Reads text .empty after)
    : Position.end? text.toList = some .outside := by
  obtain ⟨reader, read, plain, ended⟩ := reads.through []
  have outer : reader.outer = [] := by
    have same := Reader.eq_between_of_endWord? plain ended
    exact (congrArg Reader.outer same).symm
  have stands := Reader.position_through? read
  have position : reader.position = .outside := by
    simp [Reader.position, plain, outer, Position.outside]
  rw [position] at stands
  exact stands

/-- A text that is read as a single alternative has no connective of alternatives outside
parentheses. Witness: behind one, the outermost level would be divided to the end of the text.
-/
theorem Reads.hasNoOuterAlternative {text : String} {operands : List Expression}
    (reads : Reads text .empty ⟨[], operands, .connective⟩)
    : HasNoOuterAlternative text := by
  intro before rest parts outside
  obtain ⟨final, read, _, ended⟩ := reads.through []
  rw [parts, Reader.through?_append, Reader.through?_append] at read
  obtain ⟨behind, read, toEnd⟩ := Option.bind_eq_some_iff.mp read
  obtain ⟨reader, toConnective, connective⟩ := Option.bind_eq_some_iff.mp read
  have stands : some reader.position = some .outside :=
    (Reader.position_through? toConnective).symm.trans outside
  have undivided : final.IsUndivided := Reader.isUndivided_of_endWord? ended rfl
  exact Reader.not_isUndivided_of_or (Option.some.inj stands) connective
    (Reader.isUndivided_of_through? toEnd undivided)

end CqlGateway.EngineText
