import CqlGateway.Proofs.EngineQuery.Word

/-! A reader of the engine's language: words are operands or connectives, parentheses make a level,
and at each level a negation binds closest and an alternative last.
-/

namespace CqlGateway.EngineText

/-- What text of the engine's language says. -/
inductive Expression where
  /-- Matches every document. -/
  | everything
  /-- A match of a field as it is written. -/
  | atom (text : String)
  | negation (operand : Expression)
  /-- What stands at one level of parentheses: alternatives, each with operands that must all hold.
  -/
  | level (alternatives : List (List Expression))

namespace Expression

mutual

/-- The truth of an expression, given that of its atoms. -/
def eval (truth : String → Bool) : Expression → Bool
  | .everything => true
  | .atom text => truth text
  | .negation operand => !eval truth operand
  | .level alternatives => evalSome truth alternatives

def evalSome (truth : String → Bool) : List (List Expression) → Bool
  | [] => false
  | operands :: rest => evalEvery truth operands || evalSome truth rest

def evalEvery (truth : String → Bool) : List Expression → Bool
  | [] => true
  | operand :: rest => eval truth operand && evalEvery truth rest

end

def isNegation : Expression → Bool
  | .negation _ => true
  | _ => false

/-- At no level do alternatives stand beside operands that must all hold, and at every level each
alternative has an operand that is not negated.
-/
inductive IsClear : Expression → Prop
  | everything : IsClear .everything
  | atom (text : String) : IsClear (.atom text)
  | negation {operand : Expression} (inner : IsClear operand) : IsClear (.negation operand)
  | level {alternatives : List (List Expression)}
    (unmixed
      : alternatives.length ≤ 1 ∨ ∀ operands ∈ alternatives, operands.length ≤ 1)
    (anchored : ∀ operands ∈ alternatives, ∃ operand ∈ operands, operand.isNegation = false)
    (inner : ∀ operands ∈ alternatives, ∀ operand ∈ operands, IsClear operand)
    : IsClear (.level alternatives)

end Expression

/-- What may come next at a level. -/
inductive Awaited where
  | operand
  /-- The operand of a negation. -/
  | negated
  | connective
deriving DecidableEq

/-- A level of parentheses that is being read. -/
structure OpenLevel where
  /-- The alternatives in front of the one that is being read. -/
  alternatives : List (List Expression)
  operands : List Expression
  awaited : Awaited

namespace OpenLevel

def empty : OpenLevel :=
  {
    alternatives := []
    operands := []
    awaited := .operand
  }

/-- Adds an operand, which is negated if a negation was read in front of it. -/
def add? (level : OpenLevel) (operand : Expression) : Option OpenLevel :=
  match level.awaited with
  | .operand =>
      some { level with operands := level.operands ++ [operand], awaited := .connective }
  | .negated =>
      some { level with operands := level.operands ++ [.negation operand], awaited := .connective }
  | .connective => none

/-- What the level says, if it is complete. -/
def close? (level : OpenLevel) : Option Expression :=
  if level.awaited = .connective then
    some (.level (level.alternatives ++ [level.operands]))
  else
    none

/-- The operand that a word is, if it is one: the query that matches everything, or a field and what
it is matched with.
-/
def operand? (word : String) : Option Expression :=
  if word = EngineQuery.everything then
    some .everything
  else if word.toList.contains ':' then
    some (.atom word)
  else
    none

/-- The level behind a word. A negation may follow an operand without a connective. -/
def afterWord? (level : OpenLevel) (word : String) : Option OpenLevel :=
  if word = "AND" then
    if level.awaited = .connective then some { level with awaited := .operand } else none
  else if word = "OR" then
    if level.awaited = .connective then
      some {
        alternatives := level.alternatives ++ [level.operands]
        operands := []
        awaited := .operand
      }
    else
      none
  else if word = "NOT" then
    if level.awaited = .negated then none else some { level with awaited := .negated }
  else
    (operand? word).bind level.add?

end OpenLevel

/-- What was read of a text: the level at hand, those around it, and the word that has begun. -/
structure Reader where
  level : OpenLevel
  outer : List OpenLevel
  mode : Mode
  word : List Char

namespace Reader

/-- Between two words of a level. -/
def between (level : OpenLevel) (outer : List OpenLevel) : Reader :=
  {
    level := level
    outer := outer
    mode := .plain
    word := []
  }

/-- Ends the word that has begun, if one has. -/
def endWord? (reader : Reader) : Option Reader :=
  if reader.word.isEmpty then
    some reader
  else
    (reader.level.afterWord? (String.ofList reader.word)).map fun level =>
      { reader with level := level, word := [] }

/-- Begins a level where an operand may stand. -/
def openLevel? (reader : Reader) : Option Reader :=
  if reader.level.awaited = .connective then
    none
  else
    some (between .empty (reader.level :: reader.outer))

/-- Ends a level, which becomes an operand of the one around it. -/
def closeLevel? (reader : Reader) : Option Reader :=
  match reader.outer with
  | [] => none
  | level :: outer => do
      let operand ← reader.level.close?
      let level ← level.add? operand
      return between level outer

/-- Reads a character. -/
def after? (reader : Reader) (character : Char) : Option Reader :=
  if reader.mode = .plain && Mode.isSeparator character then
    if character = '(' then
      reader.endWord?.bind openLevel?
    else if character = ')' then
      reader.endWord?.bind closeLevel?
    else
      reader.endWord?
  else
    some { reader with mode := reader.mode.after character, word := reader.word ++ [character] }

def through? (reader : Reader) (text : List Char) : Option Reader :=
  text.foldlM after? reader

/-- What was read, if nothing is left open. -/
def finish? (reader : Reader) : Option Expression :=
  if reader.mode = .plain && reader.outer.isEmpty then reader.level.close? else none

end Reader

/-- What a text says, if it is text of the engine's language. -/
def read? (text : String) : Option Expression :=
  ((Reader.between .empty []).through? text.toList).bind fun reader =>
    reader.endWord?.bind Reader.finish?

-----------------------------------------------------------------------------------------
-- Truth of expressions
-----------------------------------------------------------------------------------------

namespace Expression

variable (truth : String → Bool)

@[simp]
theorem eval_everything : eval truth .everything = true := by
  simp only [eval]

@[simp]
theorem eval_atom (text : String) : eval truth (.atom text) = truth text := by
  simp only [eval]

@[simp]
theorem eval_negation (operand : Expression)
    : eval truth (.negation operand) = !eval truth operand := by
  simp only [eval]

theorem evalEvery_eq (operands : List Expression)
    : evalEvery truth operands = operands.all (eval truth) := by
  induction operands with
  | nil => simp only [evalEvery, List.all_nil]
  | cons operand rest ih => simp only [evalEvery, List.all_cons, ih]

/-- A level is true if all operands of some alternative are. -/
@[simp]
theorem eval_level (alternatives : List (List Expression))
    : eval truth (.level alternatives) = alternatives.any fun operands =>
        operands.all (eval truth) := by
  simp only [eval]
  induction alternatives with
  | nil => simp only [evalSome, List.any_nil]
  | cons operands rest ih => simp only [evalSome, evalEvery_eq, List.any_cons, ih]

end Expression

-----------------------------------------------------------------------------------------
-- What the parts of a text do to the level they stand in
-----------------------------------------------------------------------------------------

/-- Reading the text as whole words takes one state of a level to another, whatever stands around
the level.
-/
def Reads (text : String) (before after : OpenLevel) : Prop :=
  ∀ outer, ((Reader.between before outer).through? text.toList).bind Reader.endWord?
    = some (Reader.between after outer)

theorem Reader.through?_append (reader : Reader) (left right : List Char)
    : reader.through? (left ++ right)
      = (reader.through? left).bind (·.through? right) := by
  simp only [through?, List.foldlM_append, Option.bind_eq_bind]

theorem Reader.through?_cons (reader : Reader) (character : Char) (rest : List Char)
    : reader.through? (character :: rest)
      = (reader.after? character).bind (·.through? rest) := by
  simp only [through?, List.foldlM_cons, Option.bind_eq_bind]

@[simp]
theorem Reader.through?_nil (reader : Reader) : reader.through? [] = some reader := by
  rfl

@[simp]
theorem Reader.endWord?_between (level : OpenLevel) (outer : List OpenLevel)
    : (between level outer).endWord? = some (between level outer) := by
  rfl

/-- Ending a word changes no mode. -/
theorem Reader.mode_of_endWord? {reader next : Reader} (ended : reader.endWord? = some next)
    : reader.mode = next.mode := by
  unfold endWord? at ended
  split at ended
  · exact congrArg Reader.mode (Option.some.inj ended)
  · obtain ⟨level, _, rfl⟩ := Option.map_eq_some_iff.mp ended
    rfl

/-- Characters of a word are collected one after the other, by list induction. -/
theorem Reader.through?_word {text : List Char} {first last : Mode}
    (through : first.throughWord? text = some last) (level : OpenLevel) (outer : List OpenLevel)
    (word : List Char)
    : Reader.through? ⟨level, outer, first, word⟩ text
      = some ⟨level, outer, last, word ++ text⟩ := by
  induction text generalizing first word with
  | nil =>
      cases through
      simp
  | cons character rest ih =>
      simp only [Mode.throughWord?, List.foldlM_cons, Option.bind_eq_bind] at through
      obtain ⟨next, step, others⟩ := Option.bind_eq_some_iff.mp through
      unfold Mode.afterInWord? at step
      split at step
      · cases step
      · next inWord =>
          cases step
          have read := ih others (word ++ [character])
          rw [through?_cons]
          simpa [after?, inWord] using read

/-- A word does what the level makes of it. -/
theorem Reads.word {text : String} {before after : OpenLevel} (word : IsWord text.toList)
    (nonempty : text ≠ "") (taken : before.afterWord? text = some after)
    : Reads text before after := by
  intro outer
  rw [Reader.between, Reader.through?_word word before outer []]
  have begun : text.toList.isEmpty = false := by
    cases found : text.toList with
    | nil => exact absurd (String.toList_eq_nil_iff.mp found) nonempty
    | cons => rfl
  simp [Reader.endWord?, begun, taken, Reader.between]

/-- What is read up to the end of a word is read on from there. -/
theorem Reads.through {text : String} {before after : OpenLevel} (reads : Reads text before after)
    (outer : List OpenLevel)
    : ∃ reader, (Reader.between before outer).through? text.toList = some reader
      ∧ reader.mode = .plain
      ∧ reader.endWord? = some (Reader.between after outer) := by
  obtain ⟨reader, found, ended⟩ := Option.bind_eq_some_iff.mp (reads outer)
  exact ⟨reader, found, Reader.mode_of_endWord? ended, ended⟩

/-- Texts with a space between them do one after the other what each does. -/
theorem Reads.space {left right : String} {before middle after : OpenLevel}
    (hl : Reads left before middle) (hr : Reads right middle after)
    : Reads (left ++ " " ++ right) before after := by
  intro outer
  obtain ⟨reader, found, mode, ended⟩ := hl.through outer
  have spaced : reader.after? ' ' = some (Reader.between middle outer) := by
    simp [Reader.after?, mode, Mode.isSeparator, ended]
  have parts : (left ++ " " ++ right).toList = left.toList ++ ' ' :: right.toList := by
    simp
  rw [parts, Reader.through?_append, found, Option.bind_some, Reader.through?_cons, spaced,
    Option.bind_some]
  exact hr outer

/-- Parentheses make one operand of what stands between them. -/
theorem Reads.parenthesized {text : String} {inner before after : OpenLevel}
    {operand : Expression} (reads : Reads text .empty inner)
    (closed : inner.close? = some operand) (added : before.add? operand = some after)
    : Reads (EngineQuery.parenthesized text) before after := by
  intro outer
  obtain ⟨reader, found, mode, ended⟩ := reads.through (before :: outer)
  have opened : (Reader.between before outer).after? '('
      = some (Reader.between .empty (before :: outer)) := by
    have awaits : before.awaited ≠ .connective := by
      intro full
      simp [OpenLevel.add?, full] at added
    simp [Reader.after?, Reader.between, Mode.isSeparator, Reader.endWord?, Reader.openLevel?,
      awaits]
  have shut : reader.after? ')' = some (Reader.between after outer) := by
    simp [Reader.after?, mode, Mode.isSeparator, ended, Reader.closeLevel?, Reader.between, closed,
      added]
  have parts : (EngineQuery.parenthesized text).toList = '(' :: (text.toList ++ [')']) := by
    simp [EngineQuery.parenthesized]
  rw [parts, Reader.through?_cons, opened, Option.bind_some, Reader.through?_append, found,
    Option.bind_some, Reader.through?_cons, shut, Option.bind_some, Reader.through?_nil]
  exact Reader.endWord?_between after outer

/-- A text that completes the outermost level is read as that level. -/
theorem Reads.read? {text : String} {final : OpenLevel} {expression : Expression}
    (reads : Reads text .empty final) (closed : final.close? = some expression)
    : read? text = some expression := by
  obtain ⟨reader, found, _, ended⟩ := reads.through []
  rw [EngineText.read?, found, Option.bind_some, ended, Option.bind_some]
  simp [Reader.finish?, Reader.between, closed]

end CqlGateway.EngineText
