import CqlGateway.Error
import CqlGateway.Proofs.Query.Run

/-! Texts that are scanned as the same tokens wherever they stand, if what comes behind them does
not change where they end. A text is scanned part by part.
-/

namespace CqlGateway.Vocabulary

open Term (pieces pieces_cons)

variable {vocabulary : Vocabulary} {first : Char} {text others rest : List Char}
  {data more : List TokenData} {token : TokenData} {offset : Nat}

/-- In front of the rest, a text is scanned as tokens with these data, wherever it stands. -/
def Scans (vocabulary : Vocabulary) (text : List Char) (data : List TokenData) (rest : List Char)
    : Prop :=
  ∀ offset, ∃ tokens next,
    tokens.map Token.data = data
    ∧ vocabulary.tokensFrom offset (text ++ rest)
      = (tokens ++ ·) <$> vocabulary.tokensFrom next rest

-----------------------------------------------------------------------------------------
-- Parts of a text
-----------------------------------------------------------------------------------------

theorem Scans.nil : Scans vocabulary [] [] rest := by
  intro offset
  refine ⟨[], offset, rfl, ?_⟩
  rw [List.nil_append]
  cases vocabulary.tokensFrom offset rest with
  | error | ok => rfl

theorem Scans.append (front : Scans vocabulary text data (others ++ rest))
    (behind : Scans vocabulary others more rest)
    : Scans vocabulary (text ++ others) (data ++ more) rest := by
  intro offset
  obtain ⟨tokens, middle, rfl, scanned⟩ := front offset
  obtain ⟨later, next, rfl, continued⟩ := behind middle
  refine ⟨tokens ++ later, next, List.map_append, ?_⟩
  rw [List.append_assoc, scanned, continued]
  cases vocabulary.tokensFrom next rest with
  | error => rfl
  | ok => simp [Functor.map, Except.map]

/-- White space stands between tokens. -/
theorem Scans.whiteSpace (white : Text.isWhiteSpace first = true)
    : Scans vocabulary [first] [] rest := by
  intro offset
  refine ⟨[], offset + 1, rfl, ?_⟩
  rw [List.singleton_append, tokensFrom, if_pos white]
  cases vocabulary.tokensFrom (offset + 1) rest with
  | error | ok => rfl

theorem isWhiteSpace_space : Text.isWhiteSpace ' ' = true := by decide

/-- A text behind a space is scanned as without it. -/
theorem Scans.behindSpace (scans : Scans vocabulary text data rest)
    : Scans vocabulary (' ' :: text) data rest :=
  .append (.whiteSpace isWhiteSpace_space) scans

theorem Scans.lexeme (visible : Text.isWhiteSpace first = false)
    (found : ∀ offset, vocabulary.lexeme offset first (text ++ rest) = .ok (token, text.length))
    : Scans vocabulary (first :: text) [token] rest := by
  intro offset
  refine ⟨[⟨token, offset⟩], offset + 1 + text.length, rfl, ?_⟩
  rw [List.cons_append, tokensFrom, if_neg (by simp [visible])]
  simp only [found, List.drop_left]
  rfl

/-- A text that is scanned to its end has these tokens and the end. -/
theorem Scans.tokens {query : String} (scans : Scans vocabulary query.toList data [])
    : ∃ tokens last,
        vocabulary.tokens query = .ok (tokens ++ [⟨.endOfInput, last⟩])
        ∧ tokens.map Token.data = data := by
  obtain ⟨tokens, last, same, scanned⟩ := scans 0
  refine ⟨tokens, last, ?_, same⟩
  rw [Vocabulary.tokens, ← List.append_nil query.toList, scanned, tokensFrom]
  rfl

-----------------------------------------------------------------------------------------
-- Single tokens
-----------------------------------------------------------------------------------------

theorem scans_openParen : Scans vocabulary ['('] [.openParen] rest :=
  .lexeme rfl fun _ => rfl

theorem scans_closeParen : Scans vocabulary [')'] [.closeParen] rest :=
  .lexeme rfl fun _ => rfl

theorem scans_slash : Scans vocabulary ['/'] [.slash] rest :=
  .lexeme rfl fun _ => rfl

/-- The first character alone tells whether a symbol begins. -/
theorem comparison?_isSome_iff
    : (comparison? first rest).isSome = true ↔ first = '=' ∨ first = '<' ∨ first = '>' := by
  fun_cases comparison? first rest with
  | case8 _ _ notEqual notLess notGreater =>
      simp only [Option.isSome_none, Bool.false_eq_true, false_iff, not_or]
      exact ⟨notEqual, notLess, notGreater⟩
  | _ => simp

theorem lexeme_of_comparison? {symbol : Comparison} (found : comparison? first rest = some symbol)
    : vocabulary.lexeme offset first rest
      = .ok (.comparison symbol, symbol.symbol.length - 1) := by
  have begins := comparison?_isSome_iff.mp (Option.isSome_of_eq_some found)
  rcases begins with rfl | rfl | rfl
  all_goals simp [Vocabulary.lexeme, found]

/-- What begins with these characters makes no symbol in front of it a longer one. -/
def EndsSymbol (rest : List Char) : Prop :=
  ∀ next ∈ rest.head?, next ≠ '=' ∧ next ≠ '>'

/-- A symbol is found as it is unless what comes behind it makes it a longer one. -/
theorem comparison?_of_symbol {symbol : Comparison} {others : List Char}
    (written : symbol.symbol.toList = first :: others) (ends : EndsSymbol rest)
    : comparison? first (others ++ rest) = some symbol := by
  cases symbol with
  | identical | different | atMost | atLeast =>
      obtain ⟨rfl, rfl⟩ := List.cons.inj written
      rfl
  | equal | less | greater =>
      obtain ⟨rfl, rfl⟩ : first = _ ∧ others = [] := by
        simpa [Comparison.symbol, eq_comm] using written
      cases rest with
      | nil => rfl
      | cons next others => simp [comparison?, ends next rfl]

theorem scans_symbol (symbol : Comparison) (ends : EndsSymbol rest)
    : Scans vocabulary symbol.symbol.toList [.comparison symbol] rest := by
  cases written : symbol.symbol.toList with
  | nil => cases symbol <;> cases written
  | cons first others =>
      have begins := comparison?_isSome_iff.mp
        (Option.isSome_of_eq_some (comparison?_of_symbol written ends))
      have visible : Text.isWhiteSpace first = false := by
        rcases begins with rfl | rfl | rfl <;> rfl
      refine .lexeme visible fun offset => ?_
      rw [lexeme_of_comparison? (comparison?_of_symbol written ends), ← String.length_toList,
        written, List.length_cons, Nat.add_sub_cancel]

theorem IsRun.endsRun_eq_false (isRun : IsRun (first :: text)) : endsRun first = false := by
  by_cases escape : first = '\\'
  · rw [escape]
    rfl
  · have goes := isRun.continues
    rw [pieces_cons escape, List.forall_mem_cons] at goes
    exact goes.1

theorem comparison?_of_inside (inside : endsRun first = false) : comparison? first rest = none := by
  rw [← Option.not_isSome_iff_eq_none, comparison?_isSome_iff]
  rintro (rfl | rfl | rfl)
  all_goals cases inside

/-- A run is read up to where the rest ends it. -/
theorem lexeme_run (isRun : IsRun (first :: text)) (ends : EndsRun rest)
    : vocabulary.lexeme offset first (text ++ rest)
      = .ok (vocabulary.classify (String.ofList (first :: text)), text.length) := by
  have inside := isRun.endsRun_eq_false
  have read := @runFrom_append _ _ offset isRun.continues ends
  have none := @comparison?_of_inside _ (text ++ rest) inside
  obtain ⟨notDouble, notSingle⟩ := isRun.opens first rfl
  simp only [endsRun, isDelimiter, Bool.or_eq_false_iff, decide_eq_false_iff_not] at inside
  obtain ⟨-, ⟨⟨⟨⟨notOpen, notClose⟩, -⟩, -⟩, -⟩, notSlash⟩ := inside
  rw [List.cons_append] at read
  simp only [Vocabulary.lexeme, if_neg notOpen, if_neg notClose, if_neg notSlash, notDouble,
    notSingle, none, read]
  simp [Functor.map, Except.map]

theorem scans_run (isRun : IsRun text) (ends : EndsRun rest)
    : Scans vocabulary text [vocabulary.classify (String.ofList text)] rest := by
  cases text with
  | nil => exact absurd rfl isRun.ne_nil
  | cons first others =>
      have inside := isRun.endsRun_eq_false
      simp only [endsRun, Bool.or_eq_false_iff] at inside
      exact .lexeme inside.1 fun _ => lexeme_run isRun ends

/-- Between quotes, a value without a bare quote or a lone backslash is read as it is. -/
theorem lexeme_quoted (isQuote : first = '"' ∨ first = '\'')
    (between : ∀ piece ∈ pieces text, IsBetween first piece)
    : vocabulary.lexeme offset first (text ++ [first] ++ rest)
      = .ok (quotedTerm first text, text.length + 1) := by
  rw [List.append_assoc, List.singleton_append]
  rcases isQuote with rfl | rfl
  all_goals
    have read := @quotedTextFrom_append _ _ rest offset (offset + 1) between (by decide)
    simp [Vocabulary.lexeme, read, Functor.map, Except.map]

theorem scans_quoted (isQuote : first = '"' ∨ first = '\'')
    (between : ∀ piece ∈ pieces text, IsBetween first piece)
    : Scans vocabulary (first :: (text ++ [first])) [quotedTerm first text] rest := by
  have visible : Text.isWhiteSpace first = false := by
    rcases isQuote with rfl | rfl <;> rfl
  refine .lexeme visible fun offset => ?_
  rw [lexeme_quoted isQuote between, List.length_append, List.length_singleton]

-----------------------------------------------------------------------------------------
-- Scanned tokens
-----------------------------------------------------------------------------------------

/-- What the scanner makes sure of in front of the end: no term or keyword ends in a lone backslash,
and the name of a relation would be scanned as that relation.
-/
def IsScanned (vocabulary : Vocabulary) : TokenData → Prop
  | .term _ value _ => .dangling ∉ pieces value.toList
  | .operator _ word | .sortBy word => .dangling ∉ pieces word.toList
  | .relation name => IsRun name.toList ∧ vocabulary.classify name = .relation name
  | .endOfInput => False
  | _ => True

theorem IsScanned.kind_ne (scanned : vocabulary.IsScanned token) : token.kind ≠ .endOfInput := by
  rintro ends
  cases token with
  | endOfInput => exact scanned
  | _ => cases ends

theorem IsRun.dangling_notMem (isRun : IsRun text) : .dangling ∉ pieces text :=
  fun member => isRun.continues .dangling member

/-- A relation's name is in lower case, in which it names the same relation. -/
theorem classify_of_relation {run name : String} (found : vocabulary.classify run = .relation name)
    : name = Text.lowercase run ∧ vocabulary.classify name = .relation name := by
  revert found
  fun_cases Vocabulary.classify vocabulary run with
  | case1 => simp
  | case2 => simp
  | case3 noKeyword noOperator known =>
      intro found
      obtain rfl := TokenData.relation.inj found
      refine ⟨rfl, ?_⟩
      simp only [BooleanKeywords.operator?, RelationKeywords.names] at noOperator known
      simp only [classify, BooleanKeywords.operator?, RelationKeywords.names,
        Text.lowercase_lowercase, if_neg noKeyword, noOperator, if_pos known]
  | case4 => simp

/-- A run is a keyword of some kind, or a term of its own text. -/
theorem classify_cases (vocabulary : Vocabulary) (run : String)
    : vocabulary.classify run = .sortBy run
      ∨ (∃ operator, vocabulary.classify run = .operator operator run)
      ∨ (∃ name, vocabulary.classify run = .relation name)
      ∨ vocabulary.classify run = .term run run false := by
  fun_cases Vocabulary.classify vocabulary run with
  | case1 => exact .inl rfl
  | case2 _ operator => exact .inr (.inl ⟨operator, rfl⟩)
  | case3 => exact .inr (.inr (.inl ⟨_, rfl⟩))
  | case4 => exact .inr (.inr (.inr rfl))

theorem isScanned_classify {run : String} (isRun : IsRun run.toList)
    : vocabulary.IsScanned (vocabulary.classify run) := by
  rcases vocabulary.classify_cases run with found | ⟨operator, found⟩ | ⟨name, found⟩ | found
  · rw [found]
    exact isRun.dangling_notMem
  · rw [found]
    exact isRun.dangling_notMem
  · obtain ⟨rfl, same⟩ := classify_of_relation found
    rw [found]
    exact ⟨isRun.lowercase, same⟩
  · rw [found]
    exact isRun.dangling_notMem

/-- What is read as a run begins with the first character, which does not end it. -/
theorem isRun_of_runFrom {run : List Char} (inside : endsRun first = false)
    (notQuote : first ≠ '"' ∧ first ≠ '\'') (read : runFrom offset (first :: text) = .ok run)
    : IsRun run := by
  have begins : run.head? = some first := by
    by_cases escape : first = '\\'
    · subst escape
      cases text with
      | nil => cases read
      | cons next others =>
          obtain ⟨later, -, rfl⟩ := Outcome.map_eq_ok.mp read
          rfl
    · rw [runFrom_cons escape, inside] at read
      obtain ⟨later, -, rfl⟩ := Outcome.map_eq_ok.mp read
      rfl
  refine ⟨?_, ?_, (continues_of_runFrom read).1⟩
  · rintro rfl
    cases begins
  · intro other leads
    obtain rfl := Option.some.inj (begins.symm.trans leads)
    exact notQuote

theorem inside_of_comparison? (visible : Text.isWhiteSpace first = false)
    (notParen : first ≠ '(' ∧ first ≠ ')') (notSlash : first ≠ '/')
    (none : comparison? first text = none)
    : endsRun first = false := by
  have noSymbol := mt comparison?_isSome_iff.mpr (Option.not_isSome_iff_eq_none.mpr none)
  simp only [not_or] at noSymbol
  simp [endsRun, isDelimiter, visible, notParen, notSlash, noSymbol]

theorem isScanned_of_lexeme {behind : Nat} (visible : Text.isWhiteSpace first = false)
    (read : vocabulary.lexeme offset first text = .ok (token, behind))
    : vocabulary.IsScanned token := by
  revert read
  fun_cases Vocabulary.lexeme vocabulary offset first text with
  | case1 | case2 | case3 | case5 =>
      intro read
      obtain ⟨rfl, rfl⟩ := Prod.mk.inj (Except.ok.inj read)
      trivial
  | case4 =>
      intro read
      obtain ⟨value, found, same⟩ := Outcome.map_eq_ok.mp read
      obtain ⟨rfl, rfl⟩ := Prod.mk.inj same
      have between := (isBetween_of_quotedTextFrom found).1
      simp only [IsScanned, quotedTerm, String.toList_ofList]
      exact fun member => (between .dangling member).1 rfl
  | case6 notOpen notClose notSlash notQuote none =>
      intro read
      obtain ⟨run, found, same⟩ := Outcome.map_eq_ok.mp read
      obtain ⟨rfl, rfl⟩ := Prod.mk.inj same
      have inside := inside_of_comparison? visible ⟨notOpen, notClose⟩ notSlash none
      have isRun := isRun_of_runFrom inside (by simpa using notQuote) found
      exact isScanned_classify (by simpa using isRun)

/-- What is true of every token that is read is true of the tokens of a text up to a single end, by
the recursion of the scan.
-/
theorem forall_of_tokensFrom {good : TokenData → Prop} {tokens : List Token}
    (holds : ∀ {offset : Nat} {first : Char} {text : List Char} {data : TokenData} {behind : Nat},
      Text.isWhiteSpace first = false
      → vocabulary.lexeme offset first text = .ok (data, behind)
      → good data)
    (scanned : vocabulary.tokensFrom offset text = .ok tokens)
    : ∃ body last,
        tokens = body ++ [⟨.endOfInput, last⟩] ∧ ∀ token ∈ body, good token.data := by
  fun_induction tokensFrom vocabulary offset text generalizing tokens with
  | case1 offset =>
      obtain rfl := Except.ok.inj scanned
      exact ⟨[], offset, rfl, by simp⟩
  | case2 offset first others white ih => exact ih scanned
  | case3 => cases scanned
  | case4 offset first others visible data behind found ih =>
      obtain ⟨later, read, rfl⟩ := Outcome.map_eq_ok.mp scanned
      obtain ⟨body, last, rfl, each⟩ := ih read
      refine ⟨⟨data, offset⟩ :: body, last, rfl, ?_⟩
      simp only [List.forall_mem_cons]
      exact ⟨holds (by simpa using visible) found, each⟩

theorem isScanned_of_tokensFrom {tokens : List Token}
    (scanned : vocabulary.tokensFrom offset text = .ok tokens)
    : ∃ body last,
        tokens = body ++ [⟨.endOfInput, last⟩]
        ∧ ∀ token ∈ body, vocabulary.IsScanned token.data :=
  forall_of_tokensFrom isScanned_of_lexeme scanned

/-- In front of the end that the scanner sets there is no other one. -/
theorem kind_ne_of_tokens {query : String} {body : List Token} {last : Nat}
    (scanned : vocabulary.tokens query = .ok (body ++ [⟨.endOfInput, last⟩]))
    : ∀ token ∈ body, token.kind ≠ .endOfInput := by
  obtain ⟨front, place, same, each⟩ := isScanned_of_tokensFrom scanned
  obtain ⟨rfl, -⟩ := List.append_inj' same rfl
  intro token member
  exact (each token member).kind_ne

end CqlGateway.Vocabulary
