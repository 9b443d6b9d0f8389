import CqlGateway.Proofs.Query.ScanState

/-! White space keeps tokens apart. What stands in front of it and what stands behind it is scanned
as if it stood alone, so the texts of tokens with a space between neighbours are scanned as these
tokens again.
-/

namespace CqlGateway

open ScanState (behind)
open Term (ne_backslash_of_cases)

/-- The token with so many more characters in front of it. -/
def Token.movedBy (distance : Nat) (token : Token) : Token :=
  { token with offset := token.offset + distance }

/-- The error with so many more characters in front of it. -/
def ScanError.movedBy (distance : Nat) (error : ScanError) : ScanError :=
  { error with offset := error.offset + distance }

namespace Vocabulary

variable {vocabulary : Vocabulary} {front rest text : List Char} {body : List Token}
  {data : List TokenData} {token : TokenData} {offset distance last : Nat} {first white : Char}

-----------------------------------------------------------------------------------------
-- Texts behind other texts
-----------------------------------------------------------------------------------------

/-- What a text is scanned as with so many more characters in front of it. -/
def movedBy (distance : Nat) : Except ScanError (List Token) → Except ScanError (List Token)
  | .ok tokens => .ok (tokens.map (Token.movedBy distance))
  | .error error => .error (error.movedBy distance)

theorem map_mapError {α β : Type} (change : α → β) (outcome : Except ScanError α)
    : change <$> outcome.mapError (ScanError.movedBy distance)
      = (change <$> outcome).mapError (ScanError.movedBy distance) := by
  cases outcome <;> rfl

theorem runFrom_add (place distance : Nat) (text : List Char)
    : runFrom (place + distance) text
      = (runFrom place text).mapError (ScanError.movedBy distance) := by
  fun_induction runFrom place text with
  | case1 | case2 => rfl
  | case3 place character others ih =>
      rw [runFrom, Nat.add_right_comm, ih, map_mapError]
  | case4 place character others noLast noEscape ends =>
      rw [runFrom_cons (ne_backslash_of_cases noLast noEscape), if_pos ends]
      rfl
  | case5 place character others noLast noEscape inside ih =>
      rw [runFrom_cons (ne_backslash_of_cases noLast noEscape), if_neg inside, Nat.add_right_comm,
        ih, map_mapError]

theorem quotedTextFrom_add (quote : Char) (opened place distance : Nat) (text : List Char)
    : quotedTextFrom quote (opened + distance) (place + distance) text
      = (quotedTextFrom quote opened place text).mapError (ScanError.movedBy distance) := by
  fun_induction quotedTextFrom quote opened place text with
  | case1 | case2 => rfl
  | case3 place character others ih =>
      rw [quotedTextFrom, Nat.add_right_comm, ih, map_mapError]
  | case4 place others noLast noEscape =>
      rw [quotedTextFrom_cons (ne_backslash_of_cases noLast noEscape), if_pos rfl]
      rfl
  | case5 place character others noLast noEscape inside ih =>
      rw [quotedTextFrom_cons (ne_backslash_of_cases noLast noEscape), if_neg inside,
        Nat.add_right_comm, ih, map_mapError]

/-- A token is read wherever it stands, or refused at a place that is moved with it. -/
theorem lexeme_add (vocabulary : Vocabulary) (offset distance : Nat) (first : Char)
    (rest : List Char)
    : vocabulary.lexeme (offset + distance) first rest
      = (vocabulary.lexeme offset first rest).mapError (ScanError.movedBy distance) := by
  unfold Vocabulary.lexeme
  rw [Nat.add_right_comm, quotedTextFrom_add, runFrom_add, map_mapError, map_mapError]
  -- Both sides choose their branch by the same characters; only quoted texts and runs may fail.
  split
  · rfl
  split
  · rfl
  split
  · rfl
  split
  · rfl
  split <;> rfl

/-- Where a text stands has no part in its tokens but their offsets, by the recursion of the scan.
-/
theorem tokensFrom_add (vocabulary : Vocabulary) (offset distance : Nat) (text : List Char)
    : vocabulary.tokensFrom (offset + distance) text
      = movedBy distance (vocabulary.tokensFrom offset text) := by
  fun_induction tokensFrom vocabulary offset text with
  | case1 => rw [tokensFrom]; rfl
  | case2 offset first rest isWhite ih =>
      rw [tokensFrom, if_pos isWhite, Nat.add_right_comm, ih]
  | case3 offset first rest visible error unread =>
      rw [tokensFrom, if_neg visible, lexeme_add, unread]
      rfl
  | case4 offset first rest visible data length found ih =>
      have place : offset + distance + 1 + length = offset + 1 + length + distance := by omega
      have read : vocabulary.lexeme (offset + distance) first rest = .ok (data, length) := by
        rw [lexeme_add, found]
        rfl
      rw [tokensFrom, if_neg visible, read]
      dsimp only
      rw [place, ih]
      cases vocabulary.tokensFrom (offset + 1 + length) (rest.drop length) <;> rfl

/-- A text has its tokens, or what is wrong with it, moved by where it stands. -/
theorem tokensFrom_eq_movedBy (vocabulary : Vocabulary) (offset : Nat) (text : List Char)
    : vocabulary.tokensFrom offset text = movedBy offset (vocabulary.tokensFrom 0 text) := by
  rw [← tokensFrom_add, Nat.zero_add]

-----------------------------------------------------------------------------------------
-- Texts in front of white space
-----------------------------------------------------------------------------------------

/-- White space ends whatever a text with tokens ends in, and makes no symbol longer: the tokens
stay what they are in front of it.
-/
theorem tokensFrom_append_whiteSpace
    (scanned : vocabulary.tokensFrom offset front = .ok (body ++ [⟨.endOfInput, last⟩]))
    (isWhite : Text.isWhiteSpace white = true)
    : vocabulary.tokensFrom offset (front ++ white :: rest)
      = (body ++ ·) <$> vocabulary.tokensFrom (offset + front.length) (white :: rest) := by
  have noError : (behind offset .between front).error? (offset + front.length) = none := by
    rw [← error?_tokensFrom vocabulary, scanned]
    rfl
  have endsRun : EndsRun (white :: rest) := by
    simp [EndsRun, Vocabulary.endsRun, isWhite]
  have endsSymbol : EndsSymbol (white :: rest) := by
    rintro next ⟨⟩
    refine ⟨?_, ?_⟩
    · rintro rfl
      cases isWhite
    · rintro rfl
      cases isWhite
  exact tokensFrom_append scanned (ScanState.isOver_of_error? noError endsRun) endsSymbol

/-- White space separates. In front of it a text keeps its tokens up to their end, and behind it
come the tokens of the other text, or what is wrong with that one, moved by all that stands in front
of it.
-/
theorem tokens_separated_by_whiteSpace (vocabulary : Vocabulary) {front : String}
    {all : List Token} {white : Char} (scanned : vocabulary.tokens front = .ok all)
    (isWhite : Text.isWhiteSpace white = true) (rest : String)
    : ∃ body last,
        all = body ++ [⟨.endOfInput, last⟩]
        ∧ (∀ token ∈ body, token.kind ≠ .endOfInput)
        ∧ (∀ others,
          vocabulary.tokens rest = .ok others
          → vocabulary.tokens (front.push white ++ rest)
            = .ok (body ++ others.map (Token.movedBy (front.length + 1))))
        ∧ ∀ error,
          vocabulary.tokens rest = .error error
          → vocabulary.tokens (front.push white ++ rest)
            = .error (error.movedBy (front.length + 1)) := by
  obtain ⟨body, last, rfl, -⟩ := isScanned_of_tokensFrom scanned
  have whole : (front.push white ++ rest).toList = front.toList ++ white :: rest.toList := by
    simp
  have parts : vocabulary.tokens (front.push white ++ rest)
      = (body ++ ·) <$> movedBy (front.length + 1) (vocabulary.tokens rest) := by
    rw [tokens, whole, tokensFrom_append_whiteSpace scanned isWhite, tokensFrom, if_pos isWhite,
      tokensFrom_eq_movedBy, Nat.zero_add, String.length_toList, ← tokens]
  refine ⟨body, last, rfl, kind_ne_of_tokens scanned, ?_, ?_⟩
  · intro others found
    rw [parts, found]
    rfl
  · intro error failed
    rw [parts, failed]
    rfl

/-- A symbol at the end is not made longer from behind an ideographic space, and an open term behind
it is one at its own place.
-/
theorem tokens_separated_by_whiteSpace_symbols
    : standard.tokens "a <\u3000=b"
        = .ok [
          ⟨.term "a" "a" false, 0⟩,
          ⟨.comparison .less, 2⟩,
          ⟨.comparison .equal, 4⟩,
          ⟨.term "b" "b" false, 5⟩,
          ⟨.endOfInput, 6⟩
        ]
      ∧ standard.tokens "a <\u3000=\"b" = .error ⟨5, .unterminatedTerm⟩ := by
  have scanned : standard.tokens "a <"
      = .ok ([⟨.term "a" "a" false, 0⟩, ⟨.comparison .less, 2⟩] ++ [⟨.endOfInput, 3⟩]) :=
    Outcome.toOption_eq_some.mp (by decide +kernel)
  have behind : standard.tokens "=b"
      = .ok [⟨.comparison .equal, 0⟩, ⟨.term "b" "b" false, 1⟩, ⟨.endOfInput, 2⟩] :=
    Outcome.toOption_eq_some.mp (by decide +kernel)
  have failed : standard.tokens "=\"b" = .error ⟨1, .unterminatedTerm⟩ :=
    Outcome.error?_eq_some.mp (by decide +kernel)
  have white : Text.isWhiteSpace '\u3000' = true := by decide
  obtain ⟨body, last, parts, -, joined, -⟩ :=
    tokens_separated_by_whiteSpace standard scanned white "=b"
  obtain ⟨_, _, -, -, -, stuck⟩ :=
    tokens_separated_by_whiteSpace standard scanned white "=\"b"
  obtain ⟨rfl, -⟩ := List.append_inj' parts rfl
  exact ⟨joined _ behind, stuck _ failed⟩

-----------------------------------------------------------------------------------------
-- Texts of tokens
-----------------------------------------------------------------------------------------

/-- A token whose text alone is scanned as this token. -/
def ReadsBack (vocabulary : Vocabulary) (token : TokenData) : Prop :=
  Scans vocabulary token.text.toList [token] []

/-- A run reads back as what it was classified as. For a relation its name does, in lower case. -/
theorem readsBack_classify {run : String} (isRun : IsRun run.toList)
    : vocabulary.ReadsBack (vocabulary.classify run) := by
  have ends : EndsRun [] := by simp [EndsRun]
  have scans := @scans_run vocabulary _ _ isRun ends
  rw [String.ofList_toList] at scans
  rcases vocabulary.classify_cases run with found | ⟨operator, found⟩ | ⟨name, found⟩ | found
  · rw [found] at scans ⊢
    exact scans
  · rw [found] at scans ⊢
    exact scans
  · obtain ⟨rfl, same⟩ := classify_of_relation found
    have named := @scans_run vocabulary _ _ isRun.lowercase ends
    rw [String.ofList_toList, same] at named
    rw [found]
    exact named
  · rw [found] at scans ⊢
    exact scans

/-- Every token that is read reads back, by the cases of the reading. -/
theorem readsBack_of_lexeme {length : Nat} (visible : Text.isWhiteSpace first = false)
    (read : vocabulary.lexeme offset first text = .ok (token, length))
    : vocabulary.ReadsBack token := by
  revert read
  fun_cases Vocabulary.lexeme vocabulary offset first text with
  | case1 =>
      rintro ⟨⟩
      exact scans_openParen
  | case2 =>
      rintro ⟨⟩
      exact scans_closeParen
  | case3 =>
      rintro ⟨⟩
      exact scans_slash
  | case4 _ _ _ isQuote =>
      intro read
      obtain ⟨value, found, ⟨⟩⟩ := Outcome.map_eq_ok.mp read
      have scans := @scans_quoted vocabulary _ _ [] (by simpa using isQuote)
        (isBetween_of_quotedTextFrom found).1
      simpa [ReadsBack, TokenData.text, quotedTerm] using scans
  | case5 _ _ _ _ symbol found =>
      rintro ⟨⟩
      exact scans_symbol symbol (by simp [EndsSymbol])
  | case6 notOpen notClose notSlash notQuote none =>
      intro read
      obtain ⟨run, found, ⟨⟩⟩ := Outcome.map_eq_ok.mp read
      have inside := inside_of_comparison? visible ⟨notOpen, notClose⟩ notSlash none
      have isRun := isRun_of_runFrom inside (by simpa using notQuote) found
      exact readsBack_classify (by simpa using isRun)

/-- What is scanned alone is scanned in front of white space. -/
theorem Scans.beforeWhiteSpace (scans : Scans vocabulary text data [])
    (isWhite : Text.isWhiteSpace white = true)
    : Scans vocabulary text data (white :: rest) := by
  intro offset
  obtain ⟨tokens, last, same, scanned⟩ := scans offset
  rw [List.append_nil, tokensFrom] at scanned
  exact ⟨tokens, offset + text.length, same, tokensFrom_append_whiteSpace scanned isWhite⟩

/-- Tokens that read back do so with a space between neighbours, by induction on the tokens. -/
theorem scans_intercalate (each : ∀ token ∈ data, vocabulary.ReadsBack token)
    : Scans vocabulary ([' '].intercalate (data.map (·.text.toList))) data [] := by
  induction data with
  | nil => exact .nil
  | cons token others ih =>
      obtain ⟨readsBack, later⟩ := List.forall_mem_cons.mp each
      cases others with
      | nil =>
          rw [List.map_singleton, List.intercalate_singleton]
          exact readsBack
      | cons next more =>
          have joined : [' '].intercalate ((token :: next :: more).map (·.text.toList))
              = token.text.toList
                ++ ' ' :: [' '].intercalate ((next :: more).map (·.text.toList)) := by
            simp [List.intercalate_cons_cons]
          rw [joined]
          exact .append (.beforeWhiteSpace readsBack isWhiteSpace_space) (ih later).behindSpace

/-- The texts of tokens with a space between neighbours, without that of the end. -/
def spelling (tokens : List Token) : String :=
  String.intercalate " " ((tokens.filter (·.kind ≠ .endOfInput)).map (·.data.text))

theorem spelling_append_end
    (noEnd : ∀ token ∈ body, token.kind ≠ .endOfInput)
    : (spelling (body ++ [⟨.endOfInput, last⟩])).toList
      = [' '].intercalate ((body.map Token.data).map (·.text.toList)) := by
  have inFront : body.filter (·.kind ≠ .endOfInput) = body :=
    List.filter_eq_self.mpr fun token member => decide_eq_true (noEnd token member)
  have kept : List.filter (·.kind ≠ .endOfInput) (body ++ [⟨.endOfInput, last⟩]) = body := by
    rw [List.filter_append, inFront]
    exact List.append_nil body
  rw [spelling, kept, String.toList_intercalate, List.map_map, List.map_map]
  rfl

/-- The texts of the tokens of a query, with a space between neighbours, are a query with the same
tokens at other places.
-/
theorem tokens_spelling (vocabulary : Vocabulary) {query : String} {all : List Token}
    (scanned : vocabulary.tokens query = .ok all)
    : ∃ again,
        vocabulary.tokens (spelling all) = .ok again
        ∧ again.map Token.data = all.map Token.data := by
  obtain ⟨body, last, rfl, each⟩ := forall_of_tokensFrom readsBack_of_lexeme scanned
  have readBack : Scans vocabulary (spelling (body ++ [⟨.endOfInput, last⟩])).toList
      (body.map Token.data) [] := by
    rw [spelling_append_end (kind_ne_of_tokens scanned)]
    exact scans_intercalate (List.forall_mem_map.mpr each)
  obtain ⟨tokens, place, found, same⟩ := readBack.tokens
  exact ⟨_, found, by simp [same]⟩

/-- A relation in capitals, quotes of either kind and symbols without spaces around them are spelled
with spaces, the relation in lower case, and read again as what they were.
-/
theorem tokens_spelling_denseQuery
    : ∃ all again,
        standard.tokens denseQuery = .ok all
        ∧ spelling all = "a\\ 'b any '\"\\'' <= = \"\""
        ∧ standard.tokens (spelling all) = .ok again
        ∧ again.map Token.data = all.map Token.data := by
  have spelled : (standard.tokens denseQuery).toOption.map spelling
      = some "a\\ 'b any '\"\\'' <= = \"\"" := by
    decide +kernel
  obtain ⟨all, found, same⟩ := Option.map_eq_some_iff.mp spelled
  have scanned := Outcome.toOption_eq_some.mp found
  obtain ⟨again, readBack, kept⟩ := tokens_spelling standard scanned
  exact ⟨all, again, scanned, same, readBack, kept⟩

end Vocabulary

end CqlGateway
