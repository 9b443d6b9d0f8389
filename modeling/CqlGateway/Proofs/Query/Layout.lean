import CqlGateway.Proofs.Query.Scanning

/-! The tokens of a query lay it out without gaps: white space, then the slice of each token with
the white space behind it. Every slice is as long as a slice of its kind can be.
-/

namespace CqlGateway

open Term (pieces)

-----------------------------------------------------------------------------------------
-- Slices
-----------------------------------------------------------------------------------------

/-- The text of a token with a slice: the slice, but for named relations, which are in lower case.
-/
def TokenData.textOfSlice (data : TokenData) (slice : List Char) : String :=
  match data with
  | .relation _ => Text.lowercase (String.ofList slice)
  | _ => String.ofList slice

/-- A slice of a token's kind, which cannot be longer in front of the rest of the query: no longer
comparison begins with it, a run is over, and a quoted term has its quote at both ends only.
-/
def TokenData.IsComplete (data : TokenData) (slice rest : List Char) : Prop :=
  match data with
  | .openParen | .closeParen | .slash => True
  | .comparison _ =>
      ∀ next ∈ rest.head?, ∀ longer : Comparison, longer.symbol.toList ≠ slice ++ [next]
  | .operator _ _ | .relation _ | .sortBy _ =>
      Vocabulary.IsRun slice ∧ Vocabulary.EndsRun rest
  | .term _ value false =>
      value.toList = slice ∧ Vocabulary.IsRun slice ∧ Vocabulary.EndsRun rest
  | .term _ value true =>
      ∃ quote,
        (quote = '"' ∨ quote = '\'')
        ∧ slice = quote :: value.toList ++ [quote]
        ∧ ∀ piece ∈ pieces value.toList, Vocabulary.IsBetween quote piece
  | .endOfInput => False

/-- The slice in front of the rest of a query is that of a token. -/
structure TokenData.HasSlice (data : TokenData) (slice rest : List Char) : Prop where
  text : data.text = data.textOfSlice slice
  complete : data.IsComplete slice rest

/-- A token with the part of a query that it was read from. -/
structure PlacedToken where
  token : Token
  slice : List Char
  /-- The white space behind the slice. -/
  space : List Char

/-- All that the token takes up of the query. -/
def PlacedToken.text (placed : PlacedToken) : List Char :=
  placed.slice ++ placed.space

/-- The tokens stand one behind the other from an offset on, each with its slice in front of its
white space and of all tokens behind it.
-/
def ArePlaced : Nat → List PlacedToken → Prop
  | _, [] => True
  | offset, placed :: others =>
      placed.token.offset = offset
        ∧ placed.token.data.HasSlice placed.slice
          (placed.space ++ others.flatMap PlacedToken.text)
        ∧ Text.isBlank placed.space = true
        ∧ ArePlaced (offset + placed.text.length) others

/-- A query is the white space and the placed tokens, which are all its tokens but the end. That
stands behind the last character.
-/
structure IsLayout (query : String) (tokens : List Token) (space : List Char)
    (placed : List PlacedToken)
    : Prop where
  listed : tokens = placed.map PlacedToken.token ++ [⟨.endOfInput, query.length⟩]
  covers : query.toList = space ++ placed.flatMap PlacedToken.text
  blank : Text.isBlank space = true
  inPlace : ArePlaced space.length placed
  increasing : (tokens.map Token.offset).Pairwise (· < ·)

theorem TokenData.HasSlice.ne_nil {data : TokenData} {slice rest : List Char}
    (read : data.HasSlice slice rest)
    : slice ≠ [] := by
  obtain ⟨text, complete⟩ := read
  rintro rfl
  cases data with
  | openParen | closeParen | slash => simp [TokenData.text, textOfSlice] at text
  | comparison symbol =>
      cases symbol <;> simp [TokenData.text, textOfSlice, Comparison.symbol] at text
  | operator | relation | sortBy => exact complete.1.ne_nil rfl
  | endOfInput => exact complete
  | term raw value quoted =>
      cases quoted with
      | false => exact complete.2.1.ne_nil rfl
      | true =>
          obtain ⟨quote, -, same, -⟩ := complete
          cases same

/-- Offsets increase strictly up to the end of what is placed, since no slice is empty. -/
theorem ArePlaced.offsets {offset : Nat} {placed : List PlacedToken}
    (laid : ArePlaced offset placed)
    : (placed.map (·.token.offset)
        ++ [offset + (placed.flatMap PlacedToken.text).length]).Pairwise (· < ·)
      ∧ ∀ other ∈ placed, offset ≤ other.token.offset := by
  induction placed generalizing offset with
  | nil => simp
  | cons first others ih =>
      obtain ⟨rfl, read, -, later⟩ := laid
      obtain ⟨increasing, behind⟩ := ih later
      have taken : 0 < first.text.length := by
        rw [PlacedToken.text, List.length_append]
        have some := List.length_pos_iff.mpr read.ne_nil
        omega
      refine ⟨?_, ?_⟩
      · rw [List.map_cons, List.cons_append, List.pairwise_cons, List.flatMap_cons,
          List.length_append, ← Nat.add_assoc]
        refine ⟨?_, increasing⟩
        intro place member
        rcases List.mem_append.mp member with member | member
        · obtain ⟨other, inOthers, rfl⟩ := List.mem_map.mp member
          have after := behind other inOthers
          omega
        · obtain rfl := List.mem_singleton.mp member
          omega
      · intro other member
        rcases List.mem_cons.mp member with rfl | member
        · exact Nat.le_refl _
        · have after := behind other member
          omega

-----------------------------------------------------------------------------------------
-- Single tokens
-----------------------------------------------------------------------------------------

namespace Vocabulary

variable {vocabulary : Vocabulary} {first : Char} {text : List Char} {data : TokenData}

/-- The symbol that is found begins a text, and no longer one does, by the cases of the look-up. -/
theorem symbol_of_comparison? {symbol : Comparison} (found : comparison? first text = some symbol)
    : ∃ others rest,
        text = others ++ rest
        ∧ symbol.symbol.toList = first :: others
        ∧ ∀ next ∈ rest.head?, ∀ longer : Comparison,
            longer.symbol.toList ≠ first :: others ++ [next] := by
  have longest (front back next : Char) (longer : Comparison)
      : longer.symbol.toList ≠ front :: [back] ++ [next] := by
    cases longer <;> simp [Comparison.symbol]
  revert found
  fun_cases comparison? first text with
  | case1 rest | case3 rest | case4 rest | case6 rest =>
      rintro ⟨⟩
      exact ⟨[_], rest, rfl, rfl, fun next _ => longest _ _ next⟩
  | case2 text noEqual | case7 text noEqual =>
      rintro ⟨⟩
      refine ⟨[], text, rfl, rfl, ?_⟩
      intro next begins longer
      obtain ⟨others, rfl⟩ := List.head?_eq_some_iff.mp begins
      cases longer <;> simp [Comparison.symbol]
      rintro rfl
      exact noEqual _ rfl
  | case5 text noEqual noGreater =>
      rintro ⟨⟩
      refine ⟨[], text, rfl, rfl, ?_⟩
      intro next begins longer
      obtain ⟨others, rfl⟩ := List.head?_eq_some_iff.mp begins
      cases longer <;> simp [Comparison.symbol]
      · rintro rfl
        exact noGreater _ rfl
      · rintro rfl
        exact noEqual _ rfl
  | case8 => simp

/-- A run is the slice of whatever token it is. -/
theorem hasSlice_classify {run rest : List Char} (isRun : IsRun run) (ends : EndsRun rest)
    : (vocabulary.classify (String.ofList run)).HasSlice run rest := by
  rcases vocabulary.classify_cases (String.ofList run) with found | ⟨operator, found⟩
    | ⟨name, found⟩ | found
  · rw [found]
    exact ⟨rfl, isRun, ends⟩
  · rw [found]
    exact ⟨rfl, isRun, ends⟩
  · obtain ⟨rfl, -⟩ := classify_of_relation found
    rw [found]
    exact ⟨rfl, isRun, ends⟩
  · rw [found]
    exact ⟨rfl, String.toList_ofList, isRun, ends⟩

/-- The slice of a token is its first character and those behind it that belong to it. -/
theorem hasSlice_of_lexeme {offset behind : Nat} (visible : Text.isWhiteSpace first = false)
    (read : vocabulary.lexeme offset first text = .ok (data, behind))
    : ∃ others rest,
        text = others ++ rest ∧ others.length = behind ∧ data.HasSlice (first :: others) rest := by
  revert read
  fun_cases Vocabulary.lexeme vocabulary offset first text with
  | case1 isOpen | case2 _ isClose | case3 _ _ isSlash =>
      rintro ⟨⟩
      exact ⟨[], text, rfl, rfl, by subst first; rfl, trivial⟩
  | case4 _ _ _ isQuote =>
      intro read
      obtain ⟨value, found, ⟨⟩⟩ := Outcome.map_eq_ok.mp read
      obtain ⟨between, rest, rfl⟩ := isBetween_of_quotedTextFrom found
      refine ⟨value ++ [first], rest, by simp, by simp, rfl, first, by simpa using isQuote, ?_, ?_⟩
      · simp
      · simpa using between
  | case5 _ _ _ _ symbol found =>
      rintro ⟨⟩
      obtain ⟨others, rest, rfl, same, longest⟩ := symbol_of_comparison? found
      refine ⟨others, rest, rfl, ?_, ?_, longest⟩
      · rw [← String.length_toList, same, List.length_cons, Nat.add_sub_cancel]
      · simp only [TokenData.text, TokenData.textOfSlice, ← same, String.ofList_toList]
  | case6 notOpen notClose notSlash notQuote none =>
      intro read
      obtain ⟨run, found, ⟨⟩⟩ := Outcome.map_eq_ok.mp read
      have inside := inside_of_comparison? visible ⟨notOpen, notClose⟩ notSlash none
      have isRun := isRun_of_runFrom inside (by simpa using notQuote) found
      obtain ⟨-, rest, same, ends⟩ := continues_of_runFrom found
      cases run with
      | nil => exact absurd rfl isRun.ne_nil
      | cons lead others =>
          obtain ⟨rfl, rfl⟩ := List.cons.inj same
          exact ⟨others, rest, rfl, rfl, hasSlice_classify isRun ends⟩

-----------------------------------------------------------------------------------------
-- Whole queries
-----------------------------------------------------------------------------------------

/-- The tokens of a text are placed from its offset on, by the recursion of the scan. -/
theorem arePlaced_of_tokensFrom {tokens : List Token} {offset : Nat}
    (scanned : vocabulary.tokensFrom offset text = .ok tokens)
    : ∃ space placed,
        tokens = placed.map PlacedToken.token ++ [⟨.endOfInput, offset + text.length⟩]
        ∧ text = space ++ placed.flatMap PlacedToken.text
        ∧ Text.isBlank space = true
        ∧ ArePlaced (offset + space.length) placed := by
  fun_induction tokensFrom vocabulary offset text generalizing tokens with
  | case1 offset =>
      obtain rfl := Except.ok.inj scanned
      exact ⟨[], [], rfl, rfl, rfl, trivial⟩
  | case2 offset first others white ih =>
      obtain ⟨space, placed, rfl, rfl, blank, laid⟩ := ih scanned
      refine ⟨first :: space, placed, ?_, rfl, ?_, ?_⟩
      · simp only [List.length_cons, Nat.add_assoc, Nat.add_comm 1]
      · simpa [Text.isBlank, white] using blank
      · simpa only [List.length_cons, Nat.add_assoc, Nat.add_comm 1] using laid
  | case3 => cases scanned
  | case4 offset first text visible data behind found ih =>
      obtain ⟨later, read, rfl⟩ := Outcome.map_eq_ok.mp scanned
      obtain ⟨others, rest, rfl, rfl, hasSlice⟩ := hasSlice_of_lexeme (by simpa using visible) found
      rw [List.drop_left] at ih read
      obtain ⟨space, placed, rfl, rfl, blank, laid⟩ := ih read
      refine ⟨[], ⟨⟨data, offset⟩, first :: others, space⟩ :: placed, ?_, ?_, rfl, rfl, hasSlice,
        blank, ?_⟩
      · simp only [List.map_cons, List.cons_append, List.length_cons, List.length_append]
        congr 4
        omega
      · simp [PlacedToken.text]
      · simpa [PlacedToken.text, Nat.add_assoc, Nat.add_comm, Nat.add_left_comm] using laid

/-- A query with tokens is laid out by them, with strictly increasing offsets up to the only end. -/
theorem tokens_lay_out_query (vocabulary : Vocabulary) {query : String} {tokens : List Token}
    (scanned : vocabulary.tokens query = .ok tokens)
    : ∃ space placed, IsLayout query tokens space placed := by
  obtain ⟨space, placed, same, text, blank, laid⟩ := arePlaced_of_tokensFrom scanned
  rw [Nat.zero_add, String.length_toList] at same
  rw [Nat.zero_add] at laid
  have increasing := laid.offsets.1
  rw [← List.length_append, ← text, String.length_toList] at increasing
  exact ⟨space, placed, {
    listed := same
    covers := text
    blank := blank
    inPlace := laid
    increasing := by simpa [same, Function.comp_def] using increasing
  }⟩

/-- A relation in capitals, an escaped delimiter in a run, a quote in a run and quotes of either
kind, and symbols that begin as longer ones do.
-/
def denseQuery : String :=
  " a\\ 'b ANY\t'\"\\''<= =\"\""

theorem tokens_lay_out_query_denseQuery
    : ∃ tokens,
        standard.tokens denseQuery = .ok tokens
        ∧ tokens.map (·.data.text) = ["a\\ 'b", "any", "'\"\\''", "<=", "=", "\"\"", ""]
        ∧ ∃ space placed, IsLayout denseQuery tokens space placed := by
  have texts : (standard.tokens denseQuery).toOption.map (·.map (·.data.text))
      = some ["a\\ 'b", "any", "'\"\\''", "<=", "=", "\"\"", ""] := by
    decide +kernel
  obtain ⟨tokens, found, same⟩ := Option.map_eq_some_iff.mp texts
  have scanned := Outcome.toOption_eq_some.mp found
  exact ⟨tokens, scanned, same, tokens_lay_out_query standard scanned⟩

end Vocabulary

end CqlGateway
