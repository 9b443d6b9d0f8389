import CqlGateway.Proofs.Query.FirstMisfit
import CqlGateway.Proofs.Query.Parsing
import CqlGateway.Proofs.Query.ScanFaults
import CqlGateway.Report.Diagnostic

/-! Where the caret of a refused query stands. The offset of the error lies in the query or right
behind it, and the caret is under that place if the query is a single line. In a query of several
lines it never is: its indent counts the characters of all lines in front of the place.
-/

namespace CqlGateway

-----------------------------------------------------------------------------------------
-- Offsets
-----------------------------------------------------------------------------------------

namespace Vocabulary

variable {vocabulary : Vocabulary} {query : String} {tokens : List Token}

/-- What cannot be scanned is a character of the query: an opening quote or a last backslash. -/
theorem offset_lt_of_scanError {error : ScanError} (failed : vocabulary.tokens query = .error error)
    : error.offset < query.length := by
  obtain ⟨offset, fault⟩ := error
  rw [← String.length_toList]
  cases fault with
  | unterminatedTerm =>
      obtain ⟨front, quote, rest, text, rfl, -⟩ := exists_of_unterminatedTerm failed
      simp [text]
  | danglingBackslash =>
      obtain ⟨member, rfl⟩ := tokens_eq_danglingBackslash.mp failed
      obtain ⟨front, text, -⟩ := exists_of_dangling_mem member
      simp [← String.length_toList, text]

/-- All tokens stand in the query, but for the end, which is right behind it. -/
theorem offset_le_of_mem_tokens (scanned : vocabulary.tokens query = .ok tokens) {token : Token}
    (member : token ∈ tokens)
    : token.offset ≤ query.length := by
  obtain ⟨space, placed, rfl, text, -, laid⟩ := arePlaced_of_tokensFrom scanned
  have increasing := laid.offsets.1
  have whole := congrArg List.length text
  rw [List.length_append, String.length_toList] at whole
  rw [Nat.zero_add, ← whole, List.pairwise_append] at increasing
  rcases List.mem_append.mp member with inPlace | isEnd
  · obtain ⟨found, inPlaced, rfl⟩ := List.mem_map.mp inPlace
    exact Nat.le_of_lt
      (increasing.2.2 _ (List.mem_map_of_mem inPlaced) _ (List.mem_singleton_self _))
  · obtain rfl := List.mem_singleton.mp isEnd
    simp [String.length_toList]

/-- Scanned tokens that are no query are refused at one of them. -/
theorem exists_token_of_parseError {error : ParseError}
    (scanned : vocabulary.tokens query = .ok tokens)
    (refused : CqlQuery.ofTokens tokens = .error error)
    : ∃ token ∈ tokens, token.offset = error.offset := by
  obtain ⟨body, last, rfl, -⟩ := isScanned_of_tokensFrom scanned
  have follows := @CqlQuery.ofTokens_follows body ⟨.endOfInput, last⟩ rfl
    (kind_ne_of_tokens scanned)
  rw [refused] at follows
  obtain ⟨found, stops, offset⟩ := follows
  obtain ⟨front, reached, -, ⟨-, rfl, -⟩ | ⟨behind, rfl, -⟩⟩ :=
    Grammar.Place.misfit?_eq_some stops
  · exact ⟨_, by simp, offset⟩
  · exact ⟨found, by simp, offset⟩

/-- Every query that is refused is refused at an offset, by the scanner or by the parser. -/
theorem exists_offset_of_parse {error : Error} (refused : vocabulary.parse query = .error error)
    : ∃ offset, error.offset? = some offset ∧ offset ≤ query.length := by
  rcases parse_eq_error.mp refused with ⟨fault, failed, rfl⟩ | ⟨tokens, fault, scanned, failed, rfl⟩
  · exact ⟨fault.offset, rfl, Nat.le_of_lt (offset_lt_of_scanError failed)⟩
  · obtain ⟨token, member, same⟩ := exists_token_of_parseError scanned failed
    exact ⟨fault.offset, rfl, same ▸ offset_le_of_mem_tokens scanned member⟩

end Vocabulary

-----------------------------------------------------------------------------------------
-- Lines and columns
-----------------------------------------------------------------------------------------

namespace Report

variable {front line text : List Char}

/-- What a text has behind its last line feed. -/
def lastLine (text : List Char) : List Char :=
  (text.reverse.takeWhile (· ≠ '\n')).reverse

/-- What follows a text is one line below what follows another one, and in the same column. -/
structure IsUnder (lower upper : List Char) : Prop where
  line : lower.count '\n' = upper.count '\n' + 1
  column : (lastLine lower).length = (lastLine upper).length

theorem lastLine_append_of_not_mem (single : '\n' ∉ line)
    : lastLine (front ++ '\n' :: line) = line := by
  have inside : ∀ character ∈ line.reverse, decide (character ≠ '\n') = true := by
    intro character member
    rw [decide_eq_true_iff]
    rintro rfl
    exact single (List.mem_reverse.mp member)
  rw [lastLine, List.reverse_append, List.reverse_cons, List.append_assoc, List.singleton_append,
    List.takeWhile_append_of_pos inside, List.takeWhile_cons_of_neg (by simp), List.append_nil,
    List.reverse_reverse]

/-- Behind a line feed the columns begin anew. -/
theorem length_lastLine_append_lt (broken : '\n' ∈ text)
    : (lastLine (front ++ text)).length < text.length := by
  obtain ⟨behind, before, parts, single⟩ :=
    List.eq_append_cons_of_mem (List.mem_reverse.mpr broken)
  obtain rfl : text = before.reverse ++ '\n' :: behind.reverse := by
    rw [← List.reverse_reverse text, parts]
    simp
  rw [← List.append_assoc, lastLine_append_of_not_mem (by simpa using single), List.length_append,
    List.length_cons]
  omega

-----------------------------------------------------------------------------------------
-- Carets
-----------------------------------------------------------------------------------------

theorem newline_not_mem_map_blankFor (text : List Char) : '\n' ∉ text.map blankFor := by
  intro member
  obtain ⟨character, -, same⟩ := List.mem_map.mp member
  rw [blankFor] at same
  split at same <;> exact absurd same (by decide)

/-- The line that names an error. -/
def headingOf (error : Error) : List Char :=
  ("error[" ++ error.code ++ "]: " ++ error.message).toList

/-- A text that echoes a query behind a heading and two blanks, and ends in a caret with blanks and
the tabs of the query in front. All in front of the query's offset is `place`, all in front of the
caret is `caret`.
-/
structure PointsInto (heading query : List Char) (offset : Nat) (text place caret : List Char)
    : Prop where
  echoes : place = heading ++ '\n' :: ("  ".toList ++ query.take offset)
  goesOn : ∃ rest, text = place ++ query.drop offset ++ '\n' :: rest
  ends : text = caret ++ ['^', '\n']
  indented : lastLine caret = ("  ".toList ++ query.take offset).map blankFor

/-- What is printed in front of the offset of an echoed query. -/
def frontOfPlace (heading query : List Char) (offset : Nat) : List Char :=
  heading ++ '\n' :: ("  ".toList ++ query.take offset)

/-- What is printed in front of the caret for the offset. -/
def frontOfCaret (heading query : List Char) (offset : Nat) : List Char :=
  heading ++ '\n' :: ("  ".toList ++ query)
    ++ '\n' :: ("  ".toList ++ query.take offset).map blankFor

variable {heading query : List Char} {offset : Nat}

theorem lastLine_frontOfCaret
    : lastLine (frontOfCaret heading query offset)
      = ("  ".toList ++ query.take offset).map blankFor :=
  lastLine_append_of_not_mem (newline_not_mem_map_blankFor _)

theorem pointsInto_ofError {query : String} {error : Error} (located : error.offset? = some offset)
    : PointsInto (headingOf error) query.toList offset ((ofError query error).text false).toList
        (frontOfPlace (headingOf error) query.toList offset)
        (frontOfCaret (headingOf error) query.toList offset) := by
  refine ⟨rfl, ?_, ?_, lastLine_frontOfCaret⟩
  · refine ⟨("  ".toList ++ query.toList.take offset).map blankFor ++ ['^', '\n'], ?_⟩
    simp [Report.text, ofError, located, ofPlace, frontOfPlace, headingOf, Segment.plain,
      Segment.bold, Segment.lineEnd, caretIndent, blankFor]
  · simp [Report.text, ofError, located, ofPlace, frontOfCaret, headingOf, Segment.plain,
      Segment.bold, Segment.lineEnd, caretIndent, blankFor]

/-- As many lines end between the offset and the caret as behind the offset, and one more. -/
theorem count_frontOfCaret
    : (frontOfCaret heading query offset).count '\n'
      = (frontOfPlace heading query offset).count '\n' + (query.drop offset).count '\n' + 1 := by
  have indent := List.count_eq_zero.mpr
    (newline_not_mem_map_blankFor ("  ".toList ++ query.take offset))
  have whole : query.count '\n'
      = (query.take offset).count '\n' + (query.drop offset).count '\n' := by
    rw [← List.count_append, List.take_append_drop]
  simp only [frontOfCaret, frontOfPlace, List.count_append, List.count_cons_self, indent, whole]
  omega

/-- Behind a line feed in front of the offset the caret is too far to the right. -/
theorem length_lastLine_lt_of_mem_take (broken : '\n' ∈ query.take offset)
    : (lastLine (frontOfPlace heading query offset)).length
      < (lastLine (frontOfCaret heading query offset)).length := by
  rw [lastLine_frontOfCaret, List.length_map, frontOfPlace, List.append_cons]
  exact length_lastLine_append_lt (List.mem_append_right _ broken)

/-- The caret is under the offset if and only if no line of the query ends: behind a line feed in
front of the offset columns begin anew, and one behind the offset puts a line in between.
-/
theorem isUnder_frontOfCaret_iff
    : IsUnder (frontOfCaret heading query offset) (frontOfPlace heading query offset)
      ↔ '\n' ∉ query := by
  constructor
  · intro under broken
    rw [← List.take_append_drop offset query, List.mem_append] at broken
    rcases broken with before | behind
    · exact absurd under.column (Nat.ne_of_gt (length_lastLine_lt_of_mem_take before))
    · have some := List.count_pos_iff.mpr behind
      have line := under.line
      rw [count_frontOfCaret] at line
      omega
  · intro single
    have noneBehind : (query.drop offset).count '\n' = 0 :=
      List.count_eq_zero.mpr fun member => single (List.mem_of_mem_drop member)
    have noneBefore : '\n' ∉ "  ".toList ++ query.take offset := by
      simpa using fun member => single (List.mem_of_mem_take member)
    refine ⟨?_, ?_⟩
    · rw [count_frontOfCaret, noneBehind]
    · rw [lastLine_frontOfCaret, frontOfPlace, lastLine_append_of_not_mem noneBefore,
        List.length_map]

/-- A query that is refused is echoed, and a caret points to the offset of the error, which is in
the query or right behind it. The caret is under the character there, or under the end of the query,
if and only if the query is a single line.
-/
theorem caret_under_offset_iff (vocabulary : Vocabulary) {query : String} {error : Error}
    (refused : vocabulary.parse query = .error error)
    : ∃ offset place caret,
        error.offset? = some offset
        ∧ offset ≤ query.length
        ∧ PointsInto (headingOf error) query.toList offset
          ((ofError query error).text false).toList place caret
        ∧ (IsUnder caret place ↔ '\n' ∉ query.toList) := by
  obtain ⟨offset, located, inside⟩ := Vocabulary.exists_offset_of_parse refused
  exact ⟨offset, _, _, located, inside, pointsInto_ofError located, isUnder_frontOfCaret_iff⟩

/-- Behind a tab and a letter of two bytes a term is open. -/
def openBehindTab : String :=
  "\tå \"b"

theorem caret_under_offset_iff_openBehindTab
    : ∃ error,
        Vocabulary.standard.parse openBehindTab = .error error
        ∧ error.offset? = some 3
        ∧ (ofError openBehindTab error).text false
          = "error[SCAN_ERROR]: scan error at offset 3: unterminated quoted term\n"
            ++ "  \tå \"b\n  \t  ^\n"
        ∧ ∃ place caret,
          PointsInto (headingOf error) openBehindTab.toList 3
            ((ofError openBehindTab error).text false).toList place caret
          ∧ IsUnder caret place := by
  have refused : Vocabulary.standard.parse openBehindTab = .error (.scan ⟨3, .unterminatedTerm⟩) :=
    Outcome.error?_eq_some.mp (by decide +kernel)
  obtain ⟨offset, place, caret, ⟨⟩, -, points, under⟩ := caret_under_offset_iff _ refused
  exact ⟨_, refused, rfl, by decide +kernel, place, caret, points, under.mpr (by decide)⟩

/-- The misfit is the first character of the second line. -/
def misfitOnSecondLine : String :=
  "a\n)"

/-- The caret is the fifth character of its line, the misfit is the first of its own. -/
theorem caret_not_under_misfitOnSecondLine
    : ∃ error,
        Vocabulary.standard.parse misfitOnSecondLine = .error error
        ∧ error.offset? = some 2
        ∧ (ofError misfitOnSecondLine error).text false
          = "error[SYNTAX_ERROR]: syntax error at offset 2: expected end of query, found ')' ')'\n"
            ++ "  a\n)\n    ^\n"
        ∧ ∃ place caret,
          PointsInto (headingOf error) misfitOnSecondLine.toList 2
            ((ofError misfitOnSecondLine error).text false).toList place caret
          ∧ (lastLine place).length = 0
          ∧ (lastLine caret).length = 4
          ∧ ¬ IsUnder caret place :=
  ⟨
    .parse ⟨2, .unexpected .endOfQuery .closeParen⟩,
    Outcome.error?_eq_some.mp (by decide +kernel),
    rfl,
    by decide +kernel,
    _,
    _,
    pointsInto_ofError rfl,
    by decide +kernel,
    by decide +kernel,
    mt isUnder_frontOfCaret_iff.mp (by decide)
  ⟩

end Report

end CqlGateway
