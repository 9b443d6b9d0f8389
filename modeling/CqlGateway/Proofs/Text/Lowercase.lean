import CqlGateway.Text.Lowercase
import CqlGateway.Text.WhiteSpace

/-! Lower case is reached in one step. It neither makes nor takes away white space, nor any ASCII
character that is no letter.
-/

namespace CqlGateway.Text

variable {character form : Char} {before after : List Char}

-----------------------------------------------------------------------------------------
-- The table of letters
-----------------------------------------------------------------------------------------

namespace CaseRun

/-- The lower case forms of the run's letters lie between these. -/
def firstForm (run : CaseRun) : Nat :=
  (run.first + run.shift).toNat

def lastForm (run : CaseRun) : Nat :=
  (run.last + run.shift).toNat

/-- True if no lower case form of the run is a letter of the other one: they lie apart, or between
the letters of the other one.
-/
def misses (run other : CaseRun) : Bool :=
  run.lastForm.blt other.first
    || other.last.blt run.firstForm
    || (other.step = 2 && (run.step = 2 || run.first = run.last)
      && (run.firstForm + other.first) % 2 = 1)

/-- No letter has a lower case form that has one of its own. -/
theorem misses_of_mem {run other : CaseRun} (member : run ∈ caseRuns) (also : other ∈ caseRuns)
    : run.misses other = true := by
  have all : (caseRuns.all fun run => caseRuns.all run.misses) = true := by decide +kernel
  exact List.all_eq_true.mp (List.all_eq_true.mp all run member) other also

theorem covers_eq_false_of_misses {run other : CaseRun} (misses : run.misses other = true)
    {code form : Nat} (covered : run.covers code = true) (positive : 0 < run.firstForm)
    (moved : (form : Int) = code + run.shift)
    : other.covers form = false := by
  rw [← Bool.not_eq_true]
  intro caught
  simp only [covers, Bool.and_eq_true, decide_eq_true_eq, beq_iff_eq] at covered caught
  simp only [CaseRun.misses, Bool.or_eq_true, Bool.and_eq_true, Nat.blt_eq,
    decide_eq_true_eq] at misses
  simp only [firstForm, lastForm] at misses positive
  rcases misses with (below | above) | ⟨⟨otherStep, step⟩, odd⟩
  · omega
  · omega
  · rw [otherStep] at caught
    rcases step with step | single
    · rw [step] at covered
      omega
    · omega

/-- The run's letters lie beyond ASCII and are no white space. Their lower case forms are
characters, no white space, and beyond ASCII too or small letters; none is the dotted capital.
-/
def IsSound (run : CaseRun) : Prop :=
  0x80 ≤ run.first
    ∧ (0x80 ≤ run.firstForm ∨ 0x61 ≤ run.firstForm ∧ run.lastForm ≤ 0x7A)
    ∧ (run.lastForm < 0xD800 ∨ 0xDFFF < run.firstForm ∧ run.lastForm < 0x110000)
    ∧ (run.lastForm < 0x130 ∨ 0x130 < run.firstForm)
    ∧ ∀ range ∈ whiteSpaceRanges,
      (run.last < range.1 ∨ range.2 < run.first)
      ∧ (run.lastForm < range.1 ∨ range.2 < run.firstForm)

instance (run : CaseRun) : Decidable run.IsSound :=
  inferInstanceAs (Decidable (_ ∧ _))

theorem isSound_of_mem {run : CaseRun} (member : run ∈ caseRuns) : run.IsSound := by
  have sound : ∀ run ∈ caseRuns, run.IsSound := by decide +kernel
  exact sound run member

end CaseRun

-----------------------------------------------------------------------------------------
-- Signs and letters
-----------------------------------------------------------------------------------------

/-- White space, and the ASCII characters that are no letters. -/
def IsSign (character : Char) : Prop :=
  isWhiteSpace character = true
    ∨ character.toNat < 0x80
      ∧ ¬ (0x41 ≤ character.toNat ∧ character.toNat ≤ 0x5A)
      ∧ ¬ (0x61 ≤ character.toNat ∧ character.toNat ≤ 0x7A)

theorem toNat_ofNat {code : Nat} (valid : code.isValidChar) : (Char.ofNat code).toNat = code := by
  rw [Char.ofNat, dif_pos valid]
  rfl

/-- Moved by the shift of its run, a letter is a character again. -/
theorem toNat_shifted {run : CaseRun} (member : run ∈ caseRuns)
    (covered : run.covers character.toNat = true)
    : ((Char.ofNat (character.toNat + run.shift).toNat).toNat : Int)
      = character.toNat + run.shift := by
  obtain ⟨start, ascii, characters, -, -⟩ := CaseRun.isSound_of_mem member
  simp only [CaseRun.covers, Bool.and_eq_true, decide_eq_true_eq, beq_iff_eq] at covered
  simp only [CaseRun.firstForm, CaseRun.lastForm] at ascii characters
  have valid : (character.toNat + run.shift).toNat.isValidChar := by
    unfold Nat.isValidChar
    omega
  rw [toNat_ofNat valid]
  omega

theorem isWhiteSpace_iff
    : isWhiteSpace character = true
      ↔ ∃ range ∈ whiteSpaceRanges, range.1 ≤ character.toNat ∧ character.toNat ≤ range.2 := by
  simp only [isWhiteSpace, inRanges, List.any_eq_true, Bool.and_eq_true, decide_eq_true_eq]

/-- A letter and its lower case form, which has none of its own. -/
structure Lowers (letter form : Char) : Prop where
  letter_not_sign : ¬ IsSign letter
  form_not_sign : ¬ IsSign form
  form_fixed : lowerChar form = form
  form_ne_dotted : form ≠ 'İ'

theorem lowers_of_capital (capital : 0x41 ≤ character.toNat ∧ character.toNat ≤ 0x5A)
    (moved : form.toNat = character.toNat + 0x20)
    : Lowers character form := by
  have blank {letter : Char} (between : 0x41 ≤ letter.toNat ∧ letter.toNat ≤ 0x7A)
      : isWhiteSpace letter ≠ true := by
    simp only [ne_eq, isWhiteSpace_iff, whiteSpaceRanges, List.mem_cons, List.not_mem_nil, or_false,
      exists_eq_or_imp, exists_eq_left]
    omega
  refine ⟨?_, ?_, ?_, ?_⟩
  · rintro (white | ⟨-, notCapital, -⟩)
    · exact blank (by omega) white
    · exact notCapital capital
  · rintro (white | ⟨-, -, notSmall⟩)
    · exact blank (by omega) white
    · omega
  · have ascii : form.toNat < 0x80 := by omega
    have notCapital : ¬ (0x41 ≤ form.toNat ∧ form.toNat ≤ 0x5A) := by omega
    simp only [lowerChar, if_pos ascii, Bool.and_eq_true, decide_eq_true_eq, if_neg notCapital]
  · rintro rfl
    have code : Char.toNat 'İ' = 0x130 := rfl
    omega

theorem lowers_of_run {run : CaseRun} (member : run ∈ caseRuns)
    (covered : run.covers character.toNat = true)
    (moved : (form.toNat : Int) = character.toNat + run.shift)
    : Lowers character form := by
  obtain ⟨start, ascii, -, dotted, white⟩ := CaseRun.isSound_of_mem member
  have uncovered (other : CaseRun) (also : other ∈ caseRuns) : other.covers form.toNat = false :=
    CaseRun.covers_eq_false_of_misses (CaseRun.misses_of_mem member also) covered (by omega) moved
  simp only [CaseRun.covers, Bool.and_eq_true, decide_eq_true_eq, beq_iff_eq] at covered
  simp only [CaseRun.firstForm, CaseRun.lastForm] at ascii dotted white
  refine ⟨?_, ?_, ?_, ?_⟩
  · rintro (blank | ⟨small, -, -⟩)
    · obtain ⟨range, inTable, between⟩ := isWhiteSpace_iff.mp blank
      obtain ⟨apart, -⟩ := white range inTable
      omega
    · omega
  · rintro (blank | ⟨small, -, notSmall⟩)
    · obtain ⟨range, inTable, between⟩ := isWhiteSpace_iff.mp blank
      obtain ⟨-, apart⟩ := white range inTable
      omega
    · omega
  · unfold lowerChar
    split
    · next small =>
        have notCapital : ¬ (0x41 ≤ form.toNat ∧ form.toNat ≤ 0x5A) := by omega
        simp only [Bool.and_eq_true, decide_eq_true_eq, if_neg notCapital]
    · have none : caseRuns.find? (·.covers form.toNat) = none := by
        simpa [List.find?_eq_none] using uncovered
      simp only [none]
  · rintro rfl
    have code : Char.toNat 'İ' = 0x130 := rfl
    omega

/-- A character either is its own lower case form or becomes one, by the definition's branches. -/
theorem lowerChar_eq_self_or (character : Char)
    : lowerChar character = character ∨ Lowers character (lowerChar character) := by
  fun_cases lowerChar character with
  | case1 _ capital =>
      right
      simp only [Bool.and_eq_true, decide_eq_true_eq] at capital
      refine lowers_of_capital capital (toNat_ofNat ?_)
      unfold Nat.isValidChar
      omega
  | case2 | case4 => exact .inl rfl
  | case3 _ run found =>
      right
      have member := List.mem_of_find?_eq_some found
      have covered : run.covers character.toNat = true := by simpa using List.find?_some found
      exact lowers_of_run member covered (toNat_shifted member covered)

-----------------------------------------------------------------------------------------
-- Characters in their places
-----------------------------------------------------------------------------------------

/-- A character that is its own lower case form stays what it is, wherever it stands. -/
theorem lowerIn_of_fixed (fixed : lowerChar character = character) (notDotted : character ≠ 'İ')
    : lowerIn before character after = [character] := by
  have notSigma : character ≠ 'Σ' := by
    rintro rfl
    revert fixed
    decide +kernel
  rw [lowerIn, if_neg notSigma, if_neg notDotted, fixed]

theorem lowerIn_of_isSign (sign : IsSign character)
    : lowerIn before character after = [character] := by
  have notDotted : character ≠ 'İ' := by
    rintro rfl
    revert sign
    unfold IsSign
    decide
  rcases lowerChar_eq_self_or character with fixed | lowers
  · exact lowerIn_of_fixed fixed notDotted
  · exact absurd sign lowers.letter_not_sign

theorem lowerIn_ne_nil (before : List Char) (character : Char) (after : List Char)
    : lowerIn before character after ≠ [] := by
  fun_cases lowerIn before character after
  all_goals exact List.cons_ne_nil _ _

/-- What a character becomes stays what it is, and is no sign unless the character is that sign. -/
theorem lowerIn_of_mem (member : form ∈ lowerIn before character after)
    : (lowerChar form = form ∧ form ≠ 'İ') ∧ (IsSign form → form = character) := by
  have special : ∀ small ∈ ['ς', 'σ', 'i', '\u0307'],
      (lowerChar small = small ∧ small ≠ 'İ') ∧ ¬ IsSign small := by
    unfold IsSign
    intro small member
    simp only [List.mem_cons, List.not_mem_nil, or_false] at member
    rcases member with rfl | rfl | rfl | rfl
    all_goals decide +kernel
  revert member
  fun_cases lowerIn before character after with
  | case1 | case2 | case3 =>
      intro member
      obtain ⟨fixed, notSign⟩ := special form (List.Sublist.subset (by decide) member)
      exact ⟨fixed, fun sign => absurd sign notSign⟩
  | case4 _ notDotted =>
      intro member
      obtain rfl := List.mem_singleton.mp member
      rcases lowerChar_eq_self_or character with same | lowers
      · rw [same]
        exact ⟨⟨same, notDotted⟩, fun _ => rfl⟩
      · exact ⟨⟨lowers.form_fixed, lowers.form_ne_dotted⟩,
          fun sign => absurd sign lowers.form_not_sign⟩

theorem not_isSign_of_mem_lowerIn (letter : ¬ IsSign character)
    (member : form ∈ lowerIn before character after)
    : ¬ IsSign form := by
  intro sign
  obtain rfl := (lowerIn_of_mem member).2 sign
  exact letter sign

-----------------------------------------------------------------------------------------
-- Texts
-----------------------------------------------------------------------------------------

theorem fixed_of_mem_lowercaseFrom {text : List Char} (member : form ∈ lowercaseFrom before text)
    : lowerChar form = form ∧ form ≠ 'İ' := by
  induction text generalizing before with
  | nil => cases member
  | cons character rest ih =>
      rcases List.mem_append.mp member with here | later
      · exact (lowerIn_of_mem here).1
      · exact ih later

theorem lowercaseFrom_of_fixed {text : List Char}
    (fixed : ∀ character ∈ text, lowerChar character = character ∧ character ≠ 'İ')
    : lowercaseFrom before text = text := by
  induction text generalizing before with
  | nil => rfl
  | cons character rest ih =>
      obtain ⟨same, notDotted⟩ := fixed character (by simp)
      rw [lowercaseFrom, lowerIn_of_fixed same notDotted,
        ih fun other member => fixed other (by simp [member])]
      rfl

/-- Lower case is reached in one step. -/
@[simp]
theorem lowercase_lowercase (text : String) : lowercase (lowercase text) = lowercase text := by
  unfold lowercase
  rw [String.toList_ofList, lowercaseFrom_of_fixed fun _ => fixed_of_mem_lowercaseFrom]

end CqlGateway.Text
