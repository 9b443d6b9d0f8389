import Mathlib.Algebra.Order.Field.Basic
import Mathlib.Data.Rat.Cast.Order
import Mathlib.Tactic.Positivity
import CqlGateway.Catalog.Standard
import CqlGateway.Proofs.Compilation.KeptWords

/-! Every value that reaches the engine was checked against the type of its field: it is not blank,
in a numeric field it is a finite number, and in a field of dates it is a date. Only on fields of
words are words matched together, and every range has a bound.
-/

namespace CqlGateway

open Outcome

-----------------------------------------------------------------------------------------
-- Numbers
-----------------------------------------------------------------------------------------

namespace Decimal

/-- The number without its sign. -/
def magnitude (number : Decimal) : ℚ :=
  number.significand * 10 ^ number.exponent

/-- A number other than zero with an exponent above 400 is too large. -/
theorem overflowBound_le {significand places : Nat} (nonzero : significand ≠ 0)
    (large : 400 < places)
    : overflowBound ≤ significand * 10 ^ places := by
  calc
    overflowBound ≤ 10 ^ 400 := by decide +kernel
    _ ≤ 10 ^ places := Nat.pow_le_pow_right (by decide) large.le
    _ ≤ significand * 10 ^ places := Nat.le_mul_of_pos_left _ (Nat.pos_of_ne_zero nonzero)

/-- A number with all its digits behind the point is small. -/
theorem lt_of_length_toDigits {significand places : Nat} (positive : 0 < places)
    (short : (Nat.toDigits 10 significand).length ≤ places)
    : significand < overflowBound * 10 ^ places := by
  calc
    significand < 10 ^ places := (Nat.length_toDigits_le_iff (by decide) positive).mp short
    _ ≤ overflowBound * 10 ^ places := Nat.le_mul_of_pos_left _ (by decide +kernel)

theorem isFinite_iff (number : Decimal)
    : number.isFinite = true ↔ number.magnitude < overflowBound := by
  obtain ⟨_, significand, exponent⟩ := number
  simp only [isFinite, magnitude]
  split
  · next zero =>
      have positive : 0 < overflowBound := by decide +kernel
      rw [zero, Nat.cast_zero, zero_mul]
      exact iff_of_true rfl (Nat.cast_pos.mpr positive)
  · next nonzero =>
      split
      · next whole =>
          obtain ⟨places, rfl⟩ := Int.eq_ofNat_of_zero_le whole
          have within : significand * 10 ^ places < overflowBound → places ≤ 400 := by
            intro small
            by_contra large
            exact absurd small (not_lt.mpr (overflowBound_le nonzero (not_le.mp large)))
          have cast : (significand : ℚ) * 10 ^ (places : ℤ) < overflowBound
              ↔ significand * 10 ^ places < overflowBound := by
            rw [zpow_natCast]
            exact_mod_cast Iff.rfl
          rw [cast]
          simpa using within
      · next fraction =>
          obtain ⟨places, rfl⟩ := Int.exists_eq_neg_ofNat (not_le.mp fraction).le
          have positive : 0 < places := by omega
          have cast : (significand : ℚ) * 10 ^ (-(places : ℤ)) < overflowBound
              ↔ significand < overflowBound * 10 ^ places := by
            rw [zpow_neg, zpow_natCast, ← div_eq_mul_inv, div_lt_iff₀ (by positivity)]
            exact_mod_cast Iff.rfl
          rw [cast]
          simpa using lt_of_length_toDigits positive

end Decimal

-----------------------------------------------------------------------------------------
-- Values
-----------------------------------------------------------------------------------------

namespace FieldType

/-- So many decimal digits of any script. -/
structure AreDigits (count : Nat) (text : List Char) : Prop where
  length : text.length = count
  decimal : ∀ digit ∈ text, Text.isDecimalDigit digit = true

/-- A year, a year and a month, or a year, a month and a day. -/
inductive IsDate : List Char → Prop where
  | year {year : List Char} (four : AreDigits 4 year) : IsDate year
  | month {year month : List Char} (four : AreDigits 4 year) (two : AreDigits 2 month)
      : IsDate (year ++ '-' :: month)
  | day {year month day : List Char} (four : AreDigits 4 year) (two : AreDigits 2 month)
      (last : AreDigits 2 day)
      : IsDate (year ++ '-' :: (month ++ '-' :: day))

theorem isDigits_iff {count : Nat} {text : List Char}
    : isDigits count text = true ↔ AreDigits count text := by
  simp only [isDigits, Bool.and_eq_true, decide_eq_true_eq, List.all_eq_true]
  constructor
  · rintro ⟨length, decimal⟩
    exact ⟨length, decimal⟩
  · intro digits
    exact ⟨digits.length, digits.decimal⟩

/-- Digits with a dash and what is good behind them, as it is checked and as it is written. -/
theorem dashed_iff {count : Nat} {text : List Char} {good : List Char → Prop}
    : (isDigits count (text.take count) = true ∧ (text.drop count).take 1 = ['-'])
        ∧ good (text.drop (count + 1))
      ↔ ∃ front rest, AreDigits count front ∧ good rest ∧ text = front ++ '-' :: rest := by
  constructor
  · rintro ⟨⟨digits, dash⟩, rest⟩
    refine ⟨text.take count, text.drop (count + 1), isDigits_iff.mp digits, rest, ?_⟩
    have behind : text.drop count = '-' :: text.drop (count + 1) := by
      rw [← List.take_append_drop 1 (text.drop count), dash, List.drop_drop]
      rfl
    rw [← behind, List.take_append_drop]
  · rintro ⟨front, rest, digits, isGood, rfl⟩
    have behind : (front ++ '-' :: rest).drop (count + 1) = rest := by
      rw [← List.drop_drop, List.drop_left' digits.length]
      rfl
    rw [List.take_left' digits.length, List.drop_left' digits.length, behind]
    exact ⟨⟨isDigits_iff.mpr digits, rfl⟩, isGood⟩

theorem isDate_iff {text : List Char} : isDate text = true ↔ IsDate text := by
  have checked : isDate text = true
      ↔ isDigits 4 text = true
        ∨ (isDigits 4 (text.take 4) = true ∧ (text.drop 4).take 1 = ['-'])
          ∧ (isDigits 2 (text.drop 5) = true
            ∨ (isDigits 2 ((text.drop 5).take 2) = true ∧ ((text.drop 5).drop 2).take 1 = ['-'])
              ∧ isDigits 2 ((text.drop 5).drop 3) = true) := by
    simp only [isDate, Bool.or_eq_true, Bool.and_eq_true, decide_eq_true_eq, List.drop_drop]
  have withDay := @dashed_iff 2 (text.drop 5) (isDigits 2 · = true)
  have withMonth := @dashed_iff 4 text fun rest =>
    isDigits 2 rest = true
      ∨ ∃ month day, AreDigits 2 month ∧ isDigits 2 day = true ∧ rest = month ++ '-' :: day
  rw [checked, withDay, withMonth]
  simp only [isDigits_iff]
  constructor
  · rintro (four | ⟨year, rest, four, (two | ⟨month, day, two, last, rfl⟩), rfl⟩)
    · exact .year four
    · exact .month four two
    · exact .day four two last
  · rintro (four | ⟨four, two⟩ | ⟨four, two, last⟩)
    · exact .inl four
    · exact .inr ⟨_, _, four, .inl two, rfl⟩
    · exact .inr ⟨_, _, four, .inr ⟨_, _, two, last, rfl⟩, rfl⟩

/-- The values of a type: they are not blank, numbers are finite, and dates are written as such. -/
structure Accepts (type : FieldType) (value : List Char) : Prop where
  visible : ∃ character ∈ value, Text.isWhiteSpace character = false
  ofNumeric
    : type = .numeric
      → ∃ number, Decimal.read? value = some number ∧ number.magnitude < Decimal.overflowBound
  ofDate : type = .date → IsDate value

theorem isFiniteNumeral_iff {value : List Char}
    : isFiniteNumeral value = true
      ↔ ∃ number,
        Decimal.read? value = some number ∧ number.magnitude < Decimal.overflowBound := by
  unfold isFiniteNumeral
  cases Decimal.read? value with
  | none => simp only [Bool.false_eq_true, reduceCtorEq, false_and, exists_false]
  | some number =>
      simp only [Option.some.injEq, exists_eq_left']
      exact number.isFinite_iff

/-- Nothing is wrong with exactly the values of the type. -/
theorem fault?_eq_none_iff {type : FieldType} {value : List Char}
    : type.fault? value = none ↔ type.Accepts value := by
  have blank : Text.isBlank value = false
      ↔ ∃ character ∈ value, Text.isWhiteSpace character = false := by
    rw [Text.isBlank, List.all_eq_false]
    simp only [Bool.not_eq_true]
  have checked : type.fault? value = none
      ↔ Text.isBlank value = false
        ∧ (type = .numeric → isFiniteNumeral value = true)
        ∧ (type = .date → isDate value = true) := by
    unfold fault?
    cases type <;> split <;> simp_all
  rw [checked, blank, isFiniteNumeral_iff, isDate_iff]
  constructor
  · rintro ⟨visible, ofNumeric, ofDate⟩
    exact ⟨visible, ofNumeric, ofDate⟩
  · intro accepted
    exact ⟨accepted.visible, accepted.ofNumeric, accepted.ofDate⟩

end FieldType

-----------------------------------------------------------------------------------------
-- Field matches
-----------------------------------------------------------------------------------------

/-- True of what the engine matches with several words. -/
def MatchValue.isOfWords : MatchValue → Bool
  | .phrase _ | .proximity .. => true
  | .term _ | .range .. => false

/-- What a field may be matched with: values that its type accepts, words together only if it has
words, and ranges that have a bound.
-/
structure EngineField.Admits (field : EngineField) (condition : FieldMatch) : Prop where
  name : condition.field = field.name
  checked : ∀ value ∈ condition.value.values, field.type.fault? value.toList = none
  words : condition.value.isOfWords = true → field.isTokenized = true
  bounded : condition.value ≠ .range .unbounded .unbounded

theorem EngineField.Admits.accepts {field : EngineField} {condition : FieldMatch}
    (admitted : field.Admits condition)
    : ∀ value ∈ condition.value.values, field.type.Accepts value.toList :=
  fun value member => FieldType.fault?_eq_none_iff.mp (admitted.checked value member)

/-- A field of words accepts words that are joined. -/
theorem EngineField.fault?_joinWords {field : EngineField} {words : List String}
    (tokenized : field.isTokenized = true) (some : words ≠ [])
    (each : ∀ word ∈ words, Text.isBlank word.toList = false)
    : field.type.fault? (Term.joinWords words).toList = none :=
  field.fault?_of_isTokenized tokenized (Term.not_isBlank_joinWords some each)

namespace ClauseTarget

variable {target : ClauseTarget} {value : String} {query : EngineQuery}

theorem fault?_of_check {result : String} (checked : target.check value = .ok result)
    : target.field.type.fault? value.toList = none := by
  unfold check at checked
  split at checked
  · cases checked
  · assumption

theorem admits_term (found : target.term value = .ok query)
    : target.field.Admits (target.termMatch value) := by
  obtain ⟨_, checked, -⟩ := map_eq_ok.mp found
  exact {
    name := rfl
    checked := by simpa [termMatch, MatchValue.values] using fault?_of_check checked
    words := by simp [termMatch, MatchValue.isOfWords]
    bounded := by simp [termMatch]
  }

/-- Words that are matched together are not checked, and the field accepts them nevertheless. -/
theorem admits_phrase (tokenized : target.field.isTokenized = true) (some : Term.words value ≠ [])
    : target.field.Admits (target.phraseMatch (Term.words value)) where
  name := rfl
  checked := by
    have accepted := target.field.fault?_joinWords tokenized some
      fun _ member => Term.not_isBlank_of_mem_words member
    simpa [phraseMatch, MatchValue.values] using accepted
  words _ := tokenized
  bounded := by simp [phraseMatch]

theorem admits_range {lower upper : Bound}
    (checked : ∀ value ∈ lower.values ++ upper.values,
      target.field.type.fault? value.toList = none)
    (bounded : lower.values ++ upper.values ≠ [])
    : target.field.Admits (target.rangeMatch lower upper) where
  name := rfl
  checked := checked
  words := by simp [rangeMatch, MatchValue.isOfWords]
  bounded := by
    intro unbounded
    cases unbounded
    exact bounded rfl

theorem admits_exact (found : target.exact value = .ok query)
    : target.field.Admits (target.wholeMatch value) := by
  unfold exact at found
  unfold wholeMatch
  split at found
  · next tokenized =>
      obtain ⟨_, some, -⟩ := map_eq_ok.mp found
      rw [if_pos tokenized]
      exact admits_phrase tokenized (someWords_eq_ok some).2
  · next whole =>
      rw [if_neg whole]
      exact admits_term found

/-- A term that is compared by `=` is a word of its own, or else what `exact` takes it for. -/
theorem admits_equality (found : target.equality value = .ok query)
    : target.field.Admits (target.equalMatch value) := by
  unfold equalMatch
  cases words : Term.words value with
  | nil =>
      rw [equality, words] at found
      cases found
  | cons word others =>
      cases others with
      | nil =>
          rw [equality, words] at found
          exact admits_term found
      | cons next rest =>
          rw [equality_of_several words] at found
          exact admits_exact found

theorem admits_eachWord {queries : List EngineQuery} (found : target.eachWord value = .ok queries)
    : ∀ word ∈ Term.words value, target.field.Admits (target.termMatch word) := by
  obtain ⟨words, some, each⟩ := bind_eq_ok.mp found
  obtain ⟨rfl, -⟩ := someWords_eq_ok some
  intro word member
  have mapped : target.term word ∈ queries.map .ok :=
    mapM_eq_ok_iff.mp each ▸ List.mem_map_of_mem member
  obtain ⟨query, -, found⟩ := List.mem_map.mp mapped
  exact admits_term found.symm

theorem admits_within (found : target.within value = .ok query)
    : ∀ condition ∈ target.fieldMatches (.named "within") value,
        target.field.Admits condition := by
  unfold within at found
  split at found
  · next low high two =>
      obtain ⟨lower, fromLow, found⟩ := bind_eq_ok.mp found
      obtain ⟨upper, fromHigh, -⟩ := bind_eq_ok.mp found
      simp only [fieldMatches, two, List.forall_mem_singleton]
      refine admits_range ?_ (by simp [Bound.values])
      simpa [Bound.values] using ⟨fault?_of_check fromLow, fault?_of_check fromHigh⟩
  · cases found

/-- The field matches of an accepted comparison are admitted, by the symbol that compares. -/
theorem admits_compare {symbol : Comparison} (found : target.compare symbol value = .ok query)
    : ∀ condition ∈ target.fieldMatches (.comparison symbol) value,
        target.field.Admits condition := by
  cases symbol with
  | equal =>
      simpa only [fieldMatches, List.forall_mem_singleton] using admits_equality found
  | identical =>
      simpa only [fieldMatches, List.forall_mem_singleton] using admits_exact found
  | different =>
      obtain ⟨positive, equal, -⟩ := map_eq_ok.mp found
      simpa only [fieldMatches, List.forall_mem_singleton] using admits_equality equal
  | less | atMost | greater | atLeast =>
      simp only [compare] at found
      obtain ⟨bound, checked, -⟩ := map_eq_ok.mp found
      simp only [fieldMatches, List.forall_mem_singleton]
      refine admits_range ?_ (by simp [Bound.values])
      simpa [Bound.values] using fault?_of_check checked

/-- The field matches of an accepted named relation are admitted, by the names that there are. -/
theorem admits_relate {relation : String} (found : target.relate relation value = .ok query)
    : ∀ condition ∈ target.fieldMatches (.named relation) value,
        target.field.Admits condition := by
  unfold relate at found
  split at found
  · simpa only [fieldMatches, List.forall_mem_singleton] using admits_exact found
  · simpa only [fieldMatches, List.forall_mem_singleton] using admits_exact found
  · obtain ⟨queries, each, -⟩ := map_eq_ok.mp found
    simpa only [fieldMatches, List.forall_mem_map] using admits_eachWord each
  · obtain ⟨queries, each, -⟩ := map_eq_ok.mp found
    simpa only [fieldMatches, List.forall_mem_map] using admits_eachWord each
  · exact admits_within found
  · cases found

/-- All field matches of what is accepted of a relation and a term are admitted. -/
theorem admits_fieldMatches {relation : Relation} (found : target.query relation value = .ok query)
    : ∀ condition ∈ target.fieldMatches relation value, target.field.Admits condition := by
  cases relation with
  | comparison symbol => exact admits_compare found
  | named name => exact admits_relate found

theorem admits_leaves {relation : Relation} (found : target.query relation value = .ok query)
    : ∀ condition ∈ query.leaves, target.field.Admits condition := by
  rw [(query_eq_ok found).1, leaves_joined]
  exact admits_fieldMatches found

end ClauseTarget

-----------------------------------------------------------------------------------------
-- Clauses and trees
-----------------------------------------------------------------------------------------

namespace Catalog

variable {catalog : Catalog} {kind : QueryKind} {query : EngineQuery}

/-- The field that an accepted clause is matched in is that of its index. -/
theorem resolve_of_target {clause : SearchClause} {target : ClauseTarget}
    (found : catalog.target kind clause = .ok target)
    : catalog.resolve clause.index = .ok target.field := by
  obtain ⟨field, known, found⟩ := bind_eq_ok.mp found
  obtain ⟨_, -, found⟩ := bind_eq_ok.mp found
  obtain ⟨_, -, found⟩ := bind_eq_ok.mp found
  rw [known, ← pure_eq_ok.mp found]

/-- Every field match of the query is admitted by the field of one of the clauses. -/
def AdmittedBy (catalog : Catalog) (clauses : List SearchClause) (query : EngineQuery) : Prop :=
  ∀ condition ∈ query.leaves, ∃ clause ∈ clauses, ∃ field,
    catalog.resolve clause.index = .ok field ∧ field.Admits condition

theorem admittedBy_clauseQuery {clause : SearchClause}
    (found : catalog.clauseQuery kind clause = .ok query)
    : catalog.AdmittedBy [clause] query := by
  obtain ⟨target, known, found⟩ := bind_eq_ok.mp found
  intro condition member
  exact ⟨clause, List.mem_singleton_self clause, target.field, resolve_of_target known,
    ClauseTarget.admits_leaves found condition member⟩

/-- What is near each other is matched in the field of the left clause. -/
theorem IsNear.admittedBy {modifiers : List Modifier} {left right : SearchClause}
    {field rightField : EngineField}
    (near : catalog.IsNear kind modifiers left right field rightField query)
    : catalog.AdmittedBy [left, right] query := by
  have each : ∀ word ∈ Term.words left.term ++ Term.words right.term,
      Text.isBlank word.toList = false := by
    intro word member
    exact (List.mem_append.mp member).elim Term.not_isBlank_of_mem_words
      Term.not_isBlank_of_mem_words
  rw [near.query_eq]
  intro condition member
  obtain rfl := List.mem_singleton.mp (EngineQuery.leaves_leaf _ ▸ member)
  refine ⟨left, List.mem_cons_self .., field, near.left_field, ?_⟩
  exact {
    name := rfl
    checked := by
      simpa [MatchValue.values] using field.fault?_joinWords near.tokenized near.words_ne_nil each
    words := fun _ => near.tokenized
    bounded := by simp
  }

theorem AdmittedBy.mono {some all : List SearchClause} (among : some ⊆ all)
    (admitted : catalog.AdmittedBy some query)
    : catalog.AdmittedBy all query := by
  intro condition member
  obtain ⟨clause, isSome, found⟩ := admitted condition member
  exact ⟨clause, among isSome, found⟩

/-- Joined queries have the field matches of both. -/
theorem AdmittedBy.joinedBy {left right : List SearchClause} {leftQuery rightQuery : EngineQuery}
    (operator : BooleanOperator) (hl : catalog.AdmittedBy left leftQuery)
    (hr : catalog.AdmittedBy right rightQuery)
    : catalog.AdmittedBy (left ++ right) (Catalog.joinedBy operator leftQuery rightQuery) := by
  have ofLeft := hl.mono (List.subset_append_left left right)
  have ofRight := hr.mono (List.subset_append_right left right)
  rw [AdmittedBy, leaves_joinedBy]
  exact List.forall_mem_append.mpr ⟨ofLeft, ofRight⟩

theorem admittedBy_proximityQuery {modifiers : List Modifier} {left right : QueryTree}
    (found : catalog.proximityQuery kind modifiers left right = .ok query)
    : catalog.AdmittedBy (left.clauses ++ right.clauses) query := by
  cases left with
  | boolean => cases found
  | search left =>
      cases right with
      | boolean => cases found
      | search right =>
          obtain ⟨_, _, near⟩ := nearQuery_eq_ok found
          exact near.admittedBy

/-- Whatever a tree makes the engine look for was checked against the field of one of its clauses,
by induction on the tree.
-/
theorem admittedBy_engineQuery {tree : QueryTree}
    (found : catalog.engineQuery kind tree = .ok query)
    : catalog.AdmittedBy tree.clauses query := by
  induction tree generalizing query with
  | search clause =>
      rw [engineQuery] at found
      exact admittedBy_clauseQuery found
  | boolean operator modifiers left right leftAdmitted rightAdmitted =>
      by_cases near : operator = .prox
      · subst operator
        rw [engineQuery] at found
        exact admittedBy_proximityQuery found
      · obtain ⟨leftQuery, rightQuery, fromLeft, fromRight, rfl⟩ := boolean_eq_ok near found
        exact (leftAdmitted fromLeft).joinedBy operator (rightAdmitted fromRight)

/-- An accepted `within` is one range, from the first of two words to the second. -/
theorem within_of_clauseQuery {clause : SearchClause} {field : EngineField}
    (known : catalog.resolve clause.index = .ok field)
    (found : catalog.clauseQuery kind clause = .ok query)
    (within : clause.relation = .named "within")
    : ∃ low high,
        Term.words clause.term = [low, high]
        ∧ query
          = .range field.name (.inclusive (Text.trim low)) (.inclusive (Text.trim high)) := by
  obtain ⟨target, isTarget, found⟩ := bind_eq_ok.mp found
  obtain rfl := Except.ok.inj (known.symm.trans (resolve_of_target isTarget))
  rw [within] at found
  exact ClauseTarget.within_eq_ok found

/-- The engine query of a clause has only checked values, whatever the relation, the modifiers and
the term are: all field matches are in the field of the clause's index, and all values and bounds
pass the check of its type. Words are matched together only on fields of words, and every range has
a bound. That of `within` has both, which are the two words of the term in their order.
-/
theorem clauseQuery_admits_only_checked {clause : SearchClause}
    (found : catalog.clauseQuery kind clause = .ok query)
    : ∃ field,
        catalog.resolve clause.index = .ok field
        ∧ (∀ condition ∈ query.leaves,
          field.Admits condition
          ∧ ∀ value ∈ condition.value.values, field.type.Accepts value.toList)
        ∧ (clause.relation = .named "within"
          → ∃ low high,
            Term.words clause.term = [low, high]
            ∧ query
              = .range field.name (.inclusive (Text.trim low)) (.inclusive (Text.trim high))) := by
  obtain ⟨target, isTarget, related⟩ := bind_eq_ok.mp found
  have known := resolve_of_target isTarget
  refine ⟨target.field, known, ?_, within_of_clauseQuery known found⟩
  intro condition member
  have admitted := ClauseTarget.admits_leaves related condition member
  exact ⟨admitted, admitted.accepts⟩

/-- The dates from one to another. -/
def datesWithin (term : String) : SearchClause :=
  { SearchClause.bare term 0 with index := some "dc.date", relation := .named "within" }

/-- A month and a year in digits of another script, which stay in their order although they are out
of order.
-/
theorem clauseQuery_admits_only_checked_datesWithin
    : ∃ query,
        standard.clauseQuery .search (datesWithin " 2024-06  ２０２１ ") = .ok query
        ∧ query = .range "term.date" (.inclusive "2024-06") (.inclusive "２０２１")
        ∧ FieldType.Accepts .date "2024-06".toList
        ∧ FieldType.Accepts .date "２０２１".toList := by
  have found : standard.clauseQuery .search (datesWithin " 2024-06  ２０２１ ")
      = .ok (.range "term.date" (.inclusive "2024-06") (.inclusive "２０２１")) := by
    rfl
  have isDates : standard.resolve (datesWithin " 2024-06  ２０２１ ").index
      = .ok (.literal "term.date" .date) := by
    rfl
  obtain ⟨field, known, admitted, -⟩ := clauseQuery_admits_only_checked found
  obtain rfl := Except.ok.inj (isDates.symm.trans known)
  have accepted := (admitted _ (List.mem_singleton_self _)).2
  simp only [MatchValue.values, Bound.values, List.forall_mem_append,
    List.forall_mem_singleton] at accepted
  exact ⟨_, found, rfl, accepted⟩

end Catalog

end CqlGateway
