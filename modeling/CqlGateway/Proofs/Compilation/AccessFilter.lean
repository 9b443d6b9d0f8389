import CqlGateway.Proofs.Compilation.Preservation
import CqlGateway.Proofs.EngineQuery.Nesting
import CqlGateway.Proofs.EngineQuery.TextMeaning
import CqlGateway.Proofs.Ordered.NameMap

/-! The filter of a profile is the last operand of every query that is compiled with it. Nothing that
a user writes takes the filter out of that conjunction, in the query or in its text.
-/

namespace CqlGateway

open Outcome
open EngineText

-----------------------------------------------------------------------------------------
-- Conjunctions with an operand behind them
-----------------------------------------------------------------------------------------

namespace EngineQuery

/-- Queries in normal form leave no conjunction and no disjunction without operands. -/
theorem IsNormal.hasOperands {query : EngineQuery} (normal : query.IsNormal)
    : query.HasOperands := by
  induction normal with
  | all => exact .all
  | leaf condition => exact .leaf condition
  | not _ _ ih => exact .not ih
  | and several _ _ ih => exact .and (List.ne_nil_of_length_pos (by omega)) ih
  | or several _ _ ih => exact .or (List.ne_nil_of_length_pos (by omega)) ih

/-- An operand that is no conjunction stays the last one. -/
theorem conjunction_pair {query last : EngineQuery} (some : query.conjuncts ≠ [])
    (single : last.isAnd = false)
    : conjunction [query, last] = .and (query.conjuncts ++ [last]) := by
  have spliced : [query, last].flatMap conjuncts = query.conjuncts ++ [last] := by
    simp [conjuncts_eq_singleton single]
  unfold conjunction
  rw [spliced]
  cases found : query.conjuncts with
  | nil => exact absurd found some
  | cons first rest => cases rest <;> rfl

/-- A disjunction is a conjunction only if its only operand is one. -/
theorem isAnd_disjunction {operands : List EngineQuery}
    (each : ∀ operand ∈ operands.flatMap disjuncts, operand.isAnd = false)
    : (disjunction operands).isAnd = false := by
  refine disjunction_cases
    (motive := fun brought query =>
      (∀ operand ∈ brought, operand.isAnd = false) → query.isAnd = false)
    ?_ ?_ ?_ operands each
  · exact fun _ => rfl
  · exact fun operand brought => brought operand (by simp)
  · exact fun _ _ _ => rfl

/-- The text of a conjunction up to its last operand. -/
def leadText (others : List EngineQuery) (last : EngineQuery) : String :=
  (if (others ++ [last]).all isNot then everything ++ " AND " else "")
    ++ String.intercalate " AND " (textsAt .inAnd others)

theorem conjunctionText_append {others : List EngineQuery} (nonempty : others ≠ [])
    (last : EngineQuery)
    : conjunctionText (others ++ [last]) = leadText others last ++ " AND " ++ textAt .inAnd last := by
  have joined : String.intercalate " AND " (textsAt .inAnd (others ++ [last]))
      = String.intercalate " AND " (textsAt .inAnd others) ++ " AND " ++ textAt .inAnd last := by
    rw [textsAt_eq, textsAt_eq, List.map_append,
      String.intercalate_append_of_ne_nil (by simpa using nonempty) (by simp)]
    simp
  simp only [conjunctionText, leadText, joined, String.append_assoc]

/-- Some operands are read into a single alternative. -/
theorem ReadsAsAll.single {text : String} {negated : Bool} {value : (String → Bool) → Bool}
    (every : ReadsAsAll text negated value)
    : ∃ operands, Reads text .empty ⟨[], operands, .connective⟩ := by
  obtain ⟨operands, _, _, _, _, reads⟩ := every
  exact ⟨operands, reads [] []⟩

theorem readsAsAll_leadText {others : List EngineQuery} (nonempty : others ≠ [])
    (each : ∀ operand ∈ others, ReadsEverywhere operand) (last : EngineQuery)
    : ∃ operands, Reads (leadText others last) .empty ⟨[], operands, .connective⟩ := by
  have joined := readsAsAll_join nonempty fun operand member => (each operand member).inAnd
  unfold leadText
  split
  · exact ((readsAsOne_everything.all false).and joined).single
  · simpa using joined.single

/-- The text of a conjunction has its last operand behind a connective that stands outside
parentheses, and no other kind of connective does.
-/
theorem text_and_append {others : List EngineQuery} {last : EngineQuery} (nonempty : others ≠ [])
    (each : ∀ operand ∈ others ++ [last], ReadsEverywhere operand)
    : text (.and (others ++ [last])) = leadText others last ++ " AND " ++ textAt .inAnd last
      ∧ Position.end? (leadText others last).toList = some .outside
      ∧ Position.end? (text (.and (others ++ [last]))).toList = some .outside
      ∧ HasNoOuterAlternative (text (.and (others ++ [last]))) := by
  have whole : text (.and (others ++ [last])) = conjunctionText (others ++ [last]) := by
    simp only [text, textAt, conjunctionText]
  obtain ⟨_, lead⟩ := readsAsAll_leadText nonempty
    (fun operand member => each operand (List.mem_append_left [last] member)) last
  obtain ⟨_, all⟩ := (readsAsAll_conjunctionText (by simp) fun operand member =>
    (each operand member).inAnd).single
  rw [whole]
  exact ⟨conjunctionText_append nonempty last, lead.end?, all.end?, all.hasNoOuterAlternative⟩

end EngineQuery

-----------------------------------------------------------------------------------------
-- Names of fields
-----------------------------------------------------------------------------------------

theorem ClauseTarget.field_of_mem_fieldMatches {target : ClauseTarget} {relation : Relation}
    {term : String} {condition : FieldMatch} (member : condition ∈ target.fieldMatches relation term)
    : condition.field = target.field.name := by
  have whole : (target.wholeMatch term).field = target.field.name := by
    unfold wholeMatch
    split <;> rfl
  have equal : (target.equalMatch term).field = target.field.name := by
    unfold equalMatch
    split
    · rfl
    · exact whole
  have only {other : FieldMatch} (same : other.field = target.field.name)
      (found : condition ∈ [other])
      : condition.field = target.field.name :=
    List.mem_singleton.mp found ▸ same
  have ofWords (found : condition ∈ (Term.words term).map target.termMatch)
      : condition.field = target.field.name := by
    obtain ⟨word, _, rfl⟩ := List.mem_map.mp found
    rfl
  unfold fieldMatches at member
  split at member
  · exact only equal member
  · exact only equal member
  · exact only whole member
  · exact only rfl member
  · exact only rfl member
  · exact only rfl member
  · exact only rfl member
  · exact only whole member
  · exact only whole member
  · exact ofWords member
  · exact ofWords member
  · split at member
    · exact only rfl member
    · cases member
  · cases member

namespace Catalog

variable {catalog : Catalog}

/-- The names of the engine's fields are written as they are. -/
def HasPlainNames (catalog : Catalog) : Prop :=
  ∀ entry ∈ catalog.fields, IsPlainName entry.2.name

theorem HasPlainNames.field? (names : catalog.HasPlainNames) {index : String} {field : EngineField}
    (found : catalog.field? index = some field)
    : IsPlainName field.name := by
  exact names _ (NameMap.mem_of_lookup? found)

theorem HasPlainNames.collectionField (names : catalog.HasPlainNames)
    : IsPlainName catalog.collectionField.name := by
  exact names _ (NameMap.mem_of_lookup? (Option.some_get catalog.has_collection).symm)

theorem HasPlainNames.unitMatches (names : catalog.HasPlainNames) {unit : QueryUnit}
    {condition : FieldMatch} (member : condition ∈ catalog.unitMatches unit)
    : IsPlainName condition.field := by
  cases unit with
  | clause clause =>
      simp only [Catalog.unitMatches] at member
      split at member
      · next target found =>
          obtain ⟨field, known, rfl⟩ := Option.map_eq_some_iff.mp found
          rw [ClauseTarget.field_of_mem_fieldMatches member]
          exact names.field? known
      · cases member
  | near modifiers left right =>
      simp only [Catalog.unitMatches, Option.mem_toList] at member
      obtain ⟨left, _, member⟩ := Option.bind_eq_some_iff.mp member
      obtain ⟨right, _, member⟩ := Option.bind_eq_some_iff.mp member
      obtain ⟨field, known, member⟩ := Option.bind_eq_some_iff.mp member
      rw [← Option.some.inj member]
      exact names.field? known

/-- A query for the engine has the names of the catalog's fields. -/
theorem HasPlainNames.engineQuery (names : catalog.HasPlainNames) {kind : QueryKind}
    {tree : QueryTree} {query : EngineQuery} (found : catalog.engineQuery kind tree = .ok query)
    : query.HasPlainNames := by
  intro condition member
  rw [(engineQuery_eq_ok found).leaves] at member
  obtain ⟨unit, _, inUnit⟩ := List.mem_flatMap.mp member
  exact names.unitMatches inUnit

end Catalog

-----------------------------------------------------------------------------------------
-- Filters
-----------------------------------------------------------------------------------------

namespace Profile

/-- The profiles that the catalog is used with. -/
def IsMadeFor (profile : Profile) (catalog : Catalog) : Prop :=
  profile = .unrestricted ∨ ∃ declaration, profile = .ofDeclaration catalog declaration

/-- What can be joined to any query as an operand of its own. -/
structure IsFilter (catalog : Catalog) (query : EngineQuery) : Prop where
  normal : query.IsNormal
  single : query.isAnd = false
  plain : catalog.HasPlainNames → query.HasPlainNames

theorem isFilter_all (catalog : Catalog) : IsFilter catalog .all where
  normal := .all
  single := rfl
  plain _ := by simp [EngineQuery.HasPlainNames]

/-- The filter of some collections is no conjunction: it is nothing, one match or a disjunction of
them, by the number of collections.
-/
theorem isFilter_collectionFilter (catalog : Catalog) (collections : NameSet)
    : IsFilter catalog (collectionFilter catalog.collectionField collections) where
  normal := by
    refine .disjunction ?_
    intro operand member
    obtain ⟨collection, _, rfl⟩ := List.mem_map.mp member
    exact .leaf _
  single := by
    refine EngineQuery.isAnd_disjunction ?_
    intro operand member
    obtain ⟨query, inQueries, brought⟩ := List.mem_flatMap.mp member
    obtain ⟨collection, _, rfl⟩ := List.mem_map.mp inQueries
    exact List.mem_singleton.mp brought ▸ rfl
  plain := by
    intro names condition member
    rw [collectionFilter, EngineQuery.leaves_disjunction] at member
    obtain ⟨operand, inOperands, inLeaves⟩ := List.mem_flatMap.mp member
    obtain ⟨collection, _, rfl⟩ := List.mem_map.mp inOperands
    obtain rfl := List.mem_singleton.mp inLeaves
    exact names.collectionField

theorem isFilter_filter {profile : Profile} {catalog : Catalog} (made : profile.IsMadeFor catalog)
    (kind : QueryKind)
    : IsFilter catalog (profile.filter kind) := by
  rcases made with rfl | ⟨declaration, rfl⟩
  · cases kind <;> exact isFilter_all catalog
  · cases kind <;> exact isFilter_collectionFilter catalog _

end Profile

-----------------------------------------------------------------------------------------
-- Compiled queries
-----------------------------------------------------------------------------------------

namespace Catalog

variable {catalog : Catalog} {profile : Profile} {kind : QueryKind} {query : CqlQuery}
  {compiled : CompiledQuery}

theorem compileAs_eq_ok (found : catalog.compileAs profile kind query = .ok compiled)
    : ∃ user,
        catalog.engineQuery kind query.root = .ok user
        ∧ compiled.query = .conjunction [user, profile.filter kind] := by
  simp only [compileAs] at found
  obtain ⟨user, accepted, found⟩ := bind_eq_ok.mp found
  obtain ⟨sort, _, found⟩ := bind_eq_ok.mp found
  obtain rfl := pure_eq_ok.mp found
  exact ⟨user, accepted, rfl⟩

/-- Only a disjunction needs parentheses as an operand of a conjunction. -/
theorem textAt_inAnd_of_isOr {query : EngineQuery} (alternatives : query.isOr = true)
    : query.textAt .inAnd = EngineQuery.parenthesized query.text := by
  cases query with
  | or operands => simp only [EngineQuery.text, EngineQuery.textAt]
  | all | and | not | leaf => cases alternatives

/-- The filter of the profile is joined to what the user asks for, and nothing gets around it in the
query or in its text.
-/
structure KeepsFilter (catalog : Catalog) (profile : Profile) (kind : QueryKind) (query : CqlQuery)
    (compiled : CompiledQuery)
    : Prop where
  /-- The filter is the last operand, and the others are what the user asks for. -/
  operands
    : ∃ user others,
        catalog.engineQuery kind query.root = .ok user
        ∧ others ≠ []
        ∧ compiled.query = .and (others ++ [profile.filter kind])
        ∧ ∀ truth, others.all (·.eval truth) = user.eval truth
  /-- The filter is behind a connective that stands outside, with all that was opened closed. -/
  parts
    : ∃ lead,
        compiled.text = lead ++ " AND " ++ (profile.filter kind).textAt .inAnd
        ∧ Position.end? lead.toList = some .outside
        ∧ Position.end? compiled.text.toList = some .outside
  noAlternative : HasNoOuterAlternative compiled.text
  /-- A filter of several alternatives has parentheses of its own. -/
  grouped
    : (profile.filter kind).isOr = true
      → (profile.filter kind).textAt .inAnd
        = EngineQuery.parenthesized (profile.filter kind).text

/-- Every compiled query keeps the filter of its profile. Witness: what the user asks for is in
normal form, so it brings some operands into the conjunction; the filter is none, and stays whole.
-/
theorem compileAs_keeps_filter (names : catalog.HasPlainNames) (made : profile.IsMadeFor catalog)
    (found : catalog.compileAs profile kind query = .ok compiled)
    : KeepsFilter catalog profile kind query compiled := by
  obtain ⟨user, accepted, joined⟩ := compileAs_eq_ok found
  have filter := Profile.isFilter_filter made kind
  have userNormal := (engineQuery_eq_ok accepted).normal
  have nonempty := userNormal.conjuncts_ne_nil
  have whole : compiled.query = .and (user.conjuncts ++ [profile.filter kind]) :=
    joined.trans (EngineQuery.conjunction_pair nonempty filter.single)
  have each : ∀ operand ∈ user.conjuncts ++ [profile.filter kind],
      EngineQuery.ReadsEverywhere operand := by
    have userNames := names.engineQuery accepted
    intro operand member
    rcases List.mem_append.mp member with inUser | last
    · refine EngineQuery.readsEverywhere (userNormal.of_mem_conjuncts inUser).1.hasOperands ?_
      intro condition inOperand
      refine userNames condition ?_
      rw [← EngineQuery.flatMap_conjuncts_leaves user]
      exact List.mem_flatMap.mpr ⟨operand, inUser, inOperand⟩
    · obtain rfl := List.mem_singleton.mp last
      exact EngineQuery.readsEverywhere filter.normal.hasOperands (filter.plain names)
  obtain ⟨parts, leadEnds, textEnds, noAlternative⟩ := EngineQuery.text_and_append nonempty each
  rw [← whole] at parts textEnds noAlternative
  exact {
    operands :=
      ⟨user, user.conjuncts, accepted, nonempty, whole, (EngineQuery.all_conjuncts · user)⟩
    parts := ⟨_, parts, leadEnds, textEnds⟩
    noAlternative := noAlternative
    grouped := textAt_inAnd_of_isOr
  }

/-- A profile of two collections that may be searched. -/
def branches : Profile :=
  .ofDeclaration titles {
    name := "branches"
    sources := [.searched "north" [], .searched "south" []]
  }

/-- A query whose first term looks like the end of a level and another alternative. -/
def breakingOut : CqlQuery :=
  {
    root := .boolean .or [] (titleClause (.comparison .identical) "\" OR *:*) OR (")
      (titleClause (.comparison .different) "x)")
    sort := none
  }

theorem compileAs_keeps_filter_breakingOut
    : ∃ compiled,
        titles.compileAs branches .search breakingOut = .ok compiled
        ∧ KeepsFilter titles branches .search breakingOut compiled := by
  have names : titles.HasPlainNames := by
    intro entry member
    obtain rfl := List.mem_singleton.mp member
    decide
  have made : branches.IsMadeFor titles := .inr ⟨_, rfl⟩
  have found : titles.compileAs branches .search breakingOut
      = .ok {
        kind := .search
        query := .and [
          .or [
            .phrase "term.title" .masked "\" OR *:*) OR (",
            .not (.term "term.title" .masked "x)")
          ],
          .or [.term "term.title" .masked "north", .term "term.title" .masked "south"]
        ]
        sort := []
      } := by
    rfl
  exact ⟨_, found, compileAs_keeps_filter names made found⟩

end Catalog

end CqlGateway
