import Mathlib.Data.List.Induction
import CqlGateway.Proofs.Compilation.Subtrees

/-! What `prox` accepts, and what it becomes: one match of the words of both clauses, as far apart
as the last distance among its modifiers says. A distance is looked at wherever it stands, so that
one that makes no sense is refused also in front of others.
-/

namespace CqlGateway

open Outcome

-----------------------------------------------------------------------------------------
-- Distances
-----------------------------------------------------------------------------------------

namespace Modifier

variable {modifier : Modifier} {modifiers others : List Modifier} {held result : Nat}

/-- True of a modifier that is a distance, in any case. -/
def IsDistance (modifier : Modifier) : Prop :=
  Text.lowercase modifier.name = "distance" ∨ Text.lowercase modifier.name = "prox.distance"

/-- The distance allows words to be so many places apart: as many as a number, or fewer. -/
def Allows (modifier : Modifier) (slop : Nat) : Prop :=
  ∃ symbol value distance,
    modifier.comparison = some (symbol, value)
    ∧ readUnsigned? distanceLimit value.toList = some distance
    ∧ ((symbol = .equal ∨ symbol = .atMost) ∧ slop = distance
      ∨ symbol = .less ∧ slop + 1 = distance)

/-- Nothing is wrong with a modifier of `prox`: its name is well formed, and if it is a distance it
allows some places.
-/
structure IsOfNear (modifier : Modifier) : Prop where
  named : modifier.IsNamed
  allows : modifier.IsDistance → ∃ slop, modifier.Allows slop

/-- The last distance among modifiers allows so many places, or there is none and the number is the
standard one.
-/
def AllowLast (modifiers : List Modifier) (slop : Nat) : Prop :=
  (∃ front last rest,
      modifiers = front ++ last :: rest
      ∧ last.IsDistance
      ∧ (∀ later ∈ rest, ¬ later.IsDistance)
      ∧ last.Allows slop)
    ∨ (∀ modifier ∈ modifiers, ¬ modifier.IsDistance) ∧ slop = 1

theorem allows_iff {symbol : Comparison} {value : String} {distance : Nat}
    (compared : modifier.comparison = some (symbol, value))
    (readable : readUnsigned? distanceLimit value.toList = some distance)
    : modifier.Allows result
      ↔ (symbol = .equal ∨ symbol = .atMost) ∧ result = distance
        ∨ symbol = .less ∧ result + 1 = distance := by
  simp [Allows, compared, readable]

/-- A distance is accepted for the places that it allows, by its comparison. -/
theorem slopOfDistance_eq_ok_iff
    : slopOfDistance modifier = .ok result ↔ modifier.Allows result := by
  unfold slopOfDistance
  split
  · next none => simp [Allows, none]
  · next symbol value compared =>
      split
      · next unreadable => simp [Allows, compared, unreadable]
      · next distance readable =>
          rw [allows_iff compared readable]
          split
          · simp [eq_comm]
          · simp [eq_comm]
          · split
            · next some =>
                simp only [Except.ok.injEq, reduceCtorEq, or_self, false_and, true_and, false_or]
                omega
            · next zero =>
                simp only [reduceCtorEq, or_self, false_and, true_and, false_or, false_iff]
                omega
          · next notEqual notAtMost notLess =>
              simp only [reduceCtorEq, false_iff, not_or, not_and]
              tauto

-----------------------------------------------------------------------------------------
-- Rows of modifiers
-----------------------------------------------------------------------------------------

theorem checkedName_of_isNamed (named : modifier.IsNamed)
    : modifier.checkedName = .ok (Text.lowercase modifier.name) :=
  if_pos named

theorem slopAfter_of_isDistance (named : modifier.IsNamed) (distance : modifier.IsDistance)
    : slopAfter held modifier = slopOfDistance modifier := by
  rw [slopAfter, checkedName_of_isNamed named]
  rcases distance with same | same
  all_goals
    rw [same]
    rfl

theorem slopAfter_of_not_isDistance (named : modifier.IsNamed) (other : ¬ modifier.IsDistance)
    : slopAfter held modifier = .ok held := by
  obtain ⟨notDistance, notProxDistance⟩ := not_or.mp other
  simp only [slopAfter, checkedName_of_isNamed named, bind, Except.bind]
  rfl

/-- One modifier more leaves the slop as it is unless it is a distance. -/
theorem slopAfter_eq_ok_iff
    : slopAfter held modifier = .ok result
      ↔ modifier.IsNamed
        ∧ (modifier.IsDistance → modifier.Allows result)
        ∧ (¬ modifier.IsDistance → held = result) := by
  by_cases named : modifier.IsNamed
  · by_cases distance : modifier.IsDistance
    · rw [slopAfter_of_isDistance named distance, slopOfDistance_eq_ok_iff]
      simp [named, distance]
    · rw [slopAfter_of_not_isDistance named distance]
      simp [named, distance]
  · have misnamed : ∀ name, modifier.checkedName ≠ .ok name :=
      fun name found => named (exists_checkedName_eq_ok.mp ⟨name, found⟩)
    simp [slopAfter, bind_eq_ok, named, misnamed]

theorem exists_slopAfter_eq_ok
    : (∃ result, slopAfter held modifier = .ok result) ↔ modifier.IsOfNear := by
  simp only [slopAfter_eq_ok_iff]
  constructor
  · rintro ⟨result, named, allows, -⟩
    exact ⟨named, fun distance => ⟨result, allows distance⟩⟩
  · rintro ⟨named, allows⟩
    by_cases distance : modifier.IsDistance
    · obtain ⟨slop, allowed⟩ := allows distance
      exact ⟨slop, named, fun _ => allowed, absurd distance⟩
    · exact ⟨held, named, fun isDistance => absurd isDistance distance, fun _ => rfl⟩

/-- There is a slop if nothing is wrong with any of the modifiers. -/
theorem exists_slop_eq_ok
    : (∃ result, slop modifiers = .ok result) ↔ ∀ modifier ∈ modifiers, modifier.IsOfNear := by
  unfold slop
  refine exists_foldlM_eq_ok fun held modifier => ?_
  exact exists_slopAfter_eq_ok

theorem AllowLast.of_last (front : List Modifier) (distance : modifier.IsDistance)
    (allowed : modifier.Allows result)
    : AllowLast (front ++ [modifier]) result :=
  .inl ⟨front, modifier, [], rfl, distance, List.forall_mem_nil _, allowed⟩

/-- Behind the last distance, what is no distance is of no account. -/
theorem AllowLast.append (last : AllowLast others result) (other : ¬ modifier.IsDistance)
    : AllowLast (others ++ [modifier]) result := by
  rcases last with ⟨front, last, rest, rfl, distance, noLater, allowed⟩ | ⟨none, standard⟩
  · refine .inl ⟨front, last, rest ++ [modifier], by simp, distance, ?_, allowed⟩
    exact List.forall_mem_append.mpr ⟨noLater, List.forall_mem_singleton.mpr other⟩
  · exact .inr ⟨List.forall_mem_append.mpr ⟨none, List.forall_mem_singleton.mpr other⟩, standard⟩

/-- The last distance decides, by induction from the last modifier. -/
theorem allowLast_of_slop_eq_ok (found : slop modifiers = .ok result)
    : AllowLast modifiers result := by
  induction modifiers using List.reverseRecOn generalizing result with
  | nil => exact .inr ⟨List.forall_mem_nil _, (pure_eq_ok.mp found).symm⟩
  | append_singleton others modifier ih =>
      rw [slop, foldlM_append_singleton] at found
      obtain ⟨held, before, after⟩ := bind_eq_ok.mp found
      obtain ⟨named, allows, keeps⟩ := slopAfter_eq_ok_iff.mp after
      by_cases distance : modifier.IsDistance
      · exact .of_last others distance (allows distance)
      · rw [← keeps distance]
        exact (ih before).append distance

end Modifier

-----------------------------------------------------------------------------------------
-- Clauses near each other
-----------------------------------------------------------------------------------------

/-- The relations that match words in their order. -/
def Relation.ofWords : List Relation :=
  [.comparison .equal, .comparison .identical, .named "adj", .named "exact"]

theorem Relation.matchesWords_iff {relation : Relation}
    : relation.matchesWords = true ↔ relation ∈ ofWords := by
  cases relation <;> simp [matchesWords, ofWords]

namespace Catalog

variable {catalog : Catalog} {kind : QueryKind} {modifiers : List Modifier}
  {first second : SearchClause} {field secondField : EngineField} {left right : QueryTree}

/-- All that `prox` asks of two clauses: queries of the kind may use their indexes, which are of one
field, the first of them as text; they match words in their order; and there is a word.
-/
structure CanBeNear (catalog : Catalog) (kind : QueryKind) (first second : SearchClause)
    (field secondField : EngineField) : Prop where
  first_field : catalog.resolve first.index = .ok field
  second_field : catalog.resolve second.index = .ok secondField
  first_usage : field.usage.allows kind = true
  second_usage : secondField.usage.allows kind = true
  same_name : field.name = secondField.name
  text : field.type = .text
  first_relation : first.relation ∈ Relation.ofWords
  second_relation : second.relation ∈ Relation.ofWords
  words : Term.words first.term ++ Term.words second.term ≠ []

/-- The words of two clauses in a field, so many places apart. -/
def nearby (field : EngineField) (first second : SearchClause) (slop : Nat) : EngineQuery :=
  .leaf {
    field := field.name
    escaping := field.escaping
    value := .proximity (Term.joinWords (Term.words first.term ++ Term.words second.term)) slop
  }

/-- Two clauses that can be near each other become one match if the modifiers have a slop. -/
theorem CanBeNear.nearQuery_eq (near : catalog.CanBeNear kind first second field secondField)
    (modifiers : List Modifier)
    : catalog.nearQuery kind modifiers first second
      = (Modifier.slop modifiers).map (nearby field first second) := by
  have firstUsable : catalog.usableField kind first field = .ok () := if_pos near.first_usage
  have secondUsable : catalog.usableField kind second secondField = .ok () :=
    if_pos near.second_usage
  have sameName : decide (field.name = secondField.name) = true := decide_eq_true near.same_name
  have tokenized : field.isTokenized = true := decide_eq_true near.text
  have firstMatches := Relation.matchesWords_iff.mpr near.first_relation
  have secondMatches := Relation.matchesWords_iff.mpr near.second_relation
  have someWords : (!(Term.words first.term ++ Term.words second.term).isEmpty) = true := by
    simpa using near.words
  simp only [nearQuery, near.first_field, near.second_field, firstUsable, secondUsable,
    ensureProximity, sameName, tokenized, firstMatches, secondMatches, someWords, if_true, bind,
    Except.bind]
  cases Modifier.slop modifiers <;> rfl

theorem IsNear.canBeNear {query : EngineQuery}
    (near : catalog.IsNear kind modifiers first second field secondField query)
    : catalog.CanBeNear kind first second field secondField where
  first_field := near.left_field
  second_field := near.right_field
  first_usage := near.left_usage
  second_usage := near.right_usage
  same_name := near.same_name
  text := of_decide_eq_true near.tokenized
  first_relation := Relation.matchesWords_iff.mp near.left_relation
  second_relation := Relation.matchesWords_iff.mp near.right_relation
  words := near.words_ne_nil

theorem nearQuery_eq_ok_iff {query : EngineQuery}
    : catalog.nearQuery kind modifiers first second = .ok query
      ↔ ∃ field secondField slop,
        catalog.CanBeNear kind first second field secondField
        ∧ Modifier.slop modifiers = .ok slop
        ∧ nearby field first second slop = query := by
  constructor
  · intro found
    obtain ⟨field, secondField, near⟩ := nearQuery_eq_ok found
    rw [near.canBeNear.nearQuery_eq] at found
    obtain ⟨slop, chosen, same⟩ := map_eq_ok.mp found
    exact ⟨field, secondField, slop, near.canBeNear, chosen, same⟩
  · rintro ⟨field, secondField, slop, near, chosen, same⟩
    rw [near.nearQuery_eq]
    exact map_eq_ok.mpr ⟨slop, chosen, same⟩

theorem engineQuery_prox_eq_ok_iff {query : EngineQuery}
    : catalog.engineQuery kind (.boolean .prox modifiers left right) = .ok query
      ↔ ∃ first second,
        left = .search first
        ∧ right = .search second
        ∧ catalog.nearQuery kind modifiers first second = .ok query := by
  rw [engineQuery, proximityQuery]
  cases left <;> cases right <;> simp [QueryTree.clause?]

/-- `prox` is accepted if and only if its operands are two clauses that can be near each other and
nothing is wrong with any of its modifiers. What is accepted is one match of the words of both
clauses, in the field of the first one, with the slop that the last distance allows, or the standard
one.
-/
theorem engineQuery_near_exact (catalog : Catalog) (kind : QueryKind) (modifiers : List Modifier)
    (left right : QueryTree)
    : ((∃ query, catalog.engineQuery kind (.boolean .prox modifiers left right) = .ok query)
        ↔ (∃ first second field secondField,
            left = .search first
            ∧ right = .search second
            ∧ catalog.CanBeNear kind first second field secondField)
          ∧ ∀ modifier ∈ modifiers, modifier.IsOfNear)
      ∧ ∀ query,
        catalog.engineQuery kind (.boolean .prox modifiers left right) = .ok query
        → ∃ first second field slop,
          left = .search first
          ∧ right = .search second
          ∧ catalog.resolve first.index = .ok field
          ∧ Modifier.AllowLast modifiers slop
          ∧ query = .leaf {
            field := field.name
            escaping := field.escaping
            value := .proximity
              (String.intercalate " " (Term.words first.term ++ Term.words second.term)) slop
          } := by
  simp only [engineQuery_prox_eq_ok_iff, nearQuery_eq_ok_iff]
  refine ⟨⟨?_, ?_⟩, ?_⟩
  · rintro ⟨query, first, second, isFirst, isSecond, field, secondField, slop, near, chosen, -⟩
    exact ⟨⟨first, second, field, secondField, isFirst, isSecond, near⟩,
      Modifier.exists_slop_eq_ok.mp ⟨slop, chosen⟩⟩
  · rintro ⟨⟨first, second, field, secondField, isFirst, isSecond, near⟩, each⟩
    obtain ⟨slop, chosen⟩ := Modifier.exists_slop_eq_ok.mpr each
    exact ⟨_, first, second, isFirst, isSecond, field, secondField, slop, near, chosen, rfl⟩
  · rintro query ⟨first, second, isFirst, isSecond, field, secondField, slop, near, chosen, rfl⟩
    exact ⟨first, second, field, slop, isFirst, isSecond, near.first_field,
      Modifier.allowLast_of_slop_eq_ok chosen, rfl⟩

/-- Two distances, the last one below the largest number that there is, and other modifiers. -/
def twoDistances : List Modifier :=
  [
    { name := "Distance", comparison := some (.equal, "007"), offset := 0 },
    { name := "unit", comparison := some (.greater, "word"), offset := 0 },
    { name := "PROX.distance", comparison := some (.less, "4294967295"), offset := 0 },
    { name := "ordered", comparison := none, offset := 0 }
  ]

/-- A distance without a number. -/
def bareDistance : Modifier :=
  { name := "distance", comparison := none, offset := 0 }

/-- Two words near an empty term. -/
def wordsNearNone (modifiers : List Modifier) : QueryTree :=
  .boolean .prox modifiers (titleClause (.comparison .equal) " a  b")
    (titleClause (.named "adj") "")

/-- The last distance decides, and one without a number is refused in front of it. -/
theorem engineQuery_near_exact_twoDistances
    : titles.engineQuery .search (wordsNearNone twoDistances)
        = .ok (.leaf {
          field := "term.title"
          escaping := .masked
          value := .proximity "a b" 4294967294
        })
      ∧ Modifier.AllowLast twoDistances 4294967294
      ∧ ¬ ∃ query,
        titles.engineQuery .search (wordsNearNone (bareDistance :: twoDistances)) = .ok query := by
  have found : titles.engineQuery .search (wordsNearNone twoDistances)
      = .ok (.leaf {
        field := "term.title"
        escaping := .masked
        value := .proximity "a b" 4294967294
      }) := by
    rfl
  refine ⟨found, ?_, fun accepted => ?_⟩
  · obtain ⟨_, _, _, slop, -, -, -, last, same⟩ := (engineQuery_near_exact _ _ _ _ _).2 _ found
    simp only [EngineQuery.leaf.injEq, FieldMatch.mk.injEq, MatchValue.proximity.injEq] at same
    obtain ⟨-, -, -, rfl⟩ := same
    exact last
  · have each := ((engineQuery_near_exact _ _ _ _ _).1.mp accepted).2
    have isDistance : bareDistance.IsDistance := .inl (by decide +kernel)
    obtain ⟨_, _, _, _, compared, -⟩ := (each bareDistance List.mem_cons_self).allows isDistance
    cases compared

end Catalog

end CqlGateway
