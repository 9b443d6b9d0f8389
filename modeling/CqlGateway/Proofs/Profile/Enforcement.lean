import CqlGateway.Catalog.Standard
import CqlGateway.Profile.Basic
import CqlGateway.Proofs.EngineQuery.Pattern
import CqlGateway.Proofs.EngineQuery.Truth
import CqlGateway.Proofs.EngineQuery.Word
import CqlGateway.Proofs.Ordered.NameSet

/-! A profile is enforced twice: the engine gets a filter, and hits are looked at once more when
they arrive. The filter is written as if the names of collections were terms of a query, so both let
through the same collections only where these names mean themselves as terms.
-/

namespace CqlGateway

open EngineText

variable {escaping : Escaping} {value : String} {names : List String}

-----------------------------------------------------------------------------------------
-- Values that mean themselves
-----------------------------------------------------------------------------------------

/-- A value that asks the engine for its own characters. -/
structure Term.IsVerbatim (escaping : Escaping) (value : String) : Prop where
  decode_eq : Term.decode value = value
  no_wildcard : escaping = .masked → Term.hasWildcard value = false

theorem Term.isVerbatim_iff
    : Term.IsVerbatim escaping value
      ↔ (∀ character, .escaped character ∉ Term.pieces value.toList)
        ∧ .anyText ∉ valuePattern escaping value
        ∧ .anyChar ∉ valuePattern escaping value := by
  rw [anyText_mem_valuePattern, anyChar_mem_valuePattern, ← Term.decode_eq_self_iff]
  constructor
  · intro verbatim
    refine ⟨verbatim.decode_eq, ?_, ?_⟩
    · rintro ⟨masked, star⟩
      exact (Term.hasWildcard_eq_false_iff.mp (verbatim.no_wildcard masked)).1 star
    · rintro ⟨masked, mark⟩
      exact (Term.hasWildcard_eq_false_iff.mp (verbatim.no_wildcard masked)).2 mark
  · rintro ⟨same, noText, noChar⟩
    refine ⟨same, fun masked => Term.hasWildcard_eq_false_iff.mpr ⟨?_, ?_⟩⟩
    · exact fun star => noText ⟨masked, star⟩
    · exact fun mark => noChar ⟨masked, mark⟩

theorem valuePattern_of_isVerbatim (verbatim : Term.IsVerbatim escaping value)
    : valuePattern escaping value = value.toList.map .literal := by
  obtain ⟨bare, noText, noChar⟩ := Term.isVerbatim_iff.mp verbatim
  have each : ∀ piece ∈ Term.pieces value.toList, partOf escaping piece = .literal piece.meant := by
    intro piece member
    refine partOf_eq_literal ?_ ?_
    · exact ne_of_mem_of_not_mem (List.mem_map_of_mem member) noText
    · exact ne_of_mem_of_not_mem (List.mem_map_of_mem member) noChar
  rw [valuePattern, List.map_congr_left each]
  nth_rewrite 2 [← Term.written_pieces value.toList]
  rw [Term.written_eq_map_meant bare, List.map_map]
  rfl

/-- A value that means itself accepts itself only. -/
theorem accepts_of_isVerbatim (verbatim : Term.IsVerbatim escaping value) (text : String)
    : accepts (valuePattern escaping value) text.toList = true ↔ text = value := by
  rw [valuePattern_of_isVerbatim verbatim, accepts_map_literal, String.toList_inj]

-----------------------------------------------------------------------------------------
-- Names that ask for each other
-----------------------------------------------------------------------------------------

/-- What some of the names asks for are these names. -/
def AskForThemselves (escaping : Escaping) (names : List String) : Prop :=
  ∀ text : String,
    text ∈ names ↔ ∃ name ∈ names, accepts (valuePattern escaping name) text.toList = true

theorem exists_length_bound (names : List String)
    : ∃ bound, ∀ name ∈ names, name.toList.length < bound := by
  induction names with
  | nil => exact ⟨0, by simp⟩
  | cons first others ih =>
      obtain ⟨bound, short⟩ := ih
      refine ⟨max bound (first.toList.length + 1), ?_⟩
      simp only [List.forall_mem_cons, lt_max_iff]
      exact ⟨.inr (Nat.lt_succ_self _), fun name member => .inl (short name member)⟩

/-- The character with a star in place of a question mark. -/
def starred (character : Char) : Char :=
  if character = '?' then '*' else character

/-- A question mark accepts a star, and the name with the star asks for more. -/
theorem accepts_map_starred {text : List Char} (star : .bare '*' ∉ Term.pieces text)
    (bare : ∀ character, .escaped character ∉ Term.pieces text)
    : accepts ((Term.pieces text).map (partOf .masked)) (text.map starred) = true := by
  fun_induction Term.pieces text with
  | case1 => rfl
  | case2 => decide
  | case3 character rest ih => exact absurd (List.mem_cons_self ..) (bare character)
  | case4 character rest noLast noEscape ih =>
      simp only [List.mem_cons, not_or] at star bare
      have later := ih star.2 fun other => (bare other).2
      by_cases mark : character = '?'
      · subst mark
        simpa [partOf, accepts] using later
      · have ordinary : partOf .masked (.bare character) = .literal character :=
          partOf_eq_literal (by simpa [partOf_eq_anyText] using Ne.symm star.1)
            (by simpa [partOf_eq_anyChar] using mark)
        rw [List.map_cons, List.map_cons, ordinary, starred, if_neg mark]
        simpa [accepts] using later

theorem star_mem_pieces_map_starred {text : List Char} (mark : .bare '?' ∈ Term.pieces text)
    (bare : ∀ character, .escaped character ∉ Term.pieces text)
    : .bare '*' ∈ Term.pieces (text.map starred) := by
  fun_induction Term.pieces text with
  | case1 => cases mark
  | case2 => simp at mark
  | case3 character rest ih => exact absurd (List.mem_cons_self ..) (bare character)
  | case4 character rest noLast noEscape ih =>
      have notEscape := Term.ne_backslash_of_cases noLast noEscape
      have starredNotEscape : starred character ≠ '\\' := by
        unfold starred
        split
        · decide
        · exact notEscape
      rw [List.map_cons, Term.pieces_cons starredNotEscape]
      rcases List.mem_cons.mp mark with first | later
      · obtain rfl := Term.Piece.bare.inj first
        exact List.mem_cons_self ..
      · refine List.mem_cons_of_mem _ (ih later fun other member => ?_)
        exact bare other (List.mem_cons_of_mem _ member)

namespace AskForThemselves

variable {name : String}

/-- No name has a star in it that stands for any text: it would ask for texts of every length. -/
theorem no_text (themselves : AskForThemselves escaping names) (member : name ∈ names)
    : .anyText ∉ valuePattern escaping name := by
  intro star
  obtain ⟨bound, short⟩ := exists_length_bound names
  obtain ⟨text, accepted, longer⟩ := exists_accepts_longer star bound
  have inNames : String.ofList text ∈ names := (themselves _).mpr ⟨name, member, by simpa⟩
  have shorter := short _ inNames
  rw [String.toList_ofList] at shorter
  omega

/-- No name in which nothing is taken literally has a question mark that stands for any character:
it would ask for a star.
-/
theorem no_char (themselves : AskForThemselves escaping names) (member : name ∈ names)
    (bare : ∀ character, .escaped character ∉ Term.pieces name.toList)
    : .anyChar ∉ valuePattern escaping name := by
  intro asked
  obtain ⟨rfl, mark⟩ := anyChar_mem_valuePattern.mp asked
  have noStar : .bare '*' ∉ Term.pieces name.toList := fun star =>
    themselves.no_text member (anyText_mem_valuePattern.mpr ⟨rfl, star⟩)
  have inNames : String.ofList (name.toList.map starred) ∈ names := by
    refine (themselves _).mpr ⟨name, member, ?_⟩
    rw [String.toList_ofList]
    exact accepts_map_starred noStar bare
  refine themselves.no_text inNames (anyText_mem_valuePattern.mpr ⟨rfl, ?_⟩)
  rw [String.toList_ofList]
  exact star_mem_pieces_map_starred mark bare

/-- A name in which something is taken literally would be asked for by a longer one of its kind. -/
theorem exists_longer (themselves : AskForThemselves escaping names) (member : name ∈ names)
    {character : Char} (taken : .escaped character ∈ Term.pieces name.toList)
    : ∃ longer ∈ names,
        name.toList.length < longer.toList.length
        ∧ ∃ character, .escaped character ∈ Term.pieces longer.toList := by
  obtain ⟨asking, inNames, accepted⟩ := (themselves name).mp member
  by_cases bare : ∀ character, .escaped character ∉ Term.pieces asking.toList
  · have verbatim : Term.IsVerbatim escaping asking :=
      Term.isVerbatim_iff.mpr ⟨bare, themselves.no_text inNames, themselves.no_char inNames bare⟩
    obtain rfl := (accepts_of_isVerbatim verbatim name).mp accepted
    exact absurd taken (bare character)
  · simp only [not_forall, not_not] at bare
    obtain ⟨other, takenToo⟩ := bare
    have asLong := length_eq_of_accepts (themselves.no_text inNames) accepted
    have longer := Term.length_lt_length_written takenToo
    rw [Term.written_pieces] at longer
    rw [valuePattern, List.length_map] at asLong
    exact ⟨asking, inNames, asLong ▸ longer, other, takenToo⟩

/-- Nothing is taken literally in a name, since no name is the longest in which something is. -/
theorem bare (themselves : AskForThemselves escaping names) (member : name ∈ names)
    (character : Char)
    : .escaped character ∉ Term.pieces name.toList := by
  intro taken
  obtain ⟨bound, short⟩ := exists_length_bound names
  have unbounded (length : Nat)
      : ∃ name ∈ names,
          length ≤ name.toList.length
          ∧ ∃ character, .escaped character ∈ Term.pieces name.toList := by
    induction length with
    | zero => exact ⟨name, member, Nat.zero_le _, character, taken⟩
    | succ length ih =>
        obtain ⟨held, inNames, reached, _, taken⟩ := ih
        obtain ⟨longer, inNames, longerThan, taken⟩ := themselves.exists_longer inNames taken
        exact ⟨longer, inNames, by omega, taken⟩
  obtain ⟨long, inNames, reached, -⟩ := unbounded bound
  exact absurd (short long inNames) (Nat.not_lt.mpr reached)

end AskForThemselves

/-- Names ask for themselves if and only if each means itself. -/
theorem askForThemselves_iff
    : AskForThemselves escaping names ↔ ∀ name ∈ names, Term.IsVerbatim escaping name := by
  constructor
  · intro themselves name member
    exact Term.isVerbatim_iff.mpr ⟨themselves.bare member, themselves.no_text member,
      themselves.no_char member (themselves.bare member)⟩
  · intro verbatim text
    constructor
    · intro member
      exact ⟨text, member, (accepts_of_isVerbatim (verbatim text member) text).mpr rfl⟩
    · rintro ⟨name, member, accepted⟩
      rwa [(accepts_of_isVerbatim (verbatim name member) text).mp accepted]

-----------------------------------------------------------------------------------------
-- Profiles
-----------------------------------------------------------------------------------------

namespace Profile

/-- True of a collection that some match of the filter for relation lookups asks for, as the engine
reads it.
-/
def asksFor (profile : Profile) (collection : String) : Bool :=
  profile.relationFilter.leaves.any fun condition =>
    accepts (patternOf (valueText condition).toList) collection.toList

theorem admits_ofDeclaration {catalog : Catalog} {declaration : ProfileDeclaration}
    {collection : String}
    : (ofDeclaration catalog declaration).admits [collection] = true
      ↔ collection ∈ declaration.visible := by
  simp [ofDeclaration, admits]

theorem asksFor_ofDeclaration {catalog : Catalog} {declaration : ProfileDeclaration}
    {collection : String}
    : (ofDeclaration catalog declaration).asksFor collection = true
      ↔ ∃ name ∈ declaration.visible,
        accepts (valuePattern catalog.collectionField.escaping name) collection.toList = true := by
  have leaves : (ofDeclaration catalog declaration).relationFilter.leaves
      = declaration.visible.map fun name => {
        field := catalog.collectionField.name
        escaping := catalog.collectionField.escaping
        value := .term name
      } := by
    have filter : (ofDeclaration catalog declaration).relationFilter
        = .disjunction (declaration.visible.map
          (.term catalog.collectionField.name catalog.collectionField.escaping)) := by
      rfl
    rw [filter, EngineQuery.leaves_disjunction, List.flatMap_map]
    exact List.flatMap_pure_eq_map ..
  simp only [asksFor, leaves, List.any_map, List.any_eq_true, Function.comp_def, valueText,
    patternOf_escape]

/-- The filter that the engine gets and the look at the hits let through the same collections if and
only if each collection that can be seen has a name that means itself as a term of a query: nothing
in it is taken literally, and it has no wildcards where they would count.
-/
theorem admits_eq_asksFor_iff (catalog : Catalog) (declaration : ProfileDeclaration)
    : (∀ collection,
        (ofDeclaration catalog declaration).admits [collection]
          = (ofDeclaration catalog declaration).asksFor collection)
      ↔ ∀ source ∈ declaration.sources,
        ProfileDeclaration.isVisible source = true
        → Term.IsVerbatim catalog.collectionField.escaping source.collection := by
  have names : (∀ name ∈ declaration.visible,
        Term.IsVerbatim catalog.collectionField.escaping name)
      ↔ ∀ source ∈ declaration.sources,
        ProfileDeclaration.isVisible source = true
        → Term.IsVerbatim catalog.collectionField.escaping source.collection := by
    simp only [ProfileDeclaration.visible, NameSet.mem_ofList, List.forall_mem_map, List.mem_filter,
      and_imp]
  rw [← names, ← askForThemselves_iff, AskForThemselves]
  refine forall_congr' fun collection => ?_
  rw [Bool.eq_iff_iff, admits_ofDeclaration, asksFor_ofDeclaration]

/-- A profile of one collection in whose name a backslash stands. -/
def backslashed : ProfileDeclaration :=
  {
    name := "p"
    sources := [.searched "a\\b" []]
  }

/-- The filter asks for another collection, and not for the one that is admitted. -/
theorem admits_ne_asksFor_backslashed
    : (ofDeclaration .standard backslashed).admits ["a\\b"] = true
      ∧ (ofDeclaration .standard backslashed).asksFor "a\\b" = false
      ∧ (ofDeclaration .standard backslashed).admits ["ab"] = false
      ∧ (ofDeclaration .standard backslashed).asksFor "ab" = true := by
  decide +kernel

end Profile

end CqlGateway
