import Mathlib.Data.List.Induction
import CqlGateway.Profile.Basic
import CqlGateway.Proofs.EngineQuery.Truth
import CqlGateway.Proofs.Ordered.NameMap
import CqlGateway.Proofs.Ordered.NameSet

/-! A profile shows what was declared, and nothing of how: the sources of a collection may be
repeated, come in any order, and be split into one that lets it be searched and others that list
relations. Two declarations have the same profile if and only if they declare the same.
-/

namespace CqlGateway

-----------------------------------------------------------------------------------------
-- What is declared
-----------------------------------------------------------------------------------------

namespace ProfileDeclaration

variable {declaration left right : ProfileDeclaration} {collection relation : String}

/-- Some source lets the collection be searched. -/
def MaySearch (declaration : ProfileDeclaration) (collection : String) : Prop :=
  ∃ source ∈ declaration.sources, source.collection = collection ∧ source.searchable = true

/-- Some source of the collection lists the relation. -/
def Relates (declaration : ProfileDeclaration) (collection relation : String) : Prop :=
  ∃ source ∈ declaration.sources, source.collection = collection ∧ relation ∈ source.relations

/-- The collection may be searched, or has a relation. -/
def MaySee (declaration : ProfileDeclaration) (collection : String) : Prop :=
  declaration.MaySearch collection ∨ ∃ relation, declaration.Relates collection relation

/-- Two declarations that name, let search and relate the same. -/
structure DeclareSame (left right : ProfileDeclaration) : Prop where
  name : left.name = right.name
  search : ∀ collection, left.MaySearch collection ↔ right.MaySearch collection
  relate : ∀ collection relation,
    left.Relates collection relation ↔ right.Relates collection relation

theorem DeclareSame.see (same : DeclareSame left right) (collection : String)
    : left.MaySee collection ↔ right.MaySee collection :=
  or_congr (same.search collection) (exists_congr (same.relate collection))

@[simp]
theorem mem_searchable
    : collection ∈ declaration.searchable ↔ declaration.MaySearch collection := by
  simp only [searchable, NameSet.mem_ofList, List.mem_map, List.mem_filter, MaySearch]
  exact exists_congr fun source => by rw [and_right_comm, and_assoc]

@[simp]
theorem mem_visible : collection ∈ declaration.visible ↔ declaration.MaySee collection := by
  have seen (source : SourceDeclaration)
      : isVisible source = true
        ↔ source.searchable = true ∨ ∃ relation, relation ∈ source.relations := by
    rw [isVisible, Bool.or_eq_true, Bool.not_eq_true', List.isEmpty_eq_false_iff_exists_mem]
  simp only [visible, NameSet.mem_ofList, List.mem_map, List.mem_filter, MaySee, MaySearch, Relates,
    seen]
  constructor
  · rintro ⟨source, ⟨member, searched | ⟨relation, listed⟩⟩, same⟩
    · exact .inl ⟨source, member, same, searched⟩
    · exact .inr ⟨relation, source, member, same, listed⟩
  · rintro (⟨source, member, same, searched⟩ | ⟨relation, source, member, same, listed⟩)
    · exact ⟨source, ⟨member, .inl searched⟩, same⟩
    · exact ⟨source, ⟨member, .inr ⟨relation, listed⟩⟩, same⟩

-----------------------------------------------------------------------------------------
-- The table of relations
-----------------------------------------------------------------------------------------

/-- The relations that sources list for a collection, one source after the other. -/
def listedFor (collection : String) (sources : List SourceDeclaration) : List String :=
  (sources.filter (·.collection = collection)).flatMap (·.relations)

theorem mem_listedFor
    : relation ∈ listedFor collection declaration.sources
      ↔ declaration.Relates collection relation := by
  simp only [listedFor, List.mem_flatMap, List.mem_filter, decide_eq_true_eq, and_assoc, Relates]

/-- The entry of a collection for which some relations are listed. -/
def entryOf (listed : List String) : Option NameSet :=
  if listed.isEmpty then none else some (.ofList listed)

theorem getD_entryOf (listed : List String) : (entryOf listed).getD [] = .ofList listed := by
  cases listed <;> rfl

/-- More relations come into an entry that there may be. -/
theorem entryOf_append (listed : List String) {more : List String} (nonempty : more ≠ [])
    : entryOf (listed ++ more) = some (NameSet.insertAll ((entryOf listed).getD []) more) := by
  have someListed : (listed ++ more).isEmpty = false := by
    rw [List.isEmpty_eq_false_iff]
    exact List.append_ne_nil_of_right_ne_nil listed nonempty
  rw [entryOf, someListed, getD_entryOf, NameSet.ofList, NameSet.ofList, NameSet.insertAll,
    List.foldl_append]
  rfl

theorem entryOf_congr {listed others : List String}
    (same : ∀ relation, relation ∈ listed ↔ relation ∈ others)
    : entryOf listed = entryOf others := by
  have empty : listed.isEmpty = others.isEmpty := by
    rw [Bool.eq_iff_iff, List.isEmpty_iff, List.isEmpty_iff, List.eq_nil_iff_forall_not_mem,
      List.eq_nil_iff_forall_not_mem]
    exact forall_congr' fun relation => not_congr (same relation)
  rw [entryOf, entryOf, empty, NameSet.ofList_congr same]

/-- A source changes the entry of its own collection, and only if it lists relations. -/
theorem lookup?_addRelations (table : NameMap NameSet) (source : SourceDeclaration)
    (collection : String)
    : (addRelations table source).lookup? collection
      = if source.collection = collection ∧ source.relations ≠ [] then
          some (NameSet.insertAll ((table.lookup? collection).getD []) source.relations)
        else
          table.lookup? collection := by
  unfold addRelations
  split
  · next empty => rw [if_neg fun adds => adds.2 (List.isEmpty_iff.mp empty)]
  · next nonempty =>
      rw [List.isEmpty_iff] at nonempty
      rw [NameMap.lookup?_insert]
      split
      · next same => rw [if_pos ⟨same, nonempty⟩, same]
      · next differs => rw [if_neg fun adds => differs adds.1]

/-- The entry of each collection is made of what all its sources list, by induction from the last
source.
-/
theorem lookup?_relations (declaration : ProfileDeclaration) (collection : String)
    : declaration.relations.lookup? collection
      = entryOf (listedFor collection declaration.sources) := by
  rw [relations]
  induction declaration.sources using List.reverseRecOn with
  | nil => rfl
  | append_singleton sources source ih =>
      rw [List.foldl_append, List.foldl_cons, List.foldl_nil, lookup?_addRelations, ih]
      have listed : listedFor collection (sources ++ [source])
          = listedFor collection sources
            ++ if source.collection = collection then source.relations else [] := by
        rw [listedFor, List.filter_append, List.flatMap_append, ← listedFor]
        by_cases same : source.collection = collection <;> simp [same]
      rw [listed]
      by_cases same : source.collection = collection
      · rw [if_pos same]
        by_cases empty : source.relations = []
        · rw [if_neg fun adds => adds.2 empty, empty, List.append_nil]
        · rw [if_pos ⟨same, empty⟩, entryOf_append _ empty]
      · rw [if_neg fun adds => same adds.1, if_neg same, List.append_nil]

theorem isOrdered_relations (declaration : ProfileDeclaration)
    : declaration.relations.IsOrdered := by
  rw [relations]
  induction declaration.sources using List.reverseRecOn with
  | nil => exact List.Pairwise.nil
  | append_singleton sources source ih =>
      rw [List.foldl_append, List.foldl_cons, List.foldl_nil, addRelations]
      split
      · exact ih
      · exact ih.insert _ _

end ProfileDeclaration

-----------------------------------------------------------------------------------------
-- What a profile shows
-----------------------------------------------------------------------------------------

/-- The match of the records of a collection. -/
def Catalog.collectionMatch (catalog : Catalog) (collection : String) : FieldMatch :=
  {
    field := catalog.collectionField.name
    escaping := catalog.collectionField.escaping
    value := .term collection
  }

namespace Profile

open ProfileDeclaration

variable {catalog : Catalog} {declaration left right : ProfileDeclaration}

/-- What is seen of a profile is what was declared. -/
structure Shows (profile : Profile) (catalog : Catalog) (declaration : ProfileDeclaration)
    : Prop where
  name : profile.name = declaration.name
  search : ∀ truth,
    profile.searchFilter.eval truth = true
    ↔ ∃ collection,
      declaration.MaySearch collection ∧ truth (catalog.collectionMatch collection) = true
  see : ∀ truth,
    profile.relationFilter.eval truth = true
    ↔ ∃ collection,
      declaration.MaySee collection ∧ truth (catalog.collectionMatch collection) = true
  see_of_search : ∀ truth,
    profile.searchFilter.eval truth = true → profile.relationFilter.eval truth = true
  search_nothing :
    (∀ collection, ¬declaration.MaySearch collection) → profile.searchFilter = .nothing
  see_nothing :
    (∀ collection, ¬declaration.MaySee collection) → profile.relationFilter = .nothing
  relates : ∀ collection relation,
    profile.hasRelation collection relation = true ↔ declaration.Relates collection relation
  admits : ∀ collections,
    profile.admits collections = true
    ↔ ∃ collection ∈ collections, declaration.MaySee collection

theorem eval_collectionFilter (truth : FieldMatch → Bool) (collections : NameSet)
    : (collectionFilter catalog.collectionField collections).eval truth = true
      ↔ ∃ collection ∈ collections, truth (catalog.collectionMatch collection) = true := by
  rw [collectionFilter, EngineQuery.eval_disjunction, List.any_map, List.any_eq_true]
  simp only [Function.comp_apply, EngineQuery.term, EngineQuery.eval_leaf, Catalog.collectionMatch]

theorem collectionFilter_of_forall_not_mem {field : EngineField} {collections : NameSet}
    (none : ∀ collection, collection ∉ collections)
    : collectionFilter field collections = .nothing := by
  rw [List.eq_nil_iff_forall_not_mem.mpr none]
  rfl

theorem eval_searchFilter (truth : FieldMatch → Bool)
    : (ofDeclaration catalog declaration).searchFilter.eval truth = true
      ↔ ∃ collection,
        declaration.MaySearch collection ∧ truth (catalog.collectionMatch collection) = true := by
  apply (eval_collectionFilter truth declaration.searchable).trans
  simp only [mem_searchable]

theorem eval_relationFilter (truth : FieldMatch → Bool)
    : (ofDeclaration catalog declaration).relationFilter.eval truth = true
      ↔ ∃ collection,
        declaration.MaySee collection ∧ truth (catalog.collectionMatch collection) = true := by
  apply (eval_collectionFilter truth declaration.visible).trans
  simp only [mem_visible]

theorem shows_ofDeclaration (catalog : Catalog) (declaration : ProfileDeclaration)
    : (ofDeclaration catalog declaration).Shows catalog declaration where
  name := rfl
  search := eval_searchFilter
  see := eval_relationFilter
  see_of_search := by
    intro truth searched
    obtain ⟨collection, declared, holds⟩ := (eval_searchFilter truth).mp searched
    exact (eval_relationFilter truth).mpr ⟨collection, .inl declared, holds⟩
  search_nothing := by
    intro unsearched
    apply collectionFilter_of_forall_not_mem
    simpa only [mem_searchable] using unsearched
  see_nothing := by
    intro unseen
    apply collectionFilter_of_forall_not_mem
    simpa only [mem_visible] using unseen
  relates := by
    intro collection relation
    simp only [hasRelation, ofDeclaration, lookup?_relations, getD_entryOf, List.contains_iff_mem,
      NameSet.mem_ofList, mem_listedFor]
  admits := by
    intro collections
    simp only [Profile.admits, ofDeclaration, List.any_eq_true, List.contains_iff_mem, mem_visible]

/-- What a profile shows decides what is declared: a filter is true where one collection alone is
matched exactly if it asks for this collection.
-/
theorem Shows.declareSame {profile : Profile} (shown : profile.Shows catalog left)
    (shownToo : profile.Shows catalog right)
    : DeclareSame left right where
  name := shown.name.symm.trans shownToo.name
  search := by
    have alone {declaration : ProfileDeclaration} (shown : profile.Shows catalog declaration)
        (collection : String)
        : profile.searchFilter.eval (· = catalog.collectionMatch collection) = true
          ↔ declaration.MaySearch collection := by
      rw [shown.search]
      simp [Catalog.collectionMatch]
    intro collection
    rw [← alone shown, alone shownToo]
  relate := by
    intro collection relation
    rw [← shown.relates, shownToo.relates]

/-- Declarations have the same profile if and only if they declare the same. -/
theorem ofDeclaration_eq_iff
    : ofDeclaration catalog left = ofDeclaration catalog right ↔ DeclareSame left right := by
  constructor
  · intro equal
    exact Shows.declareSame (equal ▸ shows_ofDeclaration catalog left)
      (shows_ofDeclaration catalog right)
  · intro same
    have searchable : left.searchable = right.searchable :=
      NameSet.IsOrdered.ext (NameSet.isOrdered_ofList _) (NameSet.isOrdered_ofList _)
        (by simpa only [mem_searchable] using same.search)
    have visible : left.visible = right.visible :=
      NameSet.IsOrdered.ext (NameSet.isOrdered_ofList _) (NameSet.isOrdered_ofList _)
        (by simpa only [mem_visible] using same.see)
    have relations : left.relations = right.relations := by
      refine NameMap.IsOrdered.ext (isOrdered_relations left) (isOrdered_relations right) ?_
      intro collection
      rw [lookup?_relations, lookup?_relations]
      exact entryOf_congr fun relation => by rw [mem_listedFor, mem_listedFor, same.relate]
    rw [ofDeclaration, ofDeclaration, same.name, searchable, visible, relations]

end Profile

end CqlGateway
