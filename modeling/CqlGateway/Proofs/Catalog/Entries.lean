import CqlGateway.Catalog.Standard
import CqlGateway.Compilation.Clause
import CqlGateway.Proofs.Ordered.NameMap
import CqlGateway.Proofs.Text.Lowercase

/-! A catalog holds each entry that it is made of, under its name in lower case, and nothing else.
The order of the entries is of no account, and what is written down of a catalog makes the same one
again.
-/

namespace CqlGateway.Catalog

open Outcome

variable {catalog : Catalog} {defaultIndex collectionIndex index : String}
  {entries others : List (String × EngineField)} {field : EngineField}

/-- The name under which a catalog holds an entry. -/
def entryName (entry : String × EngineField) : String :=
  Text.lowercase entry.1

theorem addsNew_addIndex
    : NameMap.AddsNew entryName Prod.snd (fun entry => .duplicateIndex entry.1) addIndex := by
  intro fields entry
  rfl

-----------------------------------------------------------------------------------------
-- Making catalogs
-----------------------------------------------------------------------------------------

/-- A catalog has the fields of the entries and the names of its two indexes in lower case. -/
theorem ofEntries_eq_ok
    : ofEntries defaultIndex collectionIndex entries = .ok catalog
      ↔ entries.foldlM addIndex [] = .ok catalog.fields
        ∧ Text.lowercase defaultIndex = catalog.defaultIndex
        ∧ Text.lowercase collectionIndex = catalog.collectionIndex := by
  constructor
  · intro made
    obtain ⟨fields, added, made⟩ := bind_eq_ok.mp made
    simp only at made
    split at made
    · split at made
      · obtain rfl := pure_eq_ok.mp made
        exact ⟨added, rfl, rfl⟩
      · cases made
    · cases made
  · rintro ⟨added, isDefault, isCollection⟩
    obtain ⟨_, _, fields, has_default, has_collection⟩ := catalog
    subst isDefault isCollection
    refine bind_eq_ok.mpr ⟨fields, added, ?_⟩
    simp only [has_default, has_collection, dite_true]
    rfl

/-- A catalog can be made if the names of the entries differ and include those of the two indexes.
-/
theorem exists_ofEntries_eq_ok
    : (∃ catalog, ofEntries defaultIndex collectionIndex entries = .ok catalog)
      ↔ (entries.map entryName).Nodup
        ∧ Text.lowercase defaultIndex ∈ entries.map entryName
        ∧ Text.lowercase collectionIndex ∈ entries.map entryName := by
  rw [← addsNew_addIndex.exists_foldlM_eq_ok]
  have found {fields : NameMap EngineField} (added : entries.foldlM addIndex [] = .ok fields)
      (name : String) : (fields.lookup? name).isSome ↔ name ∈ entries.map entryName := by
    rw [Option.isSome_iff_ne_none, ne_eq, addsNew_addIndex.lookup?_eq_none_iff added, not_not]
  constructor
  · rintro ⟨catalog, made⟩
    obtain ⟨added, isDefault, isCollection⟩ := ofEntries_eq_ok.mp made
    rw [isDefault, isCollection, ← found added, ← found added]
    exact ⟨⟨_, added⟩, catalog.has_default, catalog.has_collection⟩
  · rintro ⟨⟨fields, added⟩, isDefault, isCollection⟩
    rw [← found added] at isDefault isCollection
    exact ⟨⟨_, _, fields, isDefault, isCollection⟩, ofEntries_eq_ok.mpr ⟨added, rfl, rfl⟩⟩

theorem ofEntries_eq_ok_of_perm (same : entries.Perm others)
    (made : ofEntries defaultIndex collectionIndex entries = .ok catalog)
    : ofEntries defaultIndex collectionIndex others = .ok catalog := by
  obtain ⟨added, indexes⟩ := ofEntries_eq_ok.mp made
  exact ofEntries_eq_ok.mpr ⟨addsNew_addIndex.foldlM_eq_ok_of_perm same added, indexes⟩

-----------------------------------------------------------------------------------------
-- Looking up
-----------------------------------------------------------------------------------------

theorem resolve_some_eq_ok
    : catalog.resolve (some index) = .ok field ↔ catalog.field? index = some field := by
  rw [resolve, Option.getD_some]
  cases catalog.field? index <;> simp

/-- A catalog knows an index if it has its name in any case. -/
theorem contains_iff
    : catalog.contains index = true ↔ ∃ field, catalog.resolve (some index) = .ok field := by
  simp only [contains, NameMap.contains_eq, Option.isSome_iff_exists, resolve_some_eq_ok, field?]

/-- The indexes that a catalog knows are those of the entries, in any case, with their fields. Its
own two indexes are among them.
-/
structure HoldsEach (catalog : Catalog) (defaultIndex collectionIndex : String)
    (entries : List (String × EngineField))
    : Prop where
  known : ∀ index, ∀ entry ∈ entries,
    entryName entry = Text.lowercase index → catalog.resolve (some index) = .ok entry.2
  unknown : ∀ index,
    Text.lowercase index ∉ entries.map entryName
    → catalog.resolve (some index) = .error (.undefinedField index)
  contains : ∀ index,
    catalog.contains index = true ↔ ∃ field, catalog.resolve (some index) = .ok field
  default : ∃ field,
    catalog.resolve none = .ok field ∧ catalog.resolve (some defaultIndex) = .ok field
  collection : catalog.resolve (some collectionIndex) = .ok catalog.collectionField

theorem resolve_none_eq_ok (lower : Text.lowercase catalog.defaultIndex = catalog.defaultIndex)
    : catalog.resolve none = .ok field
      ↔ catalog.fields.lookup? catalog.defaultIndex = some field := by
  rw [resolve, Option.getD_none, field?, lower]
  cases catalog.fields.lookup? catalog.defaultIndex <;> simp

theorem lookup?_collectionIndex
    : catalog.fields.lookup? catalog.collectionIndex = some catalog.collectionField :=
  (Option.some_get catalog.has_collection).symm

theorem holdsEach_of_ofEntries_eq_ok
    (made : ofEntries defaultIndex collectionIndex entries = .ok catalog)
    : catalog.HoldsEach defaultIndex collectionIndex entries := by
  obtain ⟨added, isDefault, isCollection⟩ := ofEntries_eq_ok.mp made
  refine {
    known := ?_
    unknown := ?_
    contains := fun _ => contains_iff
    default := ?_
    collection := ?_
  }
  · intro index entry member same
    rw [resolve_some_eq_ok, field?, addsNew_addIndex.lookup?_eq_some_iff added]
    exact ⟨entry, member, same, rfl⟩
  · intro index absent
    have none : catalog.field? index = none :=
      (addsNew_addIndex.lookup?_eq_none_iff added).mpr absent
    rw [resolve, Option.getD_some, none]
  · have lower : Text.lowercase catalog.defaultIndex = catalog.defaultIndex :=
      isDefault ▸ Text.lowercase_lowercase defaultIndex
    obtain ⟨field, found⟩ := Option.isSome_iff_exists.mp catalog.has_default
    refine ⟨field, (resolve_none_eq_ok lower).mpr found, ?_⟩
    rw [resolve_some_eq_ok, field?, isDefault, found]
  · rw [resolve_some_eq_ok, field?, isCollection, lookup?_collectionIndex]

-----------------------------------------------------------------------------------------
-- Settings
-----------------------------------------------------------------------------------------

/-- The indexes of a catalog as it keeps them: in order, and in lower case. -/
structure IsKept (catalog : Catalog) : Prop where
  ordered : catalog.fields.IsOrdered
  lower : ∀ entry ∈ catalog.fields, entryName entry = entry.1

theorem isKept_of_ofEntries_eq_ok
    (made : ofEntries defaultIndex collectionIndex entries = .ok catalog)
    : catalog.IsKept := by
  have added := (ofEntries_eq_ok.mp made).1
  have ordered := addsNew_addIndex.isOrdered_of_foldlM_eq_ok added
  refine ⟨ordered, ?_⟩
  rintro ⟨name, field⟩ member
  obtain ⟨entry, -, rfl, -⟩ :=
    (addsNew_addIndex.lookup?_eq_some_iff added).mp (ordered.mem_iff.mp member)
  exact Text.lowercase_lowercase entry.1

theorem isKept_standard : standard.IsKept where
  ordered := NameMap.isOrdered_ofList standardEntries
  lower := by decide +kernel

/-- An index with a field is kept in lower case. -/
theorem IsKept.lowercase_eq (kept : catalog.IsKept)
    (known : (catalog.fields.lookup? index).isSome)
    : Text.lowercase index = index := by
  obtain ⟨field, found⟩ := Option.isSome_iff_exists.mp known
  exact kept.lower _ (NameMap.mem_of_lookup? found)

theorem IsKept.ofSettings_settings (kept : catalog.IsKept)
    : ofSettings catalog.settings = .ok catalog := by
  rw [ofSettings, ofEntries_eq_ok]
  exact ⟨kept.ordered.foldlM_eq_ok addsNew_addIndex kept.lower,
    kept.lowercase_eq catalog.has_default, kept.lowercase_eq catalog.has_collection⟩

/-- A catalog can be made of entries if and only if their names differ in more than case and include
those of the default index and of the collection index. It then knows each entry by its name in any
case and nothing else, always has a field for terms without an index and one for collections, and is
made again of what is written down of it, as is the standard catalog. The order of the entries is of
no account.
-/
theorem ofEntries_ignores_case_and_order (defaultIndex collectionIndex : String)
    (entries : List (String × EngineField))
    : ((∃ catalog, ofEntries defaultIndex collectionIndex entries = .ok catalog)
        ↔ (entries.map entryName).Nodup
          ∧ Text.lowercase defaultIndex ∈ entries.map entryName
          ∧ Text.lowercase collectionIndex ∈ entries.map entryName)
      ∧ (∀ catalog,
        ofEntries defaultIndex collectionIndex entries = .ok catalog
        → catalog.HoldsEach defaultIndex collectionIndex entries
          ∧ ofSettings catalog.settings = .ok catalog)
      ∧ (∀ others catalog,
        entries.Perm others
        → (ofEntries defaultIndex collectionIndex others = .ok catalog
          ↔ ofEntries defaultIndex collectionIndex entries = .ok catalog))
      ∧ ofSettings standard.settings = .ok standard := by
  refine ⟨exists_ofEntries_eq_ok, ?_, ?_, isKept_standard.ofSettings_settings⟩
  · intro catalog made
    exact ⟨holdsEach_of_ofEntries_eq_ok made, (isKept_of_ofEntries_eq_ok made).ofSettings_settings⟩
  · intro others catalog same
    exact ⟨ofEntries_eq_ok_of_perm same.symm, ofEntries_eq_ok_of_perm same⟩

/-- Three indexes whose names are not in lower case, one of them with a sigma at its end. -/
def capitalEntries : List (String × EngineField) :=
  [
    ("Title", .text "term.title"),
    ("ΤΊΤΛΟΣ", .text "term.greek"),
    ("COLL", .literal "rec.collection" .string)
  ]

/-- The name with the sigma is found in any case, also when the entries are turned around. -/
theorem ofEntries_ignores_case_and_order_capitalEntries
    : ∃ catalog,
        ofEntries "TITLE" "Coll" capitalEntries = .ok catalog
        ∧ catalog.resolve (some "Τίτλος") = .ok (.text "term.greek")
        ∧ catalog.resolve (some "τίτλοι") = .error (.undefinedField "τίτλοι")
        ∧ catalog.resolve none = .ok (.text "term.title")
        ∧ catalog.collectionField = .literal "rec.collection" .string
        ∧ ofSettings catalog.settings = .ok catalog
        ∧ ofEntries "TITLE" "Coll" capitalEntries.reverse = .ok catalog := by
  obtain ⟨made, holds, same, -⟩ := ofEntries_ignores_case_and_order "TITLE" "Coll" capitalEntries
  obtain ⟨catalog, made⟩ := made.mpr (by decide +kernel)
  obtain ⟨each, again⟩ := holds catalog made
  have title := each.known "TITLE" ("Title", .text "term.title") (by decide) (by decide +kernel)
  have coll := each.known "Coll" ("COLL", .literal "rec.collection" .string) (by decide)
    (by decide +kernel)
  obtain ⟨field, found, isTitle⟩ := each.default
  obtain rfl := Except.ok.inj (isTitle.symm.trans title)
  exact ⟨catalog, made,
    each.known "Τίτλος" ("ΤΊΤΛΟΣ", .text "term.greek") (by decide) (by decide +kernel),
    each.unknown "τίτλοι" (by decide +kernel), found,
    Except.ok.inj (each.collection.symm.trans coll), again,
    (same _ catalog (List.reverse_perm capitalEntries).symm).mpr made⟩

end CqlGateway.Catalog
