import CqlGateway.Proofs.Json.ReadBack
import CqlGateway.Proofs.Json.Record
import CqlGateway.Proofs.Ordered.NameMap
import CqlGateway.Proofs.Settings.Usability

/-! Settings that were loaded are saved and loaded again without a change. -/

namespace CqlGateway

namespace Json.Decoder

variable {json : Json}

-----------------------------------------------------------------------------------------
-- Records that are written
-----------------------------------------------------------------------------------------

theorem undoes_texts : (list text).Undoes Json.ofTexts := by
  have texts : text.Undoes .string := fun _ => rfl
  exact texts.list

theorem undoes_count : count.Undoes Json.ofNat :=
  fun _ => rfl

theorem undoes_fieldTypes : (choice fieldTypes).Undoes (.string ·.name) := by
  intro type
  cases type <;> rfl

theorem undoes_escapings : (choice escapings).Undoes (.string ·.name) := by
  intro escaping
  cases escaping <;> rfl

theorem undoes_fieldUsages : (choice fieldUsages).Undoes (.string ·.name) := by
  intro usage
  cases usage <;> rfl

theorem undoes_engineField : engineField.Undoes EngineField.json := by
  intro field
  have given : fields ["field", "type", "multi_valued", "escaping", "usage"] field.json = _ :=
    fields_object rfl (by decide)
  rw [engineField, given]
  simp [required, withDefault, text, boolean, undoes_fieldTypes field.type,
    undoes_escapings field.escaping, undoes_fieldUsages field.usage]

/-- The indexes are read in their order whatever order they are written in, so they must be written
in it.
-/
theorem catalogSettings_json {settings : CatalogSettings} (ordered : settings.fields.IsOrdered)
    : catalogSettings settings.json = some settings := by
  have given : fields ["default_index", "collection_index", "fields"] settings.json = _ :=
    fields_object rfl (by decide)
  have indexes := undoes_engineField.members settings.fields
  rw [catalogSettings, given]
  simp [required, withDefault, text, indexes, ordered.ofList_eq]

theorem undoes_sourceDeclaration : sourceDeclaration.Undoes SourceDeclaration.json := by
  intro source
  have given : fields ["collection", "searchable", "relations"] source.json = _ :=
    fields_object rfl (by decide)
  rw [sourceDeclaration, given]
  simp [required, withDefault, text, boolean, undoes_texts source.relations]

theorem undoes_profileDeclaration : profileDeclaration.Undoes ProfileDeclaration.json := by
  intro profile
  have given : fields ["name", "sources"] profile.json = _ := fields_object rfl (by decide)
  rw [profileDeclaration, given]
  simp [required, withDefault, text, undoes_sourceDeclaration.list profile.sources]

theorem undoes_keywordSettings : keywordSettings.Undoes KeywordSettings.json := by
  intro settings
  have given : fields ["locale", "synonyms", "relations"] settings.json = _ :=
    fields_object rfl (by decide)
  have pairs : textPair.Undoes fun pair => .ofTexts [pair.1, pair.2] := fun _ => rfl
  rw [keywordSettings, given]
  simp [withDefault, text, pairs.list settings.synonyms, undoes_texts settings.relations]

theorem undoes_batchPolicy : batchPolicy.Undoes BatchPolicy.json := by
  intro policy
  have given : fields ["max_rows", "growth_cap"] policy.json = _ := fields_object rfl (by decide)
  rw [batchPolicy, given]
  rfl

theorem undoes_hitFields : hitFields.Undoes HitFields.json := by
  intro names
  have given : fields ["work", "unit", "manifestation", "collection"] names.json = _ :=
    fields_object rfl (by decide)
  rw [hitFields, given]
  rfl

theorem undoes_endpointSettings : endpointSettings.Undoes EndpointSettings.json := by
  intro settings
  have given : fields ["base_url", "core", "timeout_ms", "fields"] settings.json = _ :=
    fields_object rfl (by decide)
  rw [endpointSettings, given]
  simp [withDefault, text, undoes_count settings.timeoutMs, undoes_hitFields settings.fields]

theorem settings_json {settings : Settings}
    (ordered : ∀ catalog ∈ settings.catalog, catalog.fields.IsOrdered)
    : Decoder.settings settings.json = some settings := by
  have given : fields ["engine", "catalog", "profiles", "keywords", "paging"] settings.json = _ :=
    fields_object rfl (by decide)
  have catalog : optional catalogSettings ((settings.catalog.map (·.json)).getD .null)
      = some settings.catalog := by
    cases held : settings.catalog with
    | none => rfl
    | some catalog =>
        have decoded := catalogSettings_json (ordered catalog held)
        exact congrArg (·.map some) decoded
  rw [Decoder.settings, given]
  simp [withDefault, catalog, undoes_endpointSettings settings.endpoint,
    undoes_profileDeclaration.list settings.profiles, undoes_keywordSettings settings.keywords,
    undoes_batchPolicy settings.paging]

-----------------------------------------------------------------------------------------
-- Records that are decoded
-----------------------------------------------------------------------------------------

theorem batchPolicy_fits {policy : BatchPolicy} (fits : json.Fits)
    (decoded : batchPolicy json = some policy)
    : policy.maxRows ≤ countLimit ∧ policy.growthCap ≤ countLimit := by
  obtain ⟨found, given, decoded⟩ := Option.bind_eq_some_iff.mp decoded
  have values := fits_of_fields fits given
  split at decoded
  · simp only [bind, Option.bind_eq_some_iff] at decoded
    obtain ⟨rows, rowsDecoded, cap, capDecoded, ⟨⟩⟩ := decoded
    exact ⟨withDefault_count_le (values _ (by simp)) (by decide) rowsDecoded,
      withDefault_count_le (values _ (by simp)) (by decide) capDecoded⟩
  · cases decoded

theorem endpointSettings_fits {endpoint : EndpointSettings} (fits : json.Fits)
    (decoded : endpointSettings json = some endpoint)
    : endpoint.timeoutMs ≤ countLimit := by
  obtain ⟨found, given, decoded⟩ := Option.bind_eq_some_iff.mp decoded
  have values := fits_of_fields fits given
  split at decoded
  · simp only [bind, Option.bind_eq_some_iff] at decoded
    obtain ⟨_, -, _, -, timeout, timeoutDecoded, _, -, ⟨⟩⟩ := decoded
    exact withDefault_count_le (values _ (by simp)) (by decide) timeoutDecoded
  · cases decoded

theorem catalogSettings_isOrdered {catalog : CatalogSettings}
    (decoded : catalogSettings json = some catalog)
    : catalog.fields.IsOrdered := by
  obtain ⟨found, -, decoded⟩ := Option.bind_eq_some_iff.mp decoded
  split at decoded
  · simp only [bind, Option.bind_eq_some_iff] at decoded
    obtain ⟨_, -, _, -, entries, -, ⟨⟩⟩ := decoded
    exact NameMap.isOrdered_ofList entries
  · cases decoded

theorem optional_catalogSettings_isOrdered {held : Option CatalogSettings}
    (decoded : optional catalogSettings json = some held)
    : ∀ catalog ∈ held, catalog.fields.IsOrdered := by
  revert decoded
  fun_cases optional catalogSettings json with
  | case1 =>
      rintro ⟨⟩
      simp
  | case2 =>
      intro decoded
      obtain ⟨catalog, found, rfl⟩ := Option.map_eq_some_iff.mp decoded
      simpa using catalogSettings_isOrdered found

end Json.Decoder

-----------------------------------------------------------------------------------------
-- Readers and printers
-----------------------------------------------------------------------------------------

/-- A reader and a printer of values that belong together: what is printed for a plain value is read
as the value, and no whole number that is read has more than 64 bits.
-/
structure Json.Codec where
  read : String → Option Json
  print : Json → String
  read_print : ∀ {value}, value.IsPlain → read (print value) = some value
  fits_of_read : ∀ {text value}, read text = some value → value.Fits

/-- The reader and the printer of settings. -/
def Json.Codec.standard : Json.Codec :=
  {
    read := Json.read?
    print := Json.pretty
    read_print := Json.read?_pretty
    fits_of_read := Json.fits_of_read?
  }

-----------------------------------------------------------------------------------------
-- Settings that can be read
-----------------------------------------------------------------------------------------

namespace Settings

open Json (isPlain_number)
open Json.Decoder

variable {settings : Settings} {json : Json} {text : String}

/-- Settings that can be read from a text: counts are at most 64 bits wide, and the indexes stand in
the order of their names.
-/
structure IsReadable (settings : Settings) : Prop where
  timeout : settings.endpoint.timeoutMs ≤ countLimit
  rows : settings.paging.maxRows ≤ countLimit
  growth : settings.paging.growthCap ≤ countLimit
  indexes : ∀ catalog ∈ settings.catalog, catalog.fields.IsOrdered

theorem isReadable_of_decoded (fits : json.Fits)
    (decoded : Json.Decoder.settings json = some settings)
    : settings.IsReadable := by
  obtain ⟨found, given, decoded⟩ := Option.bind_eq_some_iff.mp decoded
  have values := fits_of_fields fits given
  split at decoded
  · simp only [bind, Option.bind_eq_some_iff] at decoded
    obtain ⟨endpoint, endpointDecoded, catalog, catalogDecoded, _, -, _, -, paging, pagingDecoded,
      ⟨⟩⟩ := decoded
    have timeout : endpoint.timeoutMs ≤ countLimit :=
      withDefault_induction (motive := fun endpoint => endpoint.timeoutMs ≤ countLimit)
        endpointDecoded (by decide) fun json given _ =>
          endpointSettings_fits (values _ (by simp) json given)
    have batches : paging.maxRows ≤ countLimit ∧ paging.growthCap ≤ countLimit :=
      withDefault_induction
        (motive := fun paging => paging.maxRows ≤ countLimit ∧ paging.growthCap ≤ countLimit)
        pagingDecoded (by decide) fun json given _ =>
          batchPolicy_fits (values _ (by simp) json given)
    have indexes : ∀ held ∈ catalog, held.fields.IsOrdered :=
      withDefault_induction (motive := fun catalog => ∀ held ∈ catalog, held.fields.IsOrdered)
        catalogDecoded (by simp) fun _ _ _ => optional_catalogSettings_isOrdered
    exact ⟨timeout, batches.1, batches.2, indexes⟩
  · cases decoded

theorem isPlain_ofTexts (texts : List String) : (Json.ofTexts texts).IsPlain := by
  simp [Json.ofTexts]

theorem isPlain_catalogJson (catalog : CatalogSettings) : catalog.json.IsPlain := by
  simp [CatalogSettings.json, EngineField.json, List.forall_mem_map, -List.mem_map]

theorem isPlain_keywordsJson (keywords : KeywordSettings) : keywords.json.IsPlain := by
  simp [KeywordSettings.json, isPlain_ofTexts, List.forall_mem_map, -List.mem_map]

theorem isPlain_profileJson (profile : ProfileDeclaration) : profile.json.IsPlain := by
  simp [ProfileDeclaration.json, SourceDeclaration.json, isPlain_ofTexts]

theorem isPlain_json (readable : settings.IsReadable) : settings.json.IsPlain := by
  have count : ∀ value ≤ countLimit, (Json.ofNat value).IsPlain := fun value fits =>
    isPlain_number fits
  have catalog : (Option.getD (settings.catalog.map CatalogSettings.json) Json.null).IsPlain := by
    cases settings.catalog with
    | none => exact Json.isPlain_null
    | some catalog => exact isPlain_catalogJson catalog
  simp [Settings.json, catalog, isPlain_profileJson, isPlain_keywordsJson, EndpointSettings.json,
    HitFields.json, BatchPolicy.json, count _ readable.timeout, count _ readable.rows,
    count _ readable.growth]

-----------------------------------------------------------------------------------------
-- Saving and loading
-----------------------------------------------------------------------------------------

/-- The settings that are read in a text, if they are accepted. -/
def loadWith? (codec : Json.Codec) (text : String) : Option Settings := do
  let json ← codec.read text
  let settings ← Json.Decoder.settings json
  settings.validate.toOption

/-- What is printed for settings. -/
def saveWith (codec : Json.Codec) (settings : Settings) : String :=
  codec.print settings.json

variable {codec : Json.Codec}

theorem loadWith?_eq_some_iff
    : loadWith? codec text = some settings
      ↔ settings.IsChecked
        ∧ ∃ json, codec.read text = some json ∧ Json.Decoder.settings json = some settings := by
  simp only [loadWith?, bind, Option.bind_eq_some_iff, Outcome.toOption_eq_some, validate_eq_ok]
  constructor
  · rintro ⟨json, read, _, decoded, checked, rfl⟩
    exact ⟨checked, json, read, decoded⟩
  · rintro ⟨checked, json, read, decoded⟩
    exact ⟨json, read, settings, decoded, checked, rfl⟩

/-- Settings that were loaded are loaded again from what is printed for them, whatever they are read
and printed with.
-/
theorem loadWith?_saveWith (loaded : loadWith? codec text = some settings)
    : loadWith? codec (settings.saveWith codec) = some settings := by
  obtain ⟨checked, json, read, decoded⟩ := loadWith?_eq_some_iff.mp loaded
  have readable := isReadable_of_decoded (codec.fits_of_read read) decoded
  exact loadWith?_eq_some_iff.mpr
    ⟨checked, settings.json, codec.read_print (isPlain_json readable),
      settings_json readable.indexes⟩

theorem load_eq_ok_iff : load text = .ok settings ↔ loadWith? .standard text = some settings := by
  have parts : loadWith? .standard text
      = ((Json.read? text).bind Json.Decoder.settings).bind (·.validate.toOption) := by
    rw [Option.bind_assoc]
    rfl
  rw [parts, load]
  cases (Json.read? text).bind Json.Decoder.settings with
  | some read => exact Outcome.toOption_eq_some.symm
  | none => simp

/-- Settings that were loaded are saved as a text from which the same settings are loaded, and these
are saved as the same text.
-/
theorem load_save (loaded : load text = .ok settings)
    : ∃ again,
        load settings.save = .ok again ∧ again = settings ∧ again.save = settings.save :=
  ⟨settings, load_eq_ok_iff.mpr (loadWith?_saveWith (load_eq_ok_iff.mp loaded)), rfl, rfl⟩

/-- Settings in short: most fields are left out, records are lists, an index is given twice, and
something is there that is not read.
-/
def shortForm : Json :=
  .object [
    ("paging", .array [.number (.natural 7)]),
    ("since", .number (.negative 3)),
    ("profiles", .array [.array [.string "p\x01"]]),
    ("catalog", .object [
      ("fields", .object [
        ("rec.collectionIdentifier", .array [.string "c"]),
        ("cql.serverChoice", .array [.string "a"]),
        ("cql.serverChoice", .array [.string "b"])
      ])
    ])
  ]

/-- What the short form means. -/
def shortSettings : Settings :=
  {
    standard with
    catalog := some {
      defaultIndex := Catalog.standardDefaultIndex
      collectionIndex := Catalog.standardCollectionIndex
      fields := [
        ("cql.serverChoice", ⟨"b", .text, false, .masked, .search⟩),
        ("rec.collectionIdentifier", ⟨"c", .text, false, .masked, .search⟩)
      ]
    }
    profiles := [⟨"p\x01", []⟩]
    paging := { BatchPolicy.standard with maxRows := 7 }
  }

theorem load_shortForm : load shortForm.pretty = .ok shortSettings := by
  have negative : (JsonNumber.negative 3).IsWhole := ⟨by decide, by decide⟩
  have natural : (JsonNumber.natural 7).IsWhole := by
    change 7 ≤ countLimit
    decide
  have plain : shortForm.IsPlain := by
    simp [shortForm, isPlain_number negative, isPlain_number natural]
  have decoded : Json.Decoder.settings shortForm = some shortSettings := by decide +kernel
  have accepted : shortSettings.validate = .ok shortSettings :=
    Outcome.toOption_eq_some.mp (by decide +kernel)
  rw [load, Json.read?_pretty plain, Option.bind_some, decoded]
  exact accepted

/-- The short form is not what is written for the settings, but they are the same. -/
theorem load_save_shortForm
    : load shortForm.pretty = .ok shortSettings
      ∧ shortSettings.save ≠ shortForm.pretty
      ∧ load shortSettings.save = .ok shortSettings := by
  obtain ⟨_, loaded, rfl, -⟩ := load_save load_shortForm
  exact ⟨load_shortForm, by decide +kernel, loaded⟩

end Settings

end CqlGateway
