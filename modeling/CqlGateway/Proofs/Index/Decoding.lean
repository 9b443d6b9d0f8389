import Mathlib.Data.List.Forall2
import CqlGateway.Proofs.Index.FieldForms
import CqlGateway.Proofs.Index.FieldValues
import CqlGateway.Proofs.Json.Leaves

/-! A response is decoded as a whole or not at all: to one hit for each of its documents, in their
order, or to the first thing that is missing.
-/

namespace CqlGateway

open Outcome

-----------------------------------------------------------------------------------------
-- Values inside others
-----------------------------------------------------------------------------------------

namespace Json

variable {allowed : Json → Prop} {value held : Json} {name outer inner : String}

/-- The last member of one name has a member of the other name, and the last of these has the value.
-/
def HasInside (value : Json) (outer inner : String) (held : Json) : Prop :=
  ∃ middle, value.HasMember outer middle ∧ middle.HasMember inner held

theorem bind_member?_eq_some_iff
    : (value.member? outer).bind (·.member? inner) = some held
      ↔ value.HasInside outer inner held := by
  simp only [Option.bind_eq_some_iff, member?_eq_some_iff]
  rfl

/-- What holds of all leaves holds of those of a member. -/
theorem HasMember.everyLeaf (member : value.HasMember name held) (every : value.EveryLeaf allowed)
    : held.EveryLeaf allowed := by
  obtain ⟨front, behind, rfl, -⟩ := member
  exact everyLeaf_object.mp every (name, held) (by simp)

theorem HasInside.everyLeaf (inside : value.HasInside outer inner held)
    (every : value.EveryLeaf allowed)
    : held.EveryLeaf allowed := by
  obtain ⟨middle, first, second⟩ := inside
  exact second.everyLeaf (first.everyLeaf every)

end Json

-----------------------------------------------------------------------------------------
-- Documents
-----------------------------------------------------------------------------------------

namespace HitFields

variable {fields : HitFields} {document : Json} {hit : Hit} {name text : String}
  {error : EngineError}

/-- The fields that a document must have, in the order in which they are looked at. -/
def required (fields : HitFields) : List String :=
  [fields.work, fields.unit, fields.manifestation]

/-- A field of the document has no value. -/
def Lacks (document : Json) (name : String) : Prop :=
  document.HasTexts name []

/-- The document has a value for each field that it must have. -/
def IsComplete (fields : HitFields) (document : Json) : Prop :=
  ∀ name ∈ fields.required, ¬ Lacks document name

/-- Of the fields that the document must have this is the first one without a value. -/
def LacksFirst (fields : HitFields) (document : Json) (name : String) : Prop :=
  ∃ front behind,
    fields.required = front ++ name :: behind
    ∧ (∀ earlier ∈ front, ¬ Lacks document earlier)
    ∧ Lacks document name

/-- The hit has the first value of each field that the document must have, and all values of the
collections.
-/
structure Describes (fields : HitFields) (document : Json) (hit : Hit) : Prop where
  work : ∃ others, document.HasTexts fields.work (hit.work :: others)
  unit : ∃ others, document.HasTexts fields.unit (hit.unit :: others)
  manifestation : ∃ others, document.HasTexts fields.manifestation (hit.manifestation :: others)
  collections : document.HasTexts fields.collection hit.collections

theorem requiredText_eq_ok
    : requiredText document name = .ok text
      ↔ ∃ others, document.HasTexts name (text :: others) := by
  simp only [← Json.fieldTexts_member?_eq_iff]
  unfold requiredText
  split <;> simp_all

theorem requiredText_eq_error
    : requiredText document name = .error error
      ↔ Lacks document name ∧ error = .missingField name := by
  rw [Lacks, ← Json.fieldTexts_member?_eq_iff]
  unfold requiredText
  split
  · next texts => simp [texts]
  · next none => simp [none, eq_comm]

theorem exists_requiredText_eq_ok
    : (∃ text, requiredText document name = .ok text) ↔ ¬ Lacks document name := by
  simp only [requiredText_eq_ok, Lacks, ← Json.fieldTexts_member?_eq_iff]
  exact List.ne_nil_iff_exists_cons.symm

theorem hit_eq_ok_iff : fields.hit document = .ok hit ↔ fields.Describes document hit := by
  simp only [hit_eq_ok, requiredText_eq_ok, Json.fieldTexts_member?_eq_iff]
  constructor
  · rintro ⟨work, unit, manifestation, collections⟩
    exact ⟨work, unit, manifestation, collections⟩
  · rintro ⟨work, unit, manifestation, collections⟩
    exact ⟨work, unit, manifestation, collections⟩

/-- A document is no hit for the first of its fields that cannot be read. -/
theorem error?_hit (fields : HitFields) (document : Json)
    : error? (fields.hit document) = firstError? (requiredText document) fields.required := by
  have parts : fields.required = [fields.work] ++ ([fields.unit] ++ [fields.manifestation]) := by
    rfl
  have last (hitOf : String → Hit)
      : error? (requiredText document fields.manifestation >>= fun text => pure (hitOf text))
        = error? (requiredText document fields.manifestation) := by
    cases requiredText document fields.manifestation <;> rfl
  rw [HitFields.hit, error?_bind fun _ _ => error?_bind fun _ _ => last _, parts,
    firstError?_append, firstError?_append, firstError?_singleton, firstError?_singleton,
    firstError?_singleton]

theorem exists_hit_eq_ok
    : (∃ hit, fields.hit document = .ok hit) ↔ fields.IsComplete document := by
  rw [← error?_eq_none, error?_hit, firstError?_eq_none]
  simp only [exists_requiredText_eq_ok]
  rfl

theorem hit_eq_error_iff
    : fields.hit document = .error error
      ↔ ∃ name, fields.LacksFirst document name ∧ error = .missingField name := by
  rw [← error?_eq_some, error?_hit, firstError?_eq_some]
  simp only [FailsFirst, exists_requiredText_eq_ok, requiredText_eq_error]
  constructor
  · rintro ⟨name, front, behind, names, before, lacks, rfl⟩
    exact ⟨name, ⟨front, behind, names, before, lacks⟩, rfl⟩
  · rintro ⟨name, ⟨front, behind, names, before, lacks⟩, rfl⟩
    exact ⟨name, front, behind, names, before, lacks, rfl⟩

end HitFields

-----------------------------------------------------------------------------------------
-- Responses
-----------------------------------------------------------------------------------------

namespace EnginePage

variable {fields : HitFields} {body : Json} {page : EnginePage} {error : EngineError}
  {documents : List Json} {hits : List Hit} {total : Nat} {name : String}

/-- The response says that there are so many hits. -/
def Counts (body : Json) (total : Nat) : Prop :=
  body.HasInside "response" "numFound" (.number (.natural total))

/-- The response has these documents. -/
def Lists (body : Json) (documents : List Json) : Prop :=
  body.HasInside "response" "docs" (.array documents)

theorem total?_eq_some : total? (body.member? "response") = some total ↔ Counts body total := by
  rw [Counts, ← Json.bind_member?_eq_some_iff]
  unfold total?
  split <;> simp_all

theorem documents?_eq_some
    : documents? (body.member? "response") = some documents ↔ Lists body documents := by
  rw [Lists, ← Json.bind_member?_eq_some_iff]
  unfold documents?
  split <;> simp_all

theorem total?_eq_none
    : total? (body.member? "response") = none ↔ ∀ total, ¬ Counts body total := by
  simp only [← total?_eq_some]
  exact Option.eq_none_iff_forall_ne_some

theorem documents?_eq_none
    : documents? (body.member? "response") = none ↔ ∀ documents, ¬ Lists body documents := by
  simp only [← documents?_eq_some]
  exact Option.eq_none_iff_forall_ne_some

theorem ofResponse_of_not_counts (none : ∀ total, ¬ Counts body total)
    : ofResponse fields body = .error .missingCount := by
  simp [ofResponse, total?_eq_none.mpr none]

theorem ofResponse_of_not_lists (counts : Counts body total)
    (none : ∀ documents, ¬ Lists body documents)
    : ofResponse fields body = .error .missingDocuments := by
  simp [ofResponse, total?_eq_some.mpr counts, documents?_eq_none.mpr none]

theorem ofResponse_of_lists (counts : Counts body total) (lists : Lists body documents)
    : ofResponse fields body = (documents.mapM fields.hit).map fun hits => ⟨hits, total⟩ := by
  simp only [ofResponse, total?_eq_some.mpr counts, documents?_eq_some.mpr lists]
  cases documents.mapM fields.hit <;> rfl

/-- The count is looked at first, then the list of documents, then each document. -/
theorem ofResponse_cases (fields : HitFields) (body : Json)
    : ofResponse fields body = .error .missingCount ∧ (∀ total, ¬ Counts body total)
      ∨ ofResponse fields body = .error .missingDocuments
        ∧ (∃ total, Counts body total)
        ∧ (∀ documents, ¬ Lists body documents)
      ∨ ∃ total documents,
        ofResponse fields body = (documents.mapM fields.hit).map (⟨·, total⟩)
        ∧ Counts body total
        ∧ Lists body documents := by
  by_cases counted : ∃ total, Counts body total
  · obtain ⟨total, counts⟩ := counted
    by_cases listed : ∃ documents, Lists body documents
    · obtain ⟨documents, lists⟩ := listed
      exact .inr (.inr ⟨total, documents, ofResponse_of_lists counts lists, counts, lists⟩)
    · have none := not_exists.mp listed
      exact .inr (.inl ⟨ofResponse_of_not_lists counts none, ⟨total, counts⟩, none⟩)
  · have none := not_exists.mp counted
    exact .inl ⟨ofResponse_of_not_counts none, none⟩

theorem mapM_hit_eq_ok_iff
    : documents.mapM fields.hit = .ok hits ↔ List.Forall₂ fields.Describes documents hits := by
  rw [mapM_eq_ok_iff, ← List.forall₂_eq_eq_eq, List.forall₂_map_left_iff,
    List.forall₂_map_right_iff]
  simp only [HitFields.hit_eq_ok_iff]

theorem exists_mapM_hit_eq_ok
    : (∃ hits, documents.mapM fields.hit = .ok hits)
      ↔ ∀ document ∈ documents, fields.IsComplete document := by
  rw [← error?_eq_none, error?_mapM, firstError?_eq_none]
  simp only [HitFields.exists_hit_eq_ok]

theorem mapM_hit_eq_error_iff
    : documents.mapM fields.hit = .error error
      ↔ ∃ front document behind name,
        documents = front ++ document :: behind
        ∧ (∀ earlier ∈ front, fields.IsComplete earlier)
        ∧ fields.LacksFirst document name
        ∧ error = .missingField name := by
  rw [← error?_eq_some, error?_mapM, firstError?_eq_some]
  simp only [FailsFirst, HitFields.exists_hit_eq_ok, HitFields.hit_eq_error_iff]
  constructor
  · rintro ⟨document, front, behind, parts, before, name, lacks, rfl⟩
    exact ⟨front, document, behind, name, parts, before, lacks, rfl⟩
  · rintro ⟨front, document, behind, name, parts, before, lacks, rfl⟩
    exact ⟨document, front, behind, parts, before, name, lacks, rfl⟩

/-- All that decoding a response may give: a page of all documents, or the first thing that is
missing.
-/
structure IsAllOrNothing (fields : HitFields) (body : Json)
    (outcome : Except EngineError EnginePage)
    : Prop where
  succeeds
    : (∃ page, outcome = .ok page)
      ↔ (∃ total, Counts body total)
        ∧ ∃ documents, Lists body documents ∧ ∀ document ∈ documents, fields.IsComplete document
  page
    : ∀ page,
        outcome = .ok page
        ↔ Counts body page.total
          ∧ ∃ documents, Lists body documents ∧ List.Forall₂ fields.Describes documents page.hits
  missingCount : outcome = .error .missingCount ↔ ∀ total, ¬ Counts body total
  missingDocuments
    : outcome = .error .missingDocuments
      ↔ (∃ total, Counts body total) ∧ ∀ documents, ¬ Lists body documents
  missingField
    : ∀ name,
        outcome = .error (.missingField name)
        ↔ (∃ total, Counts body total)
          ∧ ∃ front document behind,
            Lists body (front ++ document :: behind)
            ∧ (∀ earlier ∈ front, fields.IsComplete earlier)
            ∧ fields.LacksFirst document name
  fails
    : ∀ error,
        outcome = .error error
        → error = .missingCount
          ∨ error = .missingDocuments
          ∨ ∃ name, error = .missingField name

theorem ofResponse_eq_ok_iff
    : ofResponse fields body = .ok page
      ↔ Counts body page.total
        ∧ ∃ documents,
          Lists body documents ∧ List.Forall₂ fields.Describes documents page.hits := by
  constructor
  · intro found
    rcases ofResponse_cases fields body with ⟨failed, -⟩ | ⟨failed, -⟩ | ⟨_, _, same, counts, lists⟩
    · rw [failed] at found
      cases found
    · rw [failed] at found
      cases found
    · rw [same] at found
      obtain ⟨hits, decoded, rfl⟩ := map_eq_ok.mp found
      exact ⟨counts, _, lists, mapM_hit_eq_ok_iff.mp decoded⟩
  · rintro ⟨counts, documents, lists, described⟩
    rw [ofResponse_of_lists counts lists]
    exact map_eq_ok.mpr ⟨_, mapM_hit_eq_ok_iff.mpr described, rfl⟩

theorem exists_ofResponse_eq_ok
    : (∃ page, ofResponse fields body = .ok page)
      ↔ (∃ total, Counts body total)
        ∧ ∃ documents,
          Lists body documents ∧ ∀ document ∈ documents, fields.IsComplete document := by
  constructor
  · rintro ⟨page, found⟩
    obtain ⟨counts, documents, lists, described⟩ := ofResponse_eq_ok_iff.mp found
    have complete := exists_mapM_hit_eq_ok.mp ⟨_, mapM_hit_eq_ok_iff.mpr described⟩
    exact ⟨⟨_, counts⟩, documents, lists, complete⟩
  · rintro ⟨⟨total, counts⟩, documents, lists, complete⟩
    rw [ofResponse_of_lists counts lists]
    exact exists_map_eq_ok.mpr (exists_mapM_hit_eq_ok.mpr complete)

theorem ofResponse_eq_missingField_iff
    : ofResponse fields body = .error (.missingField name)
      ↔ (∃ total, Counts body total)
        ∧ ∃ front document behind,
          Lists body (front ++ document :: behind)
          ∧ (∀ earlier ∈ front, fields.IsComplete earlier)
          ∧ fields.LacksFirst document name := by
  constructor
  · intro failed
    rcases ofResponse_cases fields body with ⟨other, -⟩ | ⟨other, -⟩ | ⟨_, _, same, counts, lists⟩
    · rw [other] at failed
      cases failed
    · rw [other] at failed
      cases failed
    · rw [same, map_eq_error, mapM_hit_eq_error_iff] at failed
      obtain ⟨front, document, behind, _, rfl, before, lacks, ⟨⟩⟩ := failed
      exact ⟨⟨_, counts⟩, front, document, behind, lists, before, lacks⟩
  · rintro ⟨⟨total, counts⟩, front, document, behind, lists, before, lacks⟩
    rw [ofResponse_of_lists counts lists, map_eq_error, mapM_hit_eq_error_iff]
    exact ⟨front, document, behind, name, rfl, before, lacks, rfl⟩

/-- Behind the count and the list only a field of a document may be missing. -/
theorem exists_name_of_mapM_hit (failed : documents.mapM fields.hit = .error error)
    : ∃ name, error = .missingField name := by
  obtain ⟨_, _, _, name, -, -, -, same⟩ := mapM_hit_eq_error_iff.mp failed
  exact ⟨name, same⟩

theorem ofResponse_eq_missingCount_iff
    : ofResponse fields body = .error .missingCount ↔ ∀ total, ¬ Counts body total := by
  refine ⟨fun failed => ?_, ofResponse_of_not_counts⟩
  rcases ofResponse_cases fields body with ⟨-, none⟩ | ⟨other, -⟩ | ⟨_, _, same, -⟩
  · exact none
  · rw [other] at failed
    cases failed
  · rw [same, map_eq_error] at failed
    obtain ⟨_, ⟨⟩⟩ := exists_name_of_mapM_hit failed

theorem ofResponse_eq_missingDocuments_iff
    : ofResponse fields body = .error .missingDocuments
      ↔ (∃ total, Counts body total) ∧ ∀ documents, ¬ Lists body documents := by
  constructor
  · intro failed
    rcases ofResponse_cases fields body with ⟨other, -⟩ | ⟨-, missing⟩ | ⟨_, _, same, -⟩
    · rw [other] at failed
      cases failed
    · exact missing
    · rw [same, map_eq_error] at failed
      obtain ⟨_, ⟨⟩⟩ := exists_name_of_mapM_hit failed
  · rintro ⟨⟨total, counts⟩, none⟩
    exact ofResponse_of_not_lists counts none

theorem missing_of_ofResponse_eq_error (failed : ofResponse fields body = .error error)
    : error = .missingCount ∨ error = .missingDocuments ∨ ∃ name, error = .missingField name := by
  rcases ofResponse_cases fields body with ⟨other, -⟩ | ⟨other, -⟩ | ⟨_, _, same, -⟩
  · exact .inl (Except.error.inj (failed.symm.trans other))
  · exact .inr (.inl (Except.error.inj (failed.symm.trans other)))
  · rw [same, map_eq_error] at failed
    exact .inr (.inr (exists_name_of_mapM_hit failed))

theorem total_le_of_counts (fits : body.Fits) (counts : Counts body total) : total ≤ countLimit :=
  (Json.HasInside.everyLeaf counts fits).holds trivial

/-- A response is decoded as a whole or not at all. The count that it must have is at most 64 bits
wide, as all whole numbers are in a value that was read.
-/
theorem ofResponse_isAllOrNothing (fields : HitFields) (body : Json)
    : IsAllOrNothing fields body (ofResponse fields body)
      ∧ (body.Fits → ∀ total, Counts body total → total ≤ countLimit) where
  left := {
    succeeds := exists_ofResponse_eq_ok
    page := fun _ => ofResponse_eq_ok_iff
    missingCount := ofResponse_eq_missingCount_iff
    missingDocuments := ofResponse_eq_missingDocuments_iff
    missingField := fun _ => ofResponse_eq_missingField_iff
    fails := fun _ => missing_of_ofResponse_eq_error
  }
  right fits _ := total_le_of_counts fits

/-- The response with these documents. -/
def withDocuments (documents : List Json) : Json :=
  .object [
    ("response", .object [("numFound", .number (.natural 3)), ("docs", .array documents)])
  ]

/-- A document with texts in arrays of mixed items, and a number. -/
def mixedDocument : Json :=
  .object [
    ("rec.workId", .array [.null, .number (.natural 7), .string "W", .string "V"]),
    ("rec.unitId", .string "U"),
    ("rec.manifestationId", .number (.natural 7)),
    ("rec.collectionIdentifier", .array [.string "a", .boolean true, .string "b"])
  ]

/-- A document with a number where a text would be found. -/
def numberedDocument : Json :=
  .object [
    ("rec.workId", .null),
    ("rec.workId", .string "W"),
    ("rec.unitId", .array [.null, .number (.natural 7)])
  ]

theorem describes_mixedDocument
    : HitFields.standard.Describes mixedDocument ⟨"W", "U", "7", ["a", "b"]⟩ where
  work := ⟨["V"], .present (Json.member?_eq_some_iff.mp rfl)
    (.array (.other (by simp) (.other (by simp) (.text _ (.text _ .nil)))))⟩
  unit := ⟨[], .present (Json.member?_eq_some_iff.mp rfl) (.text _)⟩
  manifestation := ⟨[], .present (Json.member?_eq_some_iff.mp rfl) (.number (.natural 7))⟩
  collections := .present (Json.member?_eq_some_iff.mp rfl)
    (.array (.text _ (.other (by simp) (.text _ .nil))))

theorem lacksFirst_numberedDocument
    : HitFields.standard.LacksFirst numberedDocument "rec.unitId" := by
  have work : numberedDocument.HasTexts "rec.workId" ["W"] :=
    .present (Json.member?_eq_some_iff.mp rfl) (.text _)
  have unit : numberedDocument.HasTexts "rec.unitId" [] :=
    .present (Json.member?_eq_some_iff.mp rfl)
      (.array (.other (by simp) (.other (by simp) .nil)))
  refine ⟨["rec.workId"], ["rec.manifestationId"], rfl, ?_, unit⟩
  rintro name member lacks
  obtain rfl := List.mem_singleton.mp member
  rw [HitFields.Lacks, ← Json.fieldTexts_member?_eq_iff] at lacks
  rw [← Json.fieldTexts_member?_eq_iff, lacks] at work
  cases work

theorem isComplete_of_describes {document : Json} {hit : Hit}
    (describes : fields.Describes document hit)
    : fields.IsComplete document :=
  HitFields.exists_hit_eq_ok.mp ⟨hit, HitFields.hit_eq_ok_iff.mpr describes⟩

/-- In an array texts are found behind other items, and numbers are not found. -/
theorem ofResponse_isAllOrNothing_mixedForms
    : ofResponse .standard (withDocuments [mixedDocument])
        = .ok ⟨[⟨"W", "U", "7", ["a", "b"]⟩], 3⟩
      ∧ ofResponse .standard (withDocuments [mixedDocument, numberedDocument])
        = .error (.missingField "rec.unitId")
      ∧ (withDocuments []).Fits
      ∧ 3 ≤ countLimit := by
  have counts (documents : List Json) : Counts (withDocuments documents) 3 :=
    Json.bind_member?_eq_some_iff.mp rfl
  have lists (documents : List Json) : Lists (withDocuments documents) documents :=
    Json.bind_member?_eq_some_iff.mp rfl
  have fits : (withDocuments []).Fits := by
    simp only [withDocuments, Json.Fits, Json.everyLeaf_object, List.forall_mem_singleton,
      List.forall_mem_cons]
    exact ⟨.leaf trivial (show 3 ≤ countLimit by decide), .array (by simp)⟩
  have whole := (ofResponse_isAllOrNothing .standard (withDocuments [mixedDocument])).1
  have broken :=
    (ofResponse_isAllOrNothing .standard (withDocuments [mixedDocument, numberedDocument])).1
  have bound := (ofResponse_isAllOrNothing .standard (withDocuments [])).2
  refine ⟨?_, ?_, fits, bound fits 3 (counts [])⟩
  · exact (whole.page _).mpr ⟨counts _, _, lists _, .cons describes_mixedDocument .nil⟩
  · refine (broken.missingField _).mpr
      ⟨⟨3, counts _⟩, [mixedDocument], numberedDocument, [], lists _, ?_,
        lacksFirst_numberedDocument⟩
    rintro document member
    obtain rfl := List.mem_singleton.mp member
    exact isComplete_of_describes describes_mixedDocument

end EnginePage

end CqlGateway
