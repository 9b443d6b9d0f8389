import CqlGateway.Index.Response
import CqlGateway.Proofs.Outcome

/-! One value of a field, alone or in an array. A text is the same in both forms. A number alone is
its text, but in an array it is nothing.
-/

namespace CqlGateway

open Outcome

-----------------------------------------------------------------------------------------
-- Values of members
-----------------------------------------------------------------------------------------

namespace Json

/-- Where a member stands in an object: no other one behind it has its name. -/
structure MemberPlace where
  front : List (String × Json)
  name : String
  behind : List (String × Json)
  last : ∀ member ∈ behind, member.1 ≠ name

/-- The object with a value at the place. -/
def MemberPlace.object (place : MemberPlace) (value : Json) : Json :=
  .object (place.front ++ (place.name, value) :: place.behind)

/-- What counts for a name is the last member that has it. -/
theorem member?_append_cons (name : String) (front : List (String × Json))
    (member : String × Json) (behind : List (String × Json))
    : (object (front ++ member :: behind)).member? name
      = ((object behind).member? name).or
          (if member.1 = name then some member.2 else (object front).member? name) := by
  simp only [member?, List.reverse_append, List.reverse_cons, List.append_assoc, List.find?_append,
    Option.map_or, List.singleton_append, List.find?_cons]
  split
  · next same => simp [of_decide_eq_true same]
  · next differs => simp [of_decide_eq_false differs]

namespace MemberPlace

variable (place : MemberPlace)

theorem member?_object (value : Json) : (place.object value).member? place.name = some value := by
  have none : (Json.object place.behind).member? place.name = none := by
    simpa [member?] using place.last
  rw [object, member?_append_cons, none, if_pos rfl, Option.none_or]

theorem member?_object_of_ne {name : String} (differs : name ≠ place.name) (value other : Json)
    : (place.object value).member? name = (place.object other).member? name := by
  simp only [object, member?_append_cons, if_neg (Ne.symm differs)]

/-- Fields have the same texts in objects with values that have the same texts. -/
theorem fieldTexts_object {value other : Json}
    (same : fieldTexts (some value) = fieldTexts (some other)) (name : String)
    : fieldTexts ((place.object value).member? name)
      = fieldTexts ((place.object other).member? name) := by
  by_cases here : name = place.name
  · rw [here, member?_object, member?_object, same]
  · rw [place.member?_object_of_ne here value other]

end MemberPlace

end Json

-----------------------------------------------------------------------------------------
-- Hits
-----------------------------------------------------------------------------------------

namespace HitFields

variable {fields : HitFields} {document other : Json} {hit : Hit} {name text : String}

/-- The fields that are looked at in a document. -/
def names (fields : HitFields) : List String :=
  [fields.work, fields.unit, fields.manifestation, fields.collection]

/-- Only the texts of fields count for a hit. -/
theorem hit_congr
    (same : ∀ name, Json.fieldTexts (document.member? name) = Json.fieldTexts (other.member? name))
    : fields.hit document = fields.hit other := by
  simp only [HitFields.hit, requiredText, same]

/-- A hit shows the first texts of three fields and all texts of the fourth. -/
theorem hit_eq_ok
    : fields.hit document = .ok hit
      ↔ requiredText document fields.work = .ok hit.work
        ∧ requiredText document fields.unit = .ok hit.unit
        ∧ requiredText document fields.manifestation = .ok hit.manifestation
        ∧ Json.fieldTexts (document.member? fields.collection) = hit.collections := by
  obtain ⟨work, unit, manifestation, collections⟩ := hit
  simp only [HitFields.hit, bind_eq_ok, pure_eq_ok, Hit.mk.injEq]
  constructor
  · rintro ⟨_, first, _, second, _, third, rfl, rfl, rfl, same⟩
    exact ⟨first, second, third, same⟩
  · rintro ⟨first, second, third, same⟩
    exact ⟨work, first, unit, second, manifestation, third, rfl, rfl, rfl, same⟩

/-- If a field of one document has texts and that of another one has none, their hits differ. -/
theorem hit_ne {others : List String} (looked : name ∈ fields.names)
    (texts : Json.fieldTexts (document.member? name) = text :: others)
    (none : Json.fieldTexts (other.member? name) = [])
    (found : fields.hit document = .ok hit)
    : fields.hit other ≠ .ok hit := by
  intro foundToo
  obtain ⟨work, unit, manifestation, collections⟩ := hit_eq_ok.mp foundToo
  simp only [names, List.mem_cons, List.not_mem_nil, or_false] at looked
  rcases looked with rfl | rfl | rfl | rfl
  · simp [requiredText, none] at work
  · simp [requiredText, none] at unit
  · simp [requiredText, none] at manifestation
  · rw [none, ← (hit_eq_ok.mp found).2.2.2, texts] at collections
    cases collections

end HitFields

-----------------------------------------------------------------------------------------
-- Responses
-----------------------------------------------------------------------------------------

/-- Where a field of a document stands in a response. -/
structure FieldPlace where
  body : Json.MemberPlace
  response : Json.MemberPlace
  /-- The documents in front. -/
  front : List Json
  field : Json.MemberPlace
  /-- The documents behind. -/
  behind : List Json
  body_name : body.name = "response"
  response_name : response.name = "docs"

namespace FieldPlace

variable {fields : HitFields} {page : EnginePage} {value other : Json}

/-- The documents with a value at the place. -/
def documents (place : FieldPlace) (value : Json) : List Json :=
  place.front ++ place.field.object value :: place.behind

/-- The response with a value at the place. -/
def fill (place : FieldPlace) (value : Json) : Json :=
  place.body.object (place.response.object (.array (place.documents value)))

/-- The place is looked into, and so are the documents around it. The number of hits stands
elsewhere.
-/
theorem ofResponse_fill (place : FieldPlace) (fields : HitFields) (value : Json)
    : EnginePage.ofResponse fields (place.fill value)
      = match EnginePage.total? (some (place.response.object .null)) with
        | none => .error .missingCount
        | some total =>
            (fun hits => ⟨hits, total⟩) <$> (place.documents value).mapM fields.hit := by
  have response : (place.fill value).member? "response"
      = some (place.response.object (.array (place.documents value))) := by
    rw [← place.body_name]
    exact place.body.member?_object _
  have documents : EnginePage.documents?
        (some (place.response.object (.array (place.documents value))))
      = some (place.documents value) := by
    rw [EnginePage.documents?, ← place.response_name, Option.bind_some,
      place.response.member?_object]
  have total : EnginePage.total? (some (place.response.object (.array (place.documents value))))
      = EnginePage.total? (some (place.response.object .null)) := by
    have elsewhere : "numFound" ≠ place.response.name := by
      rw [place.response_name]
      decide
    simp only [EnginePage.total?, Option.bind_some,
      place.response.member?_object_of_ne elsewhere _ .null]
  simp only [EnginePage.ofResponse, response, documents, total]
  cases EnginePage.total? (some (place.response.object .null)) <;> rfl

theorem ofResponse_fill_congr (place : FieldPlace) (fields : HitFields)
    (same : Json.fieldTexts (some value) = Json.fieldTexts (some other))
    : EnginePage.ofResponse fields (place.fill value)
      = EnginePage.ofResponse fields (place.fill other) := by
  have hits : (place.documents value).mapM fields.hit
      = (place.documents other).mapM fields.hit := by
    rw [documents, documents, List.mapM_append, List.mapM_append, List.mapM_cons, List.mapM_cons,
      HitFields.hit_congr (place.field.fieldTexts_object same)]
  rw [ofResponse_fill, ofResponse_fill, hits]

/-- The hit of the document at the place stands behind those of the documents in front. -/
theorem ofResponse_fill_eq_ok {place : FieldPlace}
    (found : EnginePage.ofResponse fields (place.fill value) = .ok page)
    : ∃ before hit after,
        place.front.mapM fields.hit = .ok before
        ∧ fields.hit (place.field.object value) = .ok hit
        ∧ page.hits = before ++ hit :: after := by
  rw [ofResponse_fill] at found
  split at found
  · cases found
  · obtain ⟨hits, decoded, rfl⟩ := map_eq_ok.mp found
    rw [documents, List.mapM_append, List.mapM_cons] at decoded
    obtain ⟨before, first, decoded⟩ := bind_eq_ok.mp decoded
    obtain ⟨others, rest, same⟩ := bind_eq_ok.mp decoded
    obtain ⟨hit, decodedHit, rest⟩ := bind_eq_ok.mp rest
    obtain ⟨after, _, sameRest⟩ := bind_eq_ok.mp rest
    obtain rfl := pure_eq_ok.mp sameRest
    exact ⟨before, hit, after, first, decodedHit, (pure_eq_ok.mp same).symm⟩

/-- A field with texts makes another page than one without. -/
theorem ofResponse_fill_ne {place : FieldPlace} {text : String} {others : List String}
    (looked : place.field.name ∈ fields.names)
    (texts : Json.fieldTexts (some value) = text :: others)
    (none : Json.fieldTexts (some other) = [])
    (found : EnginePage.ofResponse fields (place.fill value) = .ok page)
    : EnginePage.ofResponse fields (place.fill other) ≠ .ok page := by
  intro foundToo
  obtain ⟨before, hit, after, first, decoded, hits⟩ := ofResponse_fill_eq_ok found
  obtain ⟨beforeToo, hitToo, afterToo, firstToo, decodedToo, hitsToo⟩ :=
    ofResponse_fill_eq_ok foundToo
  obtain rfl := Except.ok.inj (first.symm.trans firstToo)
  obtain ⟨rfl, -⟩ := List.cons.inj (List.append_cancel_left (hits.symm.trans hitsToo))
  rw [← place.field.member?_object value] at texts
  rw [← place.field.member?_object other] at none
  exact HitFields.hit_ne looked texts none decoded decodedToo

end FieldPlace

namespace EnginePage

/-- At any place in a response, a text in an array alone is read like the text. A number is read
like its text, and like an empty array if it is in an array alone: in a field that is looked at
these never give the same page.
-/
theorem ofResponse_forms_of_value (fields : HitFields) (place : FieldPlace)
    : (∀ text,
        ofResponse fields (place.fill (.array [.string text]))
        = ofResponse fields (place.fill (.string text)))
      ∧ ∀ number,
        ofResponse fields (place.fill (.number number))
          = ofResponse fields (place.fill (.string number.text))
        ∧ ofResponse fields (place.fill (.array [.number number]))
          = ofResponse fields (place.fill (.array []))
        ∧ (place.field.name ∈ fields.names →
          ∀ page,
            ofResponse fields (place.fill (.number number)) = .ok page
            → ofResponse fields (place.fill (.array [.number number])) ≠ .ok page) := by
  refine ⟨fun text => place.ofResponse_fill_congr fields rfl, fun number => ⟨?_, ?_, ?_⟩⟩
  · exact place.ofResponse_fill_congr fields rfl
  · exact place.ofResponse_fill_congr fields rfl
  · intro looked page found
    exact FieldPlace.ofResponse_fill_ne looked rfl rfl found

/-- The work of the only document in a response. -/
def onlyWork : FieldPlace :=
  {
    body := ⟨[], "response", [], by simp⟩
    response := ⟨[("numFound", .number (.natural 1))], "docs", [], by simp⟩
    front := []
    field := ⟨
      [("rec.unitId", .string "U"), ("rec.manifestationId", .string "M")],
      "rec.workId",
      [],
      by simp
    ⟩
    behind := []
    body_name := rfl
    response_name := rfl
  }

theorem ofResponse_forms_of_value_onlyWork
    : onlyWork.field.name ∈ HitFields.standard.names
      ∧ ofResponse .standard (onlyWork.fill (.array [.string "7"]))
        = ofResponse .standard (onlyWork.fill (.string "7"))
      ∧ ofResponse .standard (onlyWork.fill (.number (.natural 7)))
        = .ok ⟨[⟨"7", "U", "M", []⟩], 1⟩
      ∧ ofResponse .standard (onlyWork.fill (.array [.number (.natural 7)]))
        ≠ .ok ⟨[⟨"7", "U", "M", []⟩], 1⟩ := by
  have looked : onlyWork.field.name ∈ HitFields.standard.names := by decide
  have found : ofResponse .standard (onlyWork.fill (.number (.natural 7)))
      = .ok ⟨[⟨"7", "U", "M", []⟩], 1⟩ := by
    rfl
  obtain ⟨texts, numbers⟩ := ofResponse_forms_of_value .standard onlyWork
  exact ⟨looked, texts "7", found, (numbers (.natural 7)).2.2 looked _ found⟩

/-- A work that is a number is a hit if it stands alone, and spoils the response in an array. -/
theorem ofResponse_refuses_number_in_array
    : ofResponse .standard (onlyWork.fill (.number (.natural 7)))
        = .ok ⟨[⟨"7", "U", "M", []⟩], 1⟩
      ∧ ofResponse .standard (onlyWork.fill (.array [.number (.natural 7)]))
        = .error (.missingField "rec.workId") := by
  exact ⟨rfl, rfl⟩

end EnginePage

end CqlGateway
