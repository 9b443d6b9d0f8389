import CqlGateway.Json.Record
import CqlGateway.Proofs.Json.Leaves

/-! Decoders and what they are given. A decoder that gives back what is written for single values
does so for lists and tables of them. The parts of a record are parts of its value, so a count is at
most 64 bits wide wherever it is read.
-/

namespace CqlGateway

namespace Json.Decoder

variable {α : Type} {decoder : Decoder α} {write : α → Json} {value : α} {json : Json}

-----------------------------------------------------------------------------------------
-- Decoders of what is written
-----------------------------------------------------------------------------------------

/-- Each value is decoded from what is written for it. -/
def Undoes (decoder : Decoder α) (write : α → Json) : Prop :=
  ∀ value, decoder (write value) = some value

theorem Undoes.list (undoes : decoder.Undoes write)
    : (list decoder).Undoes fun values => .array (values.map write) := by
  intro values
  rw [Decoder.list, Outcome.mapM_map_eq_some (h := id), List.map_id]
  exact fun value _ => undoes value

theorem Undoes.members (undoes : decoder.Undoes write)
    : (members decoder).Undoes fun entries =>
        .object (entries.map fun entry => (entry.1, write entry.2)) := by
  intro entries
  rw [Decoder.members, Outcome.mapM_map_eq_some (h := id), List.map_id]
  intro entry _
  simp only [undoes entry.2, Option.map_some, id]

theorem filter_name {members : List (String × Json)} (distinct : (members.map (·.1)).Nodup)
    {member : String × Json} (isMember : member ∈ members)
    : members.filter (·.1 = member.1) = [member] := by
  induction members with
  | nil => cases isMember
  | cons first rest ih =>
      rw [List.map_cons, List.nodup_cons] at distinct
      obtain ⟨isNew, distinct⟩ := distinct
      rcases List.mem_cons.mp isMember with rfl | inRest
      · rw [List.filter_cons_of_pos (by simp)]
        congr 1
        rw [List.filter_eq_nil_iff]
        rintro other member same
        exact isNew (List.mem_map.mpr ⟨other, member, by simpa using same⟩)
      · have differs : first.1 ≠ member.1 := fun same =>
          isNew (same ▸ List.mem_map_of_mem inRest)
        rw [List.filter_cons_of_neg (by simpa using differs), ih distinct inRest]

/-- Of an object with these fields alone each is given. -/
theorem fields_object {names : List String} {members : List (String × Json)}
    (same : members.map (·.1) = names) (distinct : names.Nodup)
    : fields names (.object members) = some (members.map fun member => some member.2) := by
  subst same
  refine Outcome.mapM_map_eq_some fun member isMember => ?_
  simp only [filter_name distinct isMember]

-----------------------------------------------------------------------------------------
-- What is decoded
-----------------------------------------------------------------------------------------

theorem count_le {value : Nat} (fits : json.Fits) (decoded : count json = some value)
    : value ≤ countLimit := by
  revert decoded
  fun_cases count json with
  | case1 held =>
      rintro ⟨⟩
      exact fits.holds trivial
  | case2 => simp

/-- The values that fields are given are parts of the record. -/
theorem fits_of_fields {names : List String} {found : List (Option Json)} (fits : json.Fits)
    (decoded : fields names json = some found)
    : ∀ field ∈ found, ∀ value, field = some value → value.Fits := by
  revert decoded
  fun_cases fields names json with
  | case1 members =>
      rintro decoded _ given value rfl
      obtain ⟨name, -, same⟩ := Outcome.exists_of_mem_mapM decoded given
      split at same
      · cases same
      · next named held alone =>
          obtain rfl := Option.some.inj (Option.some.inj same)
          have isMember : (named, held) ∈ members.filter (·.1 = name) := by simp [alone]
          exact everyLeaf_object.mp fits _ (List.mem_filter.mp isMember).1
      · cases same
  | case2 items short =>
      rintro ⟨⟩ _ given value rfl
      have isItem : value ∈ items := by simpa using given
      exact everyLeaf_array.mp fits value isItem
  | case3 | case4 => simp

/-- The value of a field that may be left out is the default or is decoded. -/
theorem withDefault_induction {motive : α → Prop} {default : α} {field : Option Json}
    (decoded : withDefault default decoder field = some value) (ofDefault : motive default)
    (ofDecoded : ∀ json, field = some json → ∀ value, decoder json = some value → motive value)
    : motive value := by
  cases field with
  | none =>
      obtain rfl := Option.some.inj decoded
      exact ofDefault
  | some json => exact ofDecoded json rfl value decoded

/-- A count that may be left out is at most 64 bits wide. -/
theorem withDefault_count_le {default value : Nat} {field : Option Json}
    (fits : ∀ json, field = some json → json.Fits) (small : default ≤ countLimit)
    (decoded : withDefault default count field = some value)
    : value ≤ countLimit :=
  withDefault_induction (motive := (· ≤ countLimit)) decoded small fun json given _ =>
    count_le (fits json given)

end Json.Decoder

end CqlGateway
