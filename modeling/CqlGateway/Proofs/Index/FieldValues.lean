import CqlGateway.Index.Response

/-! The values of a field, said of the document alone. The last member with the name of the field
counts: a text is its own value and a number has its numeral, an array has the texts among its items
in their order, and anything else has no value. The texts that are found in a field are these.
-/

namespace CqlGateway.Json

-----------------------------------------------------------------------------------------
-- Members
-----------------------------------------------------------------------------------------

/-- The last member with a name has this value. -/
def HasMember (value : Json) (name : String) (held : Json) : Prop :=
  ∃ front behind,
    value = .object (front ++ (name, held) :: behind)
    ∧ ∀ member ∈ behind, member.1 ≠ name

variable {value held : Json} {name : String}

theorem member?_eq_some_iff : value.member? name = some held ↔ value.HasMember name held := by
  constructor
  · intro found
    cases value with
    | object members =>
        obtain ⟨⟨_, _⟩, first, rfl⟩ := Option.map_eq_some_iff.mp found
        obtain ⟨same, behind, front, reversed, none⟩ := List.find?_eq_some_iff_append.mp first
        obtain rfl := of_decide_eq_true same
        refine ⟨front.reverse, behind.reverse, ?_, ?_⟩
        · rw [← members.reverse_reverse, reversed]
          simp
        · simpa using none
    | _ => cases found
  · rintro ⟨front, behind, rfl, others⟩
    have skipped : behind.reverse.find? (·.1 = name) = none := by simpa using others
    simp [member?, List.find?_append, skipped]

theorem member?_eq_none_iff
    : value.member? name = none ↔ ∀ held, ¬ value.HasMember name held := by
  simp only [← member?_eq_some_iff]
  exact Option.eq_none_iff_forall_ne_some

-----------------------------------------------------------------------------------------
-- Values of fields
-----------------------------------------------------------------------------------------

/-- The texts among items, in the order of the items. Nothing else counts, numbers included. -/
inductive TextsAmong : List Json → List String → Prop where
  | nil : TextsAmong [] []
  | text {items : List Json} {texts : List String} (content : String)
    (rest : TextsAmong items texts)
    : TextsAmong (.string content :: items) (content :: texts)
  | other {items : List Json} {texts : List String} {item : Json}
    (noText : ∀ content, item ≠ .string content) (rest : TextsAmong items texts)
    : TextsAmong (item :: items) texts

/-- The values that are given to a field by what it has in the document. -/
inductive Gives : Json → List String → Prop where
  | text (content : String) : Gives (.string content) [content]
  | number (number : JsonNumber) : Gives (.number number) [number.text]
  | array {items : List Json} {texts : List String} (among : TextsAmong items texts)
    : Gives (.array items) texts
  | null : Gives .null []
  | boolean (truth : Bool) : Gives (.boolean truth) []
  | valueless : Gives .valueless []
  | object (members : List (String × Json)) : Gives (.object members) []

/-- A field of the document has these values. A field that is missing has none. -/
inductive HasTexts (document : Json) (name : String) : List String → Prop where
  | present {held : Json} {texts : List String} (member : document.HasMember name held)
    (gives : held.Gives texts)
    : HasTexts document name texts
  | absent (none : ∀ held, ¬ document.HasMember name held) : HasTexts document name []

variable {document item : Json} {items : List Json} {texts : List String}

theorem text?_eq_none (noText : ∀ content, item ≠ .string content) : item.text? = none := by
  cases item with
  | string content => exact absurd rfl (noText content)
  | _ => rfl

/-- The texts that are kept of an array, by induction over its items. -/
theorem textsAmong_filterMap (items : List Json) : TextsAmong items (items.filterMap text?) := by
  induction items with
  | nil => exact .nil
  | cons item rest ih =>
      cases item with
      | string content => exact .text content ih
      | _ => exact .other (by simp) ih

theorem TextsAmong.eq_filterMap (among : TextsAmong items texts)
    : items.filterMap text? = texts := by
  induction among with
  | nil => rfl
  | text content _ ih => simp [text?, ih]
  | other noText _ ih => rw [List.filterMap_cons_none (text?_eq_none noText), ih]

/-- What is found in a value are the values that it gives, and no others. -/
theorem fieldTexts_some_eq_iff : fieldTexts (some held) = texts ↔ held.Gives texts := by
  constructor
  · rintro rfl
    cases held with
    | null => exact .null
    | boolean truth => exact .boolean truth
    | number number => exact .number number
    | string content => exact .text content
    | valueless => exact .valueless
    | array items => exact .array (textsAmong_filterMap items)
    | object members => exact .object members
  · intro gives
    cases gives with
    | array among => exact among.eq_filterMap
    | _ => rfl

theorem fieldTexts_member?_eq_iff
    : fieldTexts (document.member? name) = texts ↔ document.HasTexts name texts := by
  constructor
  · intro found
    cases there : document.member? name with
    | some held =>
        rw [there] at found
        exact .present (member?_eq_some_iff.mp there) (fieldTexts_some_eq_iff.mp found)
    | none =>
        rw [there] at found
        obtain rfl : [] = texts := found
        exact .absent (member?_eq_none_iff.mp there)
  · intro has
    cases has with
    | present member gives =>
        rw [member?_eq_some_iff.mpr member]
        exact fieldTexts_some_eq_iff.mpr gives
    | absent none =>
        rw [member?_eq_none_iff.mpr none]
        rfl

end CqlGateway.Json
