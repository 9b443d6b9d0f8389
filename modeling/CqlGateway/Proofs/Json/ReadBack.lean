import CqlGateway.Json.Reader
import CqlGateway.Proofs.Json.Leaves
import CqlGateway.Proofs.Json.Scanning

/-! JSON that is written is read back, at any level of indentation and in any containers. Values are
meant that have no part without a value and no numbers but whole ones.
-/

namespace CqlGateway.Json

open JsonToken (HasTokens)

variable {value : Json} {level : Nat} {around : List Container}

-----------------------------------------------------------------------------------------
-- Tokens of values
-----------------------------------------------------------------------------------------

/-- No number but a whole one, and nothing without a value. -/
def IsPlainLeaf : Json → Prop
  | .number held => held.IsWhole
  | .valueless => False
  | _ => True

/-- Values that are read back from what is written for them. -/
def IsPlain (value : Json) : Prop :=
  value.EveryLeaf IsPlainLeaf

@[simp]
theorem isPlain_null : Json.null.IsPlain :=
  .leaf trivial trivial

@[simp]
theorem isPlain_boolean (truth : Bool) : (Json.boolean truth).IsPlain :=
  .leaf trivial trivial

@[simp]
theorem isPlain_string (content : String) : (Json.string content).IsPlain :=
  .leaf trivial trivial

theorem isPlain_number {number : JsonNumber} (whole : number.IsWhole)
    : (Json.number number).IsPlain :=
  .leaf trivial whole

@[simp]
theorem isPlain_array {items : List Json}
    : (Json.array items).IsPlain ↔ ∀ item ∈ items, item.IsPlain :=
  everyLeaf_array

@[simp]
theorem isPlain_object {members : List (String × Json)}
    : (Json.object members).IsPlain ↔ ∀ member ∈ members, member.2.IsPlain :=
  everyLeaf_object

mutual

/-- The tokens of a plain value. -/
def tokens : Json → List JsonToken
  | .string content => [.text (some content)]
  | .array items => .openArray :: (List.intercalate [.comma] (itemTokens items) ++ [.closeArray])
  | .object members =>
      .openObject :: (List.intercalate [.comma] (memberTokens members) ++ [.closeObject])
  | value => [.scalar value]

def itemTokens : List Json → List (List JsonToken)
  | [] => []
  | item :: rest => tokens item :: itemTokens rest

def memberTokens : List (String × Json) → List (List JsonToken)
  | [] => []
  | (name, value) :: rest =>
      (.text (some name) :: .colon :: tokens value) :: memberTokens rest

end

theorem itemTokens_eq (items : List Json) : itemTokens items = items.map tokens := by
  induction items with
  | nil => rfl
  | cons item rest ih => rw [itemTokens, ih, List.map_cons]

/-- The tokens of a member. -/
def memberRow (member : String × Json) : List JsonToken :=
  .text (some member.1) :: .colon :: member.2.tokens

theorem memberTokens_eq (members : List (String × Json))
    : memberTokens members = members.map memberRow := by
  induction members with
  | nil => rfl
  | cons member rest ih => rw [memberTokens, ih, List.map_cons, memberRow]

theorem prettyItems_eq (level : Nat) (items : List Json)
    : prettyItems level items = items.map (prettyAt level) := by
  induction items with
  | nil => rfl
  | cons item rest ih => rw [prettyItems, ih, List.map_cons]

theorem prettyMembers_eq (level : Nat) (members : List (String × Json))
    : prettyMembers level members
      = members.map fun member => stringText member.1 ++ ": " ++ prettyAt level member.2 := by
  induction members with
  | nil => rfl
  | cons member rest ih => rw [prettyMembers, ih, List.map_cons]

-----------------------------------------------------------------------------------------
-- Scanning
-----------------------------------------------------------------------------------------

section Lines

variable {α : Type} {items : List α} {line : α → String} {row : α → List JsonToken}

theorem isBlank_of_mem_indentation
    : ∀ blank ∈ (indentation level).toList, JsonToken.isBlank blank = true := by
  simp [indentation, Text.blanks, JsonToken.isBlank]

theorem isBlank_newline : JsonToken.isBlank '\n' = true :=
  rfl

/-- Lines that follow each other with commas between them. Induction over the lines: each of them
stands behind blanks and in front of a comma or of nothing.
-/
theorem hasTokens_lines (each : ∀ item ∈ items, HasTokens (line item).toList (row item))
    (nonempty : items ≠ [])
    : HasTokens (String.intercalate ",\n" ((items.map line).map (indentation level ++ ·))).toList
        (List.intercalate [.comma] (items.map row)) := by
  induction items with
  | nil => exact absurd rfl nonempty
  | cons item rest ih =>
      obtain ⟨first, each⟩ := List.forall_mem_cons.mp each
      have indented := first.behind_blanks (@isBlank_of_mem_indentation level)
      cases rest with
      | nil => simpa using indented
      | cons next others =>
          have comma : HasTokens [','] [.comma] := JsonToken.hasTokens_single rfl fun _ _ => rfl
          have whole := (indented.append comma (JsonToken.endsNumeral_cons rfl)).append_blank
            isBlank_newline (ih each (by simp))
          simpa using whole

/-- Lines between brackets, or brackets alone. -/
theorem hasTokens_bracketed {first last : String} {opening closing : JsonToken}
    (begins : HasTokens first.toList [opening]) (ends : HasTokens last.toList [closing])
    (separate : JsonToken.EndsNumeral last.toList)
    (each : ∀ item ∈ items, HasTokens (line item).toList (row item))
    : HasTokens (bracketed level first last (items.map line)).toList
        (opening :: (List.intercalate [.comma] (items.map row) ++ [closing])) := by
  cases items with
  | nil => simpa [bracketed] using begins.append ends separate
  | cons item rest =>
      have lines := @hasTokens_lines (level + 1) _ _ _ _ each (by simp)
      have indented := ends.behind_blanks (@isBlank_of_mem_indentation level)
      have whole := (begins.append_blank isBlank_newline lines).append_blank isBlank_newline
        indented
      simpa [bracketed] using whole

end Lines

theorem hasTokens_leaf (isLeaf : value.IsLeaf) (plain : value.IsPlainLeaf) (level : Nat)
    : HasTokens (prettyAt level value).toList value.tokens := by
  cases value with
  | null => exact JsonToken.hasTokens_null
  | boolean truth =>
      cases truth with
      | true => exact JsonToken.hasTokens_true
      | false => exact JsonToken.hasTokens_false
  | number number => exact JsonToken.hasTokens_number plain
  | string content => exact JsonToken.hasTokens_stringText content
  | valueless => exact absurd plain id
  | array | object => exact absurd isLeaf id

/-- A plain value has its tokens, wherever it stands. Induction over the value: its parts stand on
lines of their own.
-/
theorem hasTokens_prettyAt (plain : value.IsPlain) (level : Nat)
    : HasTokens (prettyAt level value).toList value.tokens := by
  induction plain generalizing level with
  | leaf isLeaf holds => exact hasTokens_leaf isLeaf holds level
  | array each ih =>
      rw [prettyAt, tokens, prettyItems_eq, itemTokens_eq]
      exact hasTokens_bracketed (JsonToken.hasTokens_single rfl fun _ _ => rfl)
        (JsonToken.hasTokens_single rfl fun _ _ => rfl) (JsonToken.endsNumeral_cons rfl)
        fun item member => ih item member _
  | object each ih =>
      rw [prettyAt, tokens, prettyMembers_eq, memberTokens_eq]
      refine hasTokens_bracketed (JsonToken.hasTokens_single rfl fun _ _ => rfl)
        (JsonToken.hasTokens_single rfl fun _ _ => rfl) (JsonToken.endsNumeral_cons rfl) ?_
      intro member isMember
      have colon : HasTokens [':'] [.colon] := JsonToken.hasTokens_single rfl fun _ _ => rfl
      have name := JsonToken.hasTokens_stringText member.1
      have space : JsonToken.isBlank ' ' = true := rfl
      have whole := (name.append colon (JsonToken.endsNumeral_cons rfl)).append_blank space
        (ih member isMember (level + 1))
      simpa [memberRow] using whole

-----------------------------------------------------------------------------------------
-- Reading
-----------------------------------------------------------------------------------------

/-- The tokens of a value are taken in as that value, in any containers. -/
def IsTakenIn (value : Json) : Prop :=
  ∀ around, (ReadState.awaitValue around).run? value.tokens = some (.complete value around)

/-- Behind an opened array the first item is taken in like any other. -/
theorem run?_firstItem (value : Json) (rest : List JsonToken) (around : List Container)
    : (ReadState.firstItem around).run? (value.tokens ++ rest)
      = (ReadState.awaitValue (.array [] :: around)).run? (value.tokens ++ rest) := by
  cases value <;> rfl

theorem exists_intercalate_cons {α : Type} (separator first : List α) (rest : List (List α))
    : ∃ more, List.intercalate separator (first :: rest) = first ++ more := by
  cases rest with
  | nil => exact ⟨[], by simp⟩
  | cons next others => exact ⟨_, by rw [List.intercalate_cons_cons, List.append_assoc]⟩

/-- Rows of tokens with commas between them are taken in one after the other, up to the closing
bracket. What is held stands last one first. Induction over the rows: behind each of them comes the
comma or the bracket.
-/
theorem run?_separated {α β : Type} {parts : List α} (row : α → List JsonToken)
    (closing : JsonToken) (held : α → β) (await : List β → ReadState)
    (between : List β → α → ReadState) (complete : List β → ReadState)
    (taken : ∀ part ∈ parts, ∀ before, (await before).run? (row part) = some (between before part))
    (comma : ∀ before part,
      (between before part).step? .comma = some (await (held part :: before)))
    (close : ∀ before part,
      (between before part).step? closing = some (complete (held part :: before)))
    (nonempty : parts ≠ []) (before : List β)
    : (await before).run? (List.intercalate [.comma] (parts.map row) ++ [closing])
      = some (complete ((parts.map held).reverse ++ before)) := by
  induction parts generalizing before with
  | nil => exact absurd rfl nonempty
  | cons part rest ih =>
      obtain ⟨first, others⟩ := List.forall_mem_cons.mp taken
      cases rest with
      | nil =>
          rw [List.map_singleton, List.intercalate_singleton, ReadState.run?_append (first before),
            ReadState.run?_cons (close before part)]
          rfl
      | cons next more =>
          have later := ih others (List.cons_ne_nil next more) (held part :: before)
          rw [List.map_cons, List.map_cons, List.intercalate_cons_cons, ← List.map_cons,
            List.append_assoc, List.append_assoc, ReadState.run?_append (first before),
            List.singleton_append, ReadState.run?_cons (comma before part), later]
          simp

theorem run?_items {items : List Json} (each : ∀ item ∈ items, item.IsTakenIn)
    (nonempty : items ≠ []) (around : List Container)
    : (ReadState.awaitValue (.array [] :: around)).run?
        (List.intercalate [.comma] (items.map tokens) ++ [.closeArray])
      = some (.complete (.array items) around) := by
  have taken := run?_separated tokens .closeArray id
    (fun before => .awaitValue (.array before :: around))
    (fun before item => .complete item (.array before :: around))
    (fun held => .complete (.array held.reverse) around)
    (fun item member before => each item member (.array before :: around)) (fun _ _ => rfl)
    (fun _ _ => rfl) nonempty []
  simpa using taken

/-- A member with its name, which has a content. -/
def named (member : String × Json) : Member :=
  (some member.1, member.2)

theorem ofMembers_named (members : List (String × Json))
    : ofMembers (members.map named).reverse = .object members := by
  rw [ofMembers, List.reverse_reverse, Outcome.mapM_map_eq_some (h := id), List.map_id]
  exact fun _ _ => rfl

theorem run?_members {members : List (String × Json)}
    (each : ∀ member ∈ members, member.2.IsTakenIn) (nonempty : members ≠ [])
    (around : List Container)
    : (ReadState.nextName [] around).run?
        (List.intercalate [.comma] (members.map memberRow) ++ [.closeObject])
      = some (.complete (.object members) around) := by
  have taken := run?_separated memberRow .closeObject named
    (fun before => .nextName before around)
    (fun before member => .complete member.2 (.object before (some member.1) :: around))
    (fun held => .complete (ofMembers held) around)
    (fun member isMember before => each member isMember (.object before (some member.1) :: around))
    (fun _ _ => rfl) (fun _ _ => rfl) nonempty []
  rwa [List.append_nil, ofMembers_named] at taken

theorem isTakenIn_leaf (isLeaf : value.IsLeaf) (plain : value.IsPlainLeaf) : value.IsTakenIn := by
  intro around
  cases value with
  | null | boolean | number | string => rfl
  | valueless => exact absurd plain id
  | array | object => exact absurd isLeaf id

/-- Plain values are taken in, by induction over the value. -/
theorem isTakenIn (plain : value.IsPlain) : value.IsTakenIn := by
  induction plain with
  | leaf isLeaf holds => exact isTakenIn_leaf isLeaf holds
  | @array items each ih =>
      intro around
      rw [tokens, itemTokens_eq]
      cases items with
      | nil => rfl
      | cons first rest =>
          have taken := run?_items ih (List.cons_ne_nil first rest) around
          obtain ⟨more, begins⟩ := exists_intercalate_cons [.comma] first.tokens (rest.map tokens)
          rw [List.map_cons, begins, List.append_assoc] at taken ⊢
          rw [← run?_firstItem] at taken
          exact taken
  | @object members each ih =>
      intro around
      rw [tokens, memberTokens_eq]
      cases members with
      | nil => rfl
      | cons first rest =>
          have taken := run?_members ih (List.cons_ne_nil first rest) around
          obtain ⟨more, begins⟩ :=
            exists_intercalate_cons [.comma] (memberRow first) (rest.map memberRow)
          rw [List.map_cons, begins] at taken ⊢
          exact taken

/-- What is written for a plain value is read back as that value. -/
theorem read?_pretty (plain : value.IsPlain) : read? value.pretty = some value := by
  rw [read?, pretty, (hasTokens_prettyAt plain 0).all?, Option.bind_some, ofTokens?_eq_some]
  exact isTakenIn plain []

end CqlGateway.Json
