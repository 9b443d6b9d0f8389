import Mathlib.Data.List.Induction
import Mathlib.Data.List.Sort
import Mathlib.Data.String.Basic
import CqlGateway.Ordered.NameMap
import CqlGateway.Proofs.Outcome

/-! What is looked up in tables by name, and their order. Tables in order are equal if the same is
looked up in them. A table that is made of entries with different names has each of them, whatever
their order.
-/

namespace CqlGateway.NameMap

variable {α : Type} {table : NameMap α} {name other : String} {value : α}

-----------------------------------------------------------------------------------------
-- Looking up
-----------------------------------------------------------------------------------------

theorem lookup?_cons (entry : String × α) (rest : NameMap α) (name : String)
    : lookup? (entry :: rest) name
      = if entry.1 = name then some entry.2 else lookup? rest name := by
  unfold lookup?
  rw [List.find?_cons]
  split
  · next same => simp [of_decide_eq_true same]
  · next differs => simp [of_decide_eq_false differs]

theorem mem_of_lookup? (found : table.lookup? name = some value) : (name, value) ∈ table := by
  obtain ⟨entry, first, rfl⟩ := Option.map_eq_some_iff.mp found
  have same : entry.1 = name := by simpa using List.find?_some first
  subst same
  exact List.mem_of_find?_eq_some first

theorem contains_eq (table : NameMap α) (name : String)
    : table.contains name = (table.lookup? name).isSome := by
  rw [contains, lookup?, Option.isSome_map, List.isSome_find?]

/-- What was put at a name is found there, and nothing else is changed. -/
theorem lookup?_insert (table : NameMap α) (name : String) (value : α) (other : String)
    : (table.insert name value).lookup? other
      = if name = other then some value else table.lookup? other := by
  fun_induction insert table name value with
  | case1 => rw [lookup?_cons]
  | case2 held rest =>
      rw [lookup?_cons, lookup?_cons]
      split <;> rfl
  | case3 first held rest differs before => rw [lookup?_cons]
  | case4 first held rest differs notBefore ih =>
      rw [lookup?_cons, ih, lookup?_cons]
      split
      · next same => rw [if_neg (same ▸ differs)]
      · rfl

theorem lookup?_update (table : NameMap α) (name : String) (start : α) (change : α → α)
    (other : String)
    : (table.update name start change).lookup? other
      = if name = other then some (change ((table.lookup? other).getD start))
        else table.lookup? other := by
  rw [update, lookup?_insert]
  split
  · next same => rw [same]
  · rfl

-----------------------------------------------------------------------------------------
-- Order
-----------------------------------------------------------------------------------------

/-- The names stand in their order, and none of them stands there twice. -/
def IsOrdered (table : NameMap α) : Prop :=
  table.Pairwise (·.1 < ·.1)

theorem mem_insert {entry : String × α} (member : entry ∈ table.insert name value)
    : entry = (name, value) ∨ entry ∈ table := by
  fun_induction insert table name value with
  | case1 => exact .inl (List.mem_singleton.mp member)
  | case2 held rest =>
      rcases List.mem_cons.mp member with new | inRest
      · exact .inl new
      · exact .inr (List.mem_cons_of_mem _ inRest)
  | case3 first held rest differs before => exact List.mem_cons.mp member
  | case4 first held rest differs notBefore ih =>
      rcases List.mem_cons.mp member with old | inRest
      · exact .inr (old ▸ List.mem_cons_self ..)
      · exact (ih inRest).imp_right (List.mem_cons_of_mem _)

theorem IsOrdered.insert (ordered : IsOrdered table) (name : String) (value : α)
    : IsOrdered (table.insert name value) := by
  fun_induction NameMap.insert table name value with
  | case1 => exact List.pairwise_singleton ..
  | case2 held rest => exact List.pairwise_cons.mpr (List.pairwise_cons.mp ordered)
  | case3 first held rest differs before =>
      have behind := (List.pairwise_cons.mp ordered).1
      refine List.pairwise_cons.mpr ⟨?_, ordered⟩
      rw [List.forall_mem_cons]
      exact ⟨before, fun entry member => before.trans (behind entry member)⟩
  | case4 first held rest differs notBefore ih =>
      obtain ⟨behind, others⟩ := List.pairwise_cons.mp ordered
      have after : first < name := lt_of_le_of_ne (not_lt.mp notBefore) (Ne.symm differs)
      refine List.pairwise_cons.mpr ⟨?_, ih others⟩
      intro entry member
      rcases mem_insert member with rfl | inRest
      · exact after
      · exact behind entry inRest

/-- In a table in order each entry is what is found at its name. -/
theorem IsOrdered.mem_iff (ordered : IsOrdered table)
    : (name, value) ∈ table ↔ table.lookup? name = some value := by
  refine ⟨fun member => ?_, mem_of_lookup?⟩
  induction table with
  | nil => cases member
  | cons first rest ih =>
      obtain ⟨behind, others⟩ := List.pairwise_cons.mp ordered
      rw [lookup?_cons]
      rcases List.mem_cons.mp member with rfl | inRest
      · exact if_pos rfl
      · rw [if_neg (ne_of_lt (behind _ inRest))]
        exact ih others inRest

/-- Tables in order in which the same is found are equal. -/
theorem IsOrdered.ext {others : NameMap α} (ordered : IsOrdered table)
    (orderedToo : IsOrdered others) (same : ∀ name, table.lookup? name = others.lookup? name)
    : table = others := by
  have asymmetric : Std.Asymm fun left right : String × α => left.1 < right.1 :=
    ⟨fun _ _ => lt_asymm⟩
  refine List.Pairwise.eq_of_mem_iff ordered orderedToo ?_
  intro entry
  rw [ordered.mem_iff, orderedToo.mem_iff, same]

theorem ofList_append_singleton (entries : List (String × α)) (entry : String × α)
    : ofList (entries ++ [entry]) = (ofList entries).insert entry.1 entry.2 := by
  simp [ofList]

theorem isOrdered_ofList (entries : List (String × α)) : IsOrdered (ofList entries) := by
  induction entries using List.reverseRecOn with
  | nil => exact List.Pairwise.nil
  | append_singleton others entry ih =>
      rw [ofList_append_singleton]
      exact ih.insert entry.1 entry.2

theorem insert_of_before (before : ∀ entry ∈ table, entry.1 < name)
    : table.insert name value = table ++ [(name, value)] := by
  induction table with
  | nil => rfl
  | cons first rest ih =>
      obtain ⟨firstBefore, others⟩ := List.forall_mem_cons.mp before
      rw [insert, if_neg (ne_of_gt firstBefore), if_neg (not_lt_of_gt firstBefore), ih others,
        List.cons_append]

theorem IsOrdered.nodup_names (ordered : IsOrdered table) : table.names.Nodup :=
  (List.pairwise_map.mpr ordered).imp fun before => ne_of_lt before

/-- The entries of a table in order make that table again, by induction from the last entry. -/
theorem IsOrdered.ofList_eq (ordered : IsOrdered table) : ofList table = table := by
  induction table using List.reverseRecOn with
  | nil => rfl
  | append_singleton others entry ih =>
      obtain ⟨othersOrdered, -, before⟩ := List.pairwise_append.mp ordered
      rw [ofList_append_singleton, ih othersOrdered, insert_of_before]
      exact fun other member => before other member entry List.mem_cons_self

-----------------------------------------------------------------------------------------
-- Tables of entries with different names
-----------------------------------------------------------------------------------------

section NewNames

open Outcome

variable {β ε : Type} {nameOf : β → String} {valueOf : β → α} {refusal : β → ε}
variable {add : NameMap α → β → Except ε (NameMap α)} {entries : List β} {entry : β}
variable {result : NameMap α}

/-- A step that puts an entry into a table, and refuses a name that is there already. -/
def AddsNew (nameOf : β → String) (valueOf : β → α) (refusal : β → ε)
    (add : NameMap α → β → Except ε (NameMap α))
    : Prop :=
  ∀ table entry,
    add table entry
      = if table.contains (nameOf entry) then
          .error (refusal entry)
        else
          .ok (table.insert (nameOf entry) (valueOf entry))

namespace AddsNew

theorem eq_ok_iff (adds : AddsNew nameOf valueOf refusal add)
    : add table entry = .ok result
      ↔ table.lookup? (nameOf entry) = none
        ∧ table.insert (nameOf entry) (valueOf entry) = result := by
  rw [adds, contains_eq]
  cases table.lookup? (nameOf entry) <;> simp

/-- Under each name stands the entry that has it, by induction from the last entry. -/
theorem lookup?_of_foldlM_eq_ok (adds : AddsNew nameOf valueOf refusal add)
    (made : entries.foldlM add [] = .ok table) (name : String)
    : table.lookup? name = (entries.find? (nameOf · = name)).map valueOf := by
  induction entries using List.reverseRecOn generalizing table with
  | nil =>
      obtain rfl := pure_eq_ok.mp made
      rfl
  | append_singleton others entry ih =>
      rw [foldlM_append_singleton] at made
      obtain ⟨before, madeBefore, added⟩ := bind_eq_ok.mp made
      obtain ⟨isNew, rfl⟩ := adds.eq_ok_iff.mp added
      rw [lookup?_insert, List.find?_append]
      split
      · next same =>
          subst same
          rw [ih madeBefore, Option.map_eq_none_iff] at isNew
          simp [isNew]
      · next differs => simp [ih madeBefore, differs]

/-- A name is not in the table if and only if no entry has it. -/
theorem lookup?_eq_none_iff (adds : AddsNew nameOf valueOf refusal add)
    (made : entries.foldlM add [] = .ok table)
    : table.lookup? name = none ↔ name ∉ entries.map nameOf := by
  rw [adds.lookup?_of_foldlM_eq_ok made]
  simp

/-- Entries are made into a table if and only if their names differ. -/
theorem exists_foldlM_eq_ok (adds : AddsNew nameOf valueOf refusal add)
    : (∃ table, entries.foldlM add [] = .ok table) ↔ (entries.map nameOf).Nodup := by
  induction entries using List.reverseRecOn with
  | nil => exact iff_of_true ⟨[], rfl⟩ List.nodup_nil
  | append_singleton others entry ih =>
      rw [foldlM_append_singleton, List.map_append, List.map_singleton, ← List.concat_eq_append,
        List.nodup_concat, ← ih]
      simp only [bind_eq_ok, adds.eq_ok_iff]
      constructor
      · rintro ⟨table, before, made, isNew, -⟩
        exact ⟨(adds.lookup?_eq_none_iff made).mp isNew, before, made⟩
      · rintro ⟨isNew, before, made⟩
        exact ⟨_, before, made, (adds.lookup?_eq_none_iff made).mpr isNew, rfl⟩

/-- Each entry is found under its name, since no other one has it. -/
theorem lookup?_of_mem (adds : AddsNew nameOf valueOf refusal add)
    (made : entries.foldlM add [] = .ok table) (member : entry ∈ entries)
    : table.lookup? (nameOf entry) = some (valueOf entry) := by
  have differ := adds.exists_foldlM_eq_ok.mp ⟨table, made⟩
  have exists_first : (entries.find? (nameOf · = nameOf entry)).isSome :=
    List.find?_isSome.mpr ⟨entry, member, decide_eq_true rfl⟩
  obtain ⟨first, found⟩ := Option.isSome_iff_exists.mp exists_first
  have same : nameOf first = nameOf entry := by simpa using List.find?_some found
  have equal := List.inj_on_of_nodup_map differ (List.mem_of_find?_eq_some found) member same
  rw [adds.lookup?_of_foldlM_eq_ok made, found, equal]
  rfl

/-- A value is found under a name if and only if an entry has both. -/
theorem lookup?_eq_some_iff (adds : AddsNew nameOf valueOf refusal add)
    (made : entries.foldlM add [] = .ok table)
    : table.lookup? name = some value
      ↔ ∃ entry ∈ entries, nameOf entry = name ∧ valueOf entry = value := by
  constructor
  · intro found
    rw [adds.lookup?_of_foldlM_eq_ok made] at found
    obtain ⟨entry, first, same⟩ := Option.map_eq_some_iff.mp found
    exact ⟨entry, List.mem_of_find?_eq_some first, by simpa using List.find?_some first, same⟩
  · rintro ⟨entry, member, rfl, rfl⟩
    exact adds.lookup?_of_mem made member

theorem isOrdered_of_foldlM_eq_ok (adds : AddsNew nameOf valueOf refusal add)
    (made : entries.foldlM add [] = .ok table)
    : table.IsOrdered := by
  induction entries using List.reverseRecOn generalizing table with
  | nil =>
      obtain rfl := pure_eq_ok.mp made
      exact List.Pairwise.nil
  | append_singleton others entry ih =>
      rw [foldlM_append_singleton] at made
      obtain ⟨before, madeBefore, added⟩ := bind_eq_ok.mp made
      obtain ⟨-, rfl⟩ := adds.eq_ok_iff.mp added
      exact (ih madeBefore).insert _ _

/-- The same entries make the same table in any order, since the same is found in both. -/
theorem foldlM_eq_ok_of_perm {others : List β} (adds : AddsNew nameOf valueOf refusal add)
    (same : entries.Perm others) (made : entries.foldlM add [] = .ok table)
    : others.foldlM add [] = .ok table := by
  have differ := adds.exists_foldlM_eq_ok.mp ⟨table, made⟩
  obtain ⟨again, madeAgain⟩ := adds.exists_foldlM_eq_ok.mpr ((same.map nameOf).nodup_iff.mp differ)
  have equal : again = table := by
    refine (adds.isOrdered_of_foldlM_eq_ok madeAgain).ext (adds.isOrdered_of_foldlM_eq_ok made) ?_
    intro name
    refine Option.ext fun value => ?_
    rw [adds.lookup?_eq_some_iff madeAgain, adds.lookup?_eq_some_iff made]
    simp only [same.mem_iff]
  rw [madeAgain, equal]

/-- What is refused is an entry whose name another one had before. -/
theorem failsOnlyWith_repeated (adds : AddsNew nameOf valueOf refusal add) (entries : List β)
    : FailsOnlyWith (fun error => ∃ entry ∈ entries,
          error = refusal entry ∧ 2 ≤ (entries.map nameOf).count (nameOf entry))
        (entries.foldlM add []) := by
  induction entries using List.reverseRecOn with
  | nil => exact failsOnlyWith_ok []
  | append_singleton others entry ih =>
      rw [foldlM_append_singleton]
      simp only [List.map_append, List.map_singleton, List.count_append]
      refine FailsOnlyWith.bind (ih.mono ?_) fun table made => ?_
      · intro error refused
        obtain ⟨repeated, member, refusedIt, twice⟩ := refused
        exact ⟨repeated, List.mem_append_left _ member, refusedIt, Nat.le_add_right_of_le twice⟩
      · rw [adds]
        split
        · next held =>
            rw [contains_eq, Option.isSome_iff_ne_none, ne_eq, adds.lookup?_eq_none_iff made,
              not_not] at held
            have before := List.one_le_count_iff.mpr held
            have again := List.one_le_count_iff.mpr (List.mem_singleton_self (nameOf entry))
            exact failsOnlyWith_error
              ⟨entry, List.mem_append_right _ (List.mem_singleton_self entry), rfl,
                Nat.add_le_add before again⟩
        · exact failsOnlyWith_ok _

end AddsNew

/-- A table in order is made again of its entries if the step finds each under the name that it has.
-/
theorem IsOrdered.foldlM_eq_ok {nameOf : String × α → String} {refusal : String × α → ε}
    {add : NameMap α → String × α → Except ε (NameMap α)} (ordered : IsOrdered table)
    (adds : AddsNew nameOf Prod.snd refusal add) (kept : ∀ entry ∈ table, nameOf entry = entry.1)
    : table.foldlM add [] = .ok table := by
  have differ : (table.map nameOf).Nodup := by
    rw [List.map_congr_left kept]
    exact ordered.nodup_names
  obtain ⟨again, made⟩ := adds.exists_foldlM_eq_ok.mpr differ
  have equal : again = table := by
    refine (adds.isOrdered_of_foldlM_eq_ok made).ext ordered fun name => Option.ext fun value => ?_
    rw [adds.lookup?_eq_some_iff made, ← ordered.mem_iff]
    constructor
    · rintro ⟨entry, member, rfl, rfl⟩
      rwa [kept entry member]
    · intro member
      exact ⟨(name, value), member, kept _ member, rfl⟩
  rw [made, equal]

end NewNames

end CqlGateway.NameMap
