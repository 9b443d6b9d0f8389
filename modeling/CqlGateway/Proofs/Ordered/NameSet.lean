import Mathlib.Data.List.Sort
import Mathlib.Data.String.Basic
import CqlGateway.Ordered.NameSet

/-! The members of sets of names, and their order. -/

namespace CqlGateway.NameSet

variable {names : NameSet} {added : List String} {name other : String}

-----------------------------------------------------------------------------------------
-- Members
-----------------------------------------------------------------------------------------

@[simp]
theorem mem_insert : name ∈ insert names other ↔ name = other ∨ name ∈ names := by
  fun_induction insert names other with
  | case1 => simp
  | case2 rest => simp
  | case3 held rest _ _ => simp
  | case4 held rest _ _ ih => simp only [List.mem_cons, ih, or_left_comm]

@[simp]
theorem mem_insertAll : name ∈ insertAll names added ↔ name ∈ names ∨ name ∈ added := by
  unfold insertAll
  induction added generalizing names with
  | nil => simp
  | cons first others ih =>
      rw [List.foldl_cons, ih, mem_insert, List.mem_cons, or_comm (a := name = first), or_assoc]

/-- The set of the names in a list has these names. -/
@[simp]
theorem mem_ofList : name ∈ ofList added ↔ name ∈ added := by
  simp [ofList]

/-- A name at the end of a list comes into the set last. -/
theorem ofList_append_singleton (added : List String) (name : String)
    : ofList (added ++ [name]) = (ofList added).insert name := by
  simp [ofList, insertAll]

-----------------------------------------------------------------------------------------
-- Order
-----------------------------------------------------------------------------------------

/-- The names stand in their order, and none of them stands there twice. -/
def IsOrdered (names : NameSet) : Prop :=
  names.Pairwise (· < ·)

theorem IsOrdered.insert (ordered : IsOrdered names) (name : String)
    : IsOrdered (names.insert name) := by
  fun_induction NameSet.insert names name with
  | case1 => exact List.pairwise_singleton ..
  | case2 rest => exact ordered
  | case3 held rest _ before =>
      have behind := (List.pairwise_cons.mp ordered).1
      refine List.pairwise_cons.mpr ⟨?_, ordered⟩
      rw [List.forall_mem_cons]
      exact ⟨before, fun other member => before.trans (behind other member)⟩
  | case4 held rest differs notBefore ih =>
      obtain ⟨behind, others⟩ := List.pairwise_cons.mp ordered
      have after : held < name := lt_of_le_of_ne (not_lt.mp notBefore) (Ne.symm differs)
      refine List.pairwise_cons.mpr ⟨?_, ih others⟩
      intro other member
      rcases mem_insert.mp member with rfl | inRest
      · exact after
      · exact behind other inRest

theorem IsOrdered.insertAll (ordered : IsOrdered names) (added : List String)
    : IsOrdered (names.insertAll added) := by
  unfold NameSet.insertAll
  induction added generalizing names with
  | nil => exact ordered
  | cons first others ih => exact ih (ordered.insert first)

/-- Every set of the names in a list is in order. -/
theorem isOrdered_ofList (added : List String) : IsOrdered (ofList added) :=
  IsOrdered.insertAll List.Pairwise.nil added

/-- A name that is in the set does not come into it again. -/
theorem IsOrdered.insert_of_mem (ordered : IsOrdered names) (member : name ∈ names)
    : names.insert name = names := by
  fun_induction NameSet.insert names name with
  | case1 => cases member
  | case2 rest => rfl
  | case3 held rest differs before =>
      have inRest := (List.mem_cons.mp member).resolve_left differs
      exact absurd before (lt_asymm ((List.pairwise_cons.mp ordered).1 name inRest))
  | case4 held rest differs _ ih =>
      have inRest := (List.mem_cons.mp member).resolve_left differs
      rw [ih (List.pairwise_cons.mp ordered).2 inRest]

/-- Sets in order with the same members are equal. -/
theorem IsOrdered.ext {others : NameSet} (ordered : IsOrdered names)
    (orderedToo : IsOrdered others) (same : ∀ name, name ∈ names ↔ name ∈ others)
    : names = others :=
  List.Pairwise.eq_of_mem_iff ordered orderedToo same

/-- The sets of lists with the same names are equal. -/
theorem ofList_congr {left right : List String} (same : ∀ name, name ∈ left ↔ name ∈ right)
    : ofList left = ofList right := by
  refine IsOrdered.ext (isOrdered_ofList left) (isOrdered_ofList right) ?_
  simpa using same

end CqlGateway.NameSet
