import CqlGateway.Proofs.Ordered.NameMap
import CqlGateway.Proofs.Works.Observed
import CqlGateway.Works.Tables

/-! The tables of hits show what the grouping of the hits shows. Each table has its own sentence
about the hits that were taken in, and a further hit keeps all of them.
-/

namespace CqlGateway.WorkTables

variable {tables : WorkTables} {hits : List Hit} {hit : Hit}

-----------------------------------------------------------------------------------------
-- What the tables hold
-----------------------------------------------------------------------------------------

/-- The tables hold what was seen first of the hits. -/
structure Holds (tables : WorkTables) (hits : List Hit) : Prop where
  works : tables.works = firstSeenWorks hits
  seenWorks (work : String) : work ∈ tables.seenWorks ↔ work ∈ firstSeenWorks hits
  units (work : String)
    : tables.units.lookup? work
      = if work ∈ firstSeenWorks hits then some (unitsFirstSeenWith hits work) else none
  unitWork (unit : String) : tables.unitWork.lookup? unit = firstWorkOf? hits unit
  manifestations (unit : String)
    : tables.manifestations.lookup? unit
      = if unit ∈ firstSeenUnits hits then some (manifestationsSeenWith hits unit) else none

theorem holds_empty : empty.Holds [] where
  works := rfl
  seenWorks _ := Iff.rfl
  units _ := rfl
  unitWork _ := rfl
  manifestations _ := rfl

theorem Holds.containsWork_iff (holds : tables.Holds hits) (work : String)
    : tables.containsWork work = true ↔ work ∈ firstSeenWorks hits := by
  rw [containsWork, List.contains_iff_mem, holds.seenWorks]

theorem Holds.contains_unitWork_iff (holds : tables.Holds hits) (unit : String)
    : tables.unitWork.contains unit = true ↔ unit ∈ firstSeenUnits hits := by
  rw [NameMap.contains_eq, holds.unitWork, Option.isSome_iff_ne_none, ne_eq, firstWorkOf?_eq_none,
    not_not]

-----------------------------------------------------------------------------------------
-- What a hit changes
-----------------------------------------------------------------------------------------

section Unchanged

variable (tables : WorkTables) (work unit : String)

@[simp]
theorem unitWork_withWork : (tables.withWork work).unitWork = tables.unitWork := by
  unfold withWork
  split <;> rfl

@[simp]
theorem manifestations_withWork
    : (tables.withWork work).manifestations = tables.manifestations := by
  unfold withWork
  split <;> rfl

@[simp]
theorem works_withUnit : (tables.withUnit work unit).works = tables.works := by
  unfold withUnit
  split <;> rfl

@[simp]
theorem seenWorks_withUnit : (tables.withUnit work unit).seenWorks = tables.seenWorks := by
  unfold withUnit
  split <;> rfl

@[simp]
theorem manifestations_withUnit
    : (tables.withUnit work unit).manifestations = tables.manifestations := by
  unfold withUnit
  split <;> rfl

end Unchanged

theorem Holds.works_withWork (holds : tables.Holds hits) (hit : Hit)
    : (tables.withWork hit.work).works = firstSeenWorks (hits ++ [hit]) := by
  rw [firstSeenWorks_append_singleton, withWork]
  simp only [holds.containsWork_iff]
  split
  · exact holds.works
  · rw [← holds.works]

theorem Holds.mem_seenWorks_withWork (holds : tables.Holds hits) (hit : Hit) (work : String)
    : work ∈ (tables.withWork hit.work).seenWorks ↔ work ∈ firstSeenWorks (hits ++ [hit]) := by
  rw [firstSeenWorks_append_singleton, withWork]
  simp only [holds.containsWork_iff]
  split
  · exact holds.seenWorks work
  · rw [NameSet.mem_insert, holds.seenWorks, List.mem_append, List.mem_singleton, or_comm]

/-- A new work comes in without units, and no unit is seen with it yet. -/
theorem Holds.lookup?_units_withWork (holds : tables.Holds hits) (hit : Hit) (work : String)
    : (tables.withWork hit.work).units.lookup? work
      = if work ∈ firstSeenWorks (hits ++ [hit]) then some (unitsFirstSeenWith hits work)
        else none := by
  rw [firstSeenWorks_append_singleton, withWork]
  simp only [holds.containsWork_iff]
  split
  · exact holds.units work
  · next new =>
      rw [NameMap.lookup?_update, holds.units]
      by_cases same : hit.work = work
      · subst same
        simp [new, unitsFirstSeenWith_eq_nil new]
      · simp [same, Ne.symm same]

/-- A new unit goes to the work that it is seen with first, and to no other one. -/
theorem Holds.lookup?_units_withUnit (holds : tables.Holds hits) (hit : Hit) (work : String)
    : ((tables.withWork hit.work).withUnit hit.work hit.unit).units.lookup? work
      = if work ∈ firstSeenWorks (hits ++ [hit]) then some (unitsFirstSeenWith (hits ++ [hit]) work)
        else none := by
  rw [withUnit]
  simp only [unitWork_withWork, holds.contains_unitWork_iff]
  split
  · next seen => rw [holds.lookup?_units_withWork, unitsFirstSeenWith_append_of_mem seen]
  · next new =>
      rw [NameMap.lookup?_update, holds.lookup?_units_withWork,
        unitsFirstSeenWith_append_of_new new]
      by_cases same : hit.work = work
      · subst same
        have known : hit.work ∈ firstSeenWorks (hits ++ [hit]) :=
          mem_firstSeenWorks.mpr ⟨hit, List.mem_append_right _ (List.mem_singleton_self hit), rfl⟩
        simp [known]
      · simp [same]

/-- A further hit gives a work to its unit if the unit had none. -/
theorem firstWorkOf?_append_singleton (hits : List Hit) (hit : Hit) (unit : String)
    : firstWorkOf? (hits ++ [hit]) unit
      = (firstWorkOf? hits unit).or (if hit.unit = unit then some hit.work else none) := by
  rw [firstWorkOf?, List.find?_append, Option.map_or, firstWorkOf?, List.find?_singleton]
  by_cases same : hit.unit = unit
  · simp [same]
  · simp [same]

theorem Holds.lookup?_unitWork_withUnit (holds : tables.Holds hits) (hit : Hit) (unit : String)
    : ((tables.withWork hit.work).withUnit hit.work hit.unit).unitWork.lookup? unit
      = firstWorkOf? (hits ++ [hit]) unit := by
  rw [withUnit, firstWorkOf?_append_singleton]
  simp only [unitWork_withWork, holds.contains_unitWork_iff]
  split
  · next seen =>
      rw [unitWork_withWork, holds.unitWork]
      split
      · next same =>
          obtain ⟨work, found⟩ := exists_firstWorkOf? seen
          rw [← same, found, Option.some_or]
      · rw [Option.or_none]
  · next new =>
      rw [NameMap.lookup?_insert, holds.unitWork]
      split
      · next same => rw [← same, firstWorkOf?_eq_none.mpr new, Option.none_or]
      · rw [Option.or_none]

/-- A hit is taken in by all tables. -/
theorem Holds.insert (holds : tables.Holds hits) (hit : Hit)
    : (tables.insert hit).2.Holds (hits ++ [hit]) where
  works := by
    rw [WorkTables.insert, withManifestation, works_withUnit, holds.works_withWork]
  seenWorks work := by
    rw [WorkTables.insert, withManifestation, seenWorks_withUnit, holds.mem_seenWorks_withWork]
  units := holds.lookup?_units_withUnit hit
  unitWork := holds.lookup?_unitWork_withUnit hit
  manifestations unit := by
    have seen : unit ∈ firstSeenUnits (hits ++ [hit])
        ↔ hit.unit = unit ∨ unit ∈ firstSeenUnits hits := by
      simp [mem_firstSeenUnits, or_and_right, exists_or, or_comm]
    rw [WorkTables.insert, withManifestation, manifestations_withUnit, manifestations_withWork,
      NameMap.lookup?_update, holds.manifestations, manifestationsSeenWith_append]
    simp only [seen]
    by_cases same : hit.unit = unit
    · subst same
      by_cases known : hit.unit ∈ firstSeenUnits hits
      · simp [known]
      · simp [known, manifestationsSeenWith_eq_nil known]
    · simp [same, Ne.symm same]

/-- The tables hold what was seen, by induction on the hits with the last one taken off. -/
theorem holds_ofHits (hits : List Hit) : (ofHits hits).Holds hits := by
  induction hits using List.reverseRecOn with
  | nil => exact holds_empty
  | append_singleton hits hit ih =>
      rw [ofHits, List.foldl_append, List.foldl_cons, List.foldl_nil]
      exact ih.insert hit

-----------------------------------------------------------------------------------------
-- What the tables show
-----------------------------------------------------------------------------------------

/-- Whatever is asked of the tables and of the grouping, the answers are the same. -/
structure ShowsSame (tables : WorkTables) (grouping : Grouping) : Prop where
  works : tables.works = grouping.works
  containsWork (work : String) : tables.containsWork work = grouping.hasWork work
  units (work : String) : tables.unitsOf work = grouping.units work
  workOf (unit : String) : tables.workOf unit = grouping.workOf unit
  manifestations (unit : String) : tables.manifestationsOf unit = grouping.manifestations unit

/-- Tables and a grouping of the same hits show the same, since both show what was seen first. -/
theorem Holds.showsSame (holds : tables.Holds hits) : tables.ShowsSame (Grouping.ofHits hits) where
  works := by
    rw [holds.works, works_ofHits]
  containsWork work := by
    rw [Bool.eq_iff_iff, holds.containsWork_iff, Grouping.hasWork_iff, works_ofHits]
  units work := by
    rw [unitsOf, holds.units, Grouping.units_ofHits]
    by_cases seen : work ∈ firstSeenWorks hits
    · simp [seen]
    · simp [seen]
  workOf unit := by
    rw [workOf, holds.unitWork]
    exact (Grouping.workOf_ofHits hits unit).symm
  manifestations unit := by
    rw [manifestationsOf, holds.manifestations, Grouping.manifestations_ofHits]
    by_cases seen : unit ∈ firstSeenUnits hits
    · simp [seen]
    · simp [seen]

/-- Tables show what the grouping of the hits shows, and so they do behind any further hit, of which
both tell alike whether its work is new.
-/
theorem ofHits_showsSame (hits : List Hit)
    : (ofHits hits).ShowsSame (.ofHits hits)
      ∧ ∀ hit,
        ((ofHits hits).insert hit).1 = ((Grouping.ofHits hits).insertNew hit).1
        ∧ ((ofHits hits).insert hit).2.ShowsSame ((Grouping.ofHits hits).insertNew hit).2 := by
  have holds := holds_ofHits hits
  refine ⟨holds.showsSame, fun hit => ⟨?_, ?_⟩⟩
  · rw [WorkTables.insert, Grouping.insertNew, holds.showsSame.containsWork]
  · rw [Grouping.insertNew_ofHits]
    exact (holds.insert hit).showsSame

end CqlGateway.WorkTables
