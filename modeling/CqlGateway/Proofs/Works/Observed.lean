import Mathlib.Data.List.Nodup
import CqlGateway.Proofs.Ordered.NameSet
import CqlGateway.Proofs.Works.FirstSeen

/-! A grouping shows of its hits what was seen first: the works and the units as they came, each
unit with the work that it came with first, and all manifestations of a unit. It has a form of its
own for any list of hits, of which all that can be looked up is read off.
-/

namespace CqlGateway

variable {hits : List Hit} {hit : Hit} {work unit : String}

-----------------------------------------------------------------------------------------
-- What is seen of units
-----------------------------------------------------------------------------------------

/-- The units of hits, each at the place where it is seen first. -/
def firstSeenUnits (hits : List Hit) : List String :=
  (hits.map (·.unit)).eraseDups

/-- The work that a unit is seen with first. -/
def firstWorkOf? (hits : List Hit) (unit : String) : Option String :=
  (hits.find? (·.unit = unit)).map (·.work)

/-- The units that are seen with the work first, as they are seen first. -/
def unitsFirstSeenWith (hits : List Hit) (work : String) : List String :=
  (firstSeenUnits hits).filter (firstWorkOf? hits · = some work)

/-- The manifestations that a unit is seen with, whatever the work. -/
def manifestationsSeenWith (hits : List Hit) (unit : String) : NameSet :=
  .ofList ((hits.filter (·.unit = unit)).map (·.manifestation))

theorem mem_firstSeenWorks : work ∈ firstSeenWorks hits ↔ ∃ hit ∈ hits, hit.work = work := by
  simp [firstSeenWorks]

theorem mem_firstSeenUnits : unit ∈ firstSeenUnits hits ↔ ∃ hit ∈ hits, hit.unit = unit := by
  simp [firstSeenUnits]

theorem firstSeenUnits_append_singleton (hits : List Hit) (hit : Hit)
    : firstSeenUnits (hits ++ [hit])
      = if hit.unit ∈ firstSeenUnits hits then firstSeenUnits hits
        else firstSeenUnits hits ++ [hit.unit] := by
  rw [firstSeenUnits, List.map_append, List.map_singleton, eraseDups_append_singleton]
  rfl

/-- A unit has a first work if it is seen at all. -/
theorem firstWorkOf?_eq_none : firstWorkOf? hits unit = none ↔ unit ∉ firstSeenUnits hits := by
  simp [firstWorkOf?, mem_firstSeenUnits]

theorem exists_firstWorkOf? (seen : unit ∈ firstSeenUnits hits)
    : ∃ work, firstWorkOf? hits unit = some work :=
  Option.ne_none_iff_exists'.mp fun none => firstWorkOf?_eq_none.mp none seen

/-- The first work of a unit is seen. -/
theorem mem_firstSeenWorks_of_firstWorkOf? (found : firstWorkOf? hits unit = some work)
    : work ∈ firstSeenWorks hits := by
  obtain ⟨hit, first, same⟩ := Option.map_eq_some_iff.mp found
  exact mem_firstSeenWorks.mpr ⟨hit, List.mem_of_find?_eq_some first, same⟩

theorem mem_firstSeenUnits_of_firstWorkOf? (found : firstWorkOf? hits unit = some work)
    : unit ∈ firstSeenUnits hits := by
  by_contra unseen
  rw [firstWorkOf?_eq_none.mpr unseen] at found
  cases found

/-- A further hit does not change the first work of a unit that was seen. -/
theorem firstWorkOf?_append_of_mem (later : List Hit) (seen : unit ∈ firstSeenUnits hits)
    : firstWorkOf? (hits ++ later) unit = firstWorkOf? hits unit := by
  have found : hits.find? (·.unit = unit) ≠ none := fun none =>
    firstWorkOf?_eq_none.mp (by simp [firstWorkOf?, none]) seen
  obtain ⟨hit, first⟩ := Option.ne_none_iff_exists'.mp found
  simp [firstWorkOf?, List.find?_append, first]

theorem firstWorkOf?_append_of_new (new : hit.unit ∉ firstSeenUnits hits)
    : firstWorkOf? (hits ++ [hit]) hit.unit = some hit.work := by
  have none : hits.find? (·.unit = hit.unit) = none := by
    simpa [mem_firstSeenUnits] using new
  simp [firstWorkOf?, List.find?_append, none]

theorem mem_unitsFirstSeenWith
    : unit ∈ unitsFirstSeenWith hits work ↔ firstWorkOf? hits unit = some work := by
  rw [unitsFirstSeenWith, List.mem_filter, decide_eq_true_eq]
  exact ⟨And.right, fun found => ⟨mem_firstSeenUnits_of_firstWorkOf? found, found⟩⟩

theorem unitsFirstSeenWith_eq_nil (unseen : work ∉ firstSeenWorks hits)
    : unitsFirstSeenWith hits work = [] := by
  refine List.eq_nil_iff_forall_not_mem.mpr fun unit member => unseen ?_
  exact mem_firstSeenWorks_of_firstWorkOf? (mem_unitsFirstSeenWith.mp member)

/-- A hit of a unit that was seen adds a unit to no work. -/
theorem unitsFirstSeenWith_append_of_mem (seen : hit.unit ∈ firstSeenUnits hits) (work : String)
    : unitsFirstSeenWith (hits ++ [hit]) work = unitsFirstSeenWith hits work := by
  rw [unitsFirstSeenWith, firstSeenUnits_append_singleton, if_pos seen]
  refine List.filter_congr fun unit member => ?_
  rw [firstWorkOf?_append_of_mem [hit] member]

/-- A hit of a new unit puts it behind the units of its work. -/
theorem unitsFirstSeenWith_append_of_new (new : hit.unit ∉ firstSeenUnits hits) (work : String)
    : unitsFirstSeenWith (hits ++ [hit]) work
      = unitsFirstSeenWith hits work ++ if hit.work = work then [hit.unit] else [] := by
  have others : (firstSeenUnits hits).filter (firstWorkOf? (hits ++ [hit]) · = some work)
      = unitsFirstSeenWith hits work := by
    refine List.filter_congr fun unit member => ?_
    rw [firstWorkOf?_append_of_mem [hit] member]
  rw [unitsFirstSeenWith, firstSeenUnits_append_singleton, if_neg new, List.filter_append, others,
    List.filter_singleton, firstWorkOf?_append_of_new new]
  simp

theorem manifestationsSeenWith_append (hits : List Hit) (hit : Hit) (unit : String)
    : manifestationsSeenWith (hits ++ [hit]) unit
      = if unit = hit.unit then (manifestationsSeenWith hits unit).insert hit.manifestation
        else manifestationsSeenWith hits unit := by
  rw [manifestationsSeenWith, List.filter_append, List.map_append]
  split
  · next same => simp [same, NameSet.ofList_append_singleton, manifestationsSeenWith]
  · next other => simp [Ne.symm other, manifestationsSeenWith]

theorem mem_manifestationsSeenWith {name : String}
    : name ∈ manifestationsSeenWith hits unit
      ↔ ∃ hit ∈ hits, hit.unit = unit ∧ hit.manifestation = name := by
  simp [manifestationsSeenWith, and_assoc]

theorem isOrdered_manifestationsSeenWith (hits : List Hit) (unit : String)
    : (manifestationsSeenWith hits unit).IsOrdered :=
  NameSet.isOrdered_ofList _

theorem manifestationsSeenWith_eq_nil (unseen : unit ∉ firstSeenUnits hits)
    : manifestationsSeenWith hits unit = [] := by
  have none : hits.filter (·.unit = unit) = [] := by
    simpa [mem_firstSeenUnits] using unseen
  rw [manifestationsSeenWith, none]
  rfl

-----------------------------------------------------------------------------------------
-- The grouping of a list of hits
-----------------------------------------------------------------------------------------

/-- A unit with all manifestations that it is seen with. -/
def UnitGroup.seenIn (hits : List Hit) (unit : String) : UnitGroup :=
  {
    id := unit
    manifestations := manifestationsSeenWith hits unit
  }

@[simp]
theorem UnitGroup.id_seenIn : (UnitGroup.seenIn hits unit).id = unit := by
  rfl

/-- A hit adds its manifestation to its unit and to no other one. -/
theorem UnitGroup.seenIn_append (hits : List Hit) (hit : Hit) (unit : String)
    : UnitGroup.seenIn (hits ++ [hit]) unit
      = if unit = hit.unit
        then ⟨unit, (manifestationsSeenWith hits unit).insert hit.manifestation⟩
        else UnitGroup.seenIn hits unit := by
  rw [UnitGroup.seenIn, manifestationsSeenWith_append]
  split <;> rfl

/-- A hit that was seen already adds nothing to its unit. -/
theorem UnitGroup.seenIn_append_of_mem (member : hit ∈ hits)
    : UnitGroup.seenIn (hits ++ [hit]) = UnitGroup.seenIn hits := by
  funext unit
  rw [UnitGroup.seenIn_append]
  split
  · next same =>
      have known := mem_manifestationsSeenWith.mpr ⟨hit, member, same.symm, rfl⟩
      rw [(isOrdered_manifestationsSeenWith hits unit).insert_of_mem known, UnitGroup.seenIn]
  · rfl

/-- A work with the units that are seen with it first. -/
def WorkGroup.seenIn (hits : List Hit) (work : String) : WorkGroup :=
  {
    id := work
    units := (unitsFirstSeenWith hits work).map (UnitGroup.seenIn hits)
  }

theorem WorkGroup.hasUnit_seenIn
    : (WorkGroup.seenIn hits work).hasUnit unit = true ↔ firstWorkOf? hits unit = some work := by
  rw [← mem_unitsFirstSeenWith]
  simp [WorkGroup.hasUnit, WorkGroup.seenIn]

/-- A hit of a unit that was seen adds its manifestation to the unit, where the unit is. -/
theorem WorkGroup.addManifestation_seenIn (seen : hit.unit ∈ firstSeenUnits hits) (work : String)
    : (WorkGroup.seenIn hits work).addManifestation hit.unit hit.manifestation
      = WorkGroup.seenIn (hits ++ [hit]) work := by
  simp only [WorkGroup.addManifestation, WorkGroup.seenIn, List.map_map,
    unitsFirstSeenWith_append_of_mem seen]
  congr 1
  refine List.map_congr_left fun unit _ => ?_
  rw [UnitGroup.seenIn_append]
  rfl

/-- A hit of a new unit changes no unit that was seen. -/
theorem WorkGroup.units_seenIn_append (new : hit.unit ∉ firstSeenUnits hits) (work : String)
    : (unitsFirstSeenWith hits work).map (UnitGroup.seenIn (hits ++ [hit]))
      = (WorkGroup.seenIn hits work).units := by
  refine List.map_congr_left fun unit member => ?_
  have other : unit ≠ hit.unit := by
    rintro rfl
    exact new (List.mem_of_mem_filter member)
  rw [UnitGroup.seenIn_append, if_neg other]

/-- A hit of a new unit adds it to its work. -/
theorem WorkGroup.addUnit_seenIn (new : hit.unit ∉ firstSeenUnits hits) (work : String)
    : (if (WorkGroup.seenIn hits work).id = hit.work
        then (WorkGroup.seenIn hits work).addUnit hit.unit hit.manifestation
        else WorkGroup.seenIn hits work)
      = WorkGroup.seenIn (hits ++ [hit]) work := by
  have added : UnitGroup.seenIn (hits ++ [hit]) hit.unit = ⟨hit.unit, [hit.manifestation]⟩ := by
    rw [UnitGroup.seenIn_append, if_pos rfl, manifestationsSeenWith_eq_nil new]
    rfl
  have whole : WorkGroup.seenIn (hits ++ [hit]) work
      = ⟨work, (WorkGroup.seenIn hits work).units
          ++ if hit.work = work then [⟨hit.unit, [hit.manifestation]⟩] else []⟩ := by
    rw [WorkGroup.seenIn, unitsFirstSeenWith_append_of_new new, List.map_append,
      WorkGroup.units_seenIn_append new, ← added]
    split <;> rfl
  rw [whole]
  by_cases same : hit.work = work
  · subst same
    simp [WorkGroup.addUnit, WorkGroup.seenIn]
  · simp [WorkGroup.seenIn, Ne.symm same, same]

namespace Grouping

theorem works_map_seenIn (works : List String)
    : Grouping.works (works.map (WorkGroup.seenIn hits)) = works := by
  simp [Grouping.works, Function.comp_def, WorkGroup.seenIn]

/-- A new work comes behind the others, and no unit is seen with it yet. -/
theorem withWork_seenIn (hits : List Hit) (hit : Hit)
    : withWork ((firstSeenWorks hits).map (WorkGroup.seenIn hits)) hit.work
      = (firstSeenWorks (hits ++ [hit])).map (WorkGroup.seenIn hits) := by
  rw [withWork, firstSeenWorks_append_singleton]
  simp only [hasWork_iff, works_map_seenIn]
  split
  · rfl
  · next new =>
      rw [List.map_append, List.map_singleton, WorkGroup.seenIn, unitsFirstSeenWith_eq_nil new,
        List.map_nil]

/-- The unit of a hit is known if it was seen before, since its first work is among the works. -/
theorem hasUnit_seenIn (hits : List Hit) (hit : Hit) (unit : String)
    : hasUnit ((firstSeenWorks (hits ++ [hit])).map (WorkGroup.seenIn hits)) unit = true
      ↔ unit ∈ firstSeenUnits hits := by
  rw [hasUnit, List.any_map, List.any_eq_true]
  simp only [Function.comp_apply, WorkGroup.hasUnit_seenIn]
  constructor
  · rintro ⟨work, _, found⟩
    exact mem_firstSeenUnits_of_firstWorkOf? found
  · intro seen
    obtain ⟨work, found⟩ := exists_firstWorkOf? seen
    have begins := firstSeenWorks_prefix (List.prefix_append hits [hit])
    exact ⟨work, begins.subset (mem_firstSeenWorks_of_firstWorkOf? found), found⟩

theorem placeUnit_seenIn (hits : List Hit) (hit : Hit)
    : placeUnit ((firstSeenWorks (hits ++ [hit])).map (WorkGroup.seenIn hits)) hit
      = (firstSeenWorks (hits ++ [hit])).map (WorkGroup.seenIn (hits ++ [hit])) := by
  rw [placeUnit]
  simp only [hasUnit_seenIn, List.map_map]
  split
  · next seen => exact List.map_congr_left fun work _ => WorkGroup.addManifestation_seenIn seen work
  · next new => exact List.map_congr_left fun work _ => WorkGroup.addUnit_seenIn new work

/-- The grouping of hits: the works as they are seen first, each with the units that are seen with
it first. By induction on the hits with the last one taken off.
-/
theorem ofHits_eq (hits : List Hit)
    : ofHits hits = (firstSeenWorks hits).map (WorkGroup.seenIn hits) := by
  induction hits using List.reverseRecOn with
  | nil => rfl
  | append_singleton hits hit ih =>
      rw [ofHits_append, List.foldl_cons, List.foldl_nil, ih, insert, withWork_seenIn,
        placeUnit_seenIn]

-----------------------------------------------------------------------------------------
-- What is looked up
-----------------------------------------------------------------------------------------

/-- A name that is asked for is found among the groups if it is one of theirs. -/
theorem find?_map_of_iff {α : Type} {names : List String} {group : String → α} {isAsked : α → Bool}
    (name : String) (asked : ∀ other, isAsked (group other) = true ↔ other = name)
    : (names.map group).find? isAsked = if name ∈ names then some (group name) else none := by
  have same : isAsked ∘ group = fun other => decide (other = name) := by
    funext other
    rw [Function.comp_apply, Bool.eq_iff_iff, asked, decide_eq_true_eq]
  rw [List.find?_map, same]
  split
  · next member =>
      obtain ⟨other, found⟩ := Option.isSome_iff_exists.mp
        (List.find?_isSome (p := fun other => decide (other = name)).mpr ⟨name, member, by simp⟩)
      have first : other = name := by simpa using List.find?_some found
      rw [found, first, Option.map_some]
  · next missing =>
      have none : names.find? (fun other => decide (other = name)) = none := by
        refine List.find?_eq_none.mpr fun other member same => missing ?_
        rwa [← of_decide_eq_true same]
      rw [none, Option.map_none]

theorem units_ofHits (hits : List Hit) (work : String)
    : (ofHits hits).units work
      = if work ∈ firstSeenWorks hits then .ok (unitsFirstSeenWith hits work)
        else .error (.work work) := by
  rw [units, ofHits_eq, find?_map_of_iff work fun _ => decide_eq_true_iff]
  by_cases seen : work ∈ firstSeenWorks hits
  · simp [seen, WorkGroup.seenIn, Function.comp_def]
  · simp [seen]

/-- The units of all works, one work after the other. -/
theorem flatMap_units_ofHits (hits : List Hit)
    : (ofHits hits).flatMap (·.units)
      = ((firstSeenWorks hits).flatMap (unitsFirstSeenWith hits)).map (UnitGroup.seenIn hits) := by
  rw [ofHits_eq, List.flatMap_map, List.map_flatMap]
  rfl

/-- All units that are seen are units of some work. -/
theorem mem_flatMap_unitsFirstSeenWith
    : unit ∈ (firstSeenWorks hits).flatMap (unitsFirstSeenWith hits)
      ↔ unit ∈ firstSeenUnits hits := by
  simp only [List.mem_flatMap, mem_unitsFirstSeenWith]
  constructor
  · rintro ⟨work, _, found⟩
    exact mem_firstSeenUnits_of_firstWorkOf? found
  · intro seen
    obtain ⟨work, found⟩ := exists_firstWorkOf? seen
    exact ⟨work, mem_firstSeenWorks_of_firstWorkOf? found, found⟩

/-- No unit stands with two works, or twice with one, since it has one first work. -/
theorem nodup_flatMap_unitsFirstSeenWith (hits : List Hit)
    : ((firstSeenWorks hits).flatMap (unitsFirstSeenWith hits)).Nodup := by
  refine List.nodup_flatMap.mpr ⟨fun work _ => (nodup_eraseDups _).filter _, ?_⟩
  refine (nodup_eraseDups _).imp fun {left right} differ => ?_
  intro unit inLeft inRight
  rw [mem_unitsFirstSeenWith] at inLeft inRight
  exact differ (Option.some.inj (inLeft.symm.trans inRight))

theorem workOf_ofHits (hits : List Hit) (unit : String)
    : (ofHits hits).workOf unit
      = match firstWorkOf? hits unit with
        | some work => .ok work
        | none => .error (.unit unit) := by
  rw [workOf, ofHits_eq]
  cases found : firstWorkOf? hits unit with
  | some work =>
      have known := mem_firstSeenWorks_of_firstWorkOf? found
      have asked (other : String)
          : (WorkGroup.seenIn hits other).hasUnit unit = true ↔ other = work := by
        rw [WorkGroup.hasUnit_seenIn, found, Option.some_inj, eq_comm]
      rw [find?_map_of_iff work asked, if_pos known]
      rfl
  | none =>
      have unseen : ((firstSeenWorks hits).map (WorkGroup.seenIn hits)).find? (·.hasUnit unit)
          = none := by
        simp [List.find?_eq_none, WorkGroup.hasUnit_seenIn, found]
      rw [unseen]

/-- A unit is found with the work that it belongs to. -/
theorem mem_units_iff_workOf_ofHits (hits : List Hit) (unit work : String)
    : (∃ units, (ofHits hits).units work = .ok units ∧ unit ∈ units)
      ↔ (ofHits hits).workOf unit = .ok work := by
  rw [units_ofHits, workOf_ofHits]
  constructor
  · rintro ⟨units, found, member⟩
    split at found
    · cases found
      rw [mem_unitsFirstSeenWith.mp member]
    · cases found
  · intro found
    split at found
    · next first same =>
        cases found
        exact ⟨_, if_pos (mem_firstSeenWorks_of_firstWorkOf? same), mem_unitsFirstSeenWith.mpr same⟩
    · cases found

theorem manifestations_ofHits (hits : List Hit) (unit : String)
    : (ofHits hits).manifestations unit
      = if unit ∈ firstSeenUnits hits then .ok (manifestationsSeenWith hits unit)
        else .error (.unit unit) := by
  rw [manifestations, flatMap_units_ofHits, find?_map_of_iff unit (by simp)]
  simp only [mem_flatMap_unitsFirstSeenWith]
  by_cases seen : unit ∈ firstSeenUnits hits
  · simp [seen, UnitGroup.seenIn]
  · simp [seen]

/-- A hit that was taken in already changes nothing. -/
theorem ofHits_append_of_mem (member : hit ∈ hits) : ofHits (hits ++ [hit]) = ofHits hits := by
  have seenWork := mem_firstSeenWorks.mpr ⟨hit, member, rfl⟩
  have seenUnit := mem_firstSeenUnits.mpr ⟨hit, member, rfl⟩
  rw [ofHits_eq, ofHits_eq, firstSeenWorks_append_singleton, if_pos seenWork]
  refine List.map_congr_left fun work _ => ?_
  rw [WorkGroup.seenIn, WorkGroup.seenIn, unitsFirstSeenWith_append_of_mem seenUnit,
    UnitGroup.seenIn_append_of_mem member]

/-- The next hit brings a new work if its work was not seen. -/
theorem insertNew_ofHits (hits : List Hit) (hit : Hit)
    : (ofHits hits).insertNew hit
      = (decide (hit.work ∉ firstSeenWorks hits), ofHits (hits ++ [hit])) := by
  have isNew : (!(ofHits hits).hasWork hit.work) = decide (hit.work ∉ firstSeenWorks hits) := by
    rw [Bool.eq_iff_iff, Bool.not_eq_true', ← Bool.not_eq_true, hasWork_iff, works_ofHits,
      decide_eq_true_iff]
  rw [insertNew, isNew, ofHits_append, List.foldl_cons, List.foldl_nil]

/-- The units that are looked up for all works, one work after the other. -/
theorem flatMap_units_works_ofHits (hits : List Hit)
    : ((ofHits hits).works.flatMap fun work => ((ofHits hits).units work).toOption.getD [])
      = (firstSeenWorks hits).flatMap (unitsFirstSeenWith hits) := by
  rw [works_ofHits]
  refine List.flatMap_congr fun work seen => ?_
  rw [units_ofHits, if_pos seen]
  rfl

/-- Over all works, each unit that was seen stands once. -/
theorem count_units_works_ofHits (seen : unit ∈ firstSeenUnits hits)
    : ((ofHits hits).works.flatMap fun work =>
        ((ofHits hits).units work).toOption.getD []).count unit = 1 := by
  rw [flatMap_units_works_ofHits]
  exact List.count_eq_one_of_mem (nodup_flatMap_unitsFirstSeenWith hits)
    (mem_flatMap_unitsFirstSeenWith.mpr seen)

/-- What a grouping shows of the hits that it was made of. -/
structure ShowsFirstSeen (hits : List Hit) (grouping : Grouping) : Prop where
  works : grouping.works = firstSeenWorks hits
  hasWork (work : String) : grouping.hasWork work = true ↔ ∃ hit ∈ hits, hit.work = work
  /-- A work that was seen has the units that were seen with it first, as they were seen first. -/
  units (work : String)
    : grouping.units work
      = if work ∈ firstSeenWorks hits then .ok (unitsFirstSeenWith hits work)
        else .error (.work work)
  /-- A unit that was seen belongs to the work of the first hit that names it. -/
  workOf (unit : String)
    : grouping.workOf unit
      = match firstWorkOf? hits unit with
        | some work => .ok work
        | none => .error (.unit unit)
  /-- Every unit that was seen is a unit of one work, and stands there once. -/
  once
    : ∀ unit ∈ firstSeenUnits hits,
        (grouping.works.flatMap fun work => (grouping.units work).toOption.getD []).count unit = 1
  /-- A unit is a unit of the work that it belongs to and of no other one. -/
  belongs (unit work : String)
    : (∃ units, grouping.units work = .ok units ∧ unit ∈ units)
      ↔ grouping.workOf unit = .ok work
  /-- A unit that was seen has the manifestations of all hits that name it, each of them once. -/
  manifestations (unit : String)
    : if unit ∈ firstSeenUnits hits
      then ∃ names,
        grouping.manifestations unit = .ok names
        ∧ names.IsOrdered
        ∧ ∀ name, name ∈ names ↔ ∃ hit ∈ hits, hit.unit = unit ∧ hit.manifestation = name
      else grouping.manifestations unit = .error (.unit unit)
  /-- Hits that were taken in already change nothing. -/
  again : ∀ hit ∈ hits, grouping.insertNew hit = (false, grouping)

/-- The grouping of any hits shows what was seen first of them. The next hit is told to bring a new
work if its work was not seen, and the grouping behind it is that of the hits with it.
-/
theorem ofHits_shows_first_seen (hits : List Hit)
    : ShowsFirstSeen hits (ofHits hits)
      ∧ ∀ hit,
        (ofHits hits).insertNew hit
          = (decide (hit.work ∉ firstSeenWorks hits), ofHits (hits ++ [hit])) := by
  refine ⟨{
    works := works_ofHits hits
    hasWork := ?_
    units := units_ofHits hits
    workOf := workOf_ofHits hits
    once := fun _ => count_units_works_ofHits
    belongs := mem_units_iff_workOf_ofHits hits
    manifestations := ?_
    again := ?_
  }, insertNew_ofHits hits⟩
  · intro work
    rw [hasWork_iff, works_ofHits, mem_firstSeenWorks]
  · intro unit
    rw [manifestations_ofHits]
    split
    · next seen =>
        exact ⟨_, rfl, isOrdered_manifestationsSeenWith hits unit,
          fun _ => mem_manifestationsSeenWith⟩
    · rfl
  · intro hit member
    have known := mem_firstSeenWorks.mpr ⟨hit, member, rfl⟩
    rw [insertNew_ofHits, ofHits_append_of_mem member]
    simpa using known

end Grouping

end CqlGateway
