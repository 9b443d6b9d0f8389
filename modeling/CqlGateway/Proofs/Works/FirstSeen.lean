import CqlGateway.Works.Grouping
import Mathlib.Data.List.Induction

/-! The works of a grouping are those of its hits in the order in which they were first seen, so
further hits only add works behind the others.
-/

namespace CqlGateway.Grouping

variable {grouping : Grouping} {hits : List Hit}

@[simp]
theorem id_addManifestation (work : WorkGroup) (unit manifestation : String)
    : (work.addManifestation unit manifestation).id = work.id := by
  rfl

@[simp]
theorem id_addUnit (work : WorkGroup) (unit manifestation : String)
    : (work.addUnit unit manifestation).id = work.id := by
  rfl

theorem hasWork_iff (work : String) : grouping.hasWork work = true ↔ work ∈ grouping.works := by
  simp [hasWork, works]

/-- Units and manifestations leave the works as they are. -/
theorem works_placeUnit (hit : Hit) : (grouping.placeUnit hit).works = grouping.works := by
  unfold placeUnit works
  split
  · simp [Function.comp_def]
  · rw [List.map_map]
    refine List.map_congr_left ?_
    intro work _
    simp only [Function.comp_apply]
    split
    · exact id_addUnit ..
    · rfl

/-- A hit puts its work behind the others, unless the work is there. -/
theorem works_insert (hit : Hit)
    : (grouping.insert hit).works
      = if hit.work ∈ grouping.works then grouping.works else grouping.works ++ [hit.work] := by
  rw [insert, works_placeUnit, withWork]
  simp only [hasWork_iff]
  split
  · rfl
  · simp [works]

/-- Hits that come later are inserted into the grouping of those before. -/
theorem ofHits_append (later : List Hit)
    : ofHits (hits ++ later) = later.foldl insert (ofHits hits) := by
  rw [ofHits, List.foldl_append, ofHits]

end CqlGateway.Grouping

namespace CqlGateway

/-- The works of hits, each at the place where it is seen first. -/
def firstSeenWorks (hits : List Hit) : List String :=
  (hits.map (·.work)).eraseDups

theorem eraseDups_append_singleton (names : List String) (name : String)
    : (names ++ [name]).eraseDups
      = if name ∈ names.eraseDups then names.eraseDups else names.eraseDups ++ [name] := by
  rw [List.eraseDups_append]
  simp only [List.mem_eraseDups]
  split
  · next seen => simp [List.removeAll, seen]
  · next new => simp [List.removeAll, new, List.eraseDups_cons]

/-- No name is left twice. -/
theorem nodup_eraseDups (names : List String) : names.eraseDups.Nodup := by
  induction names using List.reverseRecOn with
  | nil => exact List.nodup_nil
  | append_singleton names name ih =>
      rw [eraseDups_append_singleton]
      split
      · exact ih
      · next new =>
          refine List.nodup_append.mpr ⟨ih, List.pairwise_singleton _ name, ?_⟩
          intro held member other last
          rw [List.mem_singleton.mp last]
          exact ne_of_mem_of_not_mem member new

theorem firstSeenWorks_append_singleton (hits : List Hit) (hit : Hit)
    : firstSeenWorks (hits ++ [hit])
      = if hit.work ∈ firstSeenWorks hits then firstSeenWorks hits
        else firstSeenWorks hits ++ [hit.work] := by
  rw [firstSeenWorks, List.map_append, List.map_singleton, eraseDups_append_singleton]
  rfl

/-- The works of a grouping are those of its hits as they were first seen, by induction on the hits
with the last one taken off.
-/
theorem works_ofHits (hits : List Hit) : (Grouping.ofHits hits).works = firstSeenWorks hits := by
  induction hits using List.reverseRecOn with
  | nil => rfl
  | append_singleton hits hit ih =>
      rw [Grouping.ofHits_append, List.foldl_cons, List.foldl_nil, Grouping.works_insert, ih,
        firstSeenWorks_append_singleton]

/-- Hits that come later do not move the works that were seen before. -/
theorem firstSeenWorks_prefix {hits later : List Hit} (begins : hits <+: later)
    : firstSeenWorks hits <+: firstSeenWorks later := by
  obtain ⟨rest, rfl⟩ := begins
  rw [firstSeenWorks, firstSeenWorks, List.map_append, List.eraseDups_append]
  exact List.prefix_append ..

theorem length_eraseDups_le (names : List String) : names.eraseDups.length ≤ names.length := by
  induction names using List.reverseRecOn with
  | nil => simp
  | append_singleton names name ih =>
      rw [eraseDups_append_singleton]
      split <;> simp only [List.length_append, List.length_singleton] <;> omega

/-- There are no more works than hits. -/
theorem length_firstSeenWorks_le (hits : List Hit)
    : (firstSeenWorks hits).length ≤ hits.length := by
  simpa [firstSeenWorks] using length_eraseDups_le (hits.map (·.work))

end CqlGateway
