import CqlGateway.Index.Memory
import CqlGateway.Proofs.Works.Batch
import CqlGateway.Proofs.Works.FirstSeen
import CqlGateway.Works.Page

/-! A page is the slice of all works that its window stands for, however the hits are fetched. What
is collected after each batch are the works of the hits that were received, which begin the works of
all hits; and no batch is the last one before the window is filled or the hits are used up.
-/

namespace CqlGateway

-----------------------------------------------------------------------------------------
-- Collecting
-----------------------------------------------------------------------------------------

namespace MemoryEngine

/-- An engine with some hits that never fails. -/
def ofHits (hits : List Hit) : MemoryEngine :=
  {
    hits := hits
    failAfter := none
  }

theorem search_ofHits (hits : List Hit) (request : EngineRequest) (log : List EngineRequest)
    : (ofHits hits).index.search request log
      = (.ok ⟨(hits.drop request.offset).take request.rows, hits.length⟩, log ++ [request]) := by
  rfl

end MemoryEngine

namespace Collection

variable {collection : Collection} {hits : List Hit} {state : CollectionState}

/-- What has been collected is what the hits up to the offset bring. -/
structure HasCollected (collection : Collection) (hits : List Hit) (state : CollectionState) : Prop
    where
  offset_le : state.offset ≤ hits.length
  rows_pos : 0 < state.rows
  grouping
    : state.grouping
      = .ofHits ((hits.take state.offset).filter (collection.window.admits collection.profile))
  hitsSeen : state.stats.hitsSeen = state.offset
  hitsSkipped
    : state.stats.hitsSkipped
        + ((hits.take state.offset).filter (collection.window.admits collection.profile)).length
      = state.offset

theorem HasCollected.initial (hits : List Hit) (tracking : TrackingId)
    : HasCollected collection hits (collection.initial tracking) where
  offset_le := Nat.zero_le _
  rows_pos := collection.policy.first_pos _
  grouping := rfl
  hitsSeen := rfl
  hitsSkipped := rfl

/-- The hits that are received go on where the ones before ended. -/
theorem HasCollected.receive {received : List Hit} (collected : HasCollected collection hits state)
    (next : received <+: hits.drop state.offset)
    : HasCollected collection hits (collection.receive state received) := by
  have seen : hits.take (state.offset + received.length) = hits.take state.offset ++ received := by
    rw [List.take_add, ← List.prefix_iff_eq_take.mp next]
  refine {
    offset_le := ?_
    rows_pos := collected.rows_pos
    grouping := ?_
    hitsSeen := ?_
    hitsSkipped := ?_
  }
  · have reached := collected.offset_le
    have rest := next.length_le
    rw [List.length_drop] at rest
    simp only [Collection.receive]
    omega
  · simp only [Collection.receive, seen, List.filter_append, Grouping.ofHits_append,
      collected.grouping]
  · simp only [Collection.receive, collected.hitsSeen]
  · have before := collected.hitsSkipped
    have kept := List.length_filter_le (collection.window.admits collection.profile) received
    simp only [Collection.receive, seen, List.filter_append, List.length_append]
    omega

/-- The size of the next batch is all that changes between two requests. -/
theorem HasCollected.grow (collected : HasCollected collection hits state)
    : HasCollected collection hits (collection.grow state) where
  offset_le := collected.offset_le
  rows_pos := collection.policy.next_pos collected.rows_pos ..
  grouping := collected.grouping
  hitsSeen := collected.hitsSeen
  hitsSkipped := collected.hitsSkipped

/-- Collecting goes on until enough works are known or all hits were seen: an engine that answers
with fewer hits than it was asked for has no more.
-/
theorem of_isFinished {reached : CollectionState} {rows offset : Nat}
    (positive : 0 < rows) (asked : reached.rows = rows)
    (counted : reached.offset = offset + ((hits.drop offset).take rows).length)
    (limit : hits.length < countLimit)
    (finished
      : collection.isFinished reached ⟨(hits.drop offset).take rows, hits.length⟩ = true)
    : collection.window.target ≤ reached.grouping.length ∨ hits.length ≤ reached.offset := by
  simp only [isFinished, Bool.or_eq_true, decide_eq_true_eq, List.isEmpty_iff,
    ← List.length_eq_zero_iff] at finished
  rw [List.length_take, List.length_drop] at counted finished
  omega

/-- A run ends with a page of what was collected, by the recursion over the batches. -/
theorem run_ofHits (collected : HasCollected collection hits state)
    (limit : hits.length < countLimit) (log : List EngineRequest)
    : ∃ final answered,
        collection.run (MemoryEngine.ofHits hits).index state log
          = (.ok (collection.page final), answered)
        ∧ HasCollected collection hits final
        ∧ (collection.window.target ≤ final.grouping.length ∨ hits.length ≤ final.offset) := by
  fun_induction Collection.run collection (MemoryEngine.ofHits hits).index state log with
  | case1 state log error after failed =>
      rw [MemoryEngine.search_ofHits] at failed
      cases failed
  | case2 state log received after answer reached finished =>
      rw [MemoryEngine.search_ofHits] at answer
      obtain ⟨brought, rfl⟩ := Prod.mk.inj answer
      obtain rfl := Except.ok.inj brought
      exact ⟨reached, _, rfl, collected.receive (List.take_prefix ..),
        of_isFinished collected.rows_pos rfl rfl limit finished⟩
  | case3 state log received after answer reached unfinished ih =>
      rw [MemoryEngine.search_ofHits] at answer
      obtain ⟨brought, rfl⟩ := Prod.mk.inj answer
      obtain rfl := Except.ok.inj brought
      exact ih (collected.receive (List.take_prefix ..)).grow

end Collection

-----------------------------------------------------------------------------------------
-- Pages
-----------------------------------------------------------------------------------------

namespace PageWindow

/-- The hits that count for the window: all of them, or those in collections that the profile lets
be seen.
-/
def countedHits (window : PageWindow) (profile : Profile) (hits : List Hit) : List Hit :=
  if window.allObjects then hits else hits.filter fun hit => profile.admits hit.collections

variable {window : PageWindow}

theorem filter_admits (profile : Profile) (hits : List Hit)
    : hits.filter (window.admits profile) = window.countedHits profile hits := by
  unfold admits countedHits
  split
  · next all => simp [all]
  · next some => simp [some]

theorem length_countedHits_le (profile : Profile) (hits : List Hit)
    : (window.countedHits profile hits).length ≤ hits.length := by
  rw [← filter_admits]
  exact List.length_filter_le ..

theorem countedHits_prefix {profile : Profile} {hits later : List Hit} (begins : hits <+: later)
    : window.countedHits profile hits <+: window.countedHits profile later := by
  rw [← filter_admits, ← filter_admits]
  exact begins.filter _

/-- Works behind those that fill the window do not change its slice. A target that stops at the
largest count is as good as one that does not, since there are fewer works.
-/
theorem slice_eq_of_prefix {begun works : List String} (begins : begun <+: works)
    (some : 0 < window.start) (limit : works.length < countLimit)
    (filled : window.target ≤ begun.length ∨ begun = works)
    : window.slice begun = window.slice works := by
  rcases filled with filled | rfl
  · obtain ⟨rest, rfl⟩ := begins
    rw [List.length_append] at limit
    simp only [target, saturatingAdd] at filled
    by_cases reached : window.start - 1 + window.size ≤ begun.length
    · rw [slice, slice, List.drop_append_of_le_length (by omega), List.take_append_of_le_length]
      rw [List.length_drop]
      omega
    · have none : rest = [] := List.length_eq_zero_iff.mp (by omega)
      rw [none, List.append_nil]
  · rfl

end PageWindow

/-- What the page of a window is, whatever batches it took. -/
structure IsPageOf (hits : List Hit) (profile : Profile) (window : PageWindow) (page : WorkPage)
    : Prop where
  /-- The works that count, as they were first seen, from the start on and as many as are wanted. -/
  works
    : page.works
      = ((firstSeenWorks (window.countedHits profile hits)).drop (window.start - 1)).take window.size
  hitsSeen_le : page.stats.hitsSeen ≤ hits.length
  grouping
    : page.grouping
      = (window.countedHits profile (hits.take page.stats.hitsSeen)).foldl Grouping.insert []
  /-- All others that were seen were skipped. -/
  hitsSkipped
    : page.stats.hitsSkipped
        + (window.countedHits profile (hits.take page.stats.hitsSeen)).length
      = page.stats.hitsSeen

theorem Collection.HasCollected.isPageOf {collection : Collection} {hits : List Hit}
    {final : CollectionState} (collected : collection.HasCollected hits final)
    (some : 0 < collection.window.start) (limit : hits.length < countLimit)
    (complete : collection.window.target ≤ final.grouping.length ∨ hits.length ≤ final.offset)
    : IsPageOf hits collection.profile collection.window (collection.page final) := by
  have grouping := collected.grouping
  have skipped := collected.hitsSkipped
  rw [PageWindow.filter_admits] at grouping skipped
  have found : final.grouping.works
      = firstSeenWorks (collection.window.countedHits collection.profile
          (hits.take final.offset)) := by
    rw [grouping, works_ofHits]
  refine {
    works := ?_
    hitsSeen_le := ?_
    grouping := ?_
    hitsSkipped := ?_
  }
  · have count : final.grouping.works.length = final.grouping.length := List.length_map ..
    refine PageWindow.slice_eq_of_prefix ?_ some ?_ ?_
    · rw [found]
      exact firstSeenWorks_prefix (PageWindow.countedHits_prefix (List.take_prefix ..))
    · refine Nat.lt_of_le_of_lt (length_firstSeenWorks_le _) ?_
      exact Nat.lt_of_le_of_lt (PageWindow.length_countedHits_le ..) limit
    · rcases complete with filled | usedUp
      · exact .inl (by rwa [count])
      · exact .inr (by rw [found, List.take_of_length_le usedUp])
  · simpa only [Collection.page, collected.hitsSeen] using collected.offset_le
  · simpa only [Collection.page, collected.hitsSeen, Grouping.ofHits] using grouping
  · simpa only [Collection.page, collected.hitsSeen] using skipped

/-- The page of a window is the slice of the works that count, in the order in which they were first
seen, whatever the sizes of the batches are. A window without works makes no request. The engine's
hits are fewer than the largest count, as those of any list in memory are.
-/
theorem collect_isPageOf (compiled : CompiledQuery) (policy : BatchPolicy) (profile : Profile)
    (window : PageWindow) (tracking : TrackingId) (hits : List Hit)
    (limit : hits.length < countLimit)
    : (window.start = 0 ∨ window.size = 0
        → compiled.collect (MemoryEngine.ofHits hits).index policy profile window tracking []
          = (.ok .empty, []))
      ∧ (window.start ≠ 0
        → window.size ≠ 0
        → ∃ page answered,
          compiled.collect (MemoryEngine.ofHits hits).index policy profile window tracking []
            = (.ok page, answered)
          ∧ IsPageOf hits profile window page) := by
  constructor
  · intro none
    rw [CompiledQuery.collect, if_pos (by simpa [PageWindow.isEmpty] using none)]
  · intro start size
    rw [CompiledQuery.collect, if_neg (by simp [PageWindow.isEmpty, start, size])]
    obtain ⟨final, answered, ended, collected, complete⟩ :=
      Collection.run_ofHits (.initial hits tracking) limit []
    exact ⟨_, answered, ended, collected.isPageOf (Nat.pos_of_ne_zero start) limit complete⟩

/-- Works in two collections, with hits of one work apart from each other. -/
def scatteredHits : List Hit :=
  [
    ⟨"W1", "U1", "M1", ["north"]⟩,
    ⟨"W2", "U2", "M2", ["south"]⟩,
    ⟨"W1", "U3", "M3", ["north", "south"]⟩,
    ⟨"W3", "U4", "M4", ["north"]⟩,
    ⟨"W2", "U2", "M5", ["north"]⟩,
    ⟨"W4", "U5", "M6", ["north"]⟩
  ]

/-- Lets the records of one collection be seen. -/
def northOnly : Profile :=
  { Profile.unrestricted with visible := some ["north"] }

/-- Batches of one hit each bring the second and the third work that can be seen. -/
theorem collect_isPageOf_scatteredHits
    : scatteredHits.length < countLimit
      ∧ ∃ page answered,
        CompiledQuery.collect ⟨.search, .all, []⟩ (MemoryEngine.ofHits scatteredHits).index ⟨0, 0⟩
            northOnly ⟨2, 2, false⟩ (.first "t") []
          = (.ok page, answered)
        ∧ IsPageOf scatteredHits northOnly ⟨2, 2, false⟩ page
        ∧ page.works = ["W3", "W2"] := by
  have limit : scatteredHits.length < countLimit := by decide
  obtain ⟨page, answered, collected, isPage⟩ :=
    (collect_isPageOf ⟨.search, .all, []⟩ ⟨0, 0⟩ northOnly ⟨2, 2, false⟩ (.first "t") scatteredHits
      limit).2 (by decide) (by decide)
  exact ⟨limit, page, answered, collected, isPage, isPage.works.trans (by decide)⟩

end CqlGateway
