import CqlGateway.Index.Engine
import CqlGateway.Compilation.Query
import CqlGateway.Works.Batch
import CqlGateway.Works.Grouping

/-! Collects the works of one page. How many hits that takes cannot be known, since a work may have
many; so batches of hits are fetched until the works of the page are known or no hits are left.
-/

namespace CqlGateway

/-- The works that are wanted: so many, from a place on that counts from one. -/
structure PageWindow where
  start : Nat
  size : Nat
  /-- Also counts hits that the profile does not let be seen. -/
  allObjects : Bool
deriving DecidableEq, Repr

namespace PageWindow

/-- True of a window without works. -/
def isEmpty (window : PageWindow) : Bool :=
  window.start = 0 || window.size = 0

/-- The number of works that must be known to fill the window. -/
def target (window : PageWindow) : Nat :=
  saturatingAdd window.start window.size - 1

/-- The works in the window. -/
def slice (window : PageWindow) (works : List String) : List String :=
  (works.drop (window.start - 1)).take window.size

/-- True of a hit that counts. -/
def admits (window : PageWindow) (profile : Profile) (hit : Hit) : Bool :=
  window.allObjects || profile.admits hit.collections

end PageWindow

/-- What collecting took. -/
structure CollectionStats where
  roundTrips : Nat
  hitsSeen : Nat
  hitsSkipped : Nat
deriving DecidableEq, Repr

/-- The works of a page, all works that were found on the way, and what it took. -/
structure WorkPage where
  works : List String
  grouping : Grouping
  stats : CollectionStats
deriving DecidableEq, Repr

namespace WorkPage

def empty : WorkPage :=
  {
    works := []
    grouping := []
    stats := ⟨0, 0, 0⟩
  }

end WorkPage

/-- What does not change while a page is collected. -/
structure Collection where
  query : String
  sort : Option String
  profile : Profile
  window : PageWindow
  policy : BatchPolicy

/-- How far collecting has come. -/
structure CollectionState where
  /-- The number of hits that were received. -/
  offset : Nat
  rows : Nat
  tracking : TrackingId
  grouping : Grouping
  stats : CollectionStats

namespace Collection

/-- Before the first request. -/
def initial (collection : Collection) (tracking : TrackingId) : CollectionState :=
  {
    offset := 0
    rows := collection.policy.first collection.window.target
    tracking := tracking
    grouping := []
    stats := ⟨0, 0, 0⟩
  }

/-- The request that comes next. -/
def request (collection : Collection) (state : CollectionState) : EngineRequest :=
  {
    query := collection.query
    sort := collection.sort
    offset := state.offset
    rows := state.rows
    tracking := state.tracking
  }

/-- Takes in the hits that were received. -/
def receive (collection : Collection) (state : CollectionState) (hits : List Hit)
    : CollectionState :=
  let kept := hits.filter (collection.window.admits collection.profile)
  {
    offset := state.offset + hits.length
    rows := state.rows
    tracking := state.tracking.next
    grouping := kept.foldl Grouping.insert state.grouping
    stats := {
      roundTrips := state.stats.roundTrips + 1
      hitsSeen := state.stats.hitsSeen + hits.length
      hitsSkipped := state.stats.hitsSkipped + (hits.length - kept.length)
    }
  }

/-- True if no further request is made: the works are known, or the engine has no more hits. A count
of the engine does not go beyond the largest count.
-/
def isFinished (collection : Collection) (state : CollectionState) (page : EnginePage) : Bool :=
  collection.window.target ≤ state.grouping.length
    || page.hits.isEmpty
    || page.hits.length < state.rows
    || min page.total countLimit ≤ state.offset

/-- Sizes the next batch. -/
def grow (collection : Collection) (state : CollectionState) : CollectionState :=
  let found := state.grouping.length
  let missing := collection.window.target - found
  { state with rows := collection.policy.next state.rows missing state.offset found }

/-- The page that has come together. -/
def page (collection : Collection) (state : CollectionState) : WorkPage :=
  {
    works := collection.window.slice state.grouping.works
    grouping := state.grouping
    stats := state.stats
  }

/-- Fetches batches until the page is full or the hits are used up. A failure of the engine ends it
all. Every batch that is followed by another one brings hits, and their number stays below the
largest count.
-/
def run {State : Type} (collection : Collection) (engine : IndexEngine State)
    (state : CollectionState) (engineState : State)
    : Except EngineError WorkPage × State :=
  match engine.search (collection.request state) engineState with
  | (.error error, after) => (.error error, after)
  | (.ok received, after) =>
      let reached := collection.receive state received.hits
      if _finished : collection.isFinished reached received then
        (.ok (collection.page reached), after)
      else
        run collection engine (collection.grow reached) after
termination_by countLimit - state.offset
decreasing_by
  simp only [isFinished, Bool.or_eq_true, not_or, decide_eq_true_eq, List.isEmpty_iff] at _finished
  have := List.length_pos_iff.2 _finished.1.1.2
  have := _finished.2
  simp only [grow, reached, receive] at this ⊢
  omega

end Collection

/-- The page of works that a compiled query brings. A window without works makes no request. -/
def CompiledQuery.collect {State : Type} (compiled : CompiledQuery) (engine : IndexEngine State)
    (policy : BatchPolicy) (profile : Profile) (window : PageWindow) (tracking : TrackingId)
    (engineState : State)
    : Except EngineError WorkPage × State :=
  if window.isEmpty then
    (.ok .empty, engineState)
  else
    let collection : Collection := {
      query := compiled.text
      sort := compiled.sortText?
      profile := profile
      window := window
      policy := policy
    }
    collection.run engine (collection.initial tracking) engineState

end CqlGateway
