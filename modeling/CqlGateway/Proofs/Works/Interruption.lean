import CqlGateway.Proofs.Works.Requests

/-! An engine that fails after some requests. As long as it answers, collecting goes on as it would
without the failure; then the failure is all that is left, with the requests that were answered
before.
-/

namespace CqlGateway

namespace MemoryEngine

/-- An engine with some hits that fails once so many requests were answered. -/
def failingAfter (hits : List Hit) (limit : Nat) : MemoryEngine :=
  {
    hits := hits
    failAfter := some limit
  }

variable {hits : List Hit} {limit : Nat} {answered : List EngineRequest}

theorem search_of_exhausted (exhausted : limit ≤ answered.length) (request : EngineRequest)
    : (failingAfter hits limit).index.search request answered
      = (.error (.unavailable request.tracking), answered) :=
  if_pos (decide_eq_true exhausted)

/-- Before it fails an engine does not differ from one that never does. -/
theorem search_of_lt (more : answered.length < limit) (request : EngineRequest)
    : (failingAfter hits limit).index.search request answered
      = (ofHits hits).index.search request answered := by
  have notExhausted : ¬ decide (limit ≤ answered.length) = true := by simpa using more
  exact if_neg notExhausted

end MemoryEngine

namespace Collection

-----------------------------------------------------------------------------------------
-- One round
-----------------------------------------------------------------------------------------

section Rounds

variable {State : Type} {collection : Collection} {engine : IndexEngine State}
variable {state : CollectionState} {held after : State} {page : EnginePage} {error : EngineError}

theorem run_of_error
    (failed : engine.search (collection.request state) held = (.error error, after))
    : collection.run engine state held = (.error error, after) := by
  rw [Collection.run, failed]

theorem run_of_finished
    (answered : engine.search (collection.request state) held = (.ok page, after))
    (finished : collection.isFinished (collection.receive state page.hits) page = true)
    : collection.run engine state held
      = (.ok (collection.page (collection.receive state page.hits)), after) := by
  rw [Collection.run, answered]
  exact dif_pos finished

theorem run_of_unfinished
    (answered : engine.search (collection.request state) held = (.ok page, after))
    (unfinished : ¬ collection.isFinished (collection.receive state page.hits) page = true)
    : collection.run engine state held
      = collection.run engine (collection.grow (collection.receive state page.hits)) after := by
  rw [Collection.run, answered]
  exact dif_neg unfinished

end Rounds

-----------------------------------------------------------------------------------------
-- Runs
-----------------------------------------------------------------------------------------

variable {collection : Collection} {hits : List Hit} {limit : Nat}

/-- Without failures there is a page in the end. -/
theorem exists_page_run_ofHits (collection : Collection) (hits : List Hit) (state : CollectionState)
    (answered : List EngineRequest)
    : ∃ page, (collection.run (MemoryEngine.ofHits hits).index state answered).1 = .ok page := by
  fun_induction Collection.run collection (MemoryEngine.ofHits hits).index state answered with
  | case1 state answered error after failed => cases failed
  | case2 state answered received after answer reached finished => exact ⟨_, rfl⟩
  | case3 state answered received after answer reached unfinished ih => exact ih

/-- A run without failures answers the request in front of it and keeps those that were answered
before.
-/
theorem prefix_run_ofHits (collection : Collection) (hits : List Hit) (state : CollectionState)
    (answered : List EngineRequest)
    : answered ++ [collection.request state]
      <+: (collection.run (MemoryEngine.ofHits hits).index state answered).2 := by
  fun_induction Collection.run collection (MemoryEngine.ofHits hits).index state answered with
  | case1 state answered error after failed => cases failed
  | case2 state answered received after answer reached finished =>
      obtain ⟨-, rfl⟩ := Prod.mk.inj answer
      exact List.prefix_rfl
  | case3 state answered received after answer reached unfinished ih =>
      obtain ⟨-, rfl⟩ := Prod.mk.inj answer
      exact (List.prefix_append ..).trans ih

end Collection

/-- What is left of a page and the requests for it if no more than some of these are answered. -/
structure IsCutOff (limit : Nat) (whole cut : Except EngineError WorkPage × List EngineRequest)
    : Prop where
  /-- Up to the failure the requests are the same. -/
  answered : cut.2 = whole.2.take limit
  /-- Where there are no more requests than answers, nothing shows of the failure. -/
  unnoticed : whole.2.length ≤ limit → cut.1 = whole.1
  /-- The failure names the first request that was not answered. -/
  failed
    : ∀ more : limit < whole.2.length, cut.1 = .error (.unavailable whole.2[limit].tracking)

theorem IsCutOff.of_length_le {limit : Nat}
    {whole : Except EngineError WorkPage × List EngineRequest}
    (enough : whole.2.length ≤ limit)
    : IsCutOff limit whole whole where
  answered := (List.take_of_length_le enough).symm
  unnoticed _ := rfl
  failed more := absurd more (Nat.not_lt.mpr enough)

/-- A failure is what is left if the request was the first one that was not answered. -/
theorem IsCutOff.of_begins {whole : Except EngineError WorkPage × List EngineRequest}
    {answered : List EngineRequest} {request : EngineRequest}
    (begins : answered ++ [request] <+: whole.2)
    : IsCutOff answered.length whole (.error (.unavailable request.tracking), answered) := by
  obtain ⟨result, requests⟩ := whole
  obtain ⟨rest, rfl⟩ := begins
  refine {
    answered := ?_
    unnoticed := ?_
    failed := ?_
  }
  · simp
  · intro enough
    simp only [List.length_append, List.length_singleton] at enough
    omega
  · intro more
    simp

/-- Two runs of which one fails, by the recursion of the other one over the batches: in each round
either both requests are answered alike or one fails here.
-/
theorem Collection.run_isCutOff (collection : Collection) (hits : List Hit) {limit : Nat}
    (state : CollectionState) {answered : List EngineRequest} (within : answered.length ≤ limit)
    : IsCutOff limit (collection.run (MemoryEngine.ofHits hits).index state answered)
        (collection.run (MemoryEngine.failingAfter hits limit).index state answered) := by
  fun_induction Collection.run collection (MemoryEngine.ofHits hits).index state answered with
  | case1 state answered error after failed => cases failed
  | case2 state answered page after answer reached finished =>
      obtain ⟨-, rfl⟩ := Prod.mk.inj answer
      rcases Nat.lt_or_eq_of_le within with more | rfl
      · rw [run_of_finished ((MemoryEngine.search_of_lt more _).trans answer) finished]
        refine .of_length_le ?_
        rw [List.length_append]
        exact more
      · rw [run_of_error (MemoryEngine.search_of_exhausted (Nat.le_refl _) _)]
        exact .of_begins List.prefix_rfl
  | case3 state answered page after answer reached unfinished ih =>
      obtain ⟨-, rfl⟩ := Prod.mk.inj answer
      rcases Nat.lt_or_eq_of_le within with more | rfl
      · rw [run_of_unfinished ((MemoryEngine.search_of_lt more _).trans answer) unfinished]
        refine ih ?_
        rw [List.length_append]
        exact more
      · rw [run_of_error (MemoryEngine.search_of_exhausted (Nat.le_refl _) _)]
        refine .of_begins ?_
        exact (List.prefix_append ..).trans (collection.prefix_run_ofHits hits ..)

-----------------------------------------------------------------------------------------
-- Pages
-----------------------------------------------------------------------------------------

/-- Collecting from an engine that fails after so many requests gives what collecting from one that
never fails does, as long as no more requests are made. Otherwise the failure of the next request is
all that comes of it. In both cases no requests are recorded but the first ones.
-/
theorem collect_failingAfter (compiled : CompiledQuery) (policy : BatchPolicy) (profile : Profile)
    (window : PageWindow) (tracking : TrackingId) (hits : List Hit) (limit : Nat)
    : ∃ page answered,
        compiled.collect (MemoryEngine.ofHits hits).index policy profile window tracking []
          = (.ok page, answered)
        ∧ IsCutOff limit (.ok page, answered)
          (compiled.collect (MemoryEngine.failingAfter hits limit).index policy profile window
            tracking []) := by
  cases some : window.isEmpty with
  | true =>
      refine ⟨.empty, [], ?_, ?_⟩
      · rw [CompiledQuery.collect_of_isEmpty some]
      · rw [CompiledQuery.collect_of_isEmpty some]
        exact .of_length_le (Nat.zero_le _)
  | false =>
      let collection := compiled.collection policy profile window
      obtain ⟨page, brought⟩ :=
        collection.exists_page_run_ofHits hits (collection.initial tracking) []
      rw [CompiledQuery.collect_eq_run some, CompiledQuery.collect_eq_run some]
      refine ⟨page, _, Prod.ext brought rfl, ?_⟩
      rw [← brought]
      exact collection.run_isCutOff hits _ (Nat.zero_le _)

/-- Of six requests for single hits two are answered, and the third one is named. -/
example
    : let (result, answered) := CompiledQuery.collect ⟨.search, .all, []⟩
        (MemoryEngine.failingAfter scatteredHits 2).index ⟨1, 1⟩ .unrestricted ⟨1, 5, true⟩
        (.first "t") []
      Outcome.error? result = some (.unavailable ⟨"t", 2⟩) ∧ answered.map (·.offset) = [0, 1] := by
  decide +kernel

end CqlGateway
