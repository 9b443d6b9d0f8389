import Mathlib.Data.List.Infix
import CqlGateway.Proofs.Outcome
import CqlGateway.Proofs.Works.Page

/-! What is asked of an engine, whatever it answers. Each request goes on where the hits that were
received end, and asks for no less than the one before and for no more than the policy allows. So an
engine cannot make collecting ask for the same hits twice, leave any out, or go on beyond the hits
that it says it has.
-/

namespace CqlGateway

-----------------------------------------------------------------------------------------
-- What is received
-----------------------------------------------------------------------------------------

/-- Answers to all requests that an engine may have had, of which the last one is answered. -/
abbrev EngineAnswers := List EngineRequest → Except EngineError EnginePage

namespace EngineAnswers

/-- The hits that an answer brings. -/
def hitsOf : Except EngineError EnginePage → List Hit
  | .ok page => page.hits
  | .error _ => []

/-- The hits that the answers to requests bring, one request after the other. -/
def received (answers : EngineAnswers) (requests : List EngineRequest) : List Hit :=
  requests.inits.tail.flatMap fun history => hitsOf (answers history)

/-- The hits for a further request come behind the others. -/
theorem received_append_singleton (answers : EngineAnswers) (requests : List EngineRequest)
    (request : EngineRequest)
    : answers.received (requests ++ [request])
      = answers.received requests ++ hitsOf (answers (requests ++ [request])) := by
  have histories : (requests ++ [request]).inits.tail
      = requests.inits.tail ++ [requests ++ [request]] := by
    rw [List.inits_append, List.tail_append_of_ne_nil (by cases requests <;> simp)]
    rfl
  rw [received, histories, List.flatMap_append, List.flatMap_singleton, received]

end EngineAnswers

-----------------------------------------------------------------------------------------
-- Before each request
-----------------------------------------------------------------------------------------

namespace Collection

/-- A state of collecting in front of a request, with the requests that were made before. -/
inductive Reaches (collection : Collection) (answers : EngineAnswers) (tracking : TrackingId)
    : List EngineRequest → CollectionState → Prop
  | start : Reaches collection answers tracking [] (collection.initial tracking)
  | further {requests : List EngineRequest} {state : CollectionState} {page : EnginePage}
    (before : Reaches collection answers tracking requests state)
    (answered : answers (requests ++ [collection.request state]) = .ok page)
    (unfinished : collection.isFinished (collection.receive state page.hits) page = false)
    : Reaches collection answers tracking (requests ++ [collection.request state])
        (collection.grow (collection.receive state page.hits))

variable {collection : Collection} {answers : EngineAnswers} {tracking : TrackingId}
variable {requests : List EngineRequest} {state : CollectionState} {page : EnginePage}

/-- What was collected stays so when more hits come behind. -/
theorem HasCollected.append {hits : List Hit} (collected : HasCollected collection hits state)
    (more : List Hit)
    : HasCollected collection (hits ++ more) state where
  offset_le := by
    rw [List.length_append]
    exact Nat.le_add_right_of_le collected.offset_le
  rows_pos := collected.rows_pos
  grouping := by
    rw [List.take_append_of_le_length collected.offset_le]
    exact collected.grouping
  hitsSeen := collected.hitsSeen
  hitsSkipped := by
    rw [List.take_append_of_le_length collected.offset_le]
    exact collected.hitsSkipped

/-- All hits that were received have been collected, and no others. -/
structure HasCollectedAll (collection : Collection) (hits : List Hit) (state : CollectionState)
    : Prop where
  collected : HasCollected collection hits state
  offset_eq : state.offset = hits.length

theorem HasCollectedAll.receive {hits : List Hit} (all : HasCollectedAll collection hits state)
    (received : List Hit)
    : HasCollectedAll collection (hits ++ received) (collection.receive state received) where
  collected := by
    refine (all.collected.append received).receive ?_
    rw [all.offset_eq, List.drop_left]
  offset_eq := by
    rw [List.length_append, ← all.offset_eq]
    rfl

theorem HasCollectedAll.grouping {hits : List Hit} (all : HasCollectedAll collection hits state)
    : state.grouping = .ofHits (collection.window.countedHits collection.profile hits) := by
  have grouping := all.collected.grouping
  rwa [all.offset_eq, List.take_length, PageWindow.filter_admits] at grouping

/-- The works that are found are those of the hits that were received. -/
theorem HasCollectedAll.length_grouping {hits : List Hit}
    (all : HasCollectedAll collection hits state)
    : state.grouping.length
      = (firstSeenWorks (collection.window.countedHits collection.profile hits)).length := by
  rw [← works_ofHits, ← all.grouping, Grouping.works, List.length_map]

/-- There are no more works than hits. -/
theorem HasCollectedAll.length_works_le {hits : List Hit}
    (all : HasCollectedAll collection hits state)
    : state.grouping.works.length ≤ hits.length := by
  rw [all.grouping, works_ofHits]
  exact Nat.le_trans (length_firstSeenWorks_le _) (PageWindow.length_countedHits_le ..)

namespace Reaches

/-- In front of a request everything that was received has been collected. Witness: a step takes in
the hits of one more answer, and sizing the next batch changes nothing of what was collected.
-/
theorem hasCollectedAll (reached : Reaches collection answers tracking requests state)
    : HasCollectedAll collection (answers.received requests) state := by
  induction reached with
  | start => exact ⟨.initial [] tracking, rfl⟩
  | @further requests state page before answered unfinished ih =>
      rw [EngineAnswers.received_append_singleton, answered]
      have all := ih.receive page.hits
      exact ⟨all.collected.grow, all.offset_eq⟩

/-- The numbers of requests go on from the caller's. -/
theorem tracking_eq (reached : Reaches collection answers tracking requests state)
    : state.tracking = ⟨tracking.base, tracking.number + requests.length⟩ := by
  induction reached with
  | start => rfl
  | further before answered unfinished ih =>
      simp only [grow, receive, ih, TrackingId.next, List.length_append, List.length_singleton,
        Nat.add_assoc]

theorem rows_le_maxRows (reached : Reaches collection answers tracking requests state)
    : state.rows ≤ max collection.policy.maxRows 1 := by
  induction reached with
  | start => exact collection.policy.first_le_maxRows _
  | further before answered unfinished ih =>
      refine Nat.le_trans (collection.policy.next_le_maxRows ..) ?_
      exact Nat.max_le.mpr ⟨Nat.le_max_left .., ih⟩

theorem rows_le_countLimit (reached : Reaches collection answers tracking requests state)
    : state.rows ≤ countLimit := by
  cases reached with
  | start =>
      refine collection.policy.first_le_countLimit ?_
      exact Nat.le_trans (Nat.sub_le ..) (Nat.min_le_right ..)
  | further before answered unfinished => exact collection.policy.next_le_countLimit ..

/-- Batches do not shrink below the first one. -/
theorem first_le_rows (reached : Reaches collection answers tracking requests state)
    : collection.policy.first collection.window.target ≤ state.rows := by
  induction reached with
  | start => exact Nat.le_refl _
  | further before answered unfinished ih =>
      exact Nat.le_trans ih (collection.policy.le_next before.rows_le_countLimit ..)

end Reaches

/-- A round after which another request is made: works are missing, the batch was full, and the
engine has more.
-/
theorem unfinished_iff {reached : CollectionState}
    : collection.isFinished reached page = false
      ↔ reached.grouping.length < collection.window.target
        ∧ page.hits ≠ []
        ∧ reached.rows ≤ page.hits.length
        ∧ reached.offset < min page.total countLimit := by
  simp only [isFinished, Bool.or_eq_false_iff, decide_eq_false_iff_not, Nat.not_le, Nat.not_lt,
    List.isEmpty_eq_false_iff, and_assoc]

namespace Reaches

/-- Each request that was answered brought as many hits as the first one asked for at least. -/
theorem length_mul_le_offset (reached : Reaches collection answers tracking requests state)
    : requests.length * collection.policy.first collection.window.target ≤ state.offset := by
  induction reached with
  | start => simp
  | further before answered unfinished ih =>
      have full := (unfinished_iff.mp unfinished).2.2.1
      have first := before.first_le_rows
      simp only [receive] at full
      simp only [grow, receive, List.length_append, List.length_singleton, Nat.succ_mul]
      omega

/-- What is in front of a request that follows another one. -/
theorem of_append_singleton {request : EngineRequest}
    (reached : Reaches collection answers tracking (requests ++ [request]) state)
    : ∃ before page,
        Reaches collection answers tracking requests before
        ∧ request = collection.request before
        ∧ answers (requests ++ [request]) = .ok page
        ∧ collection.isFinished (collection.receive before page.hits) page = false
        ∧ state = collection.grow (collection.receive before page.hits) := by
  generalize all : requests ++ [request] = whole at reached
  cases reached with
  | start => simp at all
  | further before answered unfinished =>
      obtain ⟨rfl, rfl⟩ := List.append_inj' all rfl |>.imp id List.singleton_inj.mp
      exact ⟨_, _, before, rfl, answered, unfinished, rfl⟩

end Reaches

/-- The run of a collection ends with the answer to a request that was made in a state that was
reached. By the recursion over the batches.
-/
theorem run_ofHistory (reached : Reaches collection answers tracking requests state)
    : ∃ made last,
        Reaches collection answers tracking made last
        ∧ collection.run (.ofHistory answers) state requests
          = ((answers (made ++ [collection.request last])).map fun page =>
              collection.page (collection.receive last page.hits),
            made ++ [collection.request last]) := by
  fun_induction Collection.run collection (.ofHistory answers) state requests with
  | case1 state requests error after failed =>
      obtain ⟨failure, rfl⟩ := Prod.mk.inj failed
      refine ⟨requests, state, reached, ?_⟩
      rw [failure]
      rfl
  | case2 state requests received after answer next finished =>
      obtain ⟨brought, rfl⟩ := Prod.mk.inj answer
      refine ⟨requests, state, reached, ?_⟩
      rw [brought]
      rfl
  | case3 state requests received after answer next unfinished ih =>
      obtain ⟨brought, rfl⟩ := Prod.mk.inj answer
      exact ih (.further reached brought (Bool.eq_false_iff.mpr unfinished))

-----------------------------------------------------------------------------------------
-- From request to request
-----------------------------------------------------------------------------------------

variable {before : List EngineRequest} {request earlier later : EngineRequest}

/-- Every request was made in a state that is reached by those before it. Witness: induction over the
rounds, since a request is the last one or was made earlier.
-/
theorem Reaches.exists_state (reached : Reaches collection answers tracking requests state)
    (begins : before ++ [request] <+: requests ++ [collection.request state])
    : ∃ made,
        Reaches collection answers tracking before made ∧ request = collection.request made := by
  induction reached with
  | start =>
      rcases List.prefix_concat_iff.mp begins with all | none
      · obtain ⟨rfl, same⟩ := List.append_inj' all rfl
        exact ⟨_, .start, List.singleton_inj.mp same⟩
      · simp at none
  | further previous answered unfinished ih =>
      rcases List.prefix_concat_iff.mp begins with all | begun
      · obtain ⟨rfl, same⟩ := List.append_inj' all rfl
        exact ⟨_, .further previous answered unfinished, List.singleton_inj.mp same⟩
      · exact ih begun

/-- Between two requests that follow each other there is a round that is not the last one. -/
theorem Reaches.exists_round (reached : Reaches collection answers tracking requests state)
    (begins : before ++ [earlier, later] <+: requests ++ [collection.request state])
    : ∃ made page,
        Reaches collection answers tracking before made
        ∧ earlier = collection.request made
        ∧ answers (before ++ [earlier]) = .ok page
        ∧ collection.isFinished (collection.receive made page.hits) page = false
        ∧ later = collection.request (collection.grow (collection.receive made page.hits)) := by
  rw [← List.singleton_append, ← List.append_assoc] at begins
  obtain ⟨next, reachedNext, rfl⟩ := reached.exists_state begins
  obtain ⟨made, page, reachedMade, same, answered, unfinished, rfl⟩ :=
    reachedNext.of_append_singleton
  exact ⟨made, page, reachedMade, same, answered, unfinished, rfl⟩

/-- The first request is for a first batch. -/
theorem Reaches.rows_head (reached : Reaches collection answers tracking requests state)
    (head : (requests ++ [collection.request state]).head? = some request)
    : request.rows = collection.policy.first collection.window.target := by
  obtain ⟨others, same⟩ := List.head?_eq_some_iff.mp head
  have begins : [] ++ [request] <+: requests ++ [collection.request state] :=
    ⟨others, by rw [same]; rfl⟩
  obtain ⟨made, first, rfl⟩ := reached.exists_state begins
  generalize none : [] = front at first
  cases first with
  | start => rfl
  | further => simp at none

end Collection

-----------------------------------------------------------------------------------------
-- All requests
-----------------------------------------------------------------------------------------

/-- What the requests of a collection are like, whatever the answers. -/
structure AsksInTurn (collection : Collection) (answers : EngineAnswers) (tracking : TrackingId)
    (requests : List EngineRequest)
    : Prop where
  /-- All of them are for the same query. -/
  query
    : ∀ before request,
        before ++ [request] <+: requests
        → request.query = collection.query ∧ request.sort = collection.sort
  /-- Their numbers go on from the caller's. -/
  tracking
    : ∀ before request,
        before ++ [request] <+: requests
        → request.tracking = ⟨tracking.base, tracking.number + before.length⟩
  /-- No hit is left out, and none is asked for again. -/
  offset
    : ∀ before request,
        before ++ [request] <+: requests → request.offset = (answers.received before).length
  rows
    : ∀ before request,
        before ++ [request] <+: requests
        → 1 ≤ request.rows ∧ request.rows ≤ max 1 collection.policy.maxRows
  /-- Batches do not shrink, and grow no faster than by the factor of the policy. -/
  growth
    : ∀ before earlier later,
        before ++ [earlier, later] <+: requests
        → earlier.rows ≤ later.rows
          ∧ later.rows ≤ max 1 collection.policy.growthCap * earlier.rows
  /-- Behind the first request a batch is sized by the works that were found and by those that are
  missing; together they are the works that must be known, and some are missing.
  -/
  missing
    : ∀ before earlier later,
        before ++ [earlier, later] <+: requests
        → ∃ found missing,
          found
            = (firstSeenWorks (collection.window.countedHits collection.profile
                (answers.received (before ++ [earlier])))).length
          ∧ found + missing = collection.window.target
          ∧ 0 < missing
          ∧ later.rows = collection.policy.next earlier.rows missing later.offset found
  /-- Where all answers name the same total, there are no more requests than there are batches like
  the first one in so many hits.
  -/
  count
    : ∀ first total,
        requests.head? = some first
        → (∀ history page,
          history <+: requests → history ≠ [] → answers history = .ok page → page.total = total)
        → requests.length ≤ max 1 (BatchPolicy.ceilDiv total first.rows)

namespace Collection

variable {collection : Collection} {answers : EngineAnswers} {tracking : TrackingId}
variable {requests : List EngineRequest} {state : CollectionState}

/-- With a total that all answers agree on, rounds of which none is the last stay below it. -/
theorem Reaches.length_lt_ceilDiv {total : Nat}
    (reached : Reaches collection answers tracking requests state)
    (some : requests ≠ [])
    (agreed : ∀ page, answers requests = .ok page → page.total = total)
    : requests.length
      < BatchPolicy.ceilDiv total (collection.policy.first collection.window.target) := by
  refine BatchPolicy.lt_ceilDiv (collection.policy.first_pos _) ?_
  refine Nat.lt_of_le_of_lt reached.length_mul_le_offset ?_
  cases reached with
  | start => exact absurd rfl some
  | further before answered unfinished =>
      have more := (unfinished_iff.mp unfinished).2.2.2
      rw [agreed _ answered] at more
      exact Nat.lt_of_lt_of_le more (Nat.min_le_left ..)

/-- The requests that lead to a state, with the one that is made in it. -/
theorem Reaches.asksInTurn (reached : Reaches collection answers tracking requests state)
    : AsksInTurn collection answers tracking (requests ++ [collection.request state]) where
  query before request begins := by
    obtain ⟨made, -, rfl⟩ := reached.exists_state begins
    exact ⟨rfl, rfl⟩
  tracking before request begins := by
    obtain ⟨made, reachedMade, rfl⟩ := reached.exists_state begins
    exact reachedMade.tracking_eq
  offset before request begins := by
    obtain ⟨made, reachedMade, rfl⟩ := reached.exists_state begins
    exact reachedMade.hasCollectedAll.offset_eq
  rows before request begins := by
    obtain ⟨made, reachedMade, rfl⟩ := reached.exists_state begins
    rw [Nat.max_comm]
    exact ⟨reachedMade.hasCollectedAll.collected.rows_pos, reachedMade.rows_le_maxRows⟩
  growth before earlier later begins := by
    obtain ⟨made, page, reachedMade, rfl, -, -, rfl⟩ := reached.exists_round begins
    rw [Nat.mul_comm, Nat.max_comm]
    exact ⟨collection.policy.le_next reachedMade.rows_le_countLimit ..,
      collection.policy.next_le_mul ..⟩
  missing before earlier later begins := by
    obtain ⟨made, page, reachedMade, rfl, answered, unfinished, rfl⟩ := reached.exists_round begins
    have found := (reachedMade.hasCollectedAll.receive page.hits).length_grouping
    have short := (unfinished_iff.mp unfinished).1
    refine ⟨_, _, ?_, ?_, ?_, rfl⟩
    · rw [EngineAnswers.received_append_singleton, answered]
      exact found
    · exact Nat.add_sub_cancel' (Nat.le_of_lt short)
    · exact Nat.sub_pos_of_lt short
  count first total head agreed := by
    rw [reached.rows_head head, List.length_append, List.length_singleton]
    by_cases none : requests = []
    · rw [none]
      exact Nat.le_max_left ..
    · have few := reached.length_lt_ceilDiv none fun page =>
        agreed requests page (List.prefix_append ..) none
      omega

end Collection

-----------------------------------------------------------------------------------------
-- Pages
-----------------------------------------------------------------------------------------

/-- What does not change while the page of a window is collected. -/
def CompiledQuery.collection (compiled : CompiledQuery) (policy : BatchPolicy) (profile : Profile)
    (window : PageWindow)
    : Collection :=
  {
    query := compiled.text
    sort := compiled.sortText?
    profile := profile
    window := window
    policy := policy
  }

theorem CompiledQuery.collect_of_isEmpty {State : Type} {window : PageWindow}
    (empty : window.isEmpty = true) (compiled : CompiledQuery) (engine : IndexEngine State)
    (policy : BatchPolicy) (profile : Profile) (tracking : TrackingId) (engineState : State)
    : compiled.collect engine policy profile window tracking engineState
      = (.ok .empty, engineState) :=
  if_pos empty

theorem CompiledQuery.collect_eq_run {State : Type} {window : PageWindow}
    (some : window.isEmpty = false) (compiled : CompiledQuery) (engine : IndexEngine State)
    (policy : BatchPolicy) (profile : Profile) (tracking : TrackingId) (engineState : State)
    : compiled.collect engine policy profile window tracking engineState
      = (compiled.collection policy profile window).run engine
          ((compiled.collection policy profile window).initial tracking) engineState :=
  if_neg (Bool.eq_false_iff.mp some)

/-- No request is like any. -/
theorem asksInTurn_nil (collection : Collection) (answers : EngineAnswers) (tracking : TrackingId)
    : AsksInTurn collection answers tracking [] where
  query before request begins := by simp at begins
  tracking before request begins := by simp at begins
  offset before request begins := by simp at begins
  rows before request begins := by simp at begins
  growth before earlier later begins := by simp at begins
  missing before earlier later begins := by simp at begins
  count first total head := by simp at head

/-- The works of a window lie between two places among those that were found, as long as these can
be counted.
-/
theorem PageWindow.slice_eq_drop_take {window : PageWindow} {works : List String}
    (limit : works.length ≤ countLimit)
    : window.slice works
      = (works.take (min (saturatingAdd (window.start - 1) window.size) works.length)).drop
          (window.start - 1) := by
  rw [slice, List.drop_take, List.take_eq_take_iff, List.length_drop]
  unfold saturatingAdd
  omega

/-- A page is cut out of the works that were found between two places in their range. -/
structure IsCutOut (window : PageWindow) (works page : List String) (front back : Nat) : Prop where
  /-- Windows count from one. -/
  front_eq : front + 1 = window.start
  back_eq : back = min (saturatingAdd front window.size) works.length
  back_le : back ≤ works.length
  front_le : front < works.length → front ≤ back
  page_eq : page = (works.take back).drop front

theorem PageWindow.exists_isCutOut {window : PageWindow} {works : List String}
    (some : window.isEmpty = false) (limit : works.length ≤ countLimit)
    : ∃ front back, IsCutOut window works (window.slice works) front back := by
  have start : 0 < window.start := by
    simp only [isEmpty, Bool.or_eq_false_iff, decide_eq_false_iff_not] at some
    omega
  refine ⟨window.start - 1, _, {
    front_eq := Nat.sub_add_cancel start
    back_eq := rfl
    back_le := Nat.min_le_right ..
    front_le := ?_
    page_eq := slice_eq_drop_take limit
  }⟩
  intro before
  unfold saturatingAdd
  omega

/-- Whatever an engine answers, it is asked for its hits one batch after the other, without a gap, in
batches that the policy allows, and not more often than its totals are good for. The number of works
that are missing is never less than one where it is formed, and the page is cut out of the works
that were found within their range. Only the last answer can be a failure. No more hits are received
than can be counted.
-/
theorem collect_asksInTurn (compiled : CompiledQuery) (policy : BatchPolicy) (profile : Profile)
    (window : PageWindow) (tracking : TrackingId) (answers : EngineAnswers)
    {result : Except EngineError WorkPage} {requests : List EngineRequest}
    (collected
      : compiled.collect (.ofHistory answers) policy profile window tracking []
        = (result, requests))
    (limit : (answers.received requests).length ≤ countLimit)
    : AsksInTurn (compiled.collection policy profile window) answers tracking requests
      ∧ (∀ error, result = .error error → answers requests = .error error)
      ∧ ∀ page,
        result = .ok page
        → window.isEmpty = false
        → ∃ front back, IsCutOut window page.grouping.works page.works front back := by
  cases some : window.isEmpty with
  | true =>
      rw [CompiledQuery.collect_of_isEmpty some] at collected
      obtain ⟨rfl, rfl⟩ := Prod.mk.inj collected
      exact ⟨asksInTurn_nil .., nofun, nofun⟩
  | false =>
      have begun : Collection.Reaches (compiled.collection policy profile window) answers tracking
          [] _ :=
        .start
      obtain ⟨made, last, reached, ended⟩ := Collection.run_ofHistory begun
      rw [CompiledQuery.collect_eq_run some, ended] at collected
      obtain ⟨rfl, rfl⟩ := Prod.mk.inj collected
      refine ⟨reached.asksInTurn, ?_, ?_⟩
      · intro error failed
        exact Outcome.map_eq_error.mp failed
      · intro page brought _
        obtain ⟨answer, answered, rfl⟩ := Outcome.map_eq_ok.mp brought
        have all := reached.hasCollectedAll.receive answer.hits
        rw [EngineAnswers.received_append_singleton, answered] at limit
        exact PageWindow.exists_isCutOut some (Nat.le_trans all.length_works_le limit)

/-- Answers with more hits than were asked for, and in the end with fewer, all of them of one work
at first.
-/
def repetitiveAnswers : EngineAnswers := fun history =>
  let work := if history.length < 3 then "W1" else "W2"
  .ok ⟨List.replicate 3 ⟨work, "U1", "M1", []⟩, 9⟩

/-- A window of two works takes three requests, of which the second and the third are larger than the
one before; all of the nine hits would take five of the first size.
-/
theorem collect_asksInTurn_repetitiveAnswers
    : ∃ result requests,
        CompiledQuery.collect ⟨.search, .all, []⟩ (.ofHistory repetitiveAnswers) ⟨4, 2⟩ .unrestricted
            ⟨1, 2, true⟩ (.first "t") []
          = (result, requests)
        ∧ (repetitiveAnswers.received requests).length ≤ countLimit
        ∧ AsksInTurn (CompiledQuery.collection ⟨.search, .all, []⟩ ⟨4, 2⟩ .unrestricted ⟨1, 2, true⟩)
          repetitiveAnswers (.first "t") requests
        ∧ requests.map (·.rows) = [2, 3, 4] := by
  have counted : (repetitiveAnswers.received (CompiledQuery.collect ⟨.search, .all, []⟩
      (.ofHistory repetitiveAnswers) ⟨4, 2⟩ .unrestricted ⟨1, 2, true⟩ (.first "t") []).2).length
      ≤ countLimit := by
    decide +kernel
  exact ⟨_, _, rfl, counted, (collect_asksInTurn _ _ _ _ _ _ rfl counted).1, by decide +kernel⟩

end CqlGateway
