/-! How computations that may fail succeed: each part of them succeeds. They fail with what one of
their parts fails with.
-/

namespace CqlGateway.Outcome

variable {ε α β : Type}

-----------------------------------------------------------------------------------------
-- Results
-----------------------------------------------------------------------------------------

theorem bind_eq_ok {outcome : Except ε α} {next : α → Except ε β} {result : β}
    : outcome >>= next = .ok result ↔ ∃ value, outcome = .ok value ∧ next value = .ok result := by
  cases outcome <;> simp [bind, Except.bind]

theorem bind_eq_error {outcome : Except ε α} {next : α → Except ε β} {error : ε}
    : outcome >>= next = .error error
      ↔ outcome = .error error ∨ ∃ value, outcome = .ok value ∧ next value = .error error := by
  cases outcome <;> simp [bind, Except.bind]

theorem map_eq_ok {outcome : Except ε α} {f : α → β} {result : β}
    : outcome.map f = .ok result ↔ ∃ value, outcome = .ok value ∧ f value = result := by
  cases outcome <;> simp [Except.map]

theorem map_eq_error {outcome : Except ε α} {f : α → β} {error : ε}
    : outcome.map f = .error error ↔ outcome = .error error := by
  cases outcome <;> simp [Except.map]

theorem exists_map_eq_ok {outcome : Except ε α} {f : α → β}
    : (∃ result, outcome.map f = .ok result) ↔ ∃ value, outcome = .ok value := by
  cases outcome <;> simp [Except.map]

theorem mapError_eq_ok {δ : Type} {outcome : Except ε α} {f : ε → δ} {result : α}
    : outcome.mapError f = .ok result ↔ outcome = .ok result := by
  cases outcome with
  | ok value =>
      constructor
      all_goals
        intro same
        cases same
        rfl
  | error error =>
      constructor
      all_goals
        intro same
        cases same

theorem mapError_eq_error {δ : Type} {outcome : Except ε α} {f : ε → δ} {error : δ}
    : outcome.mapError f = .error error ↔ ∃ cause, outcome = .error cause ∧ f cause = error := by
  cases outcome with
  | ok value =>
      constructor
      · intro same
        cases same
      · rintro ⟨cause, ⟨⟩, -⟩
  | error cause =>
      constructor
      · rintro ⟨⟩
        exact ⟨cause, rfl, rfl⟩
      · rintro ⟨_, ⟨⟩, rfl⟩
        rfl

theorem toOption_eq_some {outcome : Except ε α} {result : α}
    : outcome.toOption = some result ↔ outcome = .ok result := by
  cases outcome <;> simp [Except.toOption]

/-- What a computation fails with, if it fails. -/
def error? : Except ε α → Option ε
  | .ok _ => none
  | .error error => some error

theorem error?_eq_some {outcome : Except ε α} {error : ε}
    : error? outcome = some error ↔ outcome = .error error := by
  cases outcome <;> simp [error?]

theorem error?_eq_none {outcome : Except ε α}
    : error? outcome = none ↔ ∃ result, outcome = .ok result := by
  cases outcome <;> simp [error?]

theorem error?_map (outcome : Except ε α) (f : α → β)
    : error? (outcome.map f) = error? outcome := by
  cases outcome <;> rfl

theorem pure_eq_ok {value result : α}
    : (pure value : Except ε α) = .ok result ↔ value = result := by
  simp [pure, Except.pure]

/-- If each result that there is has a known form, so have the results for a list. -/
theorem mapM_eq_ok {f : α → Except ε β} {g : α → β}
    (form : ∀ value result, f value = .ok result → result = g value) {values : List α}
    {results : List β} (mapped : values.mapM f = .ok results)
    : results = values.map g := by
  induction values generalizing results with
  | nil =>
      rw [List.mapM_nil] at mapped
      exact (pure_eq_ok.mp mapped).symm
  | cons value rest ih =>
      rw [List.mapM_cons] at mapped
      obtain ⟨head, first, mapped⟩ := bind_eq_ok.mp mapped
      obtain ⟨tail, others, mapped⟩ := bind_eq_ok.mp mapped
      rw [← pure_eq_ok.mp mapped, form value head first, ih others, List.map_cons]

/-- The results for a list are those for its values, in the same order. -/
theorem mapM_eq_ok_iff {f : α → Except ε β} {values : List α} {results : List β}
    : values.mapM f = .ok results ↔ values.map f = results.map .ok := by
  induction values generalizing results with
  | nil => cases results <;> simp [pure, Except.pure]
  | cons value rest ih =>
      simp only [List.mapM_cons, bind_eq_ok, pure_eq_ok, List.map_cons, ih]
      constructor
      · rintro ⟨head, first, tail, others, rfl⟩
        rw [first, others, List.map_cons]
      · intro same
        cases results with
        | nil => cases same
        | cons head tail =>
            obtain ⟨first, others⟩ := List.cons.inj same
            exact ⟨head, first, tail, others, rfl⟩

/-- Each of the results for a list is the result for one of its values. -/
theorem exists_of_mem_mapM {f : α → Option β} {values : List α} {results : List β}
    (mapped : values.mapM f = some results) {result : β} (member : result ∈ results)
    : ∃ value ∈ values, f value = some result := by
  induction values generalizing results with
  | nil =>
      rw [List.mapM_nil] at mapped
      obtain rfl := Option.some.inj mapped
      cases member
  | cons value rest ih =>
      rw [List.mapM_cons] at mapped
      obtain ⟨head, first, mapped⟩ := Option.bind_eq_some_iff.mp mapped
      obtain ⟨tail, others, mapped⟩ := Option.bind_eq_some_iff.mp mapped
      obtain rfl := Option.some.inj mapped
      rcases List.mem_cons.mp member with rfl | later
      · exact ⟨value, List.mem_cons_self, first⟩
      · obtain ⟨found, inRest, same⟩ := ih others later
        exact ⟨found, List.mem_cons_of_mem _ inRest, same⟩

/-- If there is a result for what is made of each value of a list, there are results for all. -/
theorem mapM_map_eq_some {γ : Type} {f : β → Option γ} {g : α → β} {h : α → γ} {values : List α}
    (each : ∀ value ∈ values, f (g value) = some (h value))
    : (values.map g).mapM f = some (values.map h) := by
  induction values with
  | nil => rfl
  | cons value rest ih =>
      obtain ⟨first, others⟩ := List.forall_mem_cons.mp each
      rw [List.map_cons, List.mapM_cons, first, ih others]
      rfl

/-- The last of several steps comes behind the others. -/
theorem foldlM_append_singleton {step : β → α → Except ε β} {values : List α} {value : α} {held : β}
    : (values ++ [value]).foldlM step held
      = values.foldlM step held >>= fun result => step result value := by
  simp

/-- Where each step either chooses a value or keeps the one before it, the last choice decides.
Witness: list induction, by which the choices of the rest come behind the first one.
-/
theorem foldlM_eq_ok {step : β → α → Except ε β} {choice : α → Option β}
    (form : ∀ held value result, step held value = .ok result → result = (choice value).getD held)
    {values : List α} {held result : β} (folded : values.foldlM step held = .ok result)
    : result = (values.reverse.findSome? choice).getD held := by
  induction values generalizing held with
  | nil =>
      rw [List.foldlM_nil] at folded
      exact (pure_eq_ok.mp folded).symm
  | cons value rest ih =>
      rw [List.foldlM_cons] at folded
      obtain ⟨next, first, others⟩ := bind_eq_ok.mp folded
      rw [ih others, form held value next first, List.reverse_cons, List.findSome?_append]
      cases List.findSome? choice rest.reverse <;> simp

/-- Where it is up to the value whether a step succeeds, all steps do if each would, by list
induction.
-/
theorem exists_foldlM_eq_ok {step : β → α → Except ε β} {good : α → Prop}
    (succeeds : ∀ held value, (∃ result, step held value = .ok result) ↔ good value)
    {values : List α} {held : β}
    : (∃ result, values.foldlM step held = .ok result) ↔ ∀ value ∈ values, good value := by
  induction values generalizing held with
  | nil => simp [pure, Except.pure]
  | cons value rest ih =>
      simp only [List.foldlM_cons, bind_eq_ok, List.forall_mem_cons]
      constructor
      · rintro ⟨result, next, first, others⟩
        exact ⟨(succeeds held value).mp ⟨next, first⟩, ih.mp ⟨result, others⟩⟩
      · rintro ⟨first, others⟩
        obtain ⟨next, done⟩ := (succeeds held value).mpr first
        obtain ⟨result, allDone⟩ : ∃ result, rest.foldlM step next = .ok result := ih.mpr others
        exact ⟨result, next, done, allDone⟩

-----------------------------------------------------------------------------------------
-- Failures
-----------------------------------------------------------------------------------------

/-- What the computation fails with is always good. -/
def FailsOnlyWith (good : ε → Prop) (outcome : Except ε α) : Prop :=
  ∀ error, outcome = .error error → good error

section Failures

variable {good : ε → Prop}

theorem failsOnlyWith_ok (value : α) : FailsOnlyWith good (.ok value : Except ε α) := by
  intro error failed
  cases failed

theorem failsOnlyWith_error {error : ε} (holds : good error)
    : FailsOnlyWith good (.error error : Except ε α) := by
  intro other failed
  cases failed
  exact holds

namespace FailsOnlyWith

theorem mono {better : ε → Prop} {outcome : Except ε α} (fails : FailsOnlyWith better outcome)
    (weaker : ∀ error, better error → good error)
    : FailsOnlyWith good outcome :=
  fun error failed => weaker error (fails error failed)

theorem map {outcome : Except ε α} (fails : FailsOnlyWith good outcome) (f : α → β)
    : FailsOnlyWith good (outcome.map f) := by
  cases outcome with
  | ok value => exact failsOnlyWith_ok (f value)
  | error error => exact failsOnlyWith_error (fails error rfl)

theorem bind {outcome : Except ε α} {next : α → Except ε β} (first : FailsOnlyWith good outcome)
    (rest : ∀ value, outcome = .ok value → FailsOnlyWith good (next value))
    : FailsOnlyWith good (outcome >>= next) := by
  cases outcome with
  | ok value => exact rest value rfl
  | error error => exact failsOnlyWith_error (first error rfl)

theorem mapM {f : α → Except ε β} {values : List α}
    (each : ∀ value ∈ values, FailsOnlyWith good (f value))
    : FailsOnlyWith good (values.mapM f) := by
  induction values with
  | nil =>
      rw [List.mapM_nil]
      exact failsOnlyWith_ok []
  | cons value rest ih =>
      obtain ⟨head, others⟩ := List.forall_mem_cons.mp each
      rw [List.mapM_cons]
      exact head.bind fun _ _ => (ih others).bind fun _ _ => failsOnlyWith_ok _

theorem foldlM {step : β → α → Except ε β} {values : List α} {held : β}
    (each : ∀ value ∈ values, ∀ held, FailsOnlyWith good (step held value))
    : FailsOnlyWith good (values.foldlM step held) := by
  induction values generalizing held with
  | nil =>
      rw [List.foldlM_nil]
      exact failsOnlyWith_ok held
  | cons value rest ih =>
      obtain ⟨head, others⟩ := List.forall_mem_cons.mp each
      rw [List.foldlM_cons]
      exact (head held).bind fun _ _ => ih others

end FailsOnlyWith

end Failures

-----------------------------------------------------------------------------------------
-- First failures
-----------------------------------------------------------------------------------------

section FirstFailures

variable {γ : Type} {f : α → Except ε β} {values : List α} {value : α} {error : ε}

/-- The computation fails with the error for a value of a list, and for none in front of it. -/
def FailsFirst (f : α → Except ε β) (values : List α) (value : α) (error : ε) : Prop :=
  ∃ front rest,
    values = front ++ value :: rest
    ∧ (∀ earlier ∈ front, ∃ result, f earlier = .ok result)
    ∧ f value = .error error

/-- What the computation fails with for the first value for which it does. -/
def firstError? (f : α → Except ε β) (values : List α) : Option ε :=
  values.findSome? fun value => error? (f value)

theorem firstError?_append (front rest : List α)
    : firstError? f (front ++ rest) = (firstError? f front).or (firstError? f rest) :=
  List.findSome?_append

theorem firstError?_singleton (f : α → Except ε β) (value : α)
    : firstError? f [value] = error? (f value) := by
  simp [firstError?]

theorem firstError?_eq_none
    : firstError? f values = none ↔ ∀ value ∈ values, ∃ result, f value = .ok result := by
  simp only [firstError?, List.findSome?_eq_none_iff, error?_eq_none]

theorem exists_failsFirst (failed : firstError? f values = some error)
    : ∃ value, FailsFirst f values value error := by
  obtain ⟨front, value, rest, parts, found, before⟩ := List.findSome?_eq_some_iff.mp failed
  exact ⟨value, front, rest, parts, fun earlier member => error?_eq_none.mp (before earlier member),
    error?_eq_some.mp found⟩

/-- A computation that does not succeed for all values fails for a first one. -/
theorem exists_failsFirst_of_fails (fails : ¬ ∀ value ∈ values, ∃ result, f value = .ok result)
    : ∃ value error, FailsFirst f values value error := by
  obtain ⟨error, found⟩ := Option.ne_none_iff_exists'.mp (mt firstError?_eq_none.mp fails)
  obtain ⟨value, first⟩ := exists_failsFirst found
  exact ⟨value, error, first⟩

theorem FailsFirst.eq_error (first : FailsFirst f values value error) : f value = .error error := by
  obtain ⟨_, _, -, -, failed⟩ := first
  exact failed

theorem FailsFirst.firstError? (first : FailsFirst f values value error)
    : firstError? f values = some error := by
  obtain ⟨front, rest, rfl, before, failed⟩ := first
  rw [firstError?_append, firstError?_eq_none.mpr before, Option.none_or, Outcome.firstError?,
    List.findSome?_cons, error?_eq_some.mpr failed]

theorem firstError?_eq_some
    : firstError? f values = some error ↔ ∃ value, FailsFirst f values value error :=
  ⟨exists_failsFirst, fun ⟨_, first⟩ => first.firstError?⟩

/-- Where it is not up to the result what the next step fails with, the first of both failures
surfaces.
-/
theorem error?_bind {outcome : Except ε α} {next : α → Except ε β} {later : Option ε}
    (same : ∀ value, outcome = .ok value → error? (next value) = later)
    : error? (outcome >>= next) = (error? outcome).or later := by
  cases outcome with
  | ok value => exact same value rfl
  | error error => rfl

theorem error?_mapM (f : α → Except ε β) (values : List α)
    : error? (values.mapM f) = firstError? f values := by
  induction values with
  | nil => rfl
  | cons value rest ih =>
      have others (result : β) (_ : f value = .ok result)
          : error? (rest.mapM f >>= fun results => pure (result :: results))
            = firstError? f rest := by
        have collected := @error?_bind ε _ _ (rest.mapM f)
          (fun results => pure (result :: results)) none fun _ _ => rfl
        rw [collected, ih, Option.or_none]
      rw [List.mapM_cons, error?_bind others, ← List.singleton_append, firstError?_append,
        firstError?_singleton]

/-- Where it is up to the value alone what a step fails with, the first failing value decides. -/
theorem error?_foldlM {step : γ → α → Except ε γ}
    (same : ∀ held value, error? (step held value) = error? (f value)) (held : γ)
    : error? (values.foldlM step held) = firstError? f values := by
  induction values generalizing held with
  | nil => rfl
  | cons value rest ih =>
      rw [List.foldlM_cons, error?_bind fun next _ => ih next, same, ← List.singleton_append,
        firstError?_append, firstError?_singleton]

end FirstFailures

end CqlGateway.Outcome
