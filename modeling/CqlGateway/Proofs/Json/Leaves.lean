import CqlGateway.Json.Reader
import CqlGateway.Proofs.Json.Scanning
import CqlGateway.Proofs.Outcome

/-! What holds of the parts of a value that have no parts of their own. In every value that is read,
whole numbers are at most 64 bits wide.
-/

namespace CqlGateway

namespace Json

variable {allowed : Json → Prop} {value : Json}

-----------------------------------------------------------------------------------------
-- Leaves
-----------------------------------------------------------------------------------------

/-- True of values without items and members. -/
def IsLeaf : Json → Prop
  | .array _ | .object _ => False
  | _ => True

/-- All leaves of a value are allowed. -/
inductive EveryLeaf (allowed : Json → Prop) : Json → Prop where
  | leaf {value : Json} (isLeaf : value.IsLeaf) (holds : allowed value) : EveryLeaf allowed value
  | array {items : List Json} (each : ∀ item ∈ items, EveryLeaf allowed item)
    : EveryLeaf allowed (.array items)
  | object {members : List (String × Json)} (each : ∀ member ∈ members, EveryLeaf allowed member.2)
    : EveryLeaf allowed (.object members)

theorem EveryLeaf.holds (every : EveryLeaf allowed value) (isLeaf : value.IsLeaf)
    : allowed value := by
  cases every with
  | leaf _ holds => exact holds
  | array | object => exact absurd isLeaf id

theorem everyLeaf_array {items : List Json}
    : EveryLeaf allowed (.array items) ↔ ∀ item ∈ items, EveryLeaf allowed item := by
  refine ⟨fun every => ?_, .array⟩
  cases every with
  | leaf isLeaf => exact absurd isLeaf id
  | array each => exact each

theorem everyLeaf_object {members : List (String × Json)}
    : EveryLeaf allowed (.object members) ↔ ∀ member ∈ members, EveryLeaf allowed member.2 := by
  refine ⟨fun every => ?_, .object⟩
  cases every with
  | leaf isLeaf => exact absurd isLeaf id
  | object each => exact each

-----------------------------------------------------------------------------------------
-- Width of numbers
-----------------------------------------------------------------------------------------

/-- True of a leaf unless it is a whole number of more than 64 bits. -/
def FitsLeaf : Json → Prop
  | .number (.real _) => True
  | .number held => held.IsWhole
  | _ => True

/-- No whole number in a value has more than 64 bits. -/
def Fits (value : Json) : Prop :=
  value.EveryLeaf FitsLeaf

theorem isWhole_of_wholeNumber? {negative : Bool} {digits : List Char} {held : JsonNumber}
    (read : wholeNumber? negative digits = some held)
    : held.IsWhole := by
  revert read
  fun_cases wholeNumber? negative digits with
  | case1 _ _ inRange =>
      rintro ⟨⟩
      exact inRange
  | case3 _ _ fits =>
      rintro ⟨⟩
      exact fits
  | case2 | case4 => simp

theorem fitsLeaf_of_isWhole {held : JsonNumber} (whole : held.IsWhole)
    : FitsLeaf (.number held) := by
  cases held with
  | natural | negative => exact whole
  | real => trivial

/-- A number that is read fits, be it whole or not. -/
theorem fits_of_ofNumeral? {numeral : List Char} (read : ofNumeral? numeral = some value)
    : value.Fits := by
  unfold ofNumeral? at read
  split at read
  simp only [bind] at read
  split at read
  · cases read
  · obtain ⟨exponent, -, read⟩ := Option.bind_eq_some_iff.mp read
    split at read
    · next held found =>
        obtain rfl := Option.some.inj read
        refine .leaf trivial ?_
        rcases Option.or_eq_some_iff.mp found with exact | ⟨-, real⟩
        · split at exact
          · exact fitsLeaf_of_isWhole (isWhole_of_wholeNumber? exact)
          · cases exact
        · obtain ⟨_, -, rfl⟩ := Option.map_eq_some_iff.mp real
          trivial
    · obtain rfl := Option.some.inj read
      exact .leaf trivial trivial

end Json

namespace JsonToken

/-- The value of a scalar fits. -/
def Fits : JsonToken → Prop
  | .scalar value => value.Fits
  | _ => True

variable {first : Char} {rest behind text : List Char} {token : JsonToken}

theorem fits_of_read? (read : read? first rest = some (token, behind)) : token.Fits := by
  unfold read? at read
  split at read
  case h_7 =>
    obtain ⟨_, -, ⟨⟩⟩ := Option.map_eq_some_iff.mp read
    trivial
  case h_11 =>
    obtain ⟨value, found, ⟨⟩⟩ := Option.map_eq_some_iff.mp read
    exact Json.fits_of_ofNumeral? found
  all_goals
    obtain ⟨⟨⟩, -⟩ := Prod.mk.inj (Option.some.inj read)
    first | trivial | exact .leaf trivial trivial

/-- All tokens of a text fit, by the recursion of the scan. -/
theorem fits_of_all? {tokens : List JsonToken} (scanned : all? text = some tokens)
    : ∀ token ∈ tokens, token.Fits := by
  fun_induction all? text generalizing tokens with
  | case1 =>
      obtain rfl := Option.some.inj scanned
      simp
  | case2 first rest blank ih => exact ih scanned
  | case3 first rest visible token behind found ih =>
      obtain ⟨others, later, rfl⟩ := Option.map_eq_some_iff.mp scanned
      exact List.forall_mem_cons.mpr ⟨fits_of_read? found, ih later⟩
  | case4 => cases scanned

end JsonToken

namespace Json

variable {text : String} {token : JsonToken} {state next : ReadState} {value : Json}
  {around : List Container} {members : List Member}

-----------------------------------------------------------------------------------------
-- Rows of tokens
-----------------------------------------------------------------------------------------

/-- The state behind a row of tokens. -/
def ReadState.run? (state : ReadState) (row : List JsonToken) : Option ReadState :=
  row.foldlM step? state

theorem ReadState.run?_cons (stepped : state.step? token = some next) (rest : List JsonToken)
    : state.run? (token :: rest) = next.run? rest := by
  rw [run?, List.foldlM_cons, stepped]
  rfl

theorem ReadState.run?_append {row : List JsonToken} (run : state.run? row = some next)
    (rest : List JsonToken)
    : state.run? (row ++ rest) = next.run? rest := by
  rw [run?] at run
  rw [run?, List.foldlM_append, run]
  rfl

theorem ofTokens?_eq_some {tokens : List JsonToken}
    : ofTokens? tokens = some value
      ↔ (ReadState.awaitValue []).run? tokens = some (.complete value []) := by
  unfold ofTokens? ReadState.run?
  split <;> simp_all

-----------------------------------------------------------------------------------------
-- Values that are read
-----------------------------------------------------------------------------------------

def Container.values : Container → List Json
  | .array items => items
  | .object members _ => members.map (·.2)

/-- The values that are read so far. -/
def ReadState.values : ReadState → List Json
  | .awaitValue around | .firstItem around | .firstName around => around.flatMap Container.values
  | .nextName members around | .colon members _ around =>
      members.map (·.2) ++ around.flatMap Container.values
  | .complete value around => value :: around.flatMap Container.values

theorem fits_ofMembers (fits : ∀ held ∈ members.map (·.2), held.Fits)
    : (ofMembers members).Fits := by
  unfold ofMembers
  split
  · next named all =>
      refine .object fun member isMember => ?_
      obtain ⟨⟨name, value⟩, inMembers, same⟩ := Outcome.exists_of_mem_mapM all isMember
      obtain ⟨name, -, rfl⟩ := Option.map_eq_some_iff.mp same
      exact fits value (List.mem_map_of_mem (List.mem_reverse.mp inMembers))
  · exact .leaf trivial trivial

theorem fits_of_stepValue? (fits : ∀ held ∈ around.flatMap Container.values, held.Fits)
    (tokenFits : token.Fits) (stepped : ReadState.stepValue? around token = some next)
    : ∀ held ∈ next.values, held.Fits := by
  revert stepped
  fun_cases ReadState.stepValue? around token with
  | case1 value =>
      rintro ⟨⟩
      exact List.forall_mem_cons.mpr ⟨tokenFits, fits⟩
  | case2 content =>
      rintro ⟨⟩
      refine List.forall_mem_cons.mpr ⟨?_, fits⟩
      cases content <;> exact .leaf trivial trivial
  | case3 | case4 =>
      rintro ⟨⟩
      exact fits
  | case5 => simp

theorem fits_of_stepComplete? (fits : ∀ held ∈ (ReadState.complete value around).values, held.Fits)
    (stepped : ReadState.stepComplete? value around token = some next)
    : ∀ held ∈ next.values, held.Fits := by
  revert stepped
  obtain ⟨complete, others⟩ := List.forall_mem_cons.mp fits
  fun_cases ReadState.stepComplete? value around token with
  | case1 items outer =>
      rintro ⟨⟩
      exact List.forall_mem_cons.mpr ⟨complete, others⟩
  | case2 items outer =>
      rintro ⟨⟩
      obtain ⟨items, outer⟩ := List.forall_mem_append.mp others
      refine List.forall_mem_cons.mpr ⟨.array ?_, outer⟩
      intro item member
      exact List.forall_mem_cons.mpr ⟨complete, items⟩ item (List.mem_reverse.mp member)
  | case3 members name outer =>
      rintro ⟨⟩
      exact List.forall_mem_cons.mpr ⟨complete, others⟩
  | case4 members name outer =>
      rintro ⟨⟩
      obtain ⟨members, outer⟩ := List.forall_mem_append.mp others
      refine List.forall_mem_cons.mpr ⟨fits_ofMembers ?_, outer⟩
      exact List.forall_mem_cons.mpr ⟨complete, members⟩
  | case5 => simp

/-- One token more keeps what is read fitting, by the cases of the step. -/
theorem fits_of_step? (fits : ∀ held ∈ state.values, held.Fits) (tokenFits : token.Fits)
    (stepped : state.step? token = some next)
    : ∀ held ∈ next.values, held.Fits := by
  revert stepped
  fun_cases ReadState.step? state token with
  | case1 around => exact fits_of_stepValue? fits tokenFits
  | case2 around =>
      rintro ⟨⟩
      exact List.forall_mem_cons.mpr ⟨.array (by simp), fits⟩
  | case3 around => exact fits_of_stepValue? fits tokenFits
  | case4 around =>
      rintro ⟨⟩
      exact List.forall_mem_cons.mpr ⟨.object (by simp), fits⟩
  | case5 | case6 | case7 =>
      rintro ⟨⟩
      exact fits
  | case8 around => exact fits_of_stepComplete? fits
  | case9 around => simp

/-- All tokens of a row keep what is read fitting, by induction over the row. -/
theorem fits_of_run? {row : List JsonToken} (each : ∀ token ∈ row, token.Fits)
    (fits : ∀ held ∈ state.values, held.Fits) (run : state.run? row = some next)
    : ∀ held ∈ next.values, held.Fits := by
  induction row generalizing state with
  | nil =>
      obtain rfl := Option.some.inj run
      exact fits
  | cons token rest ih =>
      obtain ⟨first, each⟩ := List.forall_mem_cons.mp each
      obtain ⟨behind, stepped, run⟩ := Option.bind_eq_some_iff.mp run
      exact ih each (fits_of_step? fits first stepped) run

/-- In a value that is read no whole number has more than 64 bits. -/
theorem fits_of_read? (read : read? text = some value) : value.Fits := by
  obtain ⟨tokens, scanned, read⟩ := Option.bind_eq_some_iff.mp read
  have none : ∀ held ∈ (ReadState.awaitValue []).values, held.Fits := by simp [ReadState.values]
  have fits := fits_of_run? (JsonToken.fits_of_all? scanned) none (ofTokens?_eq_some.mp read)
  exact fits value List.mem_cons_self

end Json

end CqlGateway
