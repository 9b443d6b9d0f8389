import Mathlib.Data.List.TakeWhile
import CqlGateway.Proofs.Outcome
import CqlGateway.Proofs.Profile.Registry
import CqlGateway.Settings.Use

/-! What can be made of settings that were accepted. The catalog and the words of queries are made
on trial before settings are accepted, but the profiles are not, and an address is accepted that is
refused as soon as an endpoint is made of it.
-/

namespace CqlGateway

open Outcome

/-- Nothing is left of a text without slashes at its end if and only if it is all slashes. -/
theorem EndpointSettings.withoutSlashes_isEmpty (url : String)
    : (withoutSlashes url).isEmpty = true ↔ ∀ character ∈ url.toList, character = '/' := by
  rw [withoutSlashes, String.isEmpty_iff, ← String.toList_eq_nil_iff, String.toList_ofList,
    List.reverse_eq_nil_iff, List.dropWhile_eq_nil_iff]
  simp only [List.mem_reverse, decide_eq_true_eq]

namespace Settings

variable {settings result : Settings} {catalog : Catalog} {endpoint : EndpointSettings}

-----------------------------------------------------------------------------------------
-- Parts of the settings
-----------------------------------------------------------------------------------------

theorem exists_registry_eq_ok
    : (∃ registry, settings.registry catalog = .ok registry)
      ↔ (settings.profiles.map (·.name)).Nodup := by
  rw [← ProfileRegistry.exists_ofDeclarations_eq_ok]
  exact exists_congr fun registry => mapError_eq_ok

theorem exists_openEndpoint_eq_ok
    : (∃ opened, openEndpoint endpoint = .ok opened)
      ↔ ∃ character ∈ endpoint.baseUrl.toList, character ≠ '/' := by
  have slashes := EndpointSettings.withoutSlashes_isEmpty endpoint.baseUrl
  unfold openEndpoint EndpointSettings.normalized?
  by_cases empty : (EndpointSettings.withoutSlashes endpoint.baseUrl).isEmpty
  · simp only [empty, if_true]
    simpa using slashes.mp empty
  · simp only [empty]
    simpa using mt slashes.mpr empty

-----------------------------------------------------------------------------------------
-- Acceptance
-----------------------------------------------------------------------------------------

/-- What is looked at before settings are accepted. -/
structure IsChecked (settings : Settings) : Prop where
  address : Text.isBlank settings.endpoint.baseUrl.toList = false
  rows : settings.paging.maxRows ≠ 0
  catalog : ∃ catalog, settings.openCatalog = .ok catalog
  vocabulary : ∃ vocabulary, settings.vocabulary = .ok vocabulary

/-- The checks one after the other. -/
theorem validate_eq (settings : Settings)
    : settings.validate
      = if Text.isBlank settings.endpoint.baseUrl.toList then
          .error (.settings .emptyAddress)
        else if settings.paging.maxRows = 0 then
          .error (.settings .zeroRows)
        else
          settings.openCatalog >>= fun _ => settings.vocabulary >>= fun _ => .ok settings := by
  by_cases address : Text.isBlank settings.endpoint.baseUrl.toList
  · simp only [validate, address, if_true]
    rfl
  · by_cases rows : settings.paging.maxRows = 0
    · simp only [validate, address, rows]
      rfl
    · simp only [validate, address, rows]
      rfl

theorem validate_eq_ok
    : settings.validate = .ok result ↔ settings.IsChecked ∧ settings = result := by
  rw [validate_eq]
  constructor
  · intro accepted
    split at accepted
    · cases accepted
    · next address =>
        split at accepted
        · cases accepted
        · next rows =>
            obtain ⟨catalog, opened, accepted⟩ := bind_eq_ok.mp accepted
            obtain ⟨vocabulary, known, accepted⟩ := bind_eq_ok.mp accepted
            exact ⟨⟨Bool.eq_false_iff.mpr address, rows, ⟨catalog, opened⟩, ⟨vocabulary, known⟩⟩,
              pure_eq_ok.mp accepted⟩
  · rintro ⟨checked, rfl⟩
    obtain ⟨catalog, opened⟩ := checked.catalog
    obtain ⟨vocabulary, known⟩ := checked.vocabulary
    rw [checked.address, if_neg Bool.false_ne_true, if_neg checked.rows, opened, known]
    rfl

theorem isChecked_of_load {text : String} (loaded : load text = .ok settings)
    : settings.IsChecked := by
  unfold load at loaded
  split at loaded
  · next found =>
      obtain ⟨checked, rfl⟩ := validate_eq_ok.mp loaded
      exact checked
  · cases loaded

-----------------------------------------------------------------------------------------
-- Use
-----------------------------------------------------------------------------------------

/-- Of settings that were accepted, also from a text, a catalog and a vocabulary can be made. A
registry can be made if and only if no two profiles have the same name, and an endpoint if and only if
its address is not all slashes.
-/
theorem usable_of_accepted
    (accepted : settings.validate = .ok settings ∨ ∃ text, load text = .ok settings)
    : (∃ catalog, settings.openCatalog = .ok catalog)
      ∧ (∃ vocabulary, settings.vocabulary = .ok vocabulary)
      ∧ (∀ catalog,
        (∃ registry, settings.registry catalog = .ok registry)
        ↔ (settings.profiles.map (·.name)).Nodup)
      ∧ ((∃ endpoint, openEndpoint settings.endpoint = .ok endpoint)
        ↔ ∃ character ∈ settings.endpoint.baseUrl.toList, character ≠ '/') := by
  have checked : settings.IsChecked := by
    rcases accepted with valid | ⟨text, loaded⟩
    · exact (validate_eq_ok.mp valid).1
    · exact isChecked_of_load loaded
  exact ⟨checked.catalog, checked.vocabulary, fun _ => exists_registry_eq_ok,
    exists_openEndpoint_eq_ok⟩

/-- The standard settings with profiles without sources, and with an address. -/
def standardWith (names : List String) (baseUrl : String) : Settings :=
  {
    standard with
    endpoint := { EndpointSettings.standard with baseUrl := baseUrl }
    profiles := names.map fun name => { name := name, sources := [] }
  }

theorem usable_of_accepted_twoProfiles
    : (standardWith ["p", "q"] "http://h/").validate = .ok (standardWith ["p", "q"] "http://h/")
      ∧ (∃ registry, (standardWith ["p", "q"] "http://h/").registry .standard = .ok registry)
      ∧ ∃ endpoint, openEndpoint (standardWith ["p", "q"] "http://h/").endpoint = .ok endpoint := by
  have accepted : (standardWith ["p", "q"] "http://h/").validate
      = .ok (standardWith ["p", "q"] "http://h/") := by
    rfl
  obtain ⟨-, -, registered, reached⟩ := usable_of_accepted (.inl accepted)
  refine ⟨accepted, (registered .standard).mpr (by decide), reached.mpr ?_⟩
  exact ⟨'h', by decide, by decide⟩

/-- Settings are accepted of which no registry can be made, and others of which no endpoint can. -/
theorem accepted_not_usable
    : (standardWith ["p", "p"] "http://h/").validate = .ok (standardWith ["p", "p"] "http://h/")
      ∧ (∀ catalog,
        (standardWith ["p", "p"] "http://h/").registry catalog
          = .error (.settings (.duplicateProfile "p")))
      ∧ (standardWith [] "/").validate = .ok (standardWith [] "/")
      ∧ openEndpoint (standardWith [] "/").endpoint = .error (.settings .emptyEndpoint) := by
  refine ⟨?_, fun catalog => ?_, ?_, ?_⟩ <;> rfl

end Settings

end CqlGateway
