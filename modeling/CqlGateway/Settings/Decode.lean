import CqlGateway.Json.Record
import CqlGateway.Settings.Basic

/-! Reads settings, and hits, out of JSON. -/

namespace CqlGateway.Json.Decoder

def fieldTypes : List (String × FieldType) :=
  [("text", .text), ("string", .string), ("numeric", .numeric), ("date", .date)]

def escapings : List (String × Escaping) :=
  [("masked", .masked), ("literal", .literal)]

def fieldUsages : List (String × FieldUsage) :=
  [("search", .search), ("relation", .relation), ("both", .both)]

def engineField : Decoder EngineField := fun json => do
  match ← fields ["field", "type", "multi_valued", "escaping", "usage"] json with
  | [name, type, multiValued, escaping, usage] =>
      return {
        name := ← required text name
        type := ← withDefault .text (choice fieldTypes) type
        multiValued := ← withDefault false boolean multiValued
        escaping := ← withDefault .masked (choice escapings) escaping
        usage := ← withDefault .search (choice fieldUsages) usage
      }
  | _ => none

def catalogSettings : Decoder CatalogSettings := fun json => do
  match ← fields ["default_index", "collection_index", "fields"] json with
  | [defaultIndex, collectionIndex, indexes] =>
      return {
        defaultIndex := ← withDefault Catalog.standardDefaultIndex text defaultIndex
        collectionIndex := ← withDefault Catalog.standardCollectionIndex text collectionIndex
        fields := NameMap.ofList (← required (members engineField) indexes)
      }
  | _ => none

def sourceDeclaration : Decoder SourceDeclaration := fun json => do
  match ← fields ["collection", "searchable", "relations"] json with
  | [collection, searchable, relations] =>
      return {
        collection := ← required text collection
        searchable := ← withDefault false boolean searchable
        relations := ← withDefault [] (list text) relations
      }
  | _ => none

def profileDeclaration : Decoder ProfileDeclaration := fun json => do
  match ← fields ["name", "sources"] json with
  | [name, sources] =>
      return {
        name := ← required text name
        sources := ← withDefault [] (list sourceDeclaration) sources
      }
  | _ => none

def keywordSettings : Decoder KeywordSettings := fun json => do
  match ← fields ["locale", "synonyms", "relations"] json with
  | [locale, synonyms, relations] =>
      return {
        locale := ← withDefault KeywordSettings.standard.locale text locale
        synonyms := ← withDefault KeywordSettings.standard.synonyms (list textPair) synonyms
        relations := ← withDefault KeywordSettings.standard.relations (list text) relations
      }
  | _ => none

def batchPolicy : Decoder BatchPolicy := fun json => do
  match ← fields ["max_rows", "growth_cap"] json with
  | [maxRows, growthCap] =>
      return {
        maxRows := ← withDefault BatchPolicy.standard.maxRows count maxRows
        growthCap := ← withDefault BatchPolicy.standard.growthCap count growthCap
      }
  | _ => none

def hitFields : Decoder HitFields := fun json => do
  match ← fields ["work", "unit", "manifestation", "collection"] json with
  | [work, unit, manifestation, collection] =>
      return {
        work := ← required text work
        unit := ← required text unit
        manifestation := ← required text manifestation
        collection := ← required text collection
      }
  | _ => none

def endpointSettings : Decoder EndpointSettings := fun json => do
  match ← fields ["base_url", "core", "timeout_ms", "fields"] json with
  | [baseUrl, core, timeoutMs, names] =>
      return {
        baseUrl := ← withDefault EndpointSettings.standard.baseUrl text baseUrl
        core := ← withDefault EndpointSettings.standard.core text core
        timeoutMs := ← withDefault EndpointSettings.standard.timeoutMs count timeoutMs
        fields := ← withDefault .standard hitFields names
      }
  | _ => none

def settings : Decoder Settings := fun json => do
  match ← fields ["engine", "catalog", "profiles", "keywords", "paging"] json with
  | [endpoint, catalog, profiles, keywords, paging] =>
      return {
        endpoint := ← withDefault .standard endpointSettings endpoint
        catalog := ← withDefault none (optional catalogSettings) catalog
        profiles := ← withDefault [] (list profileDeclaration) profiles
        keywords := ← withDefault .standard keywordSettings keywords
        paging := ← withDefault .standard batchPolicy paging
      }
  | _ => none

def hit : Decoder Hit := fun json => do
  match ← fields ["work_id", "unit_id", "manifestation_id", "collections"] json with
  | [work, unit, manifestation, collections] =>
      return {
        work := ← required text work
        unit := ← required text unit
        manifestation := ← required text manifestation
        collections := ← withDefault [] (list text) collections
      }
  | _ => none

end CqlGateway.Json.Decoder
