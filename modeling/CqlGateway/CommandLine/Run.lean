import CqlGateway.CommandLine.Usage
import CqlGateway.Index.Memory
import CqlGateway.Report.Diagnostic
import CqlGateway.Report.Profiles
import CqlGateway.Report.Query
import CqlGateway.Report.Works
import CqlGateway.Settings.Use

/-! Runs commands. Files are read through the surroundings of the program, and what it prints is its
outcome. An error in the query itself is shown with the query and ends with another status than all
others.
-/

namespace CqlGateway.CommandLine

/-- What the program finds around it. -/
structure Surroundings where
  fileText : String → Except FileFault String
  /-- Where settings are looked for if no file is named. -/
  standardSettingsPath : Option String
  /-- The engine behind an endpoint. -/
  engine : EndpointSettings → IndexEngine Unit
  /-- Names the requests of this run. -/
  tracking : TrackingId
  /-- True if the terminal shows colors. -/
  showsColors : Bool

/-- What the program prints to its two outputs, and its exit status. -/
structure Outcome where
  output : String
  errors : String
  status : Nat
deriving DecidableEq, Repr

/-- Why a command comes to no result. -/
inductive Failure where
  /-- An error in the query. -/
  | inQuery (query : String) (error : Error)
  /-- Any other error, with the attempt that it ended. -/
  | during (attempt : Option String) (error : Error)

namespace Failure

/-- A failure of a query: its own errors, and others. -/
def ofQuery (query : String) (error : Error) : Failure :=
  if error.isInQuery then .inQuery query error else .during none error

/-- A text whose further lines are as far in as the first one, which is four blanks. -/
def indented (text : String) : String :=
  Text.blanks 4 ++ String.intercalate ("\n" ++ Text.blanks 4) (text.splitOn "\n")

/-- The error behind the attempt that it ended. -/
def attemptText (attempt : Option String) (error : Error) : String :=
  match attempt with
  | some attempt => "Error: " ++ attempt ++ "\n\nCaused by:\n" ++ indented error.message ++ "\n"
  | none => "Error: " ++ error.message ++ "\n"

def outcome (colors : Bool) : Failure → Outcome
  | .inQuery query error =>
      {
        output := ""
        errors := (Report.ofError query error).text colors
        status := 2
      }
  | .during attempt error =>
      {
        output := ""
        errors := attemptText attempt error
        status := 1
      }

end Failure

namespace Surroundings

/-- The settings in a file. -/
def settingsAt (surroundings : Surroundings) (path : String) : Except Error Settings := do
  let text ← (surroundings.fileText path).mapError .file
  Settings.load text

/-- The settings of a run: from the file that is named, else from the standard file if there is one.
-/
def settings (surroundings : Surroundings) (named : Option String) : Except Error Settings :=
  match named, surroundings.standardSettingsPath with
  | some path, _ => surroundings.settingsAt path
  | none, none => .ok .standard
  | none, some path =>
      match surroundings.fileText path with
      | .ok text => Settings.load text
      | .error fault => if fault.isAbsent then .ok .standard else .error (.file fault)

/-- The file of the settings in the directory where programs keep theirs. -/
def settingsFile : String := "bibq/config.json"

/-- Where settings are looked for, given the directory for settings and the user's own one. The
first must be named from the root.
-/
def settingsPath (configHome home : Option String) : Option String :=
  match configHome.filter (·.startsWith "/"), home with
  | some directory, _ => some (directory ++ "/" ++ settingsFile)
  | none, some directory => some (directory ++ "/.config/" ++ settingsFile)
  | none, none => none

/-- True if a terminal of a kind shows colors to a user who did not turn them off. -/
def terminalShowsColors (terminal : Option String) (turnedOff : Bool) : Bool :=
  match terminal with
  | some name => name ≠ "dumb" && !turnedOff
  | none => false

/-- The hits in a file. -/
def hitsAt (surroundings : Surroundings) (path : String) : Except Error (List Hit) := do
  let text ← (surroundings.fileText path).mapError .file
  MemoryEngine.hitsOfText text

end Surroundings

namespace Command

/-- An error of the program's surroundings or settings, not of the query. -/
def orFail {α : Type} (outcome : Except Error α) : Except Failure α :=
  outcome.mapError (.during none)

/-- An error that ends an attempt. -/
def orFailAt {α : Type} (attempt : String) (outcome : Except Error α) : Except Failure α :=
  outcome.mapError (.during (some attempt))

/-- The query that a text holds. -/
def parsed (settings : Settings) (query : String) : Except Failure CqlQuery := do
  let vocabulary ← orFail settings.vocabulary
  (vocabulary.parse query).mapError (.ofQuery query)

/-- The profile that is named, or the one that lets everything through. Without a name the profiles
may be wrong.
-/
def chosenProfile (settings : Settings) (catalog : Catalog) (name : Option String)
    : Except Failure Profile :=
  match name with
  | none => .ok .unrestricted
  | some name => orFail do
      let registry ← settings.registry catalog
      registry.profile name

/-- The query as the engine would be asked, in the profile. -/
def compiled (catalog : Catalog) (profile : Profile) (asRelation : Bool) (query : String)
    (tree : CqlQuery)
    : Except Failure CompiledQuery :=
  let outcome :=
    if asRelation then catalog.compileAs profile .relation tree else catalog.compile profile tree
  outcome.mapError fun error => .ofQuery query (.compilation error)

def tokenizeText (colors : Bool) (settings : Settings) (query : String) (locale : Option String)
    : Except Failure String := do
  let keywords := { settings.keywords with locale := locale.getD settings.keywords.locale }
  let vocabulary ← orFail { settings with keywords := keywords }.vocabulary
  let tokens ← (vocabulary.tokens query).mapError fun error => .ofQuery query (.scan error)
  return (Report.ofTokens tokens).text colors

def parseText (colors : Bool) (settings : Settings) (query : String) : Except Failure String := do
  let tree ← parsed settings query
  return (Report.ofQuery tree).text colors

/-- The lines that show a compiled query. -/
def compiledText (query : CompiledQuery) : String :=
  query.text ++ "\n"
    ++ match query.sortText? with
      | some sort => "sort: " ++ sort ++ "\n"
      | none => ""

def compileText (settings : Settings) (query : String) (profileName : Option String)
    (asRelation : Bool)
    : Except Failure String := do
  let tree ← parsed settings query
  let catalog ← orFail settings.openCatalog
  let profile ← chosenProfile settings catalog profileName
  let query ← compiled catalog profile asRelation query tree
  return compiledText query

/-- The page of works for a compiled query, with hits from a file or from the engine. -/
def collected (surroundings : Surroundings) (settings : Settings) (query : CompiledQuery)
    (profile : Profile) (window : PageWindow) (hitsPath : Option String)
    : Except Failure WorkPage := do
  let policy := settings.paging
  let tracking := surroundings.tracking
  let found ← match hitsPath with
    | some path => do
        let hits ← orFailAt ("Failed to load demo hits from " ++ path) (surroundings.hitsAt path)
        let engine : MemoryEngine := ⟨hits, none⟩
        pure (query.collect engine.index policy profile window tracking []).1
    | none => do
        let endpoint ← orFail (Settings.openEndpoint settings.endpoint)
        pure (query.collect (surroundings.engine endpoint) policy profile window tracking ()).1
  orFailAt "Search failed" (found.mapError .engine)

def searchText (surroundings : Surroundings) (colors : Bool) (settings : Settings) (query : String)
    (profileName : Option String) (window : PageWindow) (hitsPath : Option String)
    : Except Failure String := do
  let tree ← parsed settings query
  let catalog ← orFail settings.openCatalog
  let profile ← chosenProfile settings catalog profileName
  let query ← compiled catalog profile false query tree
  let page ← collected surroundings settings query profile window hitsPath
  return (Report.ofPage window.start page).text colors

def profilesText (colors : Bool) (settings : Settings) : Except Failure String := do
  let catalog ← orFail settings.openCatalog
  let registry ← orFail (settings.registry catalog)
  return (Report.ofRegistry registry).text colors

/-- What a command prints. -/
def text (surroundings : Surroundings) (colors : Bool) (settings : Settings)
    : Command → Except Failure String
  | .tokenize query locale => tokenizeText colors settings query locale
  | .parse query => parseText colors settings query
  | .compile query profile asRelation => compileText settings query profile asRelation
  | .search query profile window hitsPath =>
      searchText surroundings colors settings query profile window hitsPath
  | .profiles => profilesText colors settings

end Command

/-- The file that a command takes hits from. -/
def Command.hitsPath? : Command → Option String
  | .search _ _ _ hitsPath => hitsPath
  | _ => none

/-- The files that the program may read. -/
def Invocation.paths (standardSettingsPath : Option String) (invocation : Invocation)
    : List String :=
  (invocation.settingsPath.or standardSettingsPath).toList ++ invocation.command.hitsPath?.toList

/-- The outcome of what a command line asks for. -/
def Invocation.outcome (surroundings : Surroundings) (invocation : Invocation) : Outcome :=
  let colors := invocation.colors && surroundings.showsColors
  let printed := do
    let settings ← Command.orFailAt "Failed to load config"
      (surroundings.settings invocation.settingsPath)
    invocation.command.text surroundings colors settings
  match printed with
  | .ok output => ⟨output, "", 0⟩
  | .error failure => failure.outcome colors

/-- Runs the program on the words of a command line. -/
def run (surroundings : Surroundings) (words : List String) : Outcome :=
  match Invocation.ofWords words with
  | .ok invocation => invocation.outcome surroundings
  | .error .helpWanted => ⟨usage, "", 0⟩
  | .error fault => ⟨"", "error: " ++ fault.message ++ "\n\n" ++ usage, 2⟩

end CqlGateway.CommandLine
