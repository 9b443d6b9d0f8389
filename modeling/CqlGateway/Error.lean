import CqlGateway.Catalog.Basic
import CqlGateway.Index.Engine
import CqlGateway.Json.Fault
import CqlGateway.Profile.Registry
import CqlGateway.Query.Parse
import CqlGateway.Compilation.Error
import CqlGateway.Works.Grouping

/-! All that can go wrong, with the messages for it. -/

namespace CqlGateway

def ScanFault.message : ScanFault → String
  | .unterminatedTerm => "unterminated quoted term"
  | .danglingBackslash => "dangling backslash"

def ParseFault.message : ParseFault → String
  | .noTokens => "empty token stream"
  | .emptyQuery => "empty query"
  | .nestedTooDeeply => "query nested too deeply"
  | .modifiersOn operator => "modifiers are not allowed on '" ++ operator.word ++ "'"
  | .unexpected expected found => "expected " ++ expected.label ++ ", found " ++ found.describe

/-- What is wrong with settings. -/
inductive SettingsError where
  | emptyAddress
  | emptyEndpoint
  | zeroRows
  | keywords (locale : String)
  | catalog (error : CatalogError)
  | duplicateProfile (name : String)
deriving DecidableEq, Repr

def CatalogError.message : CatalogError → String
  | .duplicateIndex name =>
      s!"index '{name}' is defined more than once (names are case-insensitive)"
  | .missingIndex name => s!"catalog does not define index '{name}'"

def SettingsError.message : SettingsError → String
  | .emptyAddress => "engine.base_url is empty"
  | .emptyEndpoint => "engine base_url is empty"
  | .zeroRows => "paging.max_rows must be positive"
  | .keywords locale => s!"unknown keyword locale '{locale}' or synonym operator"
  | .catalog error => error.message
  | .duplicateProfile name => s!"profile '{name}' is defined more than once"

def UnseenId.message : UnseenId → String
  | .work id => "work not found: " ++ id
  | .unit id => "unit not found: " ++ id

/-- Why a file cannot be read. -/
inductive FileFault where
  | missing
  | notDirectory
  | isDirectory
  | notText
  /-- What the system says of it. -/
  | reported (message : String)
deriving DecidableEq, Repr

def FileFault.message : FileFault → String
  | .missing => "No such file or directory (os error 2)"
  | .notDirectory => "Not a directory (os error 20)"
  | .isDirectory => "Is a directory (os error 21)"
  | .notText => "stream did not contain valid UTF-8"
  | .reported message => message

/-- True of a file that is not there. -/
def FileFault.isAbsent : FileFault → Bool
  | .missing | .notDirectory => true
  | _ => false

inductive Error where
  | scan (error : ScanError)
  | parse (error : ParseError)
  | compilation (error : CompilationError)
  | unseen (id : UnseenId)
  | engine (error : EngineError)
  | unknownProfile (name : String)
  | settings (error : SettingsError)
  | file (fault : FileFault)
  /-- A text is no JSON, or JSON of another form. -/
  | json (fault : Json.Fault)
deriving DecidableEq, Repr

namespace Error

def message : Error → String
  | .scan error => s!"scan error at offset {error.offset}: " ++ error.fault.message
  | .parse error => s!"syntax error at offset {error.offset}: " ++ error.fault.message
  | .compilation error => "compile error: " ++ error.message
  | .unseen id => id.message
  | .engine error => "engine error: " ++ error.message
  | .unknownProfile name => "unknown profile: " ++ name
  | .settings error => "invalid configuration: " ++ error.message
  | .file fault => fault.message
  | .json fault => fault.message

/-- The kind of an error for programs to tell. -/
def code : Error → String
  | .scan _ => "SCAN_ERROR"
  | .parse _ => "SYNTAX_ERROR"
  | .compilation _ => "COMPILE_ERROR"
  | .unseen _ => "NOT_FOUND"
  | .engine _ => "ENGINE_ERROR"
  | .unknownProfile _ => "UNKNOWN_PROFILE"
  | .settings _ => "CONFIG_ERROR"
  | .file _ => "IO_ERROR"
  | .json _ => "JSON_ERROR"

/-- Where in the query an error shows, if it is tied to a place. -/
def offset? : Error → Option Nat
  | .scan error => some error.offset
  | .parse error => some error.offset
  | _ => none

/-- True of errors that are in the query itself. -/
def isInQuery : Error → Bool
  | .scan _ => true
  | .parse _ => true
  | .compilation _ => true
  | _ => false

end Error

/-- The query that a text holds. -/
def Vocabulary.parse (vocabulary : Vocabulary) (text : String) : Except Error CqlQuery := do
  let tokens ← (vocabulary.tokens text).mapError .scan
  (CqlQuery.ofTokens tokens).mapError .parse

end CqlGateway
