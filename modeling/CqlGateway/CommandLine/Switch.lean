/-! The commands of the program and the switches that each of them takes. -/

namespace CqlGateway.CommandLine

inductive CommandName where
  | tokenize
  | parse
  | compile
  | search
  | profiles
deriving DecidableEq, Repr

inductive Switch where
  | config
  | verbose
  | noColor
  | help
  | locale
  | profile
  | relation
  | start
  | rows
  | allObjects
  | demo
deriving DecidableEq, Repr

namespace CommandName

def all : List CommandName :=
  [.tokenize, .parse, .compile, .search, .profiles]

def text : CommandName → String
  | .tokenize => "tokenize"
  | .parse => "parse"
  | .compile => "compile"
  | .search => "search"
  | .profiles => "profiles"

def ofText? (text : String) : Option CommandName :=
  all.find? (·.text = text)

/-- True of the commands that take a query. -/
def takesQuery (command : CommandName) : Bool :=
  command ≠ .profiles

end CommandName

namespace Switch

/-- The word behind two hyphens. -/
def word : Switch → String
  | .config => "config"
  | .verbose => "verbose"
  | .noColor => "no-color"
  | .help => "help"
  | .locale => "locale"
  | .profile => "profile"
  | .relation => "relation"
  | .start => "start"
  | .rows => "rows"
  | .allObjects => "all-objects"
  | .demo => "demo"

/-- The letter behind one hyphen. -/
def letter? : Switch → Option Char
  | .config => some 'c'
  | .verbose => some 'v'
  | .help => some 'h'
  | .locale => some 'l'
  | .profile => some 'p'
  | _ => none

/-- True of a switch that has a value. -/
def takesValue : Switch → Bool
  | .config | .locale | .profile | .start | .rows | .demo => true
  | .verbose | .noColor | .help | .relation | .allObjects => false

/-- The switches that all commands take. They may also stand in front of the command. -/
def shared : List Switch :=
  [.config, .verbose, .noColor, .help]

/-- The switches that only some commands take. -/
def own : CommandName → List Switch
  | .tokenize => [.locale]
  | .parse => []
  | .compile => [.profile, .relation]
  | .search => [.profile, .start, .rows, .allObjects, .demo]
  | .profiles => []

/-- The switches that are known behind a command, or in front of any. -/
def known : Option CommandName → List Switch
  | some command => shared ++ own command
  | none => shared

end Switch

end CqlGateway.CommandLine
