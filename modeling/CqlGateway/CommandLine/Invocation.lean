import CqlGateway.CommandLine.Words
import CqlGateway.Numeral.Unsigned
import CqlGateway.Works.Page

/-! What a command line asks for. Each switch may be given once in front of the command and once
behind it, where it counts.
-/

namespace CqlGateway.CommandLine

inductive Command where
  /-- Shows the tokens of a query. -/
  | tokenize (query : String) (locale : Option String)
  /-- Shows the tree of a query. -/
  | parse (query : String)
  /-- Shows what the engine would be asked. -/
  | compile (query : String) (profile : Option String) (asRelation : Bool)
  /-- Shows a page of works. The hits come from a file or from the engine. -/
  | search (query : String) (profile : Option String) (window : PageWindow)
      (hitsPath : Option String)
  /-- Shows the profiles. -/
  | profiles
deriving DecidableEq

structure Invocation where
  settingsPath : Option String
  colors : Bool
  command : Command
deriving DecidableEq

namespace GivenSwitch

/-- A switch that was given in the same place and again among the others. -/
def repeated? : List GivenSwitch → Option Switch
  | [] => none
  | given :: rest =>
      if rest.any fun other => other.switch = given.switch && other.inFront = given.inFront then
        some given.switch
      else
        repeated? rest

/-- True of a switch whose value names no file. -/
def isEmptyPath (given : GivenSwitch) : Bool :=
  (given.switch = .config || given.switch = .demo) && given.value.isEmpty

/-- The value of a switch that counts. -/
def value? (switches : List GivenSwitch) (switch : Switch) : Option String :=
  (switches.reverse.find? (·.switch = switch)).map (·.value)

/-- True if a switch was given. -/
def isGiven (switches : List GivenSwitch) (switch : Switch) : Bool :=
  switches.any (·.switch = switch)

/-- The number that a switch gives. -/
def count (switches : List GivenSwitch) (switch : Switch) (default : Nat) : Except UsageFault Nat :=
  match value? switches switch with
  | none => .ok default
  | some text =>
      match readUnsigned? countLimit text.toList with
      | some value => .ok value
      | none => .error (.notCount switch text)

/-- The works that a search wants. -/
def window (switches : List GivenSwitch) : Except UsageFault PageWindow := do
  let start ← count switches .start 1
  let size ← count switches .rows 10
  return {
    start := start
    size := size
    allObjects := isGiven switches .allObjects
  }

end GivenSwitch

/-- The switches among the items. -/
def Item.switches (items : List Item) : List GivenSwitch :=
  items.filterMap fun
    | .switch given => some given
    | _ => none

/-- The command among the items. -/
def Item.command? (items : List Item) : Option CommandName :=
  items.findSome? fun
    | .command name => some name
    | _ => none

/-- The operands among the items. -/
def Item.operands (items : List Item) : List String :=
  items.filterMap fun
    | .operand text => some text
    | _ => none

/-- The command with a name, its query and its switches. -/
def Command.ofName (name : CommandName) (query : String) (switches : List GivenSwitch)
    : Except UsageFault Command :=
  match name with
  | .tokenize => .ok (.tokenize query (GivenSwitch.value? switches .locale))
  | .parse => .ok (.parse query)
  | .compile =>
      .ok (.compile query (GivenSwitch.value? switches .profile)
        (GivenSwitch.isGiven switches .relation))
  | .search => do
      let window ← GivenSwitch.window switches
      return .search query (GivenSwitch.value? switches .profile) window
        (GivenSwitch.value? switches .demo)
  | .profiles => .ok .profiles

/-- The query among the operands of a command, which must be all there is. -/
def CommandName.query (name : CommandName) (operands : List String) : Except UsageFault String :=
  match name.takesQuery, operands with
  | true, [query] => .ok query
  | true, [] => .error .noQuery
  | true, _ :: unwanted :: _ => .error (.unwantedOperand unwanted)
  | false, [] => .ok ""
  | false, unwanted :: _ => .error (.unwantedOperand unwanted)

/-- What items ask for. -/
def Invocation.ofItems (items : List Item) : Except UsageFault Invocation := do
  let switches := Item.switches items
  if let some switch := GivenSwitch.repeated? switches then
    throw (.repeated switch)
  if let some given := switches.find? (·.isEmptyPath) then
    throw (.emptyPath given.switch)
  match Item.command? items with
  | none => throw .noCommand
  | some name =>
      let query ← name.query (Item.operands items)
      let command ← Command.ofName name query switches
      return {
        settingsPath := GivenSwitch.value? switches .config
        colors := !GivenSwitch.isGiven switches .noColor
        command := command
      }

/-- What the words of a command line ask for. -/
def Invocation.ofWords (words : List String) : Except UsageFault Invocation := do
  let items ← Place.items none none words
  Invocation.ofItems items

end CqlGateway.CommandLine
