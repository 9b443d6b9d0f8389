import CqlGateway.CommandLine.Invocation

/-! Says how the program is used, and what is wrong with a command line. -/

namespace CqlGateway.CommandLine

/-- A switch as it is written in full. -/
def Switch.text (switch : Switch) : String :=
  "--" ++ switch.word

def UsageFault.message : UsageFault → String
  | .helpWanted => "help was asked for"
  | .noCommand => "a command is missing"
  | .unknownCommand text => "unknown command '" ++ text ++ "'"
  | .unknownSwitch text => "unknown switch '" ++ text ++ "'"
  | .missingValue switch => "'" ++ switch.text ++ "' lacks its value"
  | .unwantedValue switch => "'" ++ switch.text ++ "' takes no value"
  | .repeated switch => "'" ++ switch.text ++ "' is given more than once"
  | .emptyPath switch => "'" ++ switch.text ++ "' names no file"
  | .notCount switch text => "'" ++ text ++ "' is no number for '" ++ switch.text ++ "'"
  | .noQuery => "the query is missing"
  | .unwantedOperand text => "unexpected '" ++ text ++ "'"

/-- A switch with a place for its value. -/
def Switch.usage (switch : Switch) : String :=
  " [" ++ switch.text ++ (if switch.takesValue then " VALUE]" else "]")

/-- A command with its query and its own switches. -/
def CommandName.usage (command : CommandName) : String :=
  "  " ++ command.text ++ (if command.takesQuery then " QUERY" else "")
    ++ String.join ((Switch.own command).map Switch.usage) ++ "\n"

/-- All commands and switches. -/
def usage : String :=
  "Usage: COMMAND" ++ String.join (Switch.shared.map Switch.usage) ++ "\n\nCommands:\n"
    ++ String.join (CommandName.all.map CommandName.usage)

end CqlGateway.CommandLine
