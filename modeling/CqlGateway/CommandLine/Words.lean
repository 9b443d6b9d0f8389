import CqlGateway.CommandLine.Switch

/-! Reads the words of a command line: switches, the command, and the operands behind it. A word
with two hyphens is a switch, with its value behind an equals sign or in the next word; a word with
one hyphen is a row of one-letter switches, of which the last may have its value right behind it.
Behind a bare `--` all words are operands.
-/

namespace CqlGateway.CommandLine

/-- Why a command line does not name a command that can be run. -/
inductive UsageFault where
  /-- Help was asked for. -/
  | helpWanted
  | noCommand
  | unknownCommand (text : String)
  | unknownSwitch (text : String)
  | missingValue (switch : Switch)
  | unwantedValue (switch : Switch)
  | repeated (switch : Switch)
  | emptyPath (switch : Switch)
  | notCount (switch : Switch) (text : String)
  | noQuery
  | unwantedOperand (text : String)
deriving DecidableEq, Repr

/-- A switch that was given, with its value if it takes one, in front of the command or behind it.
-/
structure GivenSwitch where
  inFront : Bool
  switch : Switch
  value : String
deriving DecidableEq, Repr

inductive Item where
  | switch (given : GivenSwitch)
  | command (name : CommandName)
  | operand (text : String)
deriving DecidableEq, Repr

/-- What a word looks like. -/
inductive WordForm where
  | bare
  | separator
  | long (name : List Char) (value : Option (List Char))
  | short (letters : List Char)

/-- The form of a word. A single hyphen is a bare word. -/
def WordForm.ofWord (word : String) : WordForm :=
  match word.toList with
  | ['-', '-'] => .separator
  | '-' :: '-' :: rest =>
      match rest.dropWhile (· ≠ '=') with
      | _ :: value => .long (rest.takeWhile (· ≠ '=')) (some value)
      | [] => .long rest none
  | ['-'] => .bare
  | '-' :: letters => .short letters
  | _ => .bare

/-- The command behind which words stand, if they stand behind one. -/
abbrev Place := Option CommandName

namespace Place

/-- The switch with a name. -/
def named? (place : Place) (name : List Char) : Option Switch :=
  (Switch.known place).find? (·.word.toList = name)

/-- The switch with a letter. -/
def lettered? (place : Place) (letter : Char) : Option Switch :=
  (Switch.known place).find? (·.letter? = some letter)

def given (place : Place) (switch : Switch) (value : String) : Item :=
  .switch {
    inFront := place.isNone
    switch := switch
    value := value
  }

/-- What a row of letters gives, and the switch whose value is in the next word, if the last one
lacks it.
-/
def letters (place : Place) : List Char → Except UsageFault (List Item × Option Switch)
  | [] => .ok ([], none)
  | letter :: rest =>
      match lettered? place letter with
      | none => .error (.unknownSwitch (String.ofList ['-', letter]))
      | some .help => .error .helpWanted
      | some switch =>
          if switch.takesValue then
            match rest with
            | [] => .ok ([], some switch)
            | '=' :: value => .ok ([given place switch (String.ofList value)], none)
            | value => .ok ([given place switch (String.ofList value)], none)
          else
            (fun (items, open?) => (given place switch "" :: items, open?)) <$> letters place rest

/-- What a switch with two hyphens gives, or the switch itself if its value is in the next word. -/
def long (place : Place) (name : List Char) (value : Option (List Char))
    : Except UsageFault (List Item × Option Switch) :=
  match named? place name with
  | none => .error (.unknownSwitch (String.ofList ('-' :: '-' :: name)))
  | some switch =>
      match switch.takesValue, value with
      | true, some value => .ok ([given place switch (String.ofList value)], none)
      | true, none => .ok ([], some switch)
      | false, some _ => .error (.unwantedValue switch)
      | false, none =>
          if switch = .help then .error .helpWanted else .ok ([given place switch ""], none)

/-- The items of words. A switch that waits for its value takes the next word, which must be a bare
one.
-/
def items (place : Place) (waiting : Option Switch) : List String → Except UsageFault (List Item)
  | [] =>
      match waiting with
      | some switch => .error (.missingValue switch)
      | none => .ok []
  | word :: rest =>
      match waiting, WordForm.ofWord word with
      | some switch, .bare => (given place switch word :: ·) <$> items place none rest
      | some switch, _ => .error (.missingValue switch)
      | none, .long name value => do
          let (found, waiting) ← long place name value
          (found ++ ·) <$> items place waiting rest
      | none, .short row => do
          let (found, waiting) ← letters place row
          (found ++ ·) <$> items place waiting rest
      | none, .separator => .ok (rest.map .operand)
      | none, .bare =>
          match place with
          | some _ => (.operand word :: ·) <$> items place none rest
          | none =>
              match CommandName.ofText? word with
              | some command => (.command command :: ·) <$> items (some command) none rest
              | none => .error (if word = "help" then .helpWanted else .unknownCommand word)

end Place

end CqlGateway.CommandLine
