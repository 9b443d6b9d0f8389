/-! Text for a terminal: segments, some of them in a color. A report can be written with its colors
or without them.
-/

namespace CqlGateway

inductive Color where
  | red
  | green
  | yellow
  | blue
  | magenta
  | cyan
deriving DecidableEq, Repr

/-- The color's number in a terminal. -/
def Color.number : Color → Nat
  | .red => 1
  | .green => 2
  | .yellow => 3
  | .blue => 4
  | .magenta => 5
  | .cyan => 6

structure Style where
  color : Color
  bold : Bool
deriving DecidableEq, Repr

structure Segment where
  /-- Without a style the text stands as it is. -/
  style : Option Style
  text : String
deriving DecidableEq, Repr

abbrev Report := List Segment

namespace Style

/-- Ends every style. -/
def reset : String := "\x1b[0m"

/-- Begins the style after any other one. -/
def start (style : Style) : String :=
  reset ++ (if style.bold then "\x1b[1m" else "") ++ "\x1b[3" ++ toString style.color.number ++ "m"

end Style

namespace Segment

def plain (text : String) : Segment :=
  {
    style := none
    text := text
  }

def colored (color : Color) (text : String) : Segment :=
  {
    style := some ⟨color, false⟩
    text := text
  }

def bold (color : Color) (text : String) : Segment :=
  {
    style := some ⟨color, true⟩
    text := text
  }

def lineEnd : Segment :=
  plain "\n"

/-- The text between the marks of its style. -/
def coloredText (segment : Segment) : String :=
  match segment.style with
  | some style => style.start ++ segment.text ++ Style.reset
  | none => segment.text

end Segment

namespace Report

/-- The text of a report, with its colors if they are wanted. -/
def text (colors : Bool) (report : Report) : String :=
  String.join (report.map (if colors then Segment.coloredText else Segment.text))

end Report

end CqlGateway
