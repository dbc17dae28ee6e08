import Fanout.Text.Line
import Fanout.Text.Replace

/-!
# Console text

The marks, headings and pairs that results are shown with, and their colours. A coloured text is
set between a style and a reset; a reset inside it is followed by the style again, so the colour
holds to the end.
-/
namespace Fanout.Console

inductive Style where
  | bold
  | dimmed
  | red
  | green
  | yellow
  deriving DecidableEq

def Style.code : Style → String
  | .bold => "1"
  | .dimmed => "2"
  | .red => "31"
  | .green => "32"
  | .yellow => "33"

def reset : String := "\x1b[0m"

def Style.start (s : Style) : String := "\x1b[" ++ s.code ++ "m"

/-- A text in a style, if colours are on. -/
def paint (colors : Bool) (style : Style) (s : String) : String :=
  if colors then style.start ++ Text.replace reset (reset ++ style.start) s ++ reset else s

/-- A line of output. -/
def line (s : String) : String := s ++ "\n"

def success (colors : Bool) (text : String) : String :=
  line (paint colors .green "✓" ++ " " ++ text)

def warning (colors : Bool) (text : String) : String :=
  line (paint colors .yellow "⚠" ++ " " ++ text)

def error (colors : Bool) (text : String) : String :=
  line (paint colors .red "✗" ++ " " ++ text)

/-- A title, underlined, after an empty line. -/
def header (colors : Bool) (title : String) : String :=
  let rule := String.ofList (List.replicate title.length '─')
  line "" ++ line (paint colors .bold title) ++ line (paint colors .dimmed rule)

/-- A name and its value. -/
def pair (colors : Bool) (key value : String) : String :=
  line ("  " ++ paint colors .dimmed key ++ ": " ++ value)

end Fanout.Console
