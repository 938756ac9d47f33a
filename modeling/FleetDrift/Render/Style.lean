/-!
# Terminal styles

A style is switched on by an escape sequence before a text and off by one after it.
-/

namespace FleetDrift.Render

inductive Style where
  | bold
  | dimmed
  | red
  | green
  | yellow
  | cyan
  | brightYellow
  | boldRed
  | boldGreen
  | boldCyan
  deriving DecidableEq, Repr

def Style.parameters : Style → String
  | bold => "1"
  | dimmed => "2"
  | red => "31"
  | green => "32"
  | yellow => "33"
  | cyan => "36"
  | brightYellow => "93"
  | boldRed => "1;31"
  | boldGreen => "1;32"
  | boldCyan => "1;36"

def escapeStart : String := "\x1b["

def resetSequence : String := "\x1b[0m"

inductive Colouring where
  | off
  | on
  deriving DecidableEq, Repr

/-- The text in a style. A reset within the text is followed by the style again. -/
def Colouring.paint (c : Colouring) (style : Style) (text : String) : String :=
  match c with
  | .off => text
  | .on =>
    let start := escapeStart ++ style.parameters ++ "m"
    start ++ String.intercalate (resetSequence ++ start) (text.splitOn resetSequence)
      ++ resetSequence

end FleetDrift.Render
