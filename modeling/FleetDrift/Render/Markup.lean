/-!
# Markup and text

A page is a list of fragments: markup, which is written as it is, and text, in which the five
characters with a meaning in markup are written as entities.
-/

namespace FleetDrift.Render

inductive Fragment where
  | markup (s : String)
  | text (s : String)
  deriving DecidableEq, Repr

def entityChars (c : Char) : List Char :=
  match c with
  | '"' => ['&', 'q', 'u', 'o', 't', ';']
  | '&' => ['&', 'a', 'm', 'p', ';']
  | '\'' => ['&', '#', '0', '3', '9', ';']
  | '<' => ['&', 'l', 't', ';']
  | '>' => ['&', 'g', 't', ';']
  | c => [c]

def escapeText (s : String) : List Char := s.toList.flatMap entityChars

def Fragment.chars : Fragment → List Char
  | markup s => s.toList
  | text s => escapeText s

def writeFragments (fragments : List Fragment) : String :=
  String.ofList (fragments.flatMap Fragment.chars)

end FleetDrift.Render
