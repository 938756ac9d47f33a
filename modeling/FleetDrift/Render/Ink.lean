import FleetDrift.Number.Decimal
import FleetDrift.Render.Escape

/-!
# Styled lines

Where styled text is cut into lines, each line is framed by sequences of its own: before it those
that switch on what the lines above left on, after it those that switch off what it leaves on.
-/

namespace FleetDrift.Render

open Number (decimalDigits digitsValue)

inductive Colour where
  | standard (code : Nat)
  | indexed (n : Nat)
  | mixed (red green blue : Nat)
  deriving DecidableEq, Repr

inductive Layer where
  | text
  | ground
  | underline
  deriving DecidableEq, Repr

def Layer.code : Layer → Nat
  | .text => 38
  | .ground => 48
  | .underline => 58

inductive Trait where
  | bold
  | faint
  | italic
  | underlined
  | slowBlink
  | rapidBlink
  | inverse
  | hidden
  | crossedOut
  | blackletter
  | doublyUnderlined
  | proportional
  | framed
  | encircled
  | overlined
  | superscript
  | subscript
  deriving DecidableEq, Repr

def Trait.code : Trait → Nat
  | bold => 1
  | faint => 2
  | italic => 3
  | underlined => 4
  | slowBlink => 5
  | rapidBlink => 6
  | inverse => 7
  | hidden => 8
  | crossedOut => 9
  | blackletter => 20
  | doublyUnderlined => 21
  | proportional => 26
  | framed => 51
  | encircled => 52
  | overlined => 53
  | superscript => 73
  | subscript => 74

def Trait.stopCode : Trait → Nat
  | bold => 22
  | faint => 22
  | italic => 23
  | underlined => 24
  | slowBlink => 25
  | rapidBlink => 25
  | inverse => 27
  | hidden => 28
  | crossedOut => 29
  | blackletter => 23
  | doublyUnderlined => 24
  | proportional => 50
  | framed => 54
  | encircled => 54
  | overlined => 55
  | superscript => 75
  | subscript => 75

def Trait.strokes : List Trait :=
  [.bold, .faint, .italic, .underlined, .slowBlink, .rapidBlink, .inverse, .hidden, .crossedOut]

def Trait.lettering : List Trait := [.blackletter, .doublyUnderlined, .proportional]

def Trait.framing : List Trait := [.framed, .encircled, .overlined]

def Trait.heights : List Trait := [.superscript, .subscript]

def Trait.all : List Trait := strokes ++ lettering ++ framing ++ heights

def Trait.ofCode? (code : Nat) : Option Trait := Trait.all.find? fun t => t.code = code

structure Ink where
  traits : List Trait
  font : Option Nat
  text : Option Colour
  ground : Option Colour
  underline : Option Colour
  deriving DecidableEq, Repr

namespace Ink

def plain : Ink := ⟨[], none, none, none, none⟩

def has (ink : Ink) (t : Trait) : Bool := ink.traits.contains t

def colour (ink : Ink) : Layer → Option Colour
  | .text => ink.text
  | .ground => ink.ground
  | .underline => ink.underline

def setColour (ink : Ink) (layer : Layer) (colour : Option Colour) : Ink :=
  match layer with
  | .text => { ink with text := colour }
  | .ground => { ink with ground := colour }
  | .underline => { ink with underline := colour }

def apply (ink : Ink) (code : Nat) : Ink :=
  if code = 0 then plain
  else if code = 10 then { ink with font := none }
  else if 11 ≤ code ∧ code ≤ 19 then { ink with font := some code }
  else if (30 ≤ code ∧ code ≤ 37) ∨ (90 ≤ code ∧ code ≤ 97) then
    ink.setColour .text (some (.standard code))
  else if (40 ≤ code ∧ code ≤ 47) ∨ (100 ≤ code ∧ code ≤ 107) then
    ink.setColour .ground (some (.standard code))
  else if code = 39 then ink.setColour .text none
  else if code = 49 then ink.setColour .ground none
  else if code = 59 then ink.setColour .underline none
  else match Trait.ofCode? code with
    | some t => if ink.has t then ink else { ink with traits := t :: ink.traits }
    | none => { ink with traits := ink.traits.filter fun t => t.stopCode ≠ code }

def applyAll (ink : Ink) : List Nat → Ink
  | [] => ink
  | 38 :: 5 :: n :: codes => (ink.setColour .text (some (.indexed n))).applyAll codes
  | 48 :: 5 :: n :: codes => (ink.setColour .ground (some (.indexed n))).applyAll codes
  | 58 :: 5 :: n :: codes => (ink.setColour .underline (some (.indexed n))).applyAll codes
  | 38 :: 2 :: r :: g :: b :: codes => (ink.setColour .text (some (.mixed r g b))).applyAll codes
  | 48 :: 2 :: r :: g :: b :: codes => (ink.setColour .ground (some (.mixed r g b))).applyAll codes
  | 58 :: 2 :: r :: g :: b :: codes =>
    (ink.setColour .underline (some (.mixed r g b))).applyAll codes
  | code :: codes => (ink.apply code).applyAll codes

end Ink

def styleSequence (codes : List Nat) : List Char :=
  escapeChar :: '[' :: ((codes.map decimalDigits).intersperse [';']).flatten ++ ['m']

def Layer.sequence (layer : Layer) : Colour → List Char
  | .standard code => styleSequence [code]
  | .indexed n => styleSequence [layer.code, 5, n]
  | .mixed r g b => styleSequence [layer.code, 2, r, g, b]

/-- Codes between semicolons; a missing one is zero. Anything else is no list of codes. -/
def styleCodes? (parameters : List Char) : Option (List Nat) :=
  if parameters.all fun c => c.isDigit || c = ';' then
    some (parameters.foldr (fun c parts =>
      if c = ';' then [] :: parts
      else match parts with
        | [] => [[c]]
        | part :: rest => (c :: part) :: rest) [[]] |>.map digitsValue)
  else none

namespace Ink

def traitCodes (ink : Ink) (among : List Trait) : List Nat :=
  (among.filter ink.has).map Trait.code

def start (ink : Ink) : List Char :=
  let one (codes : List Nat) : List Char := codes.flatMap fun code => styleSequence [code]
  let paint (l : Layer) : List Char := ((ink.colour l).map l.sequence).getD []
  one (ink.traitCodes Trait.strokes) ++ one ink.font.toList
    ++ one (ink.traitCodes Trait.lettering)
    ++ paint .text ++ paint .ground ++ paint .underline
    ++ one (ink.traitCodes (Trait.framing ++ Trait.heights))

def stop (ink : Ink) : List Char :=
  let codes (among : List Trait) : List Nat :=
    ((among.filter ink.has).map Trait.stopCode).eraseDups
  let clear (l : Layer) : List Nat := if (ink.colour l).isSome then [l.code + 1] else []
  let font := if ink.font.isSome then [10] else []
  let all := font ++ codes (Trait.strokes ++ Trait.lettering) ++ clear .text ++ clear .ground
    ++ codes Trait.framing ++ clear .underline ++ codes Trait.heights
  all.flatMap fun code => styleSequence [code]

def after (ink : Ink) (cs : List Char) : Ink :=
  (pieces cs).foldl (fun ink p =>
    match p with
    | .shown _ => ink
    | .style parameters => ((styleCodes? parameters).map ink.applyAll).getD ink) ink

end Ink

def splitLines (cs : List Char) : List (List Char) :=
  cs.foldr (fun c lines =>
    if c = '\n' then [] :: lines
    else match lines with
      | [] => [[c]]
      | line :: rest => (c :: line) :: rest) [[]]

def frameLines (ink : Ink) : List (List Char) → List (List Char)
  | [] => []
  | line :: lines =>
    if line.isEmpty then [] :: frameLines ink lines
    else
      let after := ink.after line
      (ink.start ++ line ++ after.stop) :: frameLines after lines

/-- The lines of a text; if there are several, each is styled by itself. -/
def styledLines (cs : List Char) : List (List Char) :=
  match splitLines cs with
  | [line] => [line]
  | lines => frameLines .plain lines

end FleetDrift.Render
