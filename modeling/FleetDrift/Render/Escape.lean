/-!
# Escape sequences

Text for a terminal is a run of pieces: characters that are shown, and escape sequences, of which
those that change the style are told apart. A sequence that is broken off shows nothing.
-/

namespace FleetDrift.Render

inductive Piece where
  | shown (c : Char)
  | style (parameters : List Char)
  deriving DecidableEq, Repr

/-- How far an escape sequence has come. -/
inductive Scan where
  | shown
  | escape
  | short
  | parameters (done : List Char)
  | control
  | string
  | command
  deriving DecidableEq, Repr

def escapeChar : Char := '\x1b'

def isIntermediate (c : Char) : Bool := ' ' ≤ c && c ≤ '/'

def isFinal (c : Char) : Bool := '@' ≤ c && c ≤ '~'

def isParameter (c : Char) : Bool := '0' ≤ c && c ≤ '?'

def isCancel (c : Char) : Bool := c = '\x18' || c = '\x1a'

def Scan.afterEscape (c : Char) : Scan :=
  if c = '[' then .parameters []
  else if c = ']' then .command
  else if c = 'P' ∨ c = 'X' ∨ c = '^' ∨ c = '_' then .string
  else if isIntermediate c then .short
  else if '0' ≤ c ∧ c ≤ '~' then .shown
  else .escape

/-- The piece that a character completes, and how far the sequence after it has come. -/
def Scan.step (s : Scan) (c : Char) : Option Piece × Scan :=
  if c = escapeChar then (none, .escape)
  else match s with
    | .shown => (some (.shown c), .shown)
    | .escape => (none, if isCancel c then .shown else .afterEscape c)
    | .short => (none, if isCancel c ∨ ('0' ≤ c ∧ c ≤ '~') then .shown else .short)
    | .parameters done =>
      if isParameter c then (none, .parameters (c :: done))
      else if isIntermediate c then (none, .control)
      else if c = 'm' then (some (.style done.reverse), .shown)
      else (none, if isCancel c || isFinal c then .shown else s)
    | .control => (none, if isCancel c || isFinal c then .shown else .control)
    | .string => (none, if isCancel c then .shown else .string)
    | .command => (none, if isCancel c ∨ c = '\x07' then .shown else .command)

def piecesFrom (s : Scan) : List Char → List Piece
  | [] => []
  | c :: cs =>
    let (piece, next) := s.step c
    piece.toList ++ piecesFrom next cs

def pieces (cs : List Char) : List Piece := piecesFrom .shown cs

def shownChars (cs : List Char) : List Char :=
  (pieces cs).filterMap fun p =>
    match p with
    | .shown c => some c
    | .style _ => none

end FleetDrift.Render
