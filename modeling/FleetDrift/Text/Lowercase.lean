import FleetDrift.Text.CaseTable

/-!
# Lowercase

Full lowercase mapping without regard to language. Two letters have rules of their own: a capital
sigma at the end of a word becomes a final sigma, and a dotted capital I becomes two characters.
-/

namespace FleetDrift.Text

def LowerRun.apply? (run : LowerRun) (n : Nat) : Option Nat :=
  if run.first ≤ n ∧ n ≤ run.last ∧ (n - run.first) % run.step = 0 then
    some (n + run.shift).toNat
  else
    none

/-- The image under the first run that has the code point, given up at a run that starts beyond. -/
def lowerCode : List LowerRun → Nat → Nat
  | [], n => n
  | run :: rest, n =>
    if n < run.first then n
    else match run.apply? n with
      | some m => m
      | none => lowerCode rest n

def lowerChar (c : Char) : Char := Char.ofNat (lowerCode lowerRuns c.toNat)

def meetsCased (cs : List Char) : Bool :=
  match cs.dropWhile ignorableRanges.contains with
  | [] => false
  | c :: _ => casedRanges.contains c

/-- `before` holds the characters to the left, nearest first. -/
def lowerAt (before : List Char) (c : Char) (after : List Char) : List Char :=
  if c = 'Σ' then
    if meetsCased before && !meetsCased after then ['ς'] else ['σ']
  else if c = 'İ' then ['i', '\u0307']
  else [lowerChar c]

def lowerFrom (before : List Char) : List Char → List Char
  | [] => []
  | c :: after => lowerAt before c after ++ lowerFrom (c :: before) after

def lowerChars (cs : List Char) : List Char := lowerFrom [] cs

def lowercase (s : String) : String := String.ofList (lowerChars s.toList)

def asciiLowercase (s : String) : String := String.ofList (s.toList.map Char.toLower)

end FleetDrift.Text
