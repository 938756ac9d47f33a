import FleetDrift.Toml.Lexical
import FleetDrift.Toml.Value

/-!
# TOML numbers, booleans and dates

The values that are written without quotes or brackets: a run of characters is cut off first and
then read as a whole.
-/

namespace FleetDrift.Toml

open FleetDrift.Number (Binary64 Decimal digitsValue decimalDigits)
open FleetDrift.Text (hexValue?)

def isLiteralChar (c : Char) : Bool :=
  c.isAlphanum || c = '_' || c = '-' || c = '+' || c = '.' || c = ':'

/-- Digits of a kind with single underscores between them, without the underscores. -/
def digitRun? (isDigit : Char → Bool) : List Char → Option (List Char)
  | [] => none
  | [c] => if isDigit c then some [c] else none
  | c :: '_' :: rest => if isDigit c then (digitRun? isDigit rest).map (c :: ·) else none
  | c :: d :: rest => if isDigit c then (digitRun? isDigit (d :: rest)).map (c :: ·) else none

def decimalRun? (cs : List Char) : Option (List Char) := do
  let ds ← digitRun? Char.isDigit cs
  match ds with
  | '0' :: _ :: _ => none
  | _ => some ds

def splitSign : List Char → Bool × List Char
  | '-' :: rest => (true, rest)
  | '+' :: rest => (false, rest)
  | cs => (false, cs)

def fits64 (n : Int) : Option Int :=
  if Number.fitsInt64 n then some n else none

def radixInteger? (radix : Nat) (cs : List Char) : Option Int := do
  let ds ← digitRun? (fun c => (hexValue? c).any (· < radix)) cs
  fits64 (ds.foldl (fun n d => radix * n + (hexValue? d).getD 0) 0 : Nat)

def integer? (cs : List Char) : Option Int :=
  match cs with
  | '0' :: 'x' :: ds => radixInteger? 16 ds
  | '0' :: 'o' :: ds => radixInteger? 8 ds
  | '0' :: 'b' :: ds => radixInteger? 2 ds
  | _ => do
    let (negative, ds) := splitSign cs
    let n := digitsValue (← decimalRun? ds)
    fits64 (if negative then -(n : Int) else n)

def exponent? (cs : List Char) : Option Int := do
  let (negative, ds) := splitSign cs
  let n := digitsValue (← digitRun? Char.isDigit ds)
  some (if negative then -(n : Int) else n)

def float? (cs : List Char) : Option Binary64 := do
  let (negative, cs) := splitSign cs
  if cs = ['i', 'n', 'f'] then some (.infinity negative)
  else if cs = ['n', 'a', 'n'] then some (.nan negative)
  else
    let isMark (c : Char) : Bool := c = 'e' || c = 'E'
    let mantissa := cs.takeWhile (!isMark ·)
    let e ← match cs.drop mantissa.length with
      | [] => some 0
      | _ :: more => exponent? more
    let whole := mantissa.takeWhile (· ≠ '.')
    let ds ← decimalRun? whole
    let fraction ← match mantissa.drop whole.length with
      | [] => if mantissa.length = cs.length then none else some []
      | _ :: more => digitRun? Char.isDigit more
    let x := Decimal.nearest negative ⟨digitsValue (ds ++ fraction), e - fraction.length⟩
    if x.isFinite then some x else none

def readFixed (count : Nat) (cs : List Char) : Option (Nat × List Char) :=
  let ds := cs.take count
  if ds.length = count ∧ ds.all Char.isDigit then some (digitsValue ds, cs.drop count) else none

def expect (c : Char) : List Char → Option (List Char)
  | [] => none
  | d :: rest => if d = c then some rest else none

def twoDigits (n : Nat) : List Char :=
  if n < 10 then '0' :: decimalDigits n else decimalDigits n

def isLeapYear (y : Nat) : Bool := y % 4 = 0 && (y % 100 ≠ 0 || y % 400 = 0)

def daysInMonth (y m : Nat) : Nat :=
  if m = 2 then (if isLeapYear y then 29 else 28)
  else if m ∈ [4, 6, 9, 11] then 30
  else 31

def readDate (cs : List Char) : Option (List Char × List Char) := do
  let (y, rest) ← readFixed 4 cs
  let (m, rest) ← readFixed 2 (← expect '-' rest)
  let (d, rest) ← readFixed 2 (← expect '-' rest)
  if 1 ≤ m ∧ m ≤ 12 ∧ 1 ≤ d ∧ d ≤ daysInMonth y m then
    some (cs.take 4 ++ '-' :: twoDigits m ++ '-' :: twoDigits d, rest)
  else none

def fractionText (ds : List Char) : List Char :=
  let kept := ((ds.take 9).reverse.dropWhile (· = '0')).reverse
  if kept.isEmpty then [] else '.' :: kept

def readSeconds (cs : List Char) : Option (List Char × List Char) :=
  match cs with
  | ':' :: rest => do
    let (s, rest) ← readFixed 2 rest
    if s ≤ 60 then
      match rest with
      | '.' :: more =>
        let ds := more.takeWhile Char.isDigit
        if ds.isEmpty then none
        else some (':' :: twoDigits s ++ fractionText ds, more.drop ds.length)
      | _ => some (':' :: twoDigits s, rest)
    else none
  | _ => some ([], cs)

def readTime (cs : List Char) : Option (List Char × List Char) := do
  let (h, rest) ← readFixed 2 cs
  let (m, rest) ← readFixed 2 (← expect ':' rest)
  if h ≤ 23 ∧ m ≤ 59 then
    let (seconds, rest) ← readSeconds rest
    some (twoDigits h ++ ':' :: twoDigits m ++ seconds, rest)
  else none

def readOffset (cs : List Char) : Option (List Char × List Char) :=
  match cs with
  | 'Z' :: rest => some (['Z'], rest)
  | 'z' :: rest => some (['Z'], rest)
  | c :: rest =>
    if c = '+' ∨ c = '-' then do
      let (h, rest) ← readFixed 2 rest
      let (m, rest) ← readFixed 2 (← expect ':' rest)
      if h ≤ 23 ∧ m ≤ 59 then some (c :: twoDigits h ++ ':' :: twoDigits m, rest) else none
    else some ([], cs)
  | [] => some ([], [])

def readDatetime (cs : List Char) : Option (String × List Char) :=
  match readTime cs with
  | some (time, rest) => some (String.ofList time, rest)
  | none => do
    let (date, rest) ← readDate cs
    let after : Option (List Char) := match rest with
      | 'T' :: more => some more
      | 't' :: more => some more
      | ' ' :: more => if (more.take 1).all Char.isDigit && !more.isEmpty then some more else none
      | _ => none
    match after with
    | none => some (String.ofList date, rest)
    | some more =>
      let (time, rest) ← readTime more
      let (offset, rest) ← readOffset rest
      some (String.ofList (date ++ 'T' :: time ++ offset), rest)

/-- A text of digits with a dash in fifth place or a colon in third is a date or a time. -/
def looksLikeDatetime (cs : List Char) : Bool :=
  ((cs.take 4).all Char.isDigit && cs[4]? = some '-') ||
  ((cs.take 2).all Char.isDigit && cs[2]? = some ':')

def readLiteralValue (cs : List Char) : Option (Value × List Char) :=
  if looksLikeDatetime cs then do
    let (text, rest) ← readDatetime cs
    if (rest.take 1).any isLiteralChar then none else some (.datetime text, rest)
  else
    let word := cs.takeWhile isLiteralChar
    let rest := cs.drop word.length
    if word = ['t', 'r', 'u', 'e'] then some (.boolean true, rest)
    else if word = ['f', 'a', 'l', 's', 'e'] then some (.boolean false, rest)
    else match integer? word with
      | some n => some (.integer n, rest)
      | none => (float? word).map fun x => (.float x, rest)

end FleetDrift.Toml
