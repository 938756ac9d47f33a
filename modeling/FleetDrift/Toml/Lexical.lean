import FleetDrift.Text.Hex

/-!
# TOML texts and keys

Blanks, comments, line ends, the four kinds of strings and the keys. Readers consume characters from
the left and give nothing when the text is not well-formed.
-/

namespace FleetDrift.Toml

open FleetDrift.Text (hexValue?)

abbrev Reader (α : Type) := List Char → Option (α × List Char)

def isBlank (c : Char) : Bool := c = ' ' || c = '\t'

def skipBlanks (cs : List Char) : List Char := cs.dropWhile isBlank

def isControl (c : Char) : Bool := (c.toNat < 0x20 && c ≠ '\t') || c.toNat = 0x7f

def readBreak : List Char → Option (List Char)
  | '\n' :: rest => some rest
  | '\r' :: '\n' :: rest => some rest
  | _ => none

def skipComment : List Char → List Char
  | '#' :: rest => rest.dropWhile fun c => !isControl c
  | cs => cs

def readLineEnd (cs : List Char) : Option (List Char) :=
  match skipComment (skipBlanks cs) with
  | [] => some []
  | rest => readBreak rest

/-- Blanks, comments and line breaks; each round takes up at least one character. -/
def skipLines : Nat → List Char → List Char
  | 0, cs => cs
  | fuel + 1, cs =>
    let rest := skipComment (skipBlanks cs)
    match readBreak rest with
    | some more => skipLines fuel more
    | none => rest

def skipAllLines (cs : List Char) : List Char := skipLines (cs.length + 1) cs

def readCode (count : Nat) (cs : List Char) : Option (Char × List Char) := do
  let ds ← (cs.take count).mapM hexValue?
  let n := ds.foldl (fun n d => 16 * n + d) 0
  if ds.length = count ∧ (n < 0xd800 ∨ (0xdfff < n ∧ n < 0x110000)) then
    some (Char.ofNat n, cs.drop count)
  else none

def readEscape : List Char → Option (Char × List Char)
  | 'b' :: rest => some ('\x08', rest)
  | 'e' :: rest => some ('\x1b', rest)
  | 't' :: rest => some ('\t', rest)
  | 'n' :: rest => some ('\n', rest)
  | 'f' :: rest => some ('\x0c', rest)
  | 'r' :: rest => some ('\r', rest)
  | '"' :: rest => some ('"', rest)
  | '\\' :: rest => some ('\\', rest)
  | 'x' :: rest => readCode 2 rest
  | 'u' :: rest => readCode 4 rest
  | 'U' :: rest => readCode 8 rest
  | _ => none

def readBasic : Nat → List Char → List Char → Option (String × List Char)
  | 0, _, _ => none
  | _ + 1, _, [] => none
  | fuel + 1, done, c :: cs =>
    if c = '"' then some (String.ofList done.reverse, cs)
    else if c = '\\' then
      match readEscape cs with
      | some (e, rest) => readBasic fuel (e :: done) rest
      | none => none
    else if isControl c then none
    else readBasic fuel (c :: done) cs

def readLiteral (cs : List Char) : Option (String × List Char) :=
  let body := cs.takeWhile fun c => c ≠ '\'' && !isControl c
  match cs.drop body.length with
  | '\'' :: rest => some (String.ofList body, rest)
  | _ => none

/-- The end of a string over several lines: three quotes, and up to two more that belong to it. -/
def readTriple (quote : Char) (cs : List Char) : Option (List Char × List Char) :=
  let count := (cs.takeWhile (· = quote)).length
  if 3 ≤ count then
    let extra := min (count - 3) 2
    some (List.replicate extra quote, cs.drop (3 + extra))
  else none

def readKeptBreak : List Char → Option (List Char × List Char)
  | '\n' :: rest => some (['\n'], rest)
  | '\r' :: '\n' :: rest => some (['\n', '\r'], rest)
  | _ => none

def readMultiBasic : Nat → List Char → List Char → Option (String × List Char)
  | 0, _, _ => none
  | _ + 1, _, [] => none
  | fuel + 1, done, c :: cs =>
    match readTriple '"' (c :: cs) with
    | some (extra, rest) => some (String.ofList (done.reverse ++ extra), rest)
    | none =>
      if c = '\\' then
        match readEscape cs with
        | some (e, rest) => readMultiBasic fuel (e :: done) rest
        | none =>
          match readBreak (skipBlanks cs) with
          | some rest => readMultiBasic fuel done (dropBreaks (rest.length + 1) rest)
          | none => none
      else match readKeptBreak (c :: cs) with
        | some (lineBreak, rest) => readMultiBasic fuel (lineBreak ++ done) rest
        | none => if isControl c then none else readMultiBasic fuel (c :: done) cs
where
  dropBreaks : Nat → List Char → List Char
    | 0, cs => cs
    | fuel + 1, cs =>
      match readBreak (skipBlanks cs) with
      | some rest => dropBreaks fuel rest
      | none => skipBlanks cs

def readMultiLiteral : Nat → List Char → List Char → Option (String × List Char)
  | 0, _, _ => none
  | _ + 1, _, [] => none
  | fuel + 1, done, c :: cs =>
    match readTriple '\'' (c :: cs) with
    | some (extra, rest) => some (String.ofList (done.reverse ++ extra), rest)
    | none =>
      match readKeptBreak (c :: cs) with
      | some (lineBreak, rest) => readMultiLiteral fuel (lineBreak ++ done) rest
      | none => if isControl c then none else readMultiLiteral fuel (c :: done) cs

def dropFirstBreak (cs : List Char) : List Char := (readBreak cs).getD cs

def readString (cs : List Char) : Option (String × List Char) :=
  let fuel := cs.length + 1
  match cs with
  | '"' :: '"' :: '"' :: rest => readMultiBasic fuel [] (dropFirstBreak rest)
  | '\'' :: '\'' :: '\'' :: rest => readMultiLiteral fuel [] (dropFirstBreak rest)
  | '"' :: rest => readBasic fuel [] rest
  | '\'' :: rest => readLiteral rest
  | _ => none

def isBareKeyChar (c : Char) : Bool := c.isAlphanum || c = '_' || c = '-'

def readKeyPart (cs : List Char) : Option (String × List Char) :=
  match cs with
  | '"' :: rest => readBasic (cs.length + 1) [] rest
  | '\'' :: rest => readLiteral rest
  | _ =>
    let bare := cs.takeWhile isBareKeyChar
    if bare.isEmpty then none else some (String.ofList bare, cs.drop bare.length)

/-- Nothing is nested deeper, be it by brackets or by the parts of a key. -/
def maxDepth : Nat := 80

def readKeyParts : Nat → Reader (List String)
  | 0, _ => none
  | more + 1, cs => do
    let (part, rest) ← readKeyPart (skipBlanks cs)
    match skipBlanks rest with
    | '.' :: after => do
      let (parts, rest) ← readKeyParts more after
      some (part :: parts, rest)
    | rest => some ([part], rest)

def readKey : Reader (List String) := readKeyParts maxDepth

end FleetDrift.Toml
