import FleetDrift.Text.Hex

/-!
# Tokens of a definition

A definition is a text of words, quoted names, texts, numbers and single marks. Blanks and comments
only keep them apart.
-/

namespace FleetDrift.Panel

inductive Token where
  | word (s : String)
  | quoted (s : String)
  | text (s : String)
  | bytes (s : List UInt8)
  | number (s : List Char)
  | mark (c : Char)
  deriving DecidableEq, Repr

def sameName (a b : String) : Bool := a.toList.map Char.toLower = b.toList.map Char.toLower

def isSpace (c : Char) : Bool :=
  c = ' ' || c = '\t' || c = '\n' || c = '\x0c' || c = '\r'

def isWordChar (c : Char) : Bool :=
  c.isAlphanum || c = '_' || c = '$' || 0x80 ≤ c.toNat

/-- A quoted name or text; the closing quote written twice stands for itself. -/
def readQuoted (close : Char) : Nat → List Char → List Char → String × List Char
  | 0, done, cs => (String.ofList done.reverse, cs)
  | _ + 1, done, [] => (String.ofList done.reverse, [])
  | fuel + 1, done, c :: cs =>
    if c = close then
      match cs with
      | d :: rest =>
        if d = close then readQuoted close fuel (c :: done) rest
        else (String.ofList done.reverse, cs)
      | [] => (String.ofList done.reverse, [])
    else readQuoted close fuel (c :: done) cs

def skipStarComment : List Char → List Char
  | '*' :: '/' :: rest => rest
  | _ :: rest => skipStarComment rest
  | [] => []

/-- The characters of a number. A sign belongs to it only after the `e` of an exponent. -/
def takeNumber (cs : List Char) : List Char :=
  let hex := (cs.drop 1).head?.any fun c => c = 'x' || c = 'X'
  let run := cs.takeWhile fun c => isWordChar c || c = '.'
  match run.getLast?, cs.drop run.length with
  | some last, sign :: d :: _ =>
    if !hex && (last = 'e' || last = 'E') && (sign = '+' || sign = '-') && d.isDigit then
      run ++ sign :: (cs.drop (run.length + 1)).takeWhile isWordChar
    else run
  | _, _ => run

def closing? (c : Char) : Option Char :=
  if c = '[' then some ']'
  else if c = '"' ∨ c = '\x60' ∨ c = '\'' then some c
  else none

def tokensFrom : Nat → List Char → List Token
  | 0, _ => []
  | _ + 1, [] => []
  | fuel + 1, c :: cs =>
    if isSpace c then tokensFrom fuel cs
    else if c = '-' && cs.head? = some '-' then tokensFrom fuel (cs.dropWhile (· ≠ '\n'))
    else if c = '/' && cs.head? = some '*' then tokensFrom fuel (skipStarComment (cs.drop 1))
    else if (c = 'x' || c = 'X') && cs.head? = some '\'' then
      let (s, rest) := readQuoted '\'' (cs.length + 1) [] (cs.drop 1)
      .bytes ((Text.hexBytes? s.toList).getD []) :: tokensFrom fuel rest
    else if c.isDigit || (c = '.' && cs.head?.any Char.isDigit) then
      let run := takeNumber (c :: cs)
      .number run :: tokensFrom fuel (cs.drop (run.length - 1))
    else if isWordChar c then
      let w := cs.takeWhile isWordChar
      .word (String.ofList (c :: w)) :: tokensFrom fuel (cs.drop w.length)
    else
      match closing? c with
      | some close =>
        let (s, rest) := readQuoted close (cs.length + 1) [] cs
        (if c = '\'' then .text s else .quoted s) :: tokensFrom fuel rest
      | none => .mark c :: tokensFrom fuel cs

def tokens (sql : String) : List Token :=
  let cs := sql.toList
  tokensFrom (cs.length + 1) cs

def Token.isWord (w : String) : Token → Bool
  | .word s => sameName s w
  | _ => false

def Token.isOneOf (words : List String) (t : Token) : Bool := words.any fun w => t.isWord w

def Token.name? : Token → Option String
  | .word s => some s
  | .quoted s => some s
  | .text s => some s
  | _ => none

def beginsWith (words : List String) (ts : List Token) : Bool :=
  match ts with
  | t :: _ => t.isOneOf words
  | [] => false

def takeGroup : Nat → List Token → List Token × List Token
  | _, [] => ([], [])
  | depth, t :: ts =>
    if t = .mark ')' ∧ depth = 0 then ([], ts)
    else
      let inner := if t = .mark '(' then depth + 1 else if t = .mark ')' then depth - 1 else depth
      let (group, rest) := takeGroup inner ts
      (t :: group, rest)

def splitAtMark (mark : Char) : Nat → List Token → List (List Token)
  | _, [] => [[]]
  | depth, t :: ts =>
    if t = .mark mark ∧ depth = 0 then [] :: splitAtMark mark 0 ts
    else
      let inner := if t = .mark '(' then depth + 1 else if t = .mark ')' then depth - 1 else depth
      match splitAtMark mark inner ts with
      | [] => [[t]]
      | part :: rest => (t :: part) :: rest

end FleetDrift.Panel
