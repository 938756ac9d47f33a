import FleetDrift.Panel.Cell
import FleetDrift.Panel.Token
import FleetDrift.Text.Utf8

/-!
# Expressions

The part of the expression language with which columns are computed and rows are chosen: values,
columns, joined texts, sums and products, comparisons and a few functions.
-/

namespace FleetDrift.Panel

open FleetDrift.Number (Binary64 Decimal fitsInt64)

inductive Function where
  | negative
  | not
  | upper
  | lower
  | trim
  | length
  deriving DecidableEq, Repr

inductive Comparator where
  | equal
  | unequal
  | less
  | lessEqual
  | greater
  | greaterEqual
  deriving DecidableEq, Repr

inductive Operator where
  | concat
  | plus
  | minus
  | times
  | compare (c : Comparator)
  | is
  | isNot
  | and
  | or
  | orElse
  deriving DecidableEq, Repr

inductive Expression where
  | value (c : Cell)
  | column (name : String)
  | apply (f : Function) (e : Expression)
  | combine (op : Operator) (a b : Expression)
  deriving DecidableEq, Repr

def Cell.textBytes : Cell → List UInt8
  | .integer n => (Number.intText n.toInt).toUTF8.toList
  | .real x => (realText x).toUTF8.toList
  | other => other.bytes

def numberPrefix (s : String) : Cell :=
  let cs := s.toList.dropWhile isNumberBlank
  ((List.range (cs.length + 1)).reverse.findSome? fun n =>
    numericText? (String.ofList (cs.take n))).getD (.integer 0)

def Cell.number : Cell → Cell
  | .text s => numberPrefix s
  | .garbled bytes => numberPrefix (Text.decodeLossy bytes)
  | .blob bytes => numberPrefix (Text.decodeLossy bytes)
  | other => other

def Cell.toReal : Cell → Binary64
  | .integer n => .ofInt n.toInt
  | .real x => x
  | _ => .zero

def Cell.ofFloat (x : Binary64) : Cell := if x.isNaN then .null else .real x

def Cell.truth? (c : Cell) : Option Bool :=
  match c.number with
  | .null => none
  | .real x => some (!x.isZero)
  | other => some (other != .integer 0)

def Cell.ofTruth : Option Bool → Cell
  | none => .null
  | some b => .integer (if b then 1 else 0)

def arithmetic (whole : Int → Int → Int) (real : Binary64 → Binary64 → Binary64) (a b : Cell) :
    Cell :=
  match a.number, b.number with
  | .null, _ => .null
  | _, .null => .null
  | .integer x, .integer y =>
    let n := whole x.toInt y.toInt
    if fitsInt64 n then .integer (Int64.ofInt n)
    else .ofFloat (real (.ofInt x.toInt) (.ofInt y.toInt))
  | x, y => .ofFloat (real x.toReal y.toReal)

def asciiMap (f : Char → Char) (c : Cell) : Cell :=
  if c = .null then .null
  else match Cell.ofUtf8 c.textBytes with
    | .text s => .text (s.map f)
    | other => other

def Function.eval (f : Function) (c : Cell) : Cell :=
  match f with
  | .negative => arithmetic (· - ·) (fun x y => x.add y.neg) (.integer 0) c
  | .not => .ofTruth (c.truth?.map (!·))
  | .upper => asciiMap Char.toUpper c
  | .lower => asciiMap Char.toLower c
  | .trim =>
    if c = .null then .null
    else .ofUtf8 (((c.textBytes.dropWhile (· = 0x20)).reverse.dropWhile (· = 0x20)).reverse)
  | .length =>
    match c with
    | .null => .null
    | .blob bytes => .integer (Int64.ofNat bytes.length)
    | other =>
      let cs := (Text.decodeLossy other.textBytes).toList
      .integer (Int64.ofNat (cs.takeWhile (· ≠ '\x00')).length)

/-- Both sides of a comparison, converted where only one of them belongs to a column of a kind. -/
def alignSides (left right : Option Affinity) (a b : Cell) : Cell × Cell :=
  let numeric (x : Option Affinity) : Bool :=
    x = some .integer || x = some .real || x = some .numeric
  if numeric left && !numeric right then (a, Affinity.numeric.store b)
  else if numeric right && !numeric left then (Affinity.numeric.store a, b)
  else if left = some .text && right = none then (a, Affinity.text.store b)
  else if right = some .text && left = none then (Affinity.text.store a, b)
  else (a, b)

def Comparator.holds (c : Comparator) (a b : Cell) : Bool :=
  match c with
  | .equal => a.le b && b.le a
  | .unequal => !(a.le b && b.le a)
  | .less => !b.le a
  | .lessEqual => a.le b
  | .greater => !a.le b
  | .greaterEqual => b.le a

def Operator.eval (op : Operator) (left right : Option Affinity) (a b : Cell) : Cell :=
  match op with
  | .concat =>
    if a = .null ∨ b = .null then .null else .ofUtf8 (a.textBytes ++ b.textBytes)
  | .plus => arithmetic (· + ·) .add a b
  | .minus => arithmetic (· - ·) (fun x y => x.add y.neg) a b
  | .times => arithmetic (· * ·) .mul a b
  | .compare c =>
    if a = .null ∨ b = .null then .null
    else
      let (a, b) := alignSides left right a b
      .ofTruth (some (c.holds a b))
  | .is =>
    let (a, b) := alignSides left right a b
    .ofTruth (some (Comparator.equal.holds a b))
  | .isNot =>
    let (a, b) := alignSides left right a b
    .ofTruth (some (Comparator.unequal.holds a b))
  | .and =>
    match a.truth?, b.truth? with
    | some false, _ => .ofTruth (some false)
    | _, some false => .ofTruth (some false)
    | some true, some true => .ofTruth (some true)
    | _, _ => .null
  | .or =>
    match a.truth?, b.truth? with
    | some true, _ => .ofTruth (some true)
    | _, some true => .ofTruth (some true)
    | some false, some false => .ofTruth (some false)
    | _, _ => .null
  | .orElse => if a = .null then b else a

namespace Expression

def affinity? (find : String → Option (Affinity × Cell)) : Expression → Option Affinity
  | column name => (find name).map (·.1)
  | _ => none

def eval (find : String → Option (Affinity × Cell)) : Expression → Cell
  | value c => c
  | column name => ((find name).map (·.2)).getD .null
  | apply f e => f.eval (e.eval find)
  | combine op a b =>
    op.eval (a.affinity? find) (b.affinity? find) (a.eval find) (b.eval find)

def columns : Expression → List String
  | value _ => []
  | column name => [name]
  | apply _ e => e.columns
  | combine _ a b => a.columns ++ b.columns

end Expression

def numberCell (cs : List Char) : Option Cell :=
  match cs with
  | '0' :: x :: ds =>
    if x = 'x' ∨ x = 'X' then
      (ds.mapM Text.hexValue?).map fun ds =>
        .integer (Int64.ofNat (ds.foldl (fun n d => 16 * n + d) 0))
    else plain
  | _ => plain
where
  plain : Option Cell :=
    let n : Int := Number.digitsValue cs
    if cs.all Char.isDigit && fitsInt64 n then some (.integer (Int64.ofInt n))
    else (Decimal.ofChars? cs).map fun d => .real (d.nearest false)

def constant? : Token → Option Cell
  | .text s => some (.text s)
  | .bytes s => some (.blob s)
  | .number cs => numberCell cs
  | .word w =>
    if sameName w "NULL" then some .null
    else if sameName w "TRUE" then some (.integer 1)
    else if sameName w "FALSE" then some (.integer 0)
    else none
  | _ => none

def operator? (ts : List Token) : Option (Operator × Nat × List Token) :=
  match ts with
  | .mark '|' :: .mark '|' :: rest => some (.concat, 7, rest)
  | .mark '*' :: rest => some (.times, 6, rest)
  | .mark '+' :: rest => some (.plus, 5, rest)
  | .mark '-' :: rest => some (.minus, 5, rest)
  | .mark '<' :: .mark '=' :: rest => some (.compare .lessEqual, 4, rest)
  | .mark '<' :: .mark '>' :: rest => some (.compare .unequal, 3, rest)
  | .mark '<' :: rest => some (.compare .less, 4, rest)
  | .mark '>' :: .mark '=' :: rest => some (.compare .greaterEqual, 4, rest)
  | .mark '>' :: rest => some (.compare .greater, 4, rest)
  | .mark '=' :: .mark '=' :: rest => some (.compare .equal, 3, rest)
  | .mark '=' :: rest => some (.compare .equal, 3, rest)
  | .mark '!' :: .mark '=' :: rest => some (.compare .unequal, 3, rest)
  | t :: rest =>
    if t.isWord "IS" then
      if beginsWith ["NOT"] rest then some (.isNot, 3, rest.drop 1) else some (.is, 3, rest)
    else if t.isWord "AND" then some (.and, 2, rest)
    else if t.isWord "OR" then some (.or, 1, rest)
    else none
  | [] => none

def function? (name : String) : Option Function :=
  if sameName name "upper" then some .upper
  else if sameName name "lower" then some .lower
  else if sameName name "trim" then some .trim
  else if sameName name "length" then some .length
  else none

def call? (name : String) (arguments : List Expression) : Option Expression :=
  match arguments with
  | [e] => (function? name).map fun f => .apply f e
  | e :: rest =>
    if sameName name "coalesce" || sameName name "ifnull" then
      some (rest.foldl (Expression.combine .orElse) e)
    else none
  | [] => none

mutual

def readOperand : Nat → List Token → Option (Expression × List Token)
  | 0, _ => none
  | _ + 1, [] => none
  | fuel + 1, t :: ts =>
    if t = .mark '(' then do
      let (e, rest) ← readExpression fuel 1 ts
      if rest.head? = some (.mark ')') then some (e, rest.drop 1) else none
    else if t = .mark '-' then do
      let (e, rest) ← readOperand fuel ts
      some (.apply .negative e, rest)
    else if t = .mark '+' then readOperand fuel ts
    else if t.isWord "NOT" then do
      let (e, rest) ← readExpression fuel 3 ts
      some (.apply .not e, rest)
    else match constant? t, t.name?, ts with
      | some c, _, _ => some (.value c, ts)
      | none, some f, .mark '(' :: rest => do
        let (group, rest) := takeGroup 0 rest
        let arguments ← readAll fuel (splitAtMark ',' 0 group)
        (call? f arguments).map fun e => (e, rest)
      | none, some _, .mark '.' :: u :: rest => u.name?.map fun name => (.column name, rest)
      | none, some name, _ => some (.column name, ts)
      | none, none, _ => none

def readAll : Nat → List (List Token) → Option (List Expression)
  | 0, _ => none
  | _ + 1, [] => some []
  | fuel + 1, part :: parts => do
    let (e, rest) ← readExpression fuel 1 part
    if rest = [] then some (e :: (← readAll fuel parts)) else none

/-- An expression whose operators have at least the given strength. -/
def readExpression : Nat → Nat → List Token → Option (Expression × List Token)
  | 0, _, _ => none
  | fuel + 1, strength, ts => do
    let (e, rest) ← readOperand fuel ts
    readFurther fuel strength e rest

def readFurther : Nat → Nat → Expression → List Token → Option (Expression × List Token)
  | 0, _, _, _ => none
  | fuel + 1, strength, e, ts =>
    match operator? ts with
    | none => some (e, ts)
    | some (op, own, rest) =>
      if own < strength then some (e, ts)
      else do
        let (b, rest) ← readExpression fuel (own + 1) rest
        readFurther fuel strength (.combine op e b) rest

end

def Expression.read (ts : List Token) : Option (Expression × List Token) :=
  readExpression (3 * ts.length + 3) 1 ts

def Expression.ofTokens? (ts : List Token) : Option Expression := do
  let (e, rest) ← Expression.read ts
  if rest = [] then some e else none

end FleetDrift.Panel
