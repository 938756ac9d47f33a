import FleetDrift.Json.Fault
import FleetDrift.Text.Hex

/-!
# Reading JSON text

Readers consume a list of characters from the left and return the rest. A reader that fails tells
where it stopped, from which the line and column of the fault are counted.

`readValue` allows a limited depth of nesting. Strings, lists and objects are read by loops that take
at most one step for each character of the text; the text itself is their fuel.
-/

namespace FleetDrift.Json

open FleetDrift.Text (hexValue?)

/-- A failure `ahead` bytes after the beginning of `rest`. -/
structure Stop where
  fault : Fault
  rest : List Char
  ahead : Nat
  deriving DecidableEq, Repr

abbrev Reader (α : Type) := List Char → Except Stop (α × List Char)

def refuse {α : Type} (m : Malformed) (rest : List Char) : Except Stop α :=
  .error ⟨.malformed m, rest, 1⟩

def endEarly {α : Type} (t : Truncated) : Except Stop α :=
  .error ⟨.truncated t, [], 0⟩

def mismatch {α : Type} (m : Mismatch) (rest : List Char) : Except Stop α :=
  .error ⟨.mismatch m, rest, 0⟩

def isSpace (c : Char) : Bool := c = ' ' || c = '\n' || c = '\t' || c = '\r'

def skipSpaces (cs : List Char) : List Char := cs.dropWhile isSpace

def readLetters : List Char → List Char → Except Stop (List Char)
  | [], cs => .ok cs
  | _ :: _, [] => endEarly .value
  | e :: es, c :: cs => if c = e then readLetters es cs else refuse .expectedIdent (c :: cs)

/-- Four hexadecimal digits. Four bytes have to follow before their content is looked at. -/
def readHex (cs : List Char) : Except Stop (Nat × List Char) :=
  match cs with
  | a :: b :: c :: d :: rest =>
    match hexValue? a, hexValue? b, hexValue? c, hexValue? d with
    | some h, some i, some j, some k => .ok (((h * 16 + i) * 16 + j) * 16 + k, rest)
    | _, _, _, _ => .error ⟨.malformed .invalidEscape, cs, 4⟩
  | short =>
    if (String.ofList short).utf8ByteSize < 4 then endEarly .string
    else .error ⟨.malformed .invalidEscape, cs, 4⟩

def isLeadingSurrogate (n : Nat) : Bool := 0xd800 ≤ n && n ≤ 0xdbff

def isTrailingSurrogate (n : Nat) : Bool := 0xdc00 ≤ n && n ≤ 0xdfff

def readTrailing (lead : Nat) (cs : List Char) : Except Stop (Char × List Char) :=
  match cs with
  | [] => endEarly .string
  | '\\' :: [] => endEarly .string
  | '\\' :: 'u' :: more => do
    let (n, rest) ← readHex more
    if isTrailingSurrogate n then
      .ok (Char.ofNat ((lead - 0xd800) * 0x400 + (n - 0xdc00) + 0x10000), rest)
    else .error ⟨.malformed .loneSurrogate, rest, 0⟩
  | '\\' :: more => refuse .unfinishedPair more
  | _ => refuse .unfinishedPair cs

def readUnicode (cs : List Char) : Except Stop (Char × List Char) := do
  let (n, rest) ← readHex cs
  if isTrailingSurrogate n then .error ⟨.malformed .loneSurrogate, rest, 0⟩
  else if isLeadingSurrogate n then readTrailing n rest
  else .ok (Char.ofNat n, rest)

def shortEscape? (c : Char) : Option Char :=
  match c with
  | '"' => some '"'
  | '\\' => some '\\'
  | '/' => some '/'
  | 'b' => some '\x08'
  | 'f' => some '\x0c'
  | 'n' => some '\n'
  | 'r' => some '\r'
  | 't' => some '\t'
  | _ => none

def readEscape (cs : List Char) : Except Stop (Char × List Char) :=
  match cs with
  | [] => endEarly .string
  | c :: rest =>
    match shortEscape? c with
    | some e => .ok (e, rest)
    | none => if c = 'u' then readUnicode rest else refuse .invalidEscape cs

/-- What follows the opening quote; `done` holds the characters read so far, last first. -/
def readStringFrom : List Char → List Char → List Char → Except Stop (String × List Char)
  | [], _, _ => endEarly .string
  | _ :: _, _, [] => endEarly .string
  | _ :: fuel, done, c :: cs =>
    if c = '"' then .ok (String.ofList done.reverse, cs)
    else if c = '\\' then
      match readEscape cs with
      | .ok (e, rest) => readStringFrom fuel (e :: done) rest
      | .error stop => .error stop
    else if c.toNat < 0x20 then refuse .controlCharacter (c :: cs)
    else readStringFrom fuel (c :: done) cs

def readString : Reader String := fun cs => readStringFrom (' ' :: cs) [] cs

/-- How many digits can be appended to a number before it leaves 64 bits, and the result. -/
def leadingDigits : Nat → List Char → Nat × Nat
  | n, [] => (n, 0)
  | n, c :: cs =>
    let m := 10 * n + Number.digitValue c
    if m < 0x10000000000000000 then
      let (k, count) := leadingDigits m cs
      (k, count + 1)
    else (n, 0)

def readWhole (cs : List Char) : Except Stop (List Char × List Char) :=
  match cs with
  | [] => endEarly .value
  | c :: rest =>
    if c = '0' then
      match rest with
      | d :: _ => if d.isDigit then refuse .invalidNumber rest else .ok (['0'], rest)
      | [] => .ok (['0'], [])
    else if c.isDigit then .ok (cs.takeWhile Char.isDigit, cs.dropWhile Char.isDigit)
    else refuse .invalidNumber cs

def readDigits (cs : List Char) : Except Stop (List Char × List Char) :=
  match cs with
  | [] => endEarly .value
  | c :: _ =>
    if c.isDigit then .ok (cs.takeWhile Char.isDigit, cs.dropWhile Char.isDigit)
    else refuse .invalidNumber cs

def readFraction (cs : List Char) : Except Stop (Option (List Char) × List Char) :=
  match cs with
  | '.' :: rest => do
    let (ds, rest) ← readDigits rest
    .ok (some ds, rest)
  | _ => .ok (none, cs)

def readSign (cs : List Char) : Bool × List Char :=
  match cs with
  | '-' :: rest => (true, rest)
  | '+' :: rest => (false, rest)
  | _ => (false, cs)

def readExponent (cs : List Char) : Except Stop ((Option (Bool × List Char)) × List Char) :=
  match cs with
  | c :: rest =>
    if c = 'e' ∨ c = 'E' then do
      let (negative, rest) := readSign rest
      let (ds, rest) ← readDigits rest
      .ok (some (negative, ds), rest)
    else .ok (none, cs)
  | [] => .ok (none, [])

/-- What is left of an exponent's digits after the first prefix beyond 31 bits. -/
def beyondExponent (n : Nat) : List Char → Option (List Char)
  | [] => none
  | c :: cs =>
    let m := 10 * n + Number.digitValue c
    if 0x80000000 ≤ m then some cs else beyondExponent m cs

def realNumeral (negative : Bool) (whole : List Char) (fraction : Option (List Char))
    (exponent : Option (Bool × List Char)) (rest : List Char) :
    Except Stop (Numeral × List Char) :=
  let (n, kept) := leadingDigits 0 whole
  let (n, places) := leadingDigits n (fraction.getD [])
  let dropped : Int := whole.length - kept
  let e : Int := match exponent with
    | none => 0
    | some (negative, ds) =>
      let e : Int := Number.digitsValue ds
      if negative then -e else e
  let early := match exponent with
    | some (false, ds) => if n = 0 then none else beyondExponent 0 ds
    | _ => none
  match early with
  | some left => .error ⟨.malformed .numberOutOfRange, left ++ rest, 0⟩
  | none =>
    match Number.Decimal.scaled ⟨n, dropped - places + e⟩ with
    | some x => .ok (.real (x.withSign negative), rest)
    | none => .error ⟨.malformed .numberOutOfRange, rest, 0⟩

/-- A number after its sign. Whole numbers from `-2 ^ 63` to below `2 ^ 64` stay whole, all others
and `-0` are Binary64. -/
def readNumeral (negative : Bool) (cs : List Char) : Except Stop (Numeral × List Char) := do
  let (whole, rest) ← readWhole cs
  let (fraction, rest) ← readFraction rest
  let (exponent, rest) ← readExponent rest
  let n := Number.digitsValue whole
  if fraction.isSome || exponent.isSome then realNumeral negative whole fraction exponent rest
  else if negative then
    if 0 < n ∧ n ≤ 0x8000000000000000 then .ok (.whole (-(n : Int)), rest)
    else realNumeral negative whole none none rest
  else if n < 0x10000000000000000 then .ok (.whole n, rest)
  else realNumeral negative whole none none rest

/-- Items up to the closing bracket; `first` until one item was read. -/
def readItems {α : Type} (item : Reader α) :
    List Char → Bool → List Char → Except Stop (List α × List Char)
  | [], _, _ => endEarly .list
  | _ :: fuel, first, cs =>
    match skipSpaces cs with
    | [] => endEarly .list
    | c :: rest =>
      if c = ']' then .ok ([], rest)
      else if first then do
        let (x, rest) ← item (c :: rest)
        let (xs, rest) ← readItems item fuel false rest
        .ok (x :: xs, rest)
      else if c = ',' then
        match skipSpaces rest with
        | [] => endEarly .value
        | d :: more =>
          if d = ']' then refuse .trailingComma (d :: more)
          else do
            let (x, rest) ← item (d :: more)
            let (xs, rest) ← readItems item fuel false rest
            .ok (x :: xs, rest)
      else refuse .expectedCommaOrBracket (c :: rest)

def readList {α : Type} (item : Reader α) : Reader (List α) :=
  fun cs => readItems item (' ' :: cs) true cs

/-- Members up to the closing brace, each worked into the state; `member` starts after the quote
that opens a key. -/
def readMembers {σ : Type} (member : σ → Reader σ) :
    List Char → Bool → σ → List Char → Except Stop (σ × List Char)
  | [], _, _, _ => endEarly .object
  | _ :: fuel, first, s, cs =>
    match skipSpaces cs with
    | [] => endEarly .object
    | c :: rest =>
      if c = '\x7d' then .ok (s, rest)
      else if first then
        if c = '"' then do
          let (s, rest) ← member s rest
          readMembers member fuel false s rest
        else refuse .keyNotString (c :: rest)
      else if c = ',' then
        match skipSpaces rest with
        | [] => endEarly .value
        | d :: more =>
          if d = '"' then do
            let (s, rest) ← member s more
            readMembers member fuel false s rest
          else if d = '\x7d' then refuse .trailingComma (d :: more)
          else refuse .keyNotString (d :: more)
      else refuse .expectedCommaOrBrace (c :: rest)

def readObject {σ : Type} (member : σ → Reader σ) (s : σ) (cs : List Char) :
    Except Stop (σ × List Char) :=
  readMembers member (' ' :: cs) true s cs

def readColon (cs : List Char) : Except Stop (List Char) :=
  match skipSpaces cs with
  | [] => endEarly .object
  | c :: rest => if c = ':' then .ok rest else refuse .expectedColon (c :: rest)

def readScalar (cs : List Char) : Except Stop (Value × List Char) :=
  match cs with
  | [] => endEarly .value
  | c :: rest =>
    if c = 'n' then do .ok (.null, ← readLetters ['u', 'l', 'l'] rest)
    else if c = 't' then do .ok (.bool true, ← readLetters ['r', 'u', 'e'] rest)
    else if c = 'f' then do .ok (.bool false, ← readLetters ['a', 'l', 's', 'e'] rest)
    else if c = '-' then do
      let (n, rest) ← readNumeral true rest
      .ok (.number n, rest)
    else if c.isDigit then do
      let (n, rest) ← readNumeral false cs
      .ok (.number n, rest)
    else if c = '"' then do
      let (s, rest) ← readString rest
      .ok (.string s, rest)
    else refuse .expectedValue cs

/-- A key, a colon and a value, put among the fields; the last value of a key stays. -/
def readMember (value : Reader Value) (fields : Fields) (cs : List Char) :
    Except Stop (Fields × List Char) := do
  let (key, rest) ← readString cs
  let (v, rest) ← value (← readColon rest)
  .ok (fields.insert key v, rest)

def readValue : Nat → List Char → Except Stop (Value × List Char)
  | depth, cs =>
    match skipSpaces cs with
    | [] => endEarly .value
    | c :: rest =>
      if c = '[' then
        match depth with
        | 0 => refuse .tooDeep (c :: rest)
        | inner + 1 => do
          let (items, rest) ← readList (readValue inner) rest
          .ok (.array items, rest)
      else if c = '\x7b' then
        match depth with
        | 0 => refuse .tooDeep (c :: rest)
        | inner + 1 => do
          let (fields, rest) ← readObject (readMember (readValue inner)) [] rest
          .ok (.object fields, rest)
      else readScalar (c :: rest)

def maxDepth : Nat := 127

def readEnd (cs : List Char) : Except Stop Unit :=
  match skipSpaces cs with
  | [] => .ok ()
  | c :: rest => refuse .trailingCharacters (c :: rest)

/-- Line and column of a stop: lines are counted by line breaks, columns in bytes. -/
def Stop.locate (text : List Char) (stop : Stop) : Located :=
  let bytes (cs : List Char) : List UInt8 := (String.ofList cs).toUTF8.toList
  let all := bytes text
  let seen := all.take (all.length - (bytes stop.rest).length + stop.ahead)
  ⟨stop.fault, 1 + seen.count 10, (seen.reverse.takeWhile (· ≠ 10)).length⟩

def readWholeText {α : Type} (reader : Reader α) (text : String) :
    Except Located α :=
  let cs := text.toList
  match (do let (x, rest) ← reader cs; readEnd rest; pure x : Except Stop α) with
  | .ok x => .ok x
  | .error stop => .error (stop.locate cs)

def Value.read (text : String) : Except Located Value := readWholeText (readValue maxDepth) text

end FleetDrift.Json
