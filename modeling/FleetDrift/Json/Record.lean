import FleetDrift.Json.Reader

/-!
# Reading records from JSON text

A record is read from an object, whose unknown members are passed over, or from an array with the
fields by position. A key that names a field for the second time is refused as soon as it was read.
-/

namespace FleetDrift.Json

def skipEscape (cs : List Char) : Except Stop (List Char) :=
  match cs with
  | [] => endEarly .string
  | c :: rest =>
    if (shortEscape? c).isSome then .ok rest
    else if c = 'u' then (readHex rest).map (·.2)
    else refuse .invalidEscape cs

def skipStringFrom : List Char → List Char → Except Stop (List Char)
  | [], _ => endEarly .string
  | _ :: _, [] => endEarly .string
  | _ :: fuel, c :: cs =>
    if c = '"' then .ok cs
    else if c = '\\' then
      match skipEscape cs with
      | .ok rest => skipStringFrom fuel rest
      | .error stop => .error stop
    else if c.toNat < 0x20 then refuse .controlCharacter (c :: cs)
    else skipStringFrom fuel cs

def skipString (cs : List Char) : Except Stop (List Char) := skipStringFrom (' ' :: cs) cs

/-- Like `readDigits`, but the end of the text is no better than another character. -/
def skipDigits (cs : List Char) : Except Stop (List Char) :=
  match cs with
  | c :: rest =>
    if c.isDigit then .ok (rest.dropWhile Char.isDigit) else refuse .invalidNumber cs
  | [] => refuse .invalidNumber cs

def skipNumeral (cs : List Char) : Except Stop (List Char) := do
  let rest ← match cs with
    | '0' :: d :: rest => if d.isDigit then refuse .invalidNumber (d :: rest) else .ok (d :: rest)
    | _ => skipDigits cs
  let rest ← match rest with
    | '.' :: rest => skipDigits rest
    | _ => .ok rest
  match rest with
  | c :: more => if c = 'e' ∨ c = 'E' then skipDigits (readSign more).2 else .ok rest
  | [] => .ok []

def skipScalar (cs : List Char) : Except Stop (List Char) :=
  match cs with
  | [] => endEarly .value
  | c :: rest =>
    if c = 'n' then readLetters ['u', 'l', 'l'] rest
    else if c = 't' then readLetters ['r', 'u', 'e'] rest
    else if c = 'f' then readLetters ['a', 'l', 's', 'e'] rest
    else if c = '-' then skipNumeral rest
    else if c.isDigit then skipNumeral cs
    else if c = '"' then skipString rest
    else refuse .expectedValue cs

/-- A value of which nothing is kept, with at most as many levels of brackets as the first list has
characters. -/
def skipValue : List Char → Reader Unit
  | levels, cs =>
    match skipSpaces cs with
    | [] => endEarly .value
    | c :: rest =>
      if c = '[' then
        match levels with
        | [] => refuse .tooDeep (c :: rest)
        | _ :: inner => (readList (skipValue inner) rest).map fun (_, rest) => ((), rest)
      else if c = '\x7b' then
        match levels with
        | [] => refuse .tooDeep (c :: rest)
        | _ :: inner =>
          readObject (fun (_ : Unit) cs => do skipValue inner (← readColon (← skipString cs)))
            () rest
      else (skipScalar (c :: rest)).map fun rest => ((), rest)

def skipAnyValue : Reader Unit := fun cs => skipValue (' ' :: cs) cs

abbrev Bindings (α : Type) := List (String × α)

def readBinding {α : Type} (known : List String) (item : Reader α) (found : Bindings α) :
    Reader (Bindings α) := fun cs => do
  let (key, rest) ← readString cs
  if key ∈ known then
    if (found.find? fun f => f.1 = key).isSome then mismatch (.duplicateField key) rest
    else
      let (x, rest) ← item (← readColon rest)
      .ok (found ++ [(key, x)], rest)
  else
    let (_, rest) ← skipAnyValue (← readColon rest)
    .ok (found, rest)

def readArrayEnd (cs : List Char) : Except Stop (List Char) :=
  match skipSpaces cs with
  | [] => endEarly .list
  | c :: rest =>
    if c = ']' then .ok rest
    else if c = ',' then
      match skipSpaces rest with
      | [] => refuse .trailingCharacters []
      | d :: more =>
        if d = ']' then refuse .trailingComma (d :: more)
        else refuse .trailingCharacters (d :: more)
    else refuse .trailingCharacters (c :: rest)

def readPositional {α : Type} (item : Reader α) :
    List String → Bool → List Char → Except Stop (Bindings α × List Char)
  | [], _, cs => do .ok ([], ← readArrayEnd cs)
  | name :: names, first, cs =>
    match skipSpaces cs with
    | [] => endEarly .list
    | c :: rest =>
      if c = ']' then .ok ([], rest)
      else if first then do
        let (x, rest) ← item (c :: rest)
        let (more, rest) ← readPositional item names false rest
        .ok ((name, x) :: more, rest)
      else if c = ',' then
        match skipSpaces rest with
        | [] => endEarly .value
        | d :: more =>
          if d = ']' then refuse .trailingComma (d :: more)
          else do
            let (x, rest) ← item (d :: more)
            let (more, rest) ← readPositional item names false rest
            .ok ((name, x) :: more, rest)
      else refuse .expectedCommaOrBracket (c :: rest)

/-- A value of the wrong type: a scalar is read to its end before it is refused. -/
def refuseType {α : Type} (expected : String) (cs : List Char) : Except Stop α :=
  match cs with
  | '[' :: rest => mismatch (.invalidType .sequence expected) rest
  | '\x7b' :: rest => mismatch (.invalidType .map expected) rest
  | _ => do
    let (v, rest) ← readScalar cs
    mismatch (.invalidType (Found.ofValue v) expected) rest

def readSequence {α : Type} (item : Nat → Reader α) (depth : Nat) : Reader (List α) := fun cs =>
  match skipSpaces cs with
  | [] => endEarly .value
  | c :: rest =>
    if c = '[' then
      match depth with
      | 0 => refuse .tooDeep (c :: rest)
      | inner + 1 => readList (item inner) rest
    else refuseType "a sequence" (c :: rest)

def readRecord {α : Type} (expected : String) (known : List String) (item : Nat → Reader α)
    (depth : Nat) : Reader (Bindings α) := fun cs =>
  match skipSpaces cs with
  | [] => endEarly .value
  | c :: rest =>
    if c = '[' then
      match depth with
      | 0 => refuse .tooDeep (c :: rest)
      | inner + 1 => readPositional (item inner) known true rest
    else if c = '\x7b' then
      match depth with
      | 0 => refuse .tooDeep (c :: rest)
      | inner + 1 => readObject (readBinding known (item inner)) [] rest
    else refuseType expected (c :: rest)

end FleetDrift.Json
