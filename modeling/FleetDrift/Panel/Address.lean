import FleetDrift.Panel.Log
import FleetDrift.Text.Hex
import FleetDrift.Text.Utf8

/-!
# Addresses of panel databases

A database is named by a path, or by a text that begins with `file:` and may go on with options. An
address without a path, the path `:memory:` and some options stand for a new database.
-/

namespace FleetDrift.Panel

inductive Address where
  | new
  | file (path : String) (use : LogUse)
  deriving DecidableEq, Repr

inductive AddressFault where
  | zeroCharacter
  | badAuthority (name : String)
  | noAccessMode (name : String)
  | accessDenied (name : String)
  | noCacheMode (name : String)
  | noSystem (name : String)
  deriving DecidableEq, Repr

def AddressFault.message : AddressFault → String
  | zeroCharacter => "filename passed to SQLite must not contain nul bytes"
  | badAuthority name => "(code: 1) invalid uri authority: " ++ name
  | noAccessMode name => "(code: 1) no such access mode: " ++ name
  | accessDenied name => "(code: 3) access mode not allowed: " ++ name
  | noCacheMode name => "(code: 1) no such cache mode: " ++ name
  | noSystem name => "(code: 1) no such vfs: " ++ name

namespace Address

def ofPath (path : String) (use : LogUse) : Address :=
  if path = "" ∨ path = ":memory:" then .new else .file path use

def byteOf (c : Char) : UInt8 := UInt8.ofNat c.toNat

def percentByte? (sign high low : UInt8) : Option UInt8 :=
  let digit? (b : UInt8) : Option Nat := Text.hexValue? (Char.ofNat b.toNat)
  if sign = byteOf '%' then do some (UInt8.ofNat (16 * (← digit? high) + (← digit? low))) else none

/-- Replaces each percent sign and two digits by their byte. A zero byte ends the text. -/
def decoded : List UInt8 → List UInt8
  | a :: b :: c :: rest =>
    match percentByte? a b c with
    | none => a :: decoded (b :: c :: rest)
    | some byte => if byte = 0 then [] else byte :: decoded rest
  | short => short

def decodedText (bytes : List UInt8) : String := Text.decodeLossy (decoded bytes)

def cut (c : Char) (bytes : List UInt8) : List UInt8 × List UInt8 :=
  (bytes.takeWhile (· ≠ byteOf c), (bytes.dropWhile (· ≠ byteOf c)).drop 1)

def splitOptions : List UInt8 → List (List UInt8)
  | [] => [[]]
  | b :: s =>
    match splitOptions s with
    | [] => [[b]]
    | part :: rest => if b = byteOf '&' then [] :: part :: rest else (b :: part) :: rest

def options (bytes : List UInt8) : List (String × String) :=
  (splitOptions bytes).filterMap fun part =>
    let (name, value) := cut '=' part
    if decoded name = [] then none else some (decodedText name, decodedText value)

inductive Access where
  | read
  | write
  | create
  | memory
  deriving DecidableEq, Repr

def Access.ofName? (name : String) : Option Access :=
  if name = "ro" then some .read
  else if name = "rw" then some .write
  else if name = "rwc" then some .create
  else if name = "memory" then some .memory
  else none

def Access.rank : Access → Nat
  | .read => 0
  | .write => 1
  | .create => 2
  | .memory => 3

structure Choice where
  access : Access
  system : Option String
  immutable : Option Bool
  unlocked : Option Bool
  indexGiven : Option Bool
  deriving DecidableEq, Repr

def Choice.first : Choice := ⟨.read, none, none, none, none⟩

/-- A switch is turned on by one of three words or by a number that is not zero as a byte. -/
def isOn (value : String) : Bool :=
  let number := Nat.ofDigitChars 10 (value.toList.takeWhile Char.isDigit) 0
  ["on", "yes", "true"].contains (value.map Char.toLower)
    || (number < 2147483648 && number % 256 ≠ 0)

/-- Follows one option; options of other names have no effect. The last system counts, but the first
of the switches with one name. -/
def Choice.follow (c : Choice) (option : String × String) : Except AddressFault Choice :=
  let (name, value) := option
  if name = "vfs" then .ok { c with system := some value }
  else if name = "cache" then
    if value = "shared" ∨ value = "private" then .ok c else .error (.noCacheMode value)
  else if name = "mode" then
    match Access.ofName? value with
    | none => .error (.noAccessMode value)
    | some access =>
      if access = .memory ∨ access.rank ≤ c.access.rank then .ok { c with access := access }
      else .error (.accessDenied value)
  else if name = "immutable" then .ok { c with immutable := c.immutable.or (some (isOn value)) }
  else if name = "nolock" then .ok { c with unlocked := c.unlocked.or (some (isOn value)) }
  else if name = "readonly_shm" then
    .ok { c with indexGiven := c.indexGiven.or (some (isOn value)) }
  else .ok c

def fileSystems : List String := ["unix", "unix-none", "unix-dotfile", "unix-excl"]

def memorySystem : String := "memdb"

def unsharedSystems : List String := ["unix-none", "unix-dotfile"]

def Choice.use (c : Choice) : LogUse :=
  if c.immutable = some true then .ignored
  else if c.unlocked = some true || c.system.any unsharedSystems.contains then .refused
  else if c.indexGiven = some true then .indexGiven
  else .opened

def afterAuthority (bytes : List UInt8) : Except AddressFault (List UInt8) :=
  match bytes with
  | a :: b :: rest =>
    if a = byteOf '/' ∧ b = byteOf '/' then
      let authority := rest.takeWhile (· ≠ byteOf '/')
      if authority = [] ∨ authority = "localhost".toUTF8.toList then
        .ok (rest.drop authority.length)
      else .error (.badAuthority (Text.decodeLossy authority))
    else .ok bytes
  | _ => .ok bytes

def ofTail (bytes : List UInt8) : Except AddressFault Address := do
  let bytes := (cut '#' (← afterAuthority bytes)).1
  let (name, rest) := cut '?' bytes
  let choice ← (options rest).foldlM Choice.follow .first
  match choice.system with
  | none => pure ()
  | some system =>
    unless fileSystems.contains system || system = memorySystem do
      .error (.noSystem system)
  if choice.access = .memory ∨ choice.system = some memorySystem then .ok .new
  else .ok (ofPath (decodedText name) choice.use)

def ofText (s : String) : Except AddressFault Address :=
  if s.contains '\x00' then .error .zeroCharacter
  else
    let scheme := "file:"
    if s.startsWith scheme then ofTail (s.toUTF8.toList.drop scheme.length)
    else .ok (ofPath s .opened)

end Address

end FleetDrift.Panel
