import FleetDrift.Render.Style
import FleetDrift.Storage.Disk
import FleetDrift.Text.Utf8

/-!
# Surroundings of a run

What a run finds around it: storage, a clock, environment variables, and a name of its own.
-/

namespace FleetDrift.CommandLine

/-- What a run finds around it. `stamp` and `runName` are new for each run. -/
structure Surroundings (m : Type → Type) where
  disk : Disk m
  /-- Milliseconds of a clock that only runs forward. -/
  clock : m Nat
  environment : List (String × String)
  colouring : Render.Colouring
  stamp : String
  runName : String

def splitBytes (stop : UInt8) (bytes : List UInt8) : List (List UInt8) :=
  bytes.foldr (fun b parts =>
    if b = stop then [] :: parts
    else match parts with
      | [] => [[b]]
      | part :: rest => (b :: part) :: rest) []

/-- A variable as its name and value, divided by the first equals sign after the first byte. -/
def variableOfBytes? (bytes : List UInt8) : Option (String × String) :=
  let name := bytes.take 1 ++ (bytes.drop 1).takeWhile (· ≠ 0x3d)
  if name.length < bytes.length then
    some (Text.decodeLossy name, Text.decodeLossy (bytes.drop (name.length + 1)))
  else none

def environmentOfBytes (bytes : List UInt8) : List (String × String) :=
  (splitBytes 0 bytes).filterMap variableOfBytes?

def valueOfVariable (environment : List (String × String)) (name : String) : Option String :=
  (environment.find? fun v => v.1 = name).map (·.2)

def userConfigDirectory? (environment : List (String × String)) : Option String :=
  match valueOfVariable environment "XDG_CONFIG_HOME" with
  | some dir => if Path.isAbsolute dir then some dir else fallback
  | none => fallback
where
  fallback : Option String :=
    match valueOfVariable environment "HOME" with
    | some home => if home = "" then none else some (Path.join home ".config")
    | none => none

/-- Whether styles are shown: forced by a variable, forbidden by one, or left to the terminal. -/
def colouringOf (environment : List (String × String)) (isTerminal : Bool) : Render.Colouring :=
  let isSet (name : String) : Option Bool := (valueOfVariable environment name).map (· ≠ "0")
  if isSet "CLICOLOR_FORCE" = some true then .on
  else if (isSet "NO_COLOR").isSome then .off
  else if (isSet "CLICOLOR").getD true && isTerminal then .on
  else .off

def hexOfBytes (bytes : List UInt8) : String :=
  String.ofList (bytes.flatMap fun b =>
    [Nat.digitChar (b.toNat / 16), Nat.digitChar (b.toNat % 16)])

/-- Sixteen random bytes as a name: two fields of bits tell how it was made. -/
def runNameOfBytes (bytes : List UInt8) : String :=
  let byte (i : Nat) : UInt8 := bytes.getD i 0
  let marked := (List.range 16).map fun i =>
    if i = 6 then byte i % 16 + 0x40
    else if i = 8 then byte i % 64 + 0x80
    else byte i
  String.intercalate "-"
    ([(0, 4), (4, 2), (6, 2), (8, 2), (10, 6)].map fun (start, count) =>
      hexOfBytes ((marked.drop start).take count))

end FleetDrift.CommandLine
