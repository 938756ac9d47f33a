import FleetDrift.Panel.File

/-!
# Logs of panel databases

Some databases keep a log of their latest changes in a file beside them, and an index of the log in
another. Whoever opens such a database makes the two files, even if it is only to read.
-/

namespace FleetDrift.Panel

/-- What a reader does with the log of a database that keeps one. Without locks there is no using
it, and a reader that may not write the index needs one that is there. -/
inductive LogUse where
  | opened
  | indexGiven
  | ignored
  | refused
  deriving DecidableEq, Repr

def logSuffix : String := "-wal"

def indexSuffix : String := "-shm"

def keepsLog (bytes : List UInt8) : Bool := File.firstBytes.isPrefixOf bytes && bytes[19]? = some 2

def wordBytes (n : Nat) : List UInt8 := (List.range 4).map fun i => UInt8.ofNat (n >>> (8 * i))

/-- The head of an index of no changes: its version, that it is ready, and its check sums. -/
def indexHead : List Nat := [3007000, 0, 0, 1, 0, 0, 0, 0, 0, 0, 0x06180738, 0x09db9335]

def unusedMark : Nat := 0xffffffff

def indexMarks : List Nat := [0, 0, unusedMark, unusedMark, unusedMark, unusedMark, 0, 0, 0, 0]

def indexSize : Nat := 32768

/-- An index of no changes. Its head stands there twice. -/
def emptyIndex : List UInt8 :=
  let start := (indexHead ++ indexHead ++ indexMarks).flatMap wordBytes
  start ++ List.replicate (indexSize - start.length) 0

end FleetDrift.Panel
