/-!
# Lenient UTF-8

Decoding that never fails: each longest piece that could have begun a character, but does not
complete one, becomes a replacement character.
-/

namespace FleetDrift.Text

def replacementChar : Char := '\ufffd'

/-- How many bytes follow a first byte, and in which range the second byte lies. -/
def utf8Lead? (b : Nat) : Option (Nat × Nat × Nat) :=
  if 0xc2 ≤ b ∧ b ≤ 0xdf then some (1, 0x80, 0xbf)
  else if b = 0xe0 then some (2, 0xa0, 0xbf)
  else if b = 0xed then some (2, 0x80, 0x9f)
  else if 0xe1 ≤ b ∧ b ≤ 0xef then some (2, 0x80, 0xbf)
  else if b = 0xf0 then some (3, 0x90, 0xbf)
  else if 0xf1 ≤ b ∧ b ≤ 0xf3 then some (3, 0x80, 0xbf)
  else if b = 0xf4 then some (3, 0x80, 0x8f)
  else none

/-- Six more bits for each of the following bytes; nothing when one is missing. The second result
tells how many bytes were usable. -/
def utf8Tail (n : Nat) : Nat → Nat → Nat → List UInt8 → Option Nat × Nat
  | 0, _, _, _ => (some n, 0)
  | _ + 1, _, _, [] => (none, 0)
  | more + 1, low, high, b :: bs =>
    let v := b.toNat
    if low ≤ v ∧ v ≤ high then
      let (code, used) := utf8Tail (n * 64 + v % 64) more 0x80 0xbf bs
      (code, used + 1)
    else (none, 0)

def lossyFrom : Nat → List UInt8 → List Char
  | 0, _ => []
  | _ + 1, [] => []
  | fuel + 1, b :: bs =>
    if b < 0x80 then Char.ofNat b.toNat :: lossyFrom fuel bs
    else match utf8Lead? b.toNat with
      | none => replacementChar :: lossyFrom fuel bs
      | some (more, low, high) =>
        let lead := b.toNat % Nat.pow 2 (6 - more)
        let (code, used) := utf8Tail lead more low high bs
        (code.map Char.ofNat).getD replacementChar :: lossyFrom fuel (bs.drop used)

def decodeLossy (bytes : List UInt8) : String :=
  String.ofList (lossyFrom bytes.length bytes)

/-- Where bytes stop being a text, and how many of them are at fault; none when they only end too
early. -/
structure Utf8Fault where
  index : Nat
  length? : Option Nat
  deriving DecidableEq, Repr

def Utf8Fault.message (fault : Utf8Fault) : String :=
  match fault.length? with
  | some length =>
    "invalid utf-8 sequence of " ++ toString length ++ " bytes from index " ++ toString fault.index
  | none => "incomplete utf-8 byte sequence from index " ++ toString fault.index

def utf8FaultFrom : Nat → Nat → List UInt8 → Option Utf8Fault
  | 0, _, _ => none
  | _ + 1, _, [] => none
  | fuel + 1, index, b :: bs =>
    if b < 0x80 then utf8FaultFrom fuel (index + 1) bs
    else match utf8Lead? b.toNat with
      | none => some ⟨index, some 1⟩
      | some (more, low, high) =>
        match utf8Tail 0 more low high bs with
        | (some _, used) => utf8FaultFrom fuel (index + used + 1) (bs.drop used)
        | (none, used) => some ⟨index, if used = bs.length then none else some (used + 1)⟩

def utf8Fault? (bytes : List UInt8) : Option Utf8Fault := utf8FaultFrom bytes.length 0 bytes

def dropByteOrderMark : List UInt8 → List UInt8
  | 0xef :: 0xbb :: 0xbf :: rest => rest
  | bytes => bytes

end FleetDrift.Text
