import FleetDrift.Text.WidthTable

/-!
# Joined characters

Characters that a terminal shows as one shape with what follows them: pictographs with a skin tone
or behind a joiner, flags, and ligatures of a few scripts. A stretch of text is known by what it
begins with, and a character before it may join that beginning.
-/

namespace FleetDrift.Text

/-- What a stretch of text begins with, as far as a character before it can join it. -/
inductive Beginning where
  | plain
  | tone
  | flagLetter
  | flagLetters
  | picture
  | joinedPicture
  | joinedKeycap
  | joinedFlagLetter
  | joinedFlag
  | joinedFlagRest
  | joinedTagEnd
  | joinedTagLetters (count : Nat)
  | joinedTagDigits (count : Nat)
  | alef
  | lamed
  | ya
  | vowelYa
  | consonant
  | linkedConsonant
  | lowTone
  | orkhonI
  | subscriptLetter
  | vowelE
  | vowelAi
  deriving DecidableEq, Repr

def Beginning.isLetter : Beginning → Bool
  | alef | lamed | ya | vowelYa | consonant | linkedConsonant | lowTone | orkhonI
  | subscriptLetter => true
  | _ => false

/-- Ligatures that joiners do not part. Arabic letters have a rule of their own. -/
def Beginning.joinsAcrossJoiner (b : Beginning) : Bool := b.isLetter && b ≠ .alef

def joiner : Char := '\u200d'

def isSkinTone (c : Char) : Bool := '🏻' ≤ c && c ≤ '🏿'

def isFlagLetter (c : Char) : Bool := 0x1f1e6 ≤ c.toNat && c.toNat ≤ 0x1f1ff

def isTagLetter (c : Char) : Bool := 0xe0061 ≤ c.toNat && c.toNat ≤ 0xe007a

def isTagDigit (c : Char) : Bool := 0xe0030 ≤ c.toNat && c.toNat ≤ 0xe0039

def isTifinaghConsonant (c : Char) : Bool :=
  ('\u2d31' ≤ c && c ≤ '\u2d65') || c = '\u2d6f'

def subscriptRanges : CharRanges :=
  [(0x1780, 0x1782), (0x1784, 0x1787), (0x1789, 0x178c), (0x178e, 0x1793), (0x1795, 0x1798),
   (0x179b, 0x179d), (0x17a0, 0x17a0), (0x17a2, 0x17a2), (0x17a7, 0x17a7), (0x17ab, 0x17ac),
   (0x17af, 0x17af)]

def passedMarkRanges : CharRanges :=
  [(0x34f, 0x34f), (0x17b4, 0x17b5), (0x180b, 0x180d), (0x180f, 0x180f), (0xfe00, 0xfe0f),
   (0xe0100, 0xe01ef)]

def charColumns (c : Char) : Nat :=
  if zeroWidthRanges.contains c then 0
  else if doubleWidthRanges.contains c then 2
  else if c = '\u17d8' then 3
  else 1

def Beginning.ofChar (c : Char) : Beginning :=
  if isSkinTone c then .tone
  else if isFlagLetter c then .flagLetter
  else if pictographRanges.contains c then .picture
  else if alefRanges.contains c then .alef
  else if c = '\u05dc' then .lamed
  else if c = '\u1a10' then .ya
  else if isTifinaghConsonant c then .consonant
  else if c = '\ua4fc' ∨ c = '\ua4fd' then .lowTone
  else if c.toNat = 0x10c03 then .orkhonI
  else if subscriptRanges.contains c then .subscriptLetter
  else if c.toNat = 0x16d67 then .vowelE
  else if c.toNat = 0x16d68 then .vowelAi
  else .plain

def joinsArabic (c : Char) : Bool :=
  zeroWidthRanges.contains c && !unjoinedRanges.contains c

def joinPicture (c : Char) : Option (Int × Beginning) :=
  if c = '\u20e3' then some (0, .joinedKeycap)
  else if isFlagLetter c then some (1, .joinedFlagLetter)
  else if isSkinTone c then some (0, .tone)
  else if c.toNat = 0xe007f then some (0, .joinedTagEnd)
  else if pictographRanges.contains c then some (0, .picture)
  else none

def joinTags (letters digits : Nat) (c : Char) : Option (Int × Beginning) :=
  if isTagLetter c && letters < 6 && digits = 0 then some (0, .joinedTagLetters (letters + 1))
  else if isTagDigit c && digits < 3 && letters < 5 then some (0, .joinedTagDigits (digits + 1))
  else if c.toNat = 0x1f3f4 && (3 ≤ letters || digits = 3) then some (0, .picture)
  else none

/-- The columns that a character adds when it joins the beginning of what follows, and what the
two begin; nothing if it does not join. `joined` tells that a joiner stands between them. -/
def Beginning.join? (b : Beginning) (joined : Bool) (c : Char) : Option (Int × Beginning) :=
  match b with
  | .plain => none
  | .tone =>
    if tonedPictographRanges.contains c then some (0, .picture)
    else if c = joiner then some (0, .joinedPicture)
    else none
  | .flagLetter => if isFlagLetter c then some (1, .flagLetters) else none
  | .flagLetters =>
    if isFlagLetter c then some (1, .flagLetters)
    else if c = joiner then some (0, .joinedPicture)
    else none
  | .picture => if c = joiner then some (0, .joinedPicture) else none
  | .joinedPicture => joinPicture c
  | .joinedKeycap => none
  | .joinedFlagLetter => if isFlagLetter c then some (-1, .joinedFlag) else none
  | .joinedFlag =>
    if isFlagLetter c then some (3, .joinedFlagRest)
    else if c = joiner then some (0, .joinedPicture)
    else none
  | .joinedFlagRest =>
    if isFlagLetter c then some (-1, .joinedFlag)
    else if c = joiner then some (0, .joinedPicture)
    else none
  | .joinedTagEnd => joinTags 0 0 c
  | .joinedTagLetters n => joinTags n 0 c
  | .joinedTagDigits n => joinTags 0 n c
  | .alef =>
    if lamRanges.contains c then some (0, .plain)
    else if joinsArabic c then some (0, .alef)
    else none
  | .lamed => if joined && c = '\u05d0' then some (0, .plain) else none
  | .ya => if joined && c = '\u1a17' then some (0, .vowelYa) else none
  | .vowelYa => if c = '\u1a15' then some (0, .plain) else none
  | .consonant =>
    if c = '\u2d7f' then some (1, .linkedConsonant)
    else if joined && isTifinaghConsonant c then some (0, .plain)
    else none
  | .linkedConsonant => if isTifinaghConsonant c then some (-1, .plain) else none
  | .lowTone => if '\ua4f8' ≤ c && c ≤ '\ua4fb' then some (0, .plain) else none
  | .orkhonI => if joined && c.toNat = 0x10c32 then some (0, .plain) else none
  | .subscriptLetter => if c = '\u17d2' then some (-1, .plain) else none
  | .vowelE =>
    if c.toNat = 0x16d63 ∨ c.toNat = 0x16d69 then some (0, .plain)
    else if c.toNat = 0x16d67 then some (0, .vowelAi)
    else if c.toNat = 0x16d68 then some (1, .vowelE)
    else none
  | .vowelAi => if c.toNat = 0x16d63 then some (0, .plain) else none

end FleetDrift.Text
