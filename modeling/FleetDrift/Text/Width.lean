import FleetDrift.Text.Joining

/-!
# Terminal columns

How many columns a text takes on a terminal: the sum over its characters, counted from the last to
the first, where a character that joins what follows it adds only what the joined shape takes more.
-/

namespace FleetDrift.Text

inductive Form where
  | picture
  | text
  | wide
  deriving DecidableEq, Repr

def Form.ofSelector? (c : Char) : Option Form :=
  if c = '\ufe0f' then some .picture
  else if c = '\ufe0e' then some .text
  else if c = '\ufe01' then some .wide
  else none

/-- What follows a character: how it begins, whether a joiner stands before that, and which form
is asked of the character. -/
structure Following where
  beginning : Beginning
  joined : Bool
  form : Option Form
  deriving DecidableEq, Repr

def Following.of (b : Beginning) : Following := ⟨b, false, none⟩

def Following.nothing : Following := .of .plain

def takesPictureForm (c : Char) : Bool :=
  textPictographRanges.contains c || twoFormPictographRanges.contains c

/-- Pictures with a text form of one column; ideographs in a square keep two. -/
def takesNarrowForm (c : Char) : Bool :=
  twoFormPictographRanges.contains c && !(0x1f200 ≤ c.toNat && c.toNat ≤ 0x1f2ff)

def isQuotationMark (c : Char) : Bool :=
  c = '\u2018' || c = '\u2019' || c = '\u201c' || c = '\u201d'

def Following.formed? (next : Following) (c : Char) : Option (Int × Beginning) :=
  match next.form with
  | some .picture =>
    if takesPictureForm c then
      let joins := next.beginning = .joinedPicture ∨ next.beginning = .joinedKeycap
      some (if joins then 0 else 2, .picture)
    else none
  | some .text => if takesNarrowForm c then some (1, .plain) else none
  | some .wide => if isQuotationMark c then some (2, .plain) else none
  | none => none

def Following.unformed (next : Following) : Following :=
  match next.form with
  | none => next
  | some _ => if next.beginning.isLetter then { next with form := none } else .nothing

/-- What follows a selector's own predecessor. A picture behind a joiner keeps its joiner. -/
def Following.select (next : Following) (form : Form) : Following :=
  let keepsPicture := form = .picture ∧ next.form = none ∧
    (next.beginning = .joinedPicture ∨ next.beginning = .joinedKeycap)
  if next.beginning.isLetter ∨ keepsPicture then { next with form := some form }
  else ⟨.plain, false, some form⟩

def columnsBefore (c : Char) (next : Following) : Int × Following :=
  match next.formed? c with
  | some (width, b) => (width, .of b)
  | none =>
    let next := next.unformed
    match Form.ofSelector? c with
    | some form => (0, next.select form)
    | none =>
      if next.beginning.joinsAcrossJoiner ∧ c = joiner then (0, { next with joined := true })
      else if next.beginning.joinsAcrossJoiner ∧ passedMarkRanges.contains c then (0, next)
      else match next.beginning.join? next.joined c with
        | some (width, b) => (width, .of b)
        | none => (charColumns c, .of (.ofChar c))

def columns (cs : List Char) : Nat :=
  (cs.foldr (fun c (sum, next) =>
    let (width, before) := columnsBefore c next
    (width + sum, before)) ((0 : Int), Following.nothing)).1.toNat

end FleetDrift.Text
