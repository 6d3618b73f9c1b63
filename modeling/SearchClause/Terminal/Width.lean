import SearchClause.Terminal.Ligature

/-!
# Width on a terminal

How many columns a text takes on a terminal. This is the sum over its characters, except where
characters make one sign: pictures that are joined, toned or selected, flags, and ligatures. Whether a
character is part of a sign depends on what follows it, so a text is measured from its end.

* **`Next`** — what follows a character, as far as it matters to it;
* **`Next.before`** — the columns that a character adds before that, and what follows the character
  before it.
-/

namespace SearchClause

namespace Width

/-- The sign that begins after a character. -/
inductive Sign where
  /-- nothing that reaches back -/
  | absent
  /-- a skin tone -/
  | tone
  /-- a picture -/
  | picture
  /-- a joiner and a picture -/
  | joined
  /-- the frame of a key, a joiner and a picture -/
  | framed
  /-- one regional letter -/
  | region
  /-- several regional letters -/
  | regions
  /-- one regional letter, a joiner and a picture -/
  | joinedRegion
  /-- several regional letters, a joiner and a picture; `even` says that all letters make flags -/
  | joinedRegions (even : Bool)
  /-- the end of a row of tags, a joiner and a picture, with so many tag letters before the end -/
  | tagLetters (count : Nat)
  /-- the same with so many tag digits before the letters -/
  | tagDigits (count : Nat)
  /-- an Arabic alef -/
  | alef
  /-- the end of a ligature; `tied` says that a joiner stands before it -/
  | ligature (l : Ligature) (tied : Bool)
deriving DecidableEq, Repr

/-- Whether a sign outlasts a selector of another character. -/
def Sign.isScript : Sign → Bool
  | .alef | .ligature _ _ => true
  | _ => false

/-- Whether a sign is a picture that a joiner ties to the one before it. -/
def Sign.isTied : Sign → Bool
  | .joined | .framed => true
  | _ => false

/-- What follows a character. -/
structure Next where
  /-- the sign that begins there -/
  sign : Sign
  /-- whether the look of a picture is asked for -/
  asPicture : Bool
  /-- whether the look of a letter is asked for -/
  asLetter : Bool
deriving DecidableEq, Repr

namespace Next

/-- A sign and no selector. -/
def plain (sign : Sign) : Next := ⟨sign, false, false⟩

/-- The end of a text. -/
def nothing : Next := plain .absent

/-- A picture selector before what follows. -/
def selectPicture (n : Next) : Next :=
  if n.sign.isScript || n.sign.isTied then { n with asPicture := true }
  else ⟨.absent, true, false⟩

/-- A letter selector before what follows. -/
def selectLetter (n : Next) : Next :=
  if n.sign.isScript then { n with asLetter := true } else ⟨.absent, false, true⟩

/-- What follows without its picture selector, when that selects nothing. -/
def dropPicture (n : Next) : Next :=
  if n.asPicture then
    if n.sign.isScript then { n with asPicture := false } else nothing
  else n

/-- What follows without its letter selector, when that selects nothing. -/
def dropLetter (n : Next) : Next :=
  { n with asLetter := false }

end Next

open Pictograph (isPicture isTone isRegional isFigure joiner)

/-- The sign that begins with a character on its own, and its columns. -/
def alone (c : Char) : Int × Sign :=
  if isTone c then (2, .tone)
  else if isRegional c then (1, .region)
  else if isPicture c then (2, .picture)
  else if Ligature.isAlef c then (1, .alef)
  else
    match Ligature.endingIn? c with
    | some l => (1, .ligature l false)
    | none => (Column.count c, .absent)

/-- The columns that a character adds as a part of the sign that follows it, and the sign that begins
with it then; nothing if it is no part of that sign. -/
def Sign.extend? (s : Sign) (c : Char) : Option (Int × Sign) :=
  match s with
  | .absent => none
  | .tone =>
    if isFigure c then some (0, .picture)
    else if c = joiner then some (0, .joined)
    else none
  | .picture => if c = joiner then some (0, .joined) else none
  | .joined =>
    if c = Pictograph.keycap then some (0, .framed)
    else if isRegional c then some (1, .joinedRegion)
    else if isTone c then some (0, .tone)
    else if c = Pictograph.tagEnd then some (0, .tagLetters 0)
    else if isPicture c then some (0, .picture)
    else none
  | .framed => none
  | .region => if isRegional c then some (1, .regions) else none
  | .regions =>
    if isRegional c then some (1, .regions)
    else if c = joiner then some (0, .joined)
    else none
  | .joinedRegion => if isRegional c then some (-1, .joinedRegions true) else none
  | .joinedRegions even =>
    if isRegional c then some (if even then 3 else -1, .joinedRegions !even)
    else if c = joiner then some (0, .joined)
    else none
  | .tagLetters count =>
    if Pictograph.isTagLetter c && count < 6 then some (0, .tagLetters (count + 1))
    else if Pictograph.isTagDigit c && count < 5 then some (0, .tagDigits 1)
    else if c = Pictograph.blackFlag && 3 ≤ count then some (0, .picture)
    else none
  | .tagDigits count =>
    if Pictograph.isTagDigit c && count < 3 then some (0, .tagDigits (count + 1))
    else if c = Pictograph.blackFlag && count = 3 then some (0, .picture)
    else none
  | .alef =>
    if Ligature.isLam c then some (0, .absent)
    else if Column.isTransparent c then some (0, .alef)
    else none
  | .ligature l tied =>
    if c = joiner then some (0, .ligature l true)
    else if Ligature.isPassedOver c then some (0, .ligature l tied)
    else
      (l.extend? tied c).map fun p =>
        (p.1, match p.2 with | some m => .ligature m true | none => .absent)

/-- The columns that a character adds before what follows it, and what follows the character before
it. -/
def Next.before (n : Next) (c : Char) : Int × Next :=
  if n.asPicture && Pictograph.isSelectable c then
    (if n.sign.isTied then 0 else 2, plain .picture)
  else
    let n := n.dropPicture
    if c.toNat ≤ 0xA0 then (1, nothing)
    else if c = Pictograph.pictureSelector then (0, n.selectPicture)
    else if c = Pictograph.letterSelector then (0, n.selectLetter)
    else if n.asLetter && Pictograph.isLetterlike c then (1, nothing)
    else
      let p := (n.dropLetter.sign.extend? c).getD (alone c)
      (p.1, plain p.2)

/-- The columns of a text, and what follows a character before it. -/
def measure : Text → Int × Next
  | [] => (0, Next.nothing)
  | c :: rest =>
    let after := measure rest
    let p := after.2.before c
    (after.1 + p.1, p.2)

end Width

/-- The columns of a text. -/
def Text.width (t : Text) : Nat :=
  (Width.measure t).1.toNat

end SearchClause
