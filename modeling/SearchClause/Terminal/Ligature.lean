import SearchClause.Terminal.Column
import SearchClause.Terminal.Pictograph

/-!
# Ligatures

Letters of some scripts melt into one sign, which takes fewer columns than its letters. A text is
measured from its end, so a ligature is known by its last letter, and the letters before it complete
it. Marks that are not shown may stand anywhere in a ligature.

* **with a joiner** — a joiner stands between the letters;
* **with a mark** — a mark of the script binds them;
* **side by side** — the letters melt when they meet.
-/

namespace SearchClause

/-- The end of a ligature that has begun. -/
inductive Ligature where
  /-- Hebrew lamed; an alef and a joiner may come before it -/
  | lamed
  /-- Buginese ya; a vowel sign and a joiner may come before it -/
  | ya
  /-- Buginese ya with its vowel sign and joiner; the letter a may come before it -/
  | signedYa
  /-- a Tifinagh consonant; another one and a joiner may come before it -/
  | consonant
  /-- a Tifinagh consonant with the joiner of the script; another one may come before it -/
  | boundConsonant
  /-- a Lisu tone letter; another one may come before it -/
  | toneLetter
  /-- Old Turkic i; a letter and a joiner may come before it -/
  | orkhonI
  /-- a Khmer letter that goes below another one after a sign -/
  | subscript
  /-- Kirat Rai e; it melts with the vowels before it -/
  | vowelE
  /-- Kirat Rai ai; it melts with the vowel aa before it -/
  | vowelAi
deriving DecidableEq, Repr

namespace Ligature

/-- Whether a character is a consonant that Tifinagh joins. -/
def isConsonant (c : Char) : Bool :=
  inRanges [(0x2D31, 0x2D65), (0x2D6F, 0x2D6F)] c

/-- Whether a character is a Khmer letter with a form below the line. -/
def hasSubscript (c : Char) : Bool :=
  inRanges [(0x1780, 0x1782), (0x1784, 0x1787), (0x1789, 0x178C), (0x178E, 0x1793), (0x1795, 0x1798),
    (0x179B, 0x179D), (0x17A0, 0x17A0), (0x17A2, 0x17A2), (0x17A7, 0x17A7), (0x17AB, 0x17AC),
    (0x17AF, 0x17AF)] c

/-- The ligature that a character can be the end of. -/
def endingIn? (c : Char) : Option Ligature :=
  if c = 'ל' then some lamed
  else if c = 'ᨐ' then some ya
  else if isConsonant c then some consonant
  else if c = 'ꓼ' || c = 'ꓽ' then some toneLetter
  else if c.toNat = 0x10C03 then some orkhonI
  else if hasSubscript c then some subscript
  else if c.toNat = 0x16D67 then some vowelE
  else if c.toNat = 0x16D68 then some vowelAi
  else none

/-- Whether a character is a mark that is not shown and leaves a ligature whole. -/
def isPassedOver (c : Char) : Bool :=
  inRanges [(0x34F, 0x34F), (0x17B4, 0x17B5), (0x180B, 0x180D), (0x180F, 0x180F), (0xFE00, 0xFE0F),
    (0xE0100, 0xE01EF)] c

/-- The columns that a character adds when it stands before a ligature, and the ligature that has begun
then, if the character belongs to it; `joined` says that a joiner stands between them. -/
def extend? (l : Ligature) (joined : Bool) (c : Char) : Option (Int × Option Ligature) :=
  match l with
  | lamed => if joined && c = 'א' then some (0, none) else none
  | ya => if joined && c = 'ᨗ' then some (0, some signedYa) else none
  | signedYa => if c = 'ᨕ' then some (0, none) else none
  | consonant =>
    if c = '⵿' then some (1, some boundConsonant)
    else if joined && isConsonant c then some (0, none)
    else none
  | boundConsonant => if isConsonant c then some (-1, none) else none
  | toneLetter => if 'ꓸ' ≤ c && c ≤ 'ꓻ' then some (0, none) else none
  | orkhonI => if joined && c.toNat = 0x10C32 then some (0, none) else none
  | subscript => if c = '្' then some (-1, none) else none
  | vowelE =>
    if c.toNat = 0x16D63 || c.toNat = 0x16D69 then some (0, none)
    else if c.toNat = 0x16D67 then some (0, some vowelAi)
    else if c.toNat = 0x16D68 then some (1, some vowelE)
    else none
  | vowelAi => if c.toNat = 0x16D63 then some (0, none) else none

/-- Whether a character is an Arabic alef, before which a lam melts with it. -/
def isAlef (c : Char) : Bool :=
  inRanges [(0x622, 0x623), (0x625, 0x625), (0x627, 0x627), (0x671, 0x673), (0x675, 0x675),
    (0x773, 0x774), (0x870, 0x882)] c

/-- Whether a character is an Arabic lam. -/
def isLam (c : Char) : Bool :=
  inRanges [(0x644, 0x644), (0x6B5, 0x6B8), (0x76A, 0x76A), (0x8A6, 0x8A6), (0x8C7, 0x8C7)] c

end Ligature

end SearchClause
