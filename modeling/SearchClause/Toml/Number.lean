import SearchClause.Toml.Strings
import SearchClause.Toml.Value

/-!
# TOML numbers

A number is judged as a whole word, first by its form and then by its value.

* **form** — digits may be grouped by underscores with a digit on either side. Decimal numbers have
  no leading zeros; hexadecimal, octal and binary ones have no sign. A fraction or an exponent makes a
  floating point number. Between the underscores of a whole number only the ends of a group are looked
  at;
* **value** — a whole number has to consist of digits and to fit into 128 bits, signed or unsigned; a
  floating point number has to fit into a double.

A word of the right form without a value is `Value.unvalued`.
-/

namespace SearchClause

namespace Toml

/-! ## Digits -/

/-- Whether a character is a digit of a base up to sixteen. -/
def isDigitOf (base : Nat) (c : Char) : Bool :=
  (hexValue? c).any (· < base)

/-- The number written in digits of a base up to sixteen, after `high`. -/
def inBase (base high : Nat) : Text → Nat
  | [] => high
  | c :: rest => inBase base (high * base + (hexValue? c).getD 0) rest

/-- The number written in decimal digits. -/
def decimal (t : Text) : Nat :=
  inBase 10 0 t

/-- Whether an underscore may follow a group. The sign of a number counts as a group. -/
def endsGroup (isDigit : Char → Bool) (group : Text) : Bool :=
  group.length = 1 || group.getLast?.any isDigit

/-- Whether the underscores between groups stand between digits. -/
def wellGrouped (isDigit : Char → Bool) : List Text → Bool
  | group :: next :: rest =>
    endsGroup isDigit group && next.head?.any isDigit && wellGrouped isDigit (next :: rest)
  | _ => true

/-- The text without its underscores, if they stand between digits. -/
def ungrouped? (isDigit : Char → Bool) (t : Text) : Option Text :=
  let groups := Text.pieces (· = '_') t
  if wellGrouped isDigit groups then some groups.flatten else none

/-- A sign and the text after it; no sign is a plus. -/
def signed : Text → Bool × Text
  | '-' :: rest => (true, rest)
  | '+' :: rest => (false, rest)
  | t => (false, t)

/-- The number with a sign. -/
def withSign (negative : Bool) (n : Nat) : Int :=
  if negative then -(n : Int) else n

/-! ## Whole numbers -/

/-- Whether a number fits into 128 bits. -/
def fits (n : Int) : Bool :=
  -Int.pow 2 127 ≤ n && n < Int.pow 2 128

/-- The whole number in a base that a text without underscores spells. -/
def wholeValue (base : Nat) (t : Text) : Value :=
  let digits := (signed t).2
  let n := withSign (signed t).1 (inBase base 0 digits)
  if !digits.isEmpty && digits.all (isDigitOf base) && fits n then .integer n else .unvalued t

/-! ## Floating point -/

/-- The smallest number that rounds to more than the largest double. -/
def doubleLimit : Nat :=
  Nat.pow 2 1024 - Nat.pow 2 970

/-- Whether `digits · 10 ^ exponent` is too large for a double. Numbers that are far from the limit
are told apart by their length. -/
def overflows (digits : Nat) (exponent : Int) : Bool :=
  if digits = 0 then false
  else
    let size := (Nat.toDigits 10 digits).length + exponent
    if size < 300 then false
    else if 320 < size then true
    else if 0 ≤ exponent then doubleLimit ≤ digits * Nat.pow 10 exponent.toNat
    else doubleLimit * Nat.pow 10 (-exponent).toNat ≤ digits

/-- The parts of a text before and after the first character of a kind. -/
def cutAt (cuts : Char → Bool) (t : Text) : Text × Text :=
  (t.takeWhile (!cuts ·), (t.dropWhile (!cuts ·)).tail)

/-- The floating point number that a text without underscores spells. -/
def floatValue (t : Text) : Value :=
  let (mantissa, exponent) := cutAt (fun c => c = 'e' || c = 'E') (signed t).2
  let (whole, fraction) := cutAt (· = '.') mantissa
  let power := withSign (signed exponent).1 (decimal (signed exponent).2)
  if overflows (decimal (whole ++ fraction)) (power - fraction.length) then .unvalued t else .float t

/-- Whether a character is a digit or groups digits. -/
def isDigitMark (c : Char) : Bool :=
  c.isDigit || c = '_'

/-- The text after digits and underscores, if there are digits among them. -/
def afterDigits? (t : Text) : Option Text :=
  if (t.takeWhile isDigitMark).any Char.isDigit then some (t.dropWhile isDigitMark) else none

/-- Whether digits before a fraction or an exponent start with a zero that is not the only one. -/
def hasLeadingZero (t : Text) : Bool :=
  t.head? = some '0' && 1 < ((t.takeWhile isDigitMark).filter Char.isDigit).length

/-- Whether a text is empty or an exponent. -/
def isExponentForm : Text → Bool
  | [] => true
  | c :: rest => (c = 'e' || c = 'E') && afterDigits? (signed rest).2 = some []

/-- Whether a text without a sign has the form of a floating point number. -/
def isFloatForm (t : Text) : Bool :=
  !hasLeadingZero t &&
    match afterDigits? t with
    | none => false
    | some ('.' :: rest) => (afterDigits? rest).any isExponentForm
    | some rest => isExponentForm rest

/-! ## Words -/

/-- The whole number written in digits of a base after its mark. -/
def baseNumber? (base : Nat) (t : Text) : Option Value :=
  if t.all fun c => isDigitOf base c || c = '_' then
    (ungrouped? (isDigitOf 16) t).map (wholeValue base)
  else none

/-- The decimal number that a word spells; `t` is the word without its sign. -/
def decimalNumber? (word t : Text) : Option Value :=
  let rest := t.dropWhile Char.isDigit
  if rest.contains ' ' then none
  else if rest.any fun c => c = '.' || c = 'e' || c = 'E' then
    if isFloatForm t then (ungrouped? Char.isDigit word).map floatValue else none
  else if t.head? = some '0' then none
  else if rest.isEmpty || rest.head? = some '_' then
    (ungrouped? (isDigitOf 16) word).map (wholeValue 10)
  else none

/-- The number that a word spells; `t` is the word without its sign. -/
def number? (word t : Text) : Option Value :=
  match t with
  | [] => none
  | ['0'] => some (.integer 0)
  | '0' :: 'x' :: digits => if t = word then baseNumber? 16 digits else none
  | '0' :: 'o' :: digits => if t = word then baseNumber? 8 digits else none
  | '0' :: 'b' :: digits => if t = word then baseNumber? 2 digits else none
  | c :: _ =>
    if c.isDigit || (c = '_' && t != word) then decimalNumber? word t
    else if t = "inf".toList || t = "nan".toList then some (.float word)
    else none

end Toml

end SearchClause
