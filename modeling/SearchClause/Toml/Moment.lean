import SearchClause.Toml.Layout

/-!
# TOML dates and times

A date, a time of day, or both with or without an offset from universal time. The day has to exist in
its month and year, and a minute may have a leap second. Seconds may be left out.
-/

namespace SearchClause

namespace Toml

/-- The number of two digits at the start of a text, if it is at most `limit`, and the text after. -/
def twoDigits? (limit : Nat) : Text → Option (Nat × Text)
  | a :: b :: rest =>
    if a.isDigit && b.isDigit then
      let n := (a.toNat - '0'.toNat) * 10 + (b.toNat - '0'.toNat)
      if n ≤ limit then some (n, rest) else none
    else none
  | _ => none

/-- The number of days of a month. -/
def daysIn (year month : Nat) : Nat :=
  if month = 2 then
    if year % 4 = 0 && (year % 100 != 0 || year % 400 = 0) then 29 else 28
  else if month = 4 || month = 6 || month = 9 || month = 11 then 30
  else 31

/-- The text after a date, if the text starts with one that exists. -/
def date? (t : Text) : Option Text :=
  match twoDigits? 99 t with
  | none => none
  | some (century, t) =>
    match twoDigits? 99 t with
    | some (year, '-' :: t) =>
      match twoDigits? 12 t with
      | some (month, '-' :: t) =>
        match twoDigits? 31 t with
        | some (day, t) =>
          if 1 ≤ month && 1 ≤ day && day ≤ daysIn (century * 100 + year) month then some t else none
        | none => none
      | _ => none
    | _ => none

/-- The text after a fraction of a second, if there is one; a point needs a digit. -/
def fraction? : Text → Option Text
  | '.' :: rest =>
    if (rest.takeWhile Char.isDigit).isEmpty then none else some (rest.dropWhile Char.isDigit)
  | t => some t

/-- The text after a time of day, if the text starts with one. -/
def time? (t : Text) : Option Text :=
  match twoDigits? 23 t with
  | some (_, ':' :: t) =>
    match twoDigits? 59 t with
    | some (_, ':' :: t) => (twoDigits? 60 t).bind fun p => fraction? p.2
    | some (_, t) => some t
    | none => none
  | _ => none

/-- Whether a text is an offset from universal time, or empty. -/
def isOffset : Text → Bool
  | [] => true
  | ['Z'] | ['z'] => true
  | c :: t =>
    if c = '+' || c = '-' then
      match twoDigits? 23 t with
      | some (_, ':' :: t) => (twoDigits? 59 t).any (·.2.isEmpty)
      | _ => false
    else false

/-- Whether a word has the form of a date or a time: a dash or a colon follows its first digits. -/
def isMomentForm (word : Text) : Bool :=
  word.head?.any Char.isDigit &&
    (word.dropWhile Char.isDigit).head?.any fun c => c = '-' || c = ':'

/-- Whether a word is a date, a time, or a date and a time joined by the letter T or a space. -/
def isMoment (word : Text) : Bool :=
  match date? word with
  | some [] => true
  | some (c :: t) => (c = 'T' || c = 't' || c = ' ') && (time? t).any isOffset
  | none => time? word = some []

end Toml

end SearchClause
