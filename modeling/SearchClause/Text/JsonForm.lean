import SearchClause.Text.Basic

/-!
# JSON text

The values that commands write as JSON, and their text: two spaces for each level, a line for each
item and field, and nothing but control characters, quotes and backslashes escaped.
-/

namespace SearchClause

/-- A value to be written: a string, a list, or fields in their order. -/
inductive JsonForm where
  /-- a string -/
  | string (t : Text)
  /-- a list -/
  | list (items : List JsonForm)
  /-- fields in their order -/
  | fields (entries : List (Text × JsonForm))
deriving Repr

namespace JsonForm

/-- A hexadecimal digit in lower case. -/
def hexDigit (n : Nat) : Char :=
  if n < 10 then Char.ofNat ('0'.toNat + n) else Char.ofNat ('a'.toNat + (n - 10))

/-- A character between quotes. -/
def writtenChar (c : Char) : Text :=
  if c = '"' then "\\\""
  else if c = '\\' then "\\\\"
  else if c = '\x08' then "\\b"
  else if c = '\t' then "\\t"
  else if c = '\n' then "\\n"
  else if c = '\x0c' then "\\f"
  else if c = '\r' then "\\r"
  else if c.toNat < 32 then ['\\', 'u', '0', '0', hexDigit (c.toNat / 16), hexDigit (c.toNat % 16)]
  else [c]

/-- A string between quotes. -/
def writtenString (t : Text) : Text :=
  '"' :: t.flatMap writtenChar ++ ['"']

/-- A line break and the indentation of a level. -/
def lineAt (level : Nat) : Text :=
  '\n' :: Text.times level "  "

/-- Items between brackets, each on a line of its own. -/
def bracketed (level : Nat) (left right : Char) (items : List Text) : Text :=
  if items.isEmpty then [left, right]
  else
    left :: Text.joinWith [','] (items.map (lineAt (level + 1) ++ ·)) ++ lineAt level ++ [right]

mutual

/-- The text of a value at a level. -/
def writtenAt (level : Nat) : JsonForm → Text
  | string t => writtenString t
  | list items => bracketed level '[' ']' (writtenItems (level + 1) items)
  | fields entries => bracketed level '\x7b' '\x7d' (writtenFields (level + 1) entries)

/-- The texts of items. -/
def writtenItems (level : Nat) : List JsonForm → List Text
  | [] => []
  | item :: rest => writtenAt level item :: writtenItems level rest

/-- The texts of fields. -/
def writtenFields (level : Nat) : List (Text × JsonForm) → List Text
  | [] => []
  | (name, value) :: rest =>
    (writtenString name ++ ": " ++ writtenAt level value) :: writtenFields level rest

end

/-- The text of a value. -/
def written (v : JsonForm) : Text :=
  v.writtenAt 0

end JsonForm

end SearchClause
