import SearchClause.Text.Printable

/-!
# Quoted text

The form in which a text is shown so that nothing in it stays hidden: between double quotes, with a
backslash before quotes and backslashes, short escapes for the common controls, and the code point in
braces for every other character that is not printable.
-/

namespace SearchClause

namespace Quoted

/-- The code point of a character in braces. -/
def codePoint (c : Char) : Text :=
  "\\u\x7b" ++ Nat.toDigits 16 c.toNat ++ "\x7d"

/-- How a character is shown between quotes. -/
def shown (c : Char) : Text :=
  if c = '\x00' then "\\0"
  else if c = '\t' then "\\t"
  else if c = '\r' then "\\r"
  else if c = '\n' then "\\n"
  else if c = '"' then "\\\""
  else if c = '\\' then "\\\\"
  else if isPrintable c then [c]
  else codePoint c

end Quoted

/-- The text between quotes. -/
def Text.quoted (t : Text) : Text :=
  '"' :: t.flatMap Quoted.shown ++ ['"']

end SearchClause
