import SearchClause.Toml.Reader

/-!
# Writing TOML

Strings, keys and lists of strings as they are written to a document. A string takes the first of five
forms that holds it without an escape, as far as there is one; tabs are written as escapes wherever
escapes are possible. Whatever is written reads back as itself.
-/

namespace SearchClause

namespace Toml

/-- Whether a character can be written in a string only by an escape. -/
def needsCode (c : Char) : Bool :=
  !isTextChar c && c != '\n'

/-- Whether more than two of a character stand in a row; `run` of them came before. -/
def crowdedFrom (quote : Char) (run : Nat) : Text → Bool
  | [] => false
  | c :: rest =>
    if c = quote then run = 2 || crowdedFrom quote (run + 1) rest else crowdedFrom quote 0 rest

/-- Whether more than two of a character stand in a row. -/
def crowded (quote : Char) (t : Text) : Bool :=
  crowdedFrom quote 0 t

/-- A hexadecimal digit in upper case. -/
def hexDigit (n : Nat) : Char :=
  if n < 10 then Char.ofNat ('0'.toNat + n) else Char.ofNat ('A'.toNat + (n - 10))

/-- A character of a string with escapes, other than a quote and other than a line feed kept as it is. -/
def writtenChar (c : Char) : Text :=
  if c = '\x08' then "\\b"
  else if c = '\t' then "\\t"
  else if c = '\n' then "\\n"
  else if c = '\x0c' then "\\f"
  else if c = '\r' then "\\r"
  else if c = '\\' then "\\\\"
  else if isTextChar c then [c]
  else ['\\', 'u', '0', '0', hexDigit (c.toNat / 16), hexDigit (c.toNat % 16)]

/-- The inside of a string with escapes on one line. -/
def basicBody : Text → Text
  | [] => []
  | c :: rest => (if c = '"' then ['\\', '"'] else writtenChar c) ++ basicBody rest

/-- The inside of a string with escapes on several lines; `run` quotes stand before it. Every third
quote in a row is escaped. -/
def longBasicBody (run : Nat) : Text → Text
  | [] => []
  | c :: rest =>
    if c = '"' then
      if run = 2 then '\\' :: '"' :: longBasicBody 0 rest else '"' :: longBasicBody (run + 1) rest
    else if c = '\n' then '\n' :: longBasicBody 0 rest
    else writtenChar c ++ longBasicBody 0 rest

/-- The line break that follows the opening quotes of a string with line breaks. -/
def opening (t : Text) : Text :=
  if t.contains '\n' then ['\n'] else []

/-- A string with escapes on one line. -/
def basicForm (t : Text) : Text :=
  '"' :: basicBody t ++ ['"']

/-- A string without escapes on one line. -/
def literalForm (t : Text) : Text :=
  '\'' :: t ++ ['\'']

/-- A string with escapes on several lines. -/
def longBasicForm (t : Text) : Text :=
  "\"\"\"" ++ opening t ++ longBasicBody 0 t ++ "\"\"\""

/-- A string without escapes on several lines. -/
def longLiteralForm (t : Text) : Text :=
  "'''" ++ opening t ++ t ++ "'''"

/-- A string in the first form that suits it. -/
def writeString (t : Text) : Text :=
  let coded := t.any needsCode
  let broken := t.contains '\n'
  if !coded && !t.contains '\\' && !t.contains '"' && !broken then basicForm t
  else if !coded && !t.contains '\'' && !broken then literalForm t
  else if !coded && !t.contains '\\' && !crowded '"' t then longBasicForm t
  else if !coded && !crowded '\'' t then longLiteralForm t
  else if broken then longBasicForm t
  else basicForm t

/-- A key, bare if possible. -/
def writeKey (t : Text) : Text :=
  if !t.isEmpty && t.all isBareKeyChar then t
  else
    let coded := !t.all isTextChar
    if !coded && !t.contains '\\' && !t.contains '"' then basicForm t
    else if !coded && !t.contains '\'' then literalForm t
    else basicForm t

/-- The line of a string in a list. -/
def listLine (t : Text) : Text :=
  "    " ++ writeString t ++ ",\n"

/-- A list of strings: up to one on a line, more with a line for each. -/
def writeStrings : List Text → Text
  | [] => "[]"
  | [t] => '[' :: writeString t ++ [']']
  | list => "[\n" ++ list.flatMap listLine ++ "]"

end Toml

end SearchClause
