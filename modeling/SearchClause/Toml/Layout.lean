import SearchClause.Text.Basic

/-!
# What stands between the tokens of a TOML document

Spaces and tabs, line breaks and comments. A line break is a line feed, or a return and a line feed; a
return alone is an error, and so is any control character but the tab, in comments too.
-/

namespace SearchClause

namespace Toml

/-- Whether a character may stand in strings and comments. -/
def isTextChar (c : Char) : Bool :=
  c = '\t' || (32 ≤ c.toNat && c.toNat != 127)

/-- Whether a character separates tokens on a line. -/
def isSpace (c : Char) : Bool :=
  c = ' ' || c = '\t'

/-- The text after spaces and tabs. -/
def skipSpaces (s : Text) : Text :=
  s.dropWhile isSpace

/-- The text after a line break, if there is one. -/
def newline? : Text → Option Text
  | '\n' :: rest => some rest
  | '\r' :: '\n' :: rest => some rest
  | _ => none

/-- The text after blanks, line breaks and comments; `comment` says that one is open. -/
def skipLayoutFrom (comment : Bool) : Text → Option Text
  | [] => some []
  | c :: rest =>
    if c = '\n' then skipLayoutFrom false rest
    else if c = '\r' then if rest.head? = some '\n' then skipLayoutFrom comment rest else none
    else if comment then if isTextChar c then skipLayoutFrom true rest else none
    else if isSpace c then skipLayoutFrom false rest
    else if c = '#' then skipLayoutFrom true rest
    else some (c :: rest)

/-- The text after blanks, line breaks and comments. -/
def skipLayout (s : Text) : Option Text :=
  skipLayoutFrom false s

/-- The text after the rest of a comment and its line break. -/
def skipComment : Text → Option Text
  | [] => some []
  | c :: rest =>
    if c = '\n' then some rest
    else if c = '\r' then if rest.head? = some '\n' then some rest.tail else none
    else if isTextChar c then skipComment rest
    else none

/-- The text of the next line, if nothing but spaces and a comment is left of this one. -/
def lineEnd (s : Text) : Option Text :=
  match skipSpaces s with
  | [] => some []
  | '#' :: rest => skipComment rest
  | rest => newline? rest

/-! ## Small facts -/

theorem length_skipSpaces_le (s : Text) : (skipSpaces s).length ≤ s.length :=
  (List.dropWhile_sublist isSpace).length_le

theorem length_lt_of_newline? {s rest : Text} (h : newline? s = some rest) :
    rest.length < s.length := by
  unfold newline? at h
  split at h
  · obtain rfl := Option.some.inj h
    exact Nat.lt_succ_self _
  · obtain rfl := Option.some.inj h
    simp only [List.length_cons]
    omega
  · exact absurd h (by simp)

end Toml

end SearchClause
