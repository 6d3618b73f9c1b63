import SearchClause.Query.Symbol
import SearchClause.Text.Blank

/-!
# The canonical form of a query

People type `gene AND "full name" -old`; the reader of queries wants `gene+"full name"+-old`. Two
passes lead from one to the other, and both leave what stands between quotes alone:

* **keywords** — a maximal run of letters that spells `AND` or `OR` becomes `+` or `,`;
* **layout** — blanks disappear, and a `+` takes their place where they separate two terms; the
  shell wildcards `*` and `?` become `%` and `_`.

Keywords go first, so that a run of letters is judged by its neighbours as they were typed.
-/

namespace SearchClause

namespace Canonical

/-! ## Keywords -/

/-- What a maximal run of letters becomes. -/
def foldWord (word : Text) : Text :=
  if word = ['A', 'N', 'D'] then ['+']
  else if word = ['O', 'R'] then [',']
  else word

/-- Keyword folding in the middle of a text: `quoted` says whether a quote is open, and `run` is the
run of letters that has been read and not yet written. Inside quotes no run is kept. -/
def foldFrom (quoted : Bool) (run : Text) : Text → Text
  | [] => foldWord run
  | c :: rest =>
    if c = '"' then foldWord run ++ c :: foldFrom (!quoted) [] rest
    else if quoted then c :: foldFrom quoted [] rest
    else if isAlphabetic c then foldFrom quoted (run ++ [c]) rest
    else foldWord run ++ c :: foldFrom quoted [] rest

/-- The text with its keywords folded into operators. -/
def foldKeywords (t : Text) : Text :=
  foldFrom false [] t

/-! ## Layout -/

/-- Where the layout pass stands in a text. -/
inductive Place where
  /-- between quotes -/
  | quoted
  /-- outside quotes, after the last character written; `gap` says that a blank has been dropped
  since then and that a term could end there -/
  | outside (last : Option Char) (gap : Bool)
deriving DecidableEq, Repr

/-- The character that stands for a shell wildcard. -/
def mapWildcard (c : Char) : Char :=
  if c = '*' then '%' else if c = '?' then '_' else c

/-- The place after a character written outside quotes. -/
def Place.after (c : Char) : Place :=
  if c = '"' then .quoted else .outside (some c) false

/-- The layout pass from a place on. -/
def layFrom : Place → Text → Text
  | _, [] => []
  | .quoted, c :: rest =>
    c :: layFrom (if c = '"' then .outside (some c) false else .quoted) rest
  | .outside last gap, c :: rest =>
    if isBlank c then layFrom (.outside last (gap || last.any endsTerm)) rest
    else if c = '+' || c = ',' then c :: layFrom (.outside (some c) false) rest
    else if gap && startsTerm (mapWildcard c) then
      '+' :: mapWildcard c :: layFrom (.after (mapWildcard c)) rest
    else mapWildcard c :: layFrom (.after (mapWildcard c)) rest

end Canonical

/-- The canonical form of a query as it was typed. -/
def normalize (raw : Text) : Text :=
  Canonical.layFrom (.outside none false) (Canonical.foldKeywords raw)

end SearchClause
