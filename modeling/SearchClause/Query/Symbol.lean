import SearchClause.Text.Alphabetic
import SearchClause.Text.Numeric

/-!
# Characters of the query language

A query is made of words, quoted phrases, parentheses and two operators. The classes here say which
characters a bare word is made of, and which characters a term can start and end with. The last two
decide where a blank stands for a conjunction.
-/

namespace SearchClause

/-- The marks that may stand inside a bare word besides letters and numerals: they anchor a term,
stand for other characters, or are part of a name. -/
def wordMarks : Text :=
  ['-', '_', '=', '^', '$', '.', '%', '*', '?', ':']

/-- Whether a character may stand inside a bare word. -/
def isWordChar (c : Char) : Bool :=
  isAlphabetic c || isNumeric c || wordMarks.contains c

/-- Whether a character is a word character or a parenthesis. -/
def isSearchTermChar (c : Char) : Bool :=
  isWordChar c || c == '(' || c == ')'

/-- Whether a term can end with the character; a closing quote counts. -/
def endsTerm (c : Char) : Bool :=
  isWordChar c || c == ')' || c == '"'

/-- Whether a term can start with the character; an opening quote and a negation mark count. -/
def startsTerm (c : Char) : Bool :=
  isWordChar c || c == '(' || c == '"' || c == '!'

end SearchClause
