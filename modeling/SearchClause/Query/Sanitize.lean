import SearchClause.Text.Blank

/-!
# Sanitizing a query

An optional first pass over input from elsewhere: only the characters of the query alphabet are kept,
and blanks are collapsed. The result need not be a valid query.
-/

namespace SearchClause

/-- The punctuation that is kept besides letters and digits. -/
def keptPunctuation : Text :=
  [' ', '_', ',', '+', '=', '"', '^', '$', '(', ')', '.', '-', ':', '?', '*', '%', '!']

/-- Whether the sanitizer keeps a character. Letters and digits are those below 128. -/
def isKept (c : Char) : Bool :=
  c.isAlphanum || keptPunctuation.contains c

/-- The query without foreign characters and with single spaces. -/
def sanitize (raw : Text) : Text :=
  Text.singleSpaced (raw.filter isKept)

end SearchClause
