import SearchClause.Text.Basic

/-!
# What can be wrong with a query

Each way in which reading a query can fail is a cause of its own; the words for it, the hint that goes
with it and the layout of the whole report are kept here and nowhere else. A report shows the query
with a caret under the place where reading stopped.
-/

namespace SearchClause

/-- Why a query cannot be read. -/
inductive QueryFault where
  /-- a term is missing, or its marks leave nothing of it -/
  | emptyTerm
  /-- a quote is not closed -/
  | unterminatedQuote
  /-- a parenthesis is not closed -/
  | unmatchedParenthesis
  /-- an exact term holds a wildcard -/
  | exactWithWildcard
  /-- something follows where the query should end -/
  | unexpectedCharacter
  /-- more groups are open than allowed -/
  | nestingTooDeep
deriving DecidableEq, Repr

namespace QueryFault

/-- The fault in a few words. -/
def message : QueryFault → Text
  | emptyTerm => "expected variable"
  | unterminatedQuote => "unterminated quoted variable"
  | unmatchedParenthesis => "missing closing parenthesis"
  | exactWithWildcard => "wildcards in exact match"
  | unexpectedCharacter => "unexpected character"
  | nestingTooDeep => "nesting too deep"

/-- What to do about the fault. -/
def hint : QueryFault → Text
  | emptyTerm => "Operators need a term on both sides, e.g. 'a+b' or 'a,b'"
  | unterminatedQuote => "Add a closing quote (\") to complete the phrase"
  | unmatchedParenthesis => "Add a closing parenthesis ) to match the opening one"
  | exactWithWildcard => "Drop the '=' or '^...$' marker, or remove * ? % _"
  | unexpectedCharacter => "Remove the stray character or join it with + or ,"
  | nestingTooDeep => "Flatten the query by removing redundant parentheses"

end QueryFault

/-- A fault and where it was found. -/
structure QueryError where
  /-- what is wrong -/
  fault : QueryFault
  /-- the number of bytes before the place -/
  position : Nat
  /-- the text that was read -/
  input : Text
deriving DecidableEq, Repr

/-- The number of characters in the first `position` bytes of a text, as far as the text goes; `none`
if a character straddles the position. -/
def columnAt : Text → Nat → Option Nat
  | [], _ => some 0
  | c :: rest, position =>
    if position = 0 then some 0
    else if position < c.utf8Size then none
    else (columnAt rest (position - c.utf8Size)).map (· + 1)

namespace QueryError

/-- The column of the caret. A position inside a character has the first column. -/
def column (e : QueryError) : Nat :=
  (columnAt e.input e.position).getD 0

/-- The whole report, without a final line break. -/
def report (e : QueryError) : Text :=
  "query syntax error: " ++ e.fault.message ++ "\n  " ++ e.input ++ "\n  " ++
    List.replicate e.column ' ' ++ "^\nhint: " ++ e.fault.hint

end QueryError

end SearchClause
