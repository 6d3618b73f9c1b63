import SearchClause.Clause.Placeholder

/-!
# Clause templates

What a single term becomes: every column is compared with the placeholder by an operator, and one of
the comparisons has to hold. A template without columns leaves the bare placeholder.
-/

namespace SearchClause

/-- A rule for writing the term with a number: its text is given, and whether an operator stands
around the clause, so that an alternative needs parentheses. -/
abbrev Renderer :=
  Nat → Text → Bool → Text

/-- Columns, an operator and a style of placeholders. -/
structure Template where
  /-- the columns compared -/
  columns : List Text
  /-- the operator between a column and the placeholder -/
  operator : Text
  /-- how placeholders are written -/
  param : ParamStyle
deriving DecidableEq, Repr

namespace Template

/-- The template used when nothing else is said. -/
def builtin : Template where
  columns := ["value"]
  operator := "LIKE"
  param := .numbered

/-- The comparison of one column. -/
def comparison (t : Template) (placeholder column : Text) : Text :=
  column ++ ' ' :: t.operator ++ ' ' :: placeholder

/-- The clause for a placeholder. -/
def clause (t : Template) (placeholder : Text) (grouped : Bool) : Text :=
  match t.columns with
  | [] => placeholder
  | [column] => t.comparison placeholder column
  | columns =>
    Text.enclosed grouped (Text.joinWith " OR " (columns.map (t.comparison placeholder)))

/-- The template as a rule for terms: the clause has the placeholder of the term's number. -/
def renderer (t : Template) : Renderer :=
  fun index _ grouped => t.clause (t.param.placeholder index) grouped

/-- How often the placeholder stands in a clause. -/
def placeholdersPerTerm (t : Template) : Nat :=
  max t.columns.length 1

/-- Whether the values cannot be matched with the placeholders by counting: the placeholders are
anonymous and a term has several. -/
def misaligned (t : Template) : Bool :=
  t.param = .anonymous && 1 < t.placeholdersPerTerm

end Template

end SearchClause
