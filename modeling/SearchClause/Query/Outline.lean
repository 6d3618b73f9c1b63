import SearchClause.Query.Tree
import SearchClause.Text.Quoted

/-!
# The outline of a tree

A tree shown one node to a line, children below their parent and two spaces further in. The text of a
term is quoted, so an outline says exactly which tree it is of.
-/

namespace SearchClause

/-- The line of a term, without its indentation. -/
def Term.label (t : Term) : Text :=
  "Term(" ++ t.text.quoted ++ ", " ++ t.kind.name ++ ")"

namespace Tree

/-- A line at a level. -/
def outlineLine (level : Nat) (label : Text) : Text :=
  Text.times level "  " ++ label ++ ['\n']

/-- The outline of a subtree at a level. -/
def outlineAt (level : Nat) : Tree → Text
  | leaf term => outlineLine level term.label
  | not child => outlineLine level "Not" ++ child.outlineAt (level + 1)
  | and left right =>
    outlineLine level "And" ++ left.outlineAt (level + 1) ++ right.outlineAt (level + 1)
  | or left right =>
    outlineLine level "Or" ++ left.outlineAt (level + 1) ++ right.outlineAt (level + 1)

/-- The outline of a whole tree; every line ends in a line break. -/
def outline (t : Tree) : Text :=
  t.outlineAt 0

end Tree

end SearchClause
