import SearchClause.Query.Tree

/-!
# Writing a tree as a query

The written form of a tree in the query language, with parentheses only where the binding of the
operators asks for them: `,` binds weakest, then `+`, then negation, and both operators group to the
left. Negation takes a single term without parentheses and anything else with them.
-/

namespace SearchClause

/-- Characters that would be read as an anchor or a wildcard in a bare exact term. -/
def anchorsAndWildcards : Text :=
  ['^', '$', '%', '_', '*']

/-- Whether an exact value can be written bare after `=`. -/
def isBareValue (value : Text) : Bool :=
  !value.isEmpty && value.all isWordChar && !value.any anchorsAndWildcards.contains

/-- The written form of a term. -/
def Term.written (t : Term) : Text :=
  match t.kind with
  | .contains | .wildcard => t.value
  | .startsWith => '^' :: t.value
  | .endsWith => t.value ++ ['$']
  | .exact => if isBareValue t.value then '=' :: t.value else '"' :: t.value ++ ['"']

namespace Tree

/-- How tightly the topmost operator binds. -/
def binding : Tree → Nat
  | or _ _ => 1
  | and _ _ => 2
  | not _ | leaf _ => 3

/-- Whether the tree is a single term. -/
def isLeaf : Tree → Bool
  | leaf _ => true
  | _ => false

/-- The written form of a tree. -/
def written : Tree → Text
  | leaf term => term.written
  | not child => '-' :: Text.enclosed (!child.isLeaf) child.written
  | and left right =>
    Text.enclosed (left.binding < 2) left.written ++
      '+' :: Text.enclosed (right.binding ≤ 2) right.written
  | or left right =>
    Text.enclosed (left.binding < 1) left.written ++
      ',' :: Text.enclosed (right.binding ≤ 1) right.written

end Tree

end SearchClause
