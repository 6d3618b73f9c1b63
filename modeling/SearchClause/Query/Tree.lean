import SearchClause.Query.Term

/-!
# Query trees

A query is a Boolean expression over search terms. The tree knows nothing of any database: what a term
becomes is decided when the tree is compiled.
-/

namespace SearchClause

/-- A Boolean expression over terms. -/
inductive Tree where
  /-- a single term -/
  | leaf (term : Term)
  /-- the child does not hold -/
  | not (child : Tree)
  /-- both sides hold -/
  | and (left right : Tree)
  /-- one of the sides holds -/
  | or (left right : Tree)
deriving DecidableEq, Repr

namespace Tree

/-- The terms from left to right. -/
def leaves : Tree → List Term
  | leaf term => [term]
  | not child => child.leaves
  | and left right => left.leaves ++ right.leaves
  | or left right => left.leaves ++ right.leaves

/-- The number of terms. -/
def leafCount : Tree → Nat
  | leaf _ => 1
  | not child => child.leafCount
  | and left right => left.leafCount + right.leafCount
  | or left right => left.leafCount + right.leafCount

/-- The number of nodes on the longest way down. -/
def depth : Tree → Nat
  | leaf _ => 1
  | not child => 1 + child.depth
  | and left right => 1 + max left.depth right.depth
  | or left right => 1 + max left.depth right.depth

/-- The count is the number of terms listed. -/
theorem length_leaves (t : Tree) : t.leaves.length = t.leafCount := by
  induction t <;> simp_all [leaves, leafCount]

/-- Every query has a term. -/
theorem leafCount_pos (t : Tree) : 0 < t.leafCount := by
  induction t with
  | leaf _ => exact Nat.one_pos
  | not _ ih => exact ih
  | and _ _ ihl _ => exact Nat.add_pos_left ihl _
  | or _ _ ihl _ => exact Nat.add_pos_left ihl _

end Tree

end SearchClause
