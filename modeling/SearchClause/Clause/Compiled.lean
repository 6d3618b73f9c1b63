import SearchClause.Clause.Template
import SearchClause.Query.Reader

/-!
# Compiled queries

A compiled query is a fragment of a clause and the values for its placeholders. The tree is walked
once, from left to right, and the values are collected on the way: the number of a term is how many
values there are once its own has been added. An operator inside another one is put in parentheses,
the outermost one is not, and negation always brings its own.
-/

namespace SearchClause

/-- A fragment and the values of its placeholders. -/
structure Compiled where
  /-- the clause with placeholders -/
  fragment : Text
  /-- the values, in the order of their numbers -/
  args : List Text
deriving DecidableEq, Repr

namespace Tree

/-- A negated fragment. -/
def negated (fragment : Text) : Text :=
  "NOT " ++ Text.enclosed true fragment

/-- The fragment of a subtree. The state is the values collected so far. -/
def emit (render : Renderer) (grouped : Bool) : Tree → StateM (Array Text) Text
  | leaf term => do
    modify (·.push term.text)
    return render (← get).size term.text grouped
  | not child => do
    return negated (← child.emit render false)
  | and left right => do
    let first ← left.emit render true
    let second ← right.emit render true
    return Text.enclosed grouped (first ++ " AND " ++ second)
  | or left right => do
    let first ← left.emit render true
    let second ← right.emit render true
    return Text.enclosed grouped (first ++ " OR " ++ second)

/-- The compiled form of a tree. -/
def compile (render : Renderer) (t : Tree) : Compiled :=
  let (fragment, args) := (t.emit render false).run #[]
  ⟨fragment, args.toList⟩

end Tree

/-- Reads a query as it stands and compiles it. -/
def compileQuery (render : Renderer) (input : Text) : Except QueryError Compiled :=
  (parse none input).map (Tree.compile render)

/-- Reads a query as it was typed and compiles it. -/
def buildQuery (render : Renderer) (raw : Text) : Except QueryError Compiled :=
  (buildTree none raw).map (Tree.compile render)

end SearchClause
