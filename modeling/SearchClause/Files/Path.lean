import SearchClause.Text.Basic

/-!
# Paths

A path is a text in which slashes separate components. Repeated slashes, slashes at the end and
components `.` say nothing, except a `.` that opens a relative path; `..` is a component like any
other, for where it leads depends on the disk. Cutting a path leaves the text before the cut alone.
-/

namespace SearchClause

namespace Path

/-- What a path starts with: a slash if it is absolute, a `.` that stands for itself, or nothing. -/
def lead : Text → Text
  | '/' :: _ => ['/']
  | ['.'] => ['.']
  | '.' :: '/' :: _ => ['.']
  | _ => []

/-- What a path has between slashes after its lead. -/
def body (p : Text) : List Text :=
  Text.pieces (· = '/') (p.drop (lead p).length)

/-- Whether a piece between slashes says nothing. -/
def isIdle (piece : Text) : Bool :=
  piece = [] || piece = ['.']

/-- Pieces without idle ones at the end. -/
def trimIdle (pieces : List Text) : List Text :=
  (pieces.reverse.dropWhile isIdle).reverse

/-- The path with a lead and pieces. -/
def assemble (lead : Text) (pieces : List Text) : Text :=
  lead ++ Text.joinWith ['/'] pieces

/-- The components of a path: its lead and the pieces that say something. -/
def components (p : Text) : Text × List Text :=
  (lead p, (body p).filter (!isIdle ·))

/-- Whether two paths have the same components. -/
def same (p q : Text) : Bool :=
  components p = components q

/-- The path without its last component; none for a path that has no other. -/
def parent (p : Text) : Option Text :=
  match trimIdle (body p) with
  | [] => if lead p = ['.'] then some [] else none
  | pieces => some (assemble (lead p) (trimIdle pieces.dropLast))

/-- How many components a path has, its lead included. -/
def size (p : Text) : Nat :=
  (components p).2.length + (lead p).length

/-- The path and what is left of it by cutting components, `steps` times at most. -/
def ancestorsFrom : Nat → Text → List Text
  | 0, p => [p]
  | steps + 1, p => p :: ((parent p).map (ancestorsFrom steps)).getD []

/-- The path and what is left of it by cutting component after component. -/
def ancestors (p : Text) : List Text :=
  ancestorsFrom (size p) p

/-- The path with a component added. -/
def join (p name : Text) : Text :=
  if p.isEmpty || p.getLast? = some '/' then p ++ name else p ++ '/' :: name

end Path

end SearchClause
