import SearchClause.Query.Symbol

/-!
# Search terms

A term is a text to compare with and the way it is compared. The text is stored ready for a pattern
match: `%` stands at the ends where anything may precede or follow. `Term.ofValue` adds these marks to
the plain value and `Term.value` takes them off again.
-/

namespace SearchClause

/-- How a term is compared. -/
inductive MatchKind where
  /-- the value occurs anywhere -/
  | contains
  /-- the value is all there is -/
  | exact
  /-- the value comes first -/
  | startsWith
  /-- the value comes last -/
  | endsWith
  /-- the value is a pattern as it stands -/
  | wildcard
deriving DecidableEq, Repr

/-- The name of a kind. -/
def MatchKind.name : MatchKind → Text
  | .contains => "contains"
  | .exact => "exact"
  | .startsWith => "starts_with"
  | .endsWith => "ends_with"
  | .wildcard => "wildcard"

/-- A leaf of a query. -/
structure Term where
  /-- the pattern to compare with -/
  text : Text
  /-- how the value was meant -/
  kind : MatchKind
deriving DecidableEq, Repr

namespace Term

/-- The term for a plain value. -/
def ofValue (kind : MatchKind) (value : Text) : Term where
  text :=
    match kind with
    | .contains => '%' :: value ++ ['%']
    | .startsWith => value ++ ['%']
    | .endsWith => '%' :: value
    | .exact | .wildcard => value
  kind := kind

/-- The value without the marks that its kind adds. A text that lacks one of them is its own value. -/
def value (t : Term) : Text :=
  match t.kind with
  | .contains => ((Text.dropFirst? '%' t.text).bind (Text.dropLast? '%')).getD t.text
  | .startsWith => (Text.dropLast? '%' t.text).getD t.text
  | .endsWith => (Text.dropFirst? '%' t.text).getD t.text
  | .exact | .wildcard => t.text

/-- Taking the marks off undoes adding them. -/
theorem value_ofValue (kind : MatchKind) (v : Text) : (ofValue kind v).value = v := by
  cases kind <;> simp [ofValue, value, Text.dropFirst?, Text.dropLast?]

end Term

end SearchClause
