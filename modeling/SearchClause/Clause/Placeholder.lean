import SearchClause.Text.Basic

/-!
# Placeholders

The values of a query are never written into the clause: a placeholder stands in their place, and the
values are handed over beside it. A style says how the placeholder of the value with a given number is
written. Numbers start at one.
-/

namespace SearchClause

/-- How placeholders are written. -/
inductive ParamStyle where
  /-- `?1` -/
  | numbered
  /-- `$1` -/
  | dollar
  /-- `:p1` -/
  | named
  /-- `?` for every value -/
  | anonymous
deriving DecidableEq, Repr

/-- The name of the value with a number. -/
def paramName (index : Nat) : Text :=
  'p' :: Text.ofNat index

/-- The reference to a named value. -/
def paramReference (index : Nat) : Text :=
  ':' :: paramName index

namespace ParamStyle

/-- The name of a style. -/
def name : ParamStyle → Text
  | numbered => "numbered"
  | dollar => "dollar"
  | named => "named"
  | anonymous => "anonymous"

/-- All styles. -/
def all : List ParamStyle :=
  [numbered, dollar, named, anonymous]

/-- The style with a name. -/
def ofName? (t : Text) : Option ParamStyle :=
  all.find? (·.name = t)

/-- The placeholder of the value with a number. -/
def placeholder : ParamStyle → Nat → Text
  | numbered, index => '?' :: Text.ofNat index
  | dollar, index => '$' :: Text.ofNat index
  | named, index => paramReference index
  | anonymous, _ => ['?']

/-- A style is found by its name. -/
theorem ofName?_name (style : ParamStyle) : ofName? style.name = some style := by
  cases style <;> decide

end ParamStyle

/-- Values with names counted from `first`. -/
def namedFrom (first : Nat) : List Text → List (Text × Text)
  | [] => []
  | value :: rest => (paramName first, value) :: namedFrom (first + 1) rest

/-- The values of a query with their names. -/
def namedArgs (args : List Text) : List (Text × Text) :=
  namedFrom 1 args

end SearchClause
