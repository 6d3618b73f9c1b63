import SearchClause.Text.Basic

/-!
# TOML values

A document is a table: keys with values, some of which are tables again. How a table came about
decides what may still be added to it, so every table remembers its origin.

A word may have the form of a number and still stand for none, because it is too large or has no
digits. It is kept as it is written, and only those who look at it find out.
-/

namespace SearchClause

namespace Toml

/-- How a table came about. -/
inductive Origin where
  /-- named by a header of its own -/
  | header
  /-- named on the way by a header further down -/
  | implied
  /-- named on the way by a dotted key -/
  | dotted
  /-- written between braces -/
  | braces
deriving DecidableEq, Repr

/-- A value. -/
inductive Value where
  /-- a string -/
  | text (t : Text)
  /-- a whole number -/
  | integer (n : Int)
  /-- a floating point number, as it is written -/
  | float (written : Text)
  /-- a word in the form of a number that stands for none -/
  | unvalued (written : Text)
  /-- a truth value -/
  | boolean (b : Bool)
  /-- a date, a time or both, as it is written -/
  | moment (written : Text)
  /-- a list of values; `tables` says that it is made by headers, which may add to it -/
  | array (tables : Bool) (items : List Value)
  /-- keys and values -/
  | table (origin : Origin) (entries : List (Text × Value))
deriving Repr

mutual

/-- Whether every number in a value stands for one. -/
def Value.isValued : Value → Bool
  | .unvalued _ => false
  | .array _ items => allValued items
  | .table _ entries => entriesValued entries
  | _ => true

/-- Whether every number in the items of a list stands for one. -/
def allValued : List Value → Bool
  | [] => true
  | v :: rest => v.isValued && allValued rest

/-- Whether every number in the values of a table stands for one. -/
def entriesValued : List (Text × Value) → Bool
  | [] => true
  | (_, v) :: rest => v.isValued && entriesValued rest

end

/-- The keys and values of a table. -/
abbrev Entries := List (Text × Value)

namespace Entries

/-- The value of a key. -/
def get? (key : Text) : Entries → Option Value
  | [] => none
  | (k, v) :: rest => if k = key then some v else get? key rest

/-- The entries with another value for a key that is there. -/
def replace (key : Text) (value : Value) : Entries → Entries
  | [] => []
  | (k, v) :: rest => if k = key then (k, value) :: rest else (k, v) :: replace key value rest

end Entries

end Toml

end SearchClause
