import SearchClause.Clause.Template
import SearchClause.Toml.Reader

/-!
# Configuration layers

One configuration file is a layer: everything in it is optional, and what is absent is left to the
layers below. A layer is read from a TOML document; keys that mean nothing here are passed over, as long
as the numbers in their values stand for something, but a known key with a value of the wrong kind makes
the whole layer unreadable.

The settings for queries and each dialect may also be given as a list, read by position; nobody looks
at what follows the last position. A date in their place says nothing at all.
-/

namespace SearchClause

open Toml (Value Entries)

/-- Settings for queries, as far as a layer has them. -/
structure QueryLayer where
  /-- whether queries are sanitized -/
  sanitize : Option Bool
  /-- how many groups may be open at once; zero for no limit -/
  maxDepth : Option Nat
  /-- the dialect used when none is asked for -/
  dialect : Option Text
deriving DecidableEq, Repr

/-- A dialect, as far as a layer has it. -/
structure DialectLayer where
  /-- the columns compared -/
  columns : Option (List Text)
  /-- the operator of the comparison -/
  operator : Option Text
  /-- how placeholders are written -/
  param : Option ParamStyle
deriving DecidableEq, Repr

/-- One configuration file. -/
structure Layer where
  /-- whether the search for files ends here -/
  root : Option Bool
  /-- settings for queries -/
  query : Option QueryLayer
  /-- dialects by name -/
  dialects : Option (List (Text × DialectLayer))
deriving DecidableEq, Repr

/-- The layer of an empty file. -/
def Layer.empty : Layer := ⟨none, none, none⟩

namespace Layer

/-! ## Values of a kind -/

/-- A truth value. -/
def bool? : Value → Option Bool
  | .boolean b => some b
  | _ => none

/-- A string. -/
def text? : Value → Option Text
  | .text t => some t
  | _ => none

/-- A number from zero to the largest of 64 bits. -/
def count? : Value → Option Nat
  | .integer n => if 0 ≤ n ∧ n < Int.pow 2 64 then some n.toNat else none
  | _ => none

/-- A string or a list of strings. -/
def texts? : Value → Option (List Text)
  | .text t => some [t]
  | .array _ items => items.mapM text?
  | _ => none

/-- Whether a value is an empty list or table. -/
def isVoid : Value → Bool
  | .array _ [] => true
  | .table _ [] => true
  | _ => false

/-- A style by its name, or by a table with the name as its only key and nothing in it. -/
def style? : Value → Option ParamStyle
  | .text t => ParamStyle.ofName? t
  | .table _ [(name, v)] => if isVoid v then ParamStyle.ofName? name else none
  | _ => none

/-! ## Records -/

/-- An optional field: absent, or present with a value of the right kind. -/
def optional? (read : Value → Option α) : Option Value → Option (Option α)
  | none => some none
  | some v => (read v).map some

/-- The value of a field in a record: by its name in a table, by its position in a list. -/
def field? (record : Value) (name : Text) (position : Nat) : Option Value :=
  match record with
  | .table _ entries => Entries.get? name entries
  | .array _ items => items[position]?
  | _ => none

/-- Whether the values of all keys but the known ones can be passed over. -/
def othersValued (known : List Text) (entries : Entries) : Bool :=
  Toml.entriesValued (entries.filter fun e => !known.contains e.1)

/-- Whether a value can be read as a record with given fields. -/
def isRecord (known : List Text) : Value → Bool
  | .table _ entries => othersValued known entries
  | .array _ _ | .moment _ => true
  | _ => false

/-- The settings for queries in a value. -/
def query? (v : Value) : Option QueryLayer :=
  if isRecord ["sanitize", "max_depth", "dialect"] v then do
    let sanitize ← optional? bool? (field? v "sanitize" 0)
    let maxDepth ← optional? count? (field? v "max_depth" 1)
    let dialect ← optional? text? (field? v "dialect" 2)
    some ⟨sanitize, maxDepth, dialect⟩
  else none

/-- The dialect in a value. -/
def dialect? (v : Value) : Option DialectLayer :=
  if isRecord ["columns", "operator", "param"] v then do
    let columns ← optional? texts? (field? v "columns" 0)
    let operator ← optional? text? (field? v "operator" 1)
    let param ← optional? style? (field? v "param" 2)
    some ⟨columns, operator, param⟩
  else none

/-- Dialects by name. -/
def named? : Entries → Option (List (Text × DialectLayer))
  | [] => some []
  | (name, v) :: rest => do
    let first ← dialect? v
    let others ← named? rest
    some ((name, first) :: others)

/-- The dialects in a value. -/
def dialects? : Value → Option (List (Text × DialectLayer))
  | .table _ entries => named? entries
  | _ => none

/-- The layer in a document. -/
def ofEntries? (entries : Entries) : Option Layer :=
  if othersValued ["root", "query", "dialect"] entries then do
    let root ← optional? bool? (entries.get? "root")
    let query ← optional? query? (entries.get? "query")
    let dialects ← optional? dialects? (entries.get? "dialect")
    some ⟨root, query, dialects⟩
  else none

/-- The layer that a text describes, if it is a document and the known keys have their kinds. -/
def ofText? (t : Text) : Option Layer :=
  (Toml.document? t).bind ofEntries?

end Layer

end SearchClause
