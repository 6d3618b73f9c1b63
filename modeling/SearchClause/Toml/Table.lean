import SearchClause.Toml.Value

/-!
# Building TOML tables

A key may be defined once. Headers and dotted keys lead through tables that they create on the way;
what they may pass and add to depends on how a table came about:

* a table between braces is closed to everything outside it;
* a dotted key does not add to a table that has a header, nor to one that a header implies;
* a header may open a table that an earlier header implied, once, and leads into the last of a list
  of tables.
-/

namespace SearchClause

namespace Toml

/-- A change of a table: of its origin and its entries. -/
abbrev Change := Origin → Entries → Option (Origin × Entries)

/-- The value with a table changed: the table itself, or the last of a list of tables. -/
def Value.changeTable (dotted : Bool) (change : Change) : Value → Option Value
  | .table .braces _ => none
  | .table origin entries =>
    if dotted && origin = .header then none
    else (change origin entries).map fun p => .table p.1 p.2
  | .array true items =>
    match items.getLast? with
    | some (.table origin entries) =>
      (change origin entries).map fun p => .array true (items.dropLast ++ [.table p.1 p.2])
    | _ => none
  | _ => none

/-- A change at the end of a path, with tables created on the way. -/
def changeAt (dotted : Bool) (change : Change) : List Text → Change
  | [] => change
  | key :: path => fun origin entries =>
    match entries.get? key with
    | none =>
      (changeAt dotted change path (if dotted then .dotted else .implied) []).map fun p =>
        (origin, entries ++ [(key, .table p.1 p.2)])
    | some v =>
      (v.changeTable dotted (changeAt dotted change path)).map fun w =>
        (origin, entries.replace key w)

/-- A key and a value to add to a table; the key may lead through others. -/
structure Assignment where
  /-- the keys on the way -/
  path : List Text
  /-- the last key -/
  key : Text
  /-- its value -/
  value : Value

/-- The table with an assignment carried out. -/
def assign (a : Assignment) : Change :=
  changeAt (!a.path.isEmpty) (fun origin entries =>
    if (origin = .dotted) != !a.path.isEmpty then none
    else
      match entries.get? a.key with
      | some _ => none
      | none => some (origin, entries ++ [(a.key, a.value)])) a.path

/-- The table with assignments carried out one after the other. -/
def assignAll : List Assignment → Change
  | [], origin, entries => some (origin, entries)
  | a :: rest, origin, entries => (assign a origin entries).bind fun p => assignAll rest p.1 p.2

/-- A header with the assignments below it. -/
structure Section where
  /-- whether the header adds to a list of tables -/
  listed : Bool
  /-- the keys on the way -/
  path : List Text
  /-- the last key -/
  key : Text
  /-- what stands below the header -/
  assignments : List Assignment

/-- The parent table with a section added. -/
def Section.define (s : Section) : Change := fun origin entries =>
  let filled (start : Entries) : Option Value :=
    (assignAll s.assignments .header start).map fun p => .table p.1 p.2
  match s.listed, entries.get? s.key with
  | false, none => (filled []).map fun v => (origin, entries ++ [(s.key, v)])
  | false, some (.table .implied start) =>
    (filled start).map fun v => (origin, entries.replace s.key v)
  | true, none => (filled []).map fun v => (origin, entries ++ [(s.key, .array true [v])])
  | true, some (.array true items) =>
    (filled []).map fun v => (origin, entries.replace s.key (.array true (items ++ [v])))
  | _, _ => none

/-- The document with sections added one after the other. -/
def addSections : List Section → Entries → Option Entries
  | [], entries => some entries
  | s :: rest, entries =>
    (changeAt false s.define s.path .header entries).bind fun p => addSections rest p.2

end Toml

end SearchClause
