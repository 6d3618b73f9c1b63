import SearchClause.Terminal.Width

/-!
# Tables on a terminal

Cells in rows below a heading, framed by box-drawing characters. A column is as wide as the widest
line in it, with a space on either side; a cell with line breaks takes several lines, and the cells
beside it are blank there.
-/

namespace SearchClause

namespace Grid

/-- The lines of a cell. -/
def cellLines (cell : Text) : List Text :=
  Text.pieces (· = '\n') cell

/-- The widest line of a cell. -/
def cellWidth (cell : Text) : Nat :=
  (cellLines cell).foldl (fun w line => max w line.width) 0

/-- The widths of the columns of rows. -/
def columnWidths : List (List Text) → List Nat
  | [] => []
  | row :: rest => widen (row.map cellWidth) (columnWidths rest)
where
  /-- the wider of two widths, column by column -/
  widen : List Nat → List Nat → List Nat
    | [], others => others
    | widths, [] => widths
    | a :: as, b :: bs => max a b :: widen as bs

/-- A line across the table. -/
def rule (left across between right : Char) (widths : List Nat) : Text :=
  left :: Text.joinWith [between] (widths.map fun w => List.replicate (w + 2) across) ++ [right]

/-- A line of a cell, filled up to the width of its column. -/
def padded (width : Nat) (line : Text) : Text :=
  ' ' :: line ++ List.replicate (width - line.width + 1) ' '

/-- One line of a row: the line with a number from each cell, or a blank one. -/
def rowLine (widths : List Nat) (row : List Text) (number : Nat) : Text :=
  '│' :: Text.joinWith ['┆'] ((widths.zip row).map fun c =>
    padded c.1 ((cellLines c.2)[number]?.getD [])) ++ ['│']

/-- The lines of a row. -/
def rowLines (widths : List Nat) (row : List Text) : List Text :=
  let height := (row.map fun cell => (cellLines cell).length).foldl max 1
  (List.range height).map (rowLine widths row)

/-- The whole table, without a final line break. -/
def draw (heading : List Text) (rows : List (List Text)) : Text :=
  let widths := columnWidths (heading :: rows)
  Text.joinWith ['\n']
    ([rule '┌' '─' '┬' '┐' widths] ++ rowLines widths heading ++ [rule '╞' '═' '╪' '╡' widths] ++
      rows.flatMap (rowLines widths) ++ [rule '└' '─' '┴' '┘' widths])

end Grid

end SearchClause
