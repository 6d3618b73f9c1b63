import SearchClause.Text.Basic

/-!
# Terminal styling

Text between the escape sequences that switch an appearance on and everything off again, and the
indentation of quoted output.
-/

namespace SearchClause

namespace Style

/-- An escape sequence with a number. -/
def escape (code : Text) : Text :=
  "\x1b[" ++ code ++ "m"

/-- Back to plain text. -/
def reset : Text := escape "0"

/-- Bold text. -/
def bold : Text := escape "1"

/-- Faint text. -/
def faint : Text := escape "2"

/-- Slanted text. -/
def slanted : Text := escape "3"

/-- Yellow text. -/
def yellow : Text := escape "33"

/-- Blue text. -/
def blue : Text := escape "34"

/-- Cyan text. -/
def cyan : Text := escape "36"

/-- A main heading. -/
def header (t : Text) : Text :=
  bold ++ cyan ++ t ++ reset

/-- A heading. -/
def subheader (t : Text) : Text :=
  bold ++ t ++ reset

/-- A side remark. -/
def dim (t : Text) : Text :=
  faint ++ t ++ reset

/-- A warning. -/
def warning (t : Text) : Text :=
  yellow ++ t ++ reset

/-- The lines of a text moved in by three spaces, except empty ones, without a final line break. -/
def indent (t : Text) : Text :=
  Text.joinWith ['\n'] (t.lines.map fun line => if line.isEmpty then [] else "   " ++ line)

end Style

end SearchClause
