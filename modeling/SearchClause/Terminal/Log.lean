import SearchClause.Terminal.Style
import SearchClause.Text.Quoted

/-!
# Log lines

What a run tells about itself when it is asked to. Every event has a source, a message and fields, and
is of interest for debugging only. It is shown when the command line asks for more than the usual, or
else when the environment does.
-/

namespace SearchClause

namespace Log

/-- A field and its value as it is shown. -/
structure Field where
  /-- the name -/
  name : Text
  /-- the value as it is shown -/
  shown : Text
deriving DecidableEq, Repr

/-- Something that happened. -/
structure Event where
  /-- the part of the program it happened in -/
  source : Text
  /-- what happened -/
  message : Text
  /-- details -/
  fields : List Field
deriving DecidableEq, Repr

/-- How a field is shown in a line. -/
def Field.written (f : Field) : Text :=
  ' ' :: Style.slanted ++ f.name ++ Style.reset ++ Style.faint ++ "=" ++ Style.reset ++ f.shown

/-- A value shown plainly. -/
def plain (name value : Text) : Field :=
  ⟨name, value⟩

/-- A value shown between quotes. -/
def quoted (name value : Text) : Field :=
  ⟨name, value.quoted⟩

/-- A number. -/
def number (name : Text) (n : Nat) : Field :=
  ⟨name, Text.ofNat n⟩

/-- An optional text. -/
def maybe (name : Text) : Option Text → Field
  | none => ⟨name, "None"⟩
  | some t => ⟨name, "Some(" ++ t.quoted ++ ")"⟩

/-- The line of an event, without a line break. -/
def Event.line (e : Event) : Text :=
  Style.blue ++ "DEBUG" ++ Style.reset ++ " " ++ Style.faint ++ e.source ++ Style.reset ++
    Style.faint ++ ":" ++ Style.reset ++ " " ++ e.message ++ e.fields.flatMap Field.written

/-- The levels at which events are shown, as the environment names them. -/
def showingLevels : List Text :=
  ["debug", "trace", "4", "5"]

/-- Whether events are shown, given how often the command line asks for more and what the
environment says. -/
def shows (verbosity : Nat) (filter : Option Text) : Bool :=
  0 < verbosity || filter.any fun t => showingLevels.contains (t.map Char.toLower)

end Log

end SearchClause
