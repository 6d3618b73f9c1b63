import SearchClause.Config.Settings
import SearchClause.Toml.Writer

/-!
# Settings as a document

The settings in force written as a configuration file that would bring them about: the query settings
first, then each dialect in the order of the names.
-/

namespace SearchClause

/-- A line `key = value`. -/
def settingLine (key value : Text) : Text :=
  key ++ " = " ++ value ++ ['\n']

/-- A truth value as it is written. -/
def writtenBool (b : Bool) : Text :=
  if b then "true" else "false"

/-- The part of a document that holds the query settings. -/
def QuerySettings.written (q : QuerySettings) : Text :=
  "[query]\n" ++ settingLine "sanitize" (writtenBool q.sanitize) ++
    settingLine "max_depth" (Text.ofNat q.maxDepth) ++
    settingLine "dialect" (Toml.writeString q.dialect)

/-- The part of a document that holds a dialect. -/
def Template.written (name : Text) (t : Template) : Text :=
  "\n[dialect." ++ Toml.writeKey name ++ "]\n" ++
    settingLine "columns" (Toml.writeStrings t.columns) ++
    settingLine "operator" (Toml.writeString t.operator) ++
    settingLine "param" (Toml.writeString t.param.name)

/-- The part of a document that holds all dialects. -/
def Dialects.written (d : Dialects) : Text :=
  if d.entries.isEmpty then "\n[dialect]\n" else d.entries.flatMap fun e => e.2.written e.1

/-- The whole document. -/
def Settings.written (s : Settings) : Text :=
  s.query.written ++ s.dialects.written

end SearchClause
