import SearchClause.Config.Settings

/-!
# Warnings about settings

Settings can be valid and still not do what was meant. Each dialect is looked at in the order of the
names, and last the default dialect.
-/

namespace SearchClause

/-- Something doubtful in the settings; the name is that of the dialect. -/
inductive ConfigWarning where
  /-- the dialect compares no column that has a name -/
  | withoutColumns (dialect : Text)
  /-- the operator of the dialect is blank -/
  | emptyOperator (dialect : Text)
  /-- values and placeholders of the dialect cannot be matched -/
  | anonymousColumns (dialect : Text)
  /-- the default dialect is not there -/
  | unknownDefault (dialect : Text)
deriving DecidableEq, Repr

namespace ConfigWarning

/-- The warning in words. -/
def message : ConfigWarning → Text
  | withoutColumns name => "dialect '" ++ name ++ "' has no columns"
  | emptyOperator name => "dialect '" ++ name ++ "' has an empty operator"
  | anonymousColumns name =>
    "dialect '" ++ name ++ "' uses anonymous parameters with multiple columns"
  | unknownDefault name => "default dialect '" ++ name ++ "' is not defined"

/-- What to do about it. -/
def hint : ConfigWarning → Text
  | withoutColumns _ => "Hint: set columns = \"name\" or a list of columns in the dialect"
  | emptyOperator _ => "Hint: set operator, e.g. operator = \"LIKE\""
  | anonymousColumns _ =>
    "Hint: use param = \"numbered\", \"dollar\" or \"named\", or keep a single column"
  | unknownDefault _ => "Hint: define the dialect with [dialect.NAME] or change query.dialect"

end ConfigWarning

/-- The warnings about one dialect. -/
def Template.warnings (name : Text) (t : Template) : List ConfigWarning :=
  (if t.columns.all (·.trim.isEmpty) then [.withoutColumns name] else []) ++
  (if t.operator.trim.isEmpty then [.emptyOperator name] else []) ++
  (if t.misaligned then [.anonymousColumns name] else [])

/-- The warnings about all settings. -/
def Settings.warnings (s : Settings) : List ConfigWarning :=
  s.dialects.entries.flatMap (fun e => e.2.warnings e.1) ++
  (if (s.dialects.get? s.query.dialect).isNone then [.unknownDefault s.query.dialect] else [])

end SearchClause
