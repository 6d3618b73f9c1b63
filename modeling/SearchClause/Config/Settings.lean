import SearchClause.Clause.Compiled
import SearchClause.Config.Dialects
import SearchClause.Config.Layer
import SearchClause.Files.Path

/-!
# Settings

What is in force when all layers have been laid over each other. The layers come with the nearest one
first:

* **query settings** — each is taken from the nearest layer that has it, or else built in;
* **dialects** — a dialect is taken as a whole from the nearest layer that names it, with what that
  layer leaves out filled in; the dialect `default` is built in;
* **root** — the directory of the nearest file.
-/

namespace SearchClause

/-- Settings for queries. -/
structure QuerySettings where
  /-- whether queries are sanitized -/
  sanitize : Bool
  /-- how many groups may be open at once; zero for no limit -/
  maxDepth : Nat
  /-- the dialect used when none is asked for -/
  dialect : Text
deriving DecidableEq, Repr

/-- The query settings of an empty configuration. -/
def QuerySettings.builtin : QuerySettings where
  sanitize := true
  maxDepth := 64
  dialect := "default"

/-- All settings. -/
structure Settings where
  /-- settings for queries -/
  query : QuerySettings
  /-- dialects by name -/
  dialects : Dialects
  /-- the directory of the nearest file, if there is one -/
  root : Option Text

/-- A dialect was asked for that is not there. -/
structure UnknownDialect where
  /-- the name asked for -/
  name : Text
  /-- the names there are -/
  available : List Text
deriving DecidableEq, Repr

/-- The complaint in words. -/
def UnknownDialect.message (e : UnknownDialect) : Text :=
  "unknown dialect '" ++ e.name ++ "' (available: " ++ Text.joinWith ", " e.available ++ ")"

/-- The template of a layer's dialect, with what is left out filled in. -/
def DialectLayer.template (d : DialectLayer) : Template where
  columns := d.columns.getD []
  operator := d.operator.getD "LIKE"
  param := d.param.getD .numbered

/-- A layer and the path of its file. -/
structure SourcedLayer where
  /-- where the layer was read -/
  path : Text
  /-- the layer -/
  layer : Layer
deriving DecidableEq, Repr

namespace Settings

/-- The dialects of an empty configuration. -/
def builtinDialects : Dialects :=
  Dialects.empty.insert "default" Template.builtin

/-- The settings of an empty configuration. -/
def builtin : Settings where
  query := .builtin
  dialects := builtinDialects
  root := none

/-- Query settings with those of a layer laid over them. -/
def overlayQuery (layer : Layer) (below : QuerySettings) : QuerySettings :=
  match layer.query with
  | none => below
  | some q =>
    { sanitize := q.sanitize.getD below.sanitize
      maxDepth := q.maxDepth.getD below.maxDepth
      dialect := q.dialect.getD below.dialect }

/-- Dialects with those of a layer laid over them. -/
def overlayDialects (layer : Layer) (below : Dialects) : Dialects :=
  below.insertAll ((layer.dialects.getD []).map fun d => (d.1, d.2.template))

/-- The settings of layers, the nearest one first. -/
def ofLayers (layers : List SourcedLayer) : Settings where
  query := layers.foldr (fun l below => overlayQuery l.layer below) .builtin
  dialects := layers.foldr (fun l below => overlayDialects l.layer below) builtinDialects
  root := layers.head?.bind fun l => Path.parent l.path

/-- The dialect with a name. -/
def dialect (s : Settings) (name : Text) : Except UnknownDialect Template :=
  match s.dialects.get? name with
  | some t => .ok t
  | none => .error ⟨name, s.dialects.names⟩

/-- The dialect used when none is asked for. -/
def defaultDialect (s : Settings) : Except UnknownDialect Template :=
  s.dialect s.query.dialect

/-- The limit on open groups; the number zero stands for none. -/
def depthLimit (s : Settings) : Option Nat :=
  if s.query.maxDepth = 0 then none else some s.query.maxDepth

/-- A query as it was typed, read within the limit and compiled with a template. -/
def buildQuery (s : Settings) (template : Template) (raw : Text) : Except QueryError Compiled :=
  (buildTree s.depthLimit raw).map (Tree.compile template.renderer)

end Settings

end SearchClause
