import SearchClause.Clause.Flat
import SearchClause.Command.Invocation
import SearchClause.Command.Outcome
import SearchClause.Config.Discovery
import SearchClause.Config.Starter
import SearchClause.Config.Warning
import SearchClause.Config.Written
import SearchClause.Query.Outline
import SearchClause.Query.Sanitize
import SearchClause.Terminal.Grid
import SearchClause.Text.JsonForm

/-!
# Running a command

Each command is a function from the machine to an outcome. Only writing a starter file changes the
disk. Commands that only look at the text of a query do not load the settings, so that they work when a
configuration file is broken.
-/

namespace SearchClause

/-- Why a query is not compiled. -/
inductive Refusal where
  /-- there is no dialect with the name -/
  | unknownDialect (e : UnknownDialect)
  /-- the dialect is there, and its values and placeholders cannot be matched -/
  | anonymousParameters (dialect : Text) (columns : Nat)
  /-- the query cannot be read -/
  | query (e : QueryError)
deriving DecidableEq, Repr

/-- The refusal in words. -/
def Refusal.report : Refusal → Text
  | unknownDialect e => e.message
  | anonymousParameters dialect columns =>
    "dialect '" ++ dialect ++ "' uses anonymous parameters with " ++ Text.ofNat columns ++
      " columns; placeholders would not match arguments"
  | query e => e.report

namespace Run

open Emission (outLine errLine)

/-! ## Queries -/

/-- The query that is read, and what is said about it: it is sanitized unless the settings or the
command line say otherwise. -/
def prepared (s : Settings) (raw : Bool) (query : Text) : Text × List Emission :=
  if !s.query.sanitize || raw then (query, [])
  else
    let cleaned := sanitize query
    if cleaned = query then (cleaned, [])
    else (cleaned, [.log ⟨"sift::cli::commands::shared", "sanitized query",
      [Log.quoted "raw" query, Log.plain "sanitized" cleaned]⟩])

/-- What is said when a query has been normalized. -/
def normalizedEvent (query : Text) : Emission :=
  .log ⟨"sift_query::parser", "normalized query",
    [Log.quoted "raw" query, Log.plain "canonical" (SearchClause.normalize query)]⟩

/-- What is said when a query has been compiled. -/
def compiledEvent (c : Compiled) : Emission :=
  .log ⟨"sift_query::compile", "compiled query", [Log.number "args" c.args.length]⟩

/-- A complaint on the error output. -/
def complaint (t : Text) : Emission :=
  errLine ("error: " ++ t)

/-- The fields of a tree. -/
def treeForm : Tree → JsonForm
  | .leaf t => .fields [("type", .string "term"), ("text", .string t.text),
      ("kind", .string t.kind.name)]
  | .not child => .fields [("type", .string "not"), ("child", treeForm child)]
  | .and left right => .fields [("type", .string "and"), ("left", treeForm left),
      ("right", treeForm right)]
  | .or left right => .fields [("type", .string "or"), ("left", treeForm left),
      ("right", treeForm right)]

/-- The end of a command that shows the tree of a query. The fields of a tree can always be written,
so asking for them does not add a way to fail. -/
def parse (s : Settings) (query : Text) (json raw : Bool) : Nat × List Emission :=
  let (input, said) := prepared s raw query
  let said := said ++ [normalizedEvent input]
  match buildTree s.depthLimit input with
  | .error e => (1, said ++ [complaint e.report])
  | .ok tree =>
    let canonical := SearchClause.normalize input
    if json then
      (0, said ++ [outLine (JsonForm.written (.fields [("canonical", .string canonical),
        ("tree", treeForm tree)]))])
    else
      (0, said ++ [outLine (Style.subheader "Canonical:"), outLine ("   " ++ canonical), outLine [],
        outLine (Style.subheader "Tree:"), outLine (Style.indent tree.outline)])

/-- The rows of a table of values. -/
def argumentRows (style : ParamStyle) (first : Nat) : List Text → List (List Text)
  | [] => []
  | value :: rest =>
    [Text.ofNat first, style.placeholder first, value] :: argumentRows style (first + 1) rest

/-- The order of named values: by their names. -/
def insertNamed (p : Text × Text) : List (Text × Text) → List (Text × Text)
  | [] => [p]
  | q :: rest => if Text.precedes p.1 q.1 then p :: q :: rest else q :: insertNamed p rest

/-- Named values in the order of their names. -/
def sortNamed (named : List (Text × Text)) : List (Text × Text) :=
  named.foldr insertNamed []

/-- Named values as fields, if the style has names. -/
def namedFields (style : ParamStyle) (args : List Text) : List (Text × JsonForm) :=
  if style = .named then
    [("named_args", .fields ((sortNamed (namedArgs args)).map fun p => (p.1, .string p.2)))]
  else []

/-- The fields of a compiled query; named values are given by name too. -/
def compiledForm (dialect : Text) (style : ParamStyle) (c : Compiled) : JsonForm :=
  .fields (("dialect", .string dialect) :: ("fragment", .string c.fragment) ::
    ("args", .list (c.args.map .string)) :: namedFields style c.args)

/-- What is said about a compiled query. -/
def compiledReport (dialect : Text) (style : ParamStyle) (json : Bool) (c : Compiled) :
    List Emission :=
  if json then [outLine (compiledForm dialect style c).written]
  else if c.args.isEmpty then [outLine (Style.dim "(empty query)")]
  else
    [outLine (Style.subheader "Fragment:"), outLine ("   " ++ c.fragment), outLine [],
      outLine (Style.subheader "Arguments:"),
      outLine (Grid.draw ["#", "Placeholder", "Value"] (argumentRows style 1 c.args))]

/-- The dialect a query is compiled in. Only the flat form, which numbers its placeholders itself,
takes one whose values and placeholders cannot be matched. -/
def dialectFor (s : Settings) (asked : Option Text) (flat : Bool) : Except Refusal Template :=
  let name := asked.getD s.query.dialect
  match s.dialect name with
  | .error e => .error (.unknownDialect e)
  | .ok template =>
    if !flat && template.misaligned then
      .error (.anonymousParameters name template.columns.length)
    else .ok template

/-- A query compiled in a dialect. Every query has a flat form. -/
def compileIn (s : Settings) (template : Template) (flat : Bool) (input : Text) :
    Except Refusal Compiled :=
  if flat then .ok (Flat.compile (fun placeholder _ => template.clause placeholder true) input)
  else (s.buildQuery template input).mapError .query

/-- What compiling a query comes to, before anything is said about it. -/
def attempt (s : Settings) (query : Text) (asked : Option Text) (raw flat : Bool) :
    Except Refusal Compiled := do
  let template ← dialectFor s asked flat
  compileIn s template flat (prepared s raw query).1

/-- The end of a command that compiles a query. The fields of what has been compiled can always be
written, so asking for them does not add a way to fail. -/
def compile (s : Settings) (query : Text) (asked : Option Text) (json raw flat : Bool) :
    Nat × List Emission :=
  match dialectFor s asked flat with
  | .error refusal => (1, [complaint refusal.report])
  | .ok template =>
    let (input, said) := prepared s raw query
    let read := if flat then said else said ++ [normalizedEvent input]
    match compileIn s template flat input with
    | .error refusal => (1, read ++ [complaint refusal.report])
    | .ok c =>
      let built := if flat then read else read ++ [compiledEvent c]
      let style := if flat then .numbered else template.param
      (0, built ++ compiledReport (asked.getD s.query.dialect) style json c)

/-! ## Settings -/

/-- The line of a dialect; the default one stands out. -/
def dialectLine (s : Settings) (name : Text) (t : Template) : Text :=
  "   " ++ (if name = s.query.dialect then Style.header name else name) ++ " " ++
    Style.dim ("columns=[" ++ Text.joinWith ", " t.columns ++ "] operator=" ++ t.operator ++
      " param=" ++ t.param.name)

/-- The end of a command that looks for mistakes. -/
def check (files : List Text) (s : Settings) : Nat × List Emission :=
  let listed :=
    [outLine (Style.subheader "Config files:")] ++
    (if files.isEmpty then [outLine ("   " ++ Style.dim "(none, using built-in defaults)")] else []) ++
    files.map (fun path => outLine ("   " ++ path)) ++
    [outLine [], outLine (Style.subheader "Dialects:")] ++
    s.dialects.entries.map (fun e => outLine (dialectLine s e.1 e.2)) ++ [outLine []]
  let warnings := s.warnings
  if warnings.isEmpty then (0, listed ++ [outLine "No issues found."])
  else
    (1, listed ++
      [outLine (Style.subheader ("Warnings (" ++ Text.ofNat warnings.length ++ "):"))] ++
      warnings.map (fun w => outLine ("   " ++ Style.warning w.message)) ++ [outLine []] ++
      warnings.map (fun w => outLine (Style.dim w.hint)))

/-! ## Starter files -/

/-- Whether the working directory is the home directory. -/
def inHomeDirectory (m : Machine) : Bool :=
  (m.globalFile.bind Path.parent).any (Path.same · (Place.path m.working))

/-- Whether a starter file is the one for the home directory: it is asked for, or the working
directory is the home directory. -/
def isForHome (m : Machine) (inHome : Bool) : Bool :=
  inHome || inHomeDirectory m

/-- Where a starter file goes. There may be no home directory for it. -/
def starterPath (m : Machine) (inHome : Bool) : Option Text :=
  if isForHome m inHome then m.globalFile
  else some (Path.join (Place.path m.working) Machine.fileName)

/-- The starter file for the directory it goes to. -/
def starterText (m : Machine) (inHome : Bool) : Text :=
  if isForHome m inHome then Starter.home else Starter.project

/-- The end of a command that writes a starter file. A file that is there stays unless it is to be
overwritten. -/
def starter (m : Machine) (inHome overwrite : Bool) : Outcome :=
  match starterPath m inHome with
  | none => ⟨1, [complaint "could not determine home directory"], m.disk⟩
  | some path =>
    if m.disk.hasEntry m.working path && !overwrite then
      ⟨1, [complaint ("configuration file already exists: " ++ path),
        errLine "use --force to overwrite"], m.disk⟩
    else
      let text := starterText m inHome
      match m.disk.write m.working path text with
      | .error fault =>
        ⟨1, [complaint ("failed to write " ++ path ++ ": " ++ fault.message)], m.disk⟩
      | .ok disk =>
        ⟨0, [outLine ("Created " ++ path), outLine [],
          outLine (Style.subheader "Configuration written:"), outLine (Style.indent text)], disk⟩

/-! ## All commands -/

/-- The end of a command that needs the settings of the working directory. -/
def withSettings (m : Machine) (body : Settings → Nat × List Emission) : Outcome :=
  match m.settings (Place.path m.working) with
  | .error e => ⟨1, [complaint ("failed to load configuration: " ++ e.message)], m.disk⟩
  | .ok s =>
    let loaded : Emission := .log ⟨"sift::cli::context", "loaded configuration",
      [Log.maybe "root" s.root, Log.number "dialects" s.dialects.entries.length]⟩
    let (code, said) := body s
    ⟨code, loaded :: said, m.disk⟩

/-- A short explanation of the commands. -/
def usage : Text :=
  "Usage: sift [-v] <normalize|sanitize|parse|compile|init|config|check> [OPTIONS] [QUERY]\n"

/-- The end of a command. -/
def command (m : Machine) : Command → Outcome
  | .normalize query => ⟨0, [outLine (SearchClause.normalize query)], m.disk⟩
  | .sanitize query => ⟨0, [outLine (SearchClause.sanitize query)], m.disk⟩
  | .parse query json raw => withSettings m fun s => parse s query json raw
  | .compile query dialect json raw flat =>
    withSettings m fun s => compile s query dialect json raw flat
  | .starter inHome overwrite => starter m inHome overwrite
  | .settings => withSettings m fun s => (0, [.out s.written])
  | .check => withSettings m fun s => check (m.discover (Place.path m.working)) s
  | .help => ⟨0, [.out usage], m.disk⟩

/-- The end of a run with the words of a command line, and whether its log is shown. -/
def words (m : Machine) (filter : Option Text) (args : List Text) : Outcome × Bool :=
  match Invocation.read args with
  | none => (⟨2, [.err usage], m.disk⟩, false)
  | some i => (command m i.command, Log.shows i.verbosity filter)

end Run

end SearchClause
