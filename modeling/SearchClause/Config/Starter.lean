import SearchClause.Text.Basic

/-!
# Starter files

The text with which a new configuration file begins: an example of every setting, all of it commented
out, so that a new file changes nothing.
-/

namespace SearchClause

namespace Starter

/-- A text of whole lines. -/
def wholeLines (lines : List Text) : Text :=
  lines.flatMap (· ++ ['\n'])

/-- The example for a project. -/
def projectExample : Text := wholeLines
  ["# sift project configuration.",
   "#",
   "# Settings here override ~/.sift.toml and any .sift.toml in parent",
   "# directories. Uncomment the lines you want to change.",
   "",
   "# Stop looking for configuration in parent directories and ~/.sift.toml.",
   "root = false",
   "",
   "[query]",
   "# Strip characters outside the query alphabet before parsing.",
   "sanitize = true",
   "# Maximum nesting of parenthesised groups. 0 disables the limit.",
   "max_depth = 64",
   "# Dialect used by `sift compile` when --dialect is not given.",
   "dialect = \"default\"",
   "",
   "# A dialect describes how each search term becomes a predicate.",
   "# Every column is compared with the operator; multiple columns are OR-ed.",
   "[dialect.genes]",
   "columns = [\"gene_symbol\", \"ensembl_id\"]",
   "operator = \"LIKE\"",
   "# numbered (?1), dollar ($1), named (:p1) or anonymous (?, one column only)",
   "param = \"named\""]

/-- The example for a home directory. -/
def homeExample : Text := wholeLines
  ["# sift global configuration (~/.sift.toml).",
   "#",
   "# Applies to every directory unless a project .sift.toml overrides it.",
   "# Uncomment the lines you want to change.",
   "",
   "[query]",
   "sanitize = true",
   "max_depth = 64",
   "dialect = \"default\"",
   "",
   "# The built-in default dialect renders `value LIKE ?N`.",
   "[dialect.default]",
   "columns = \"value\"",
   "operator = \"LIKE\"",
   "param = \"numbered\"",
   "",
   "[dialect.postgres]",
   "columns = \"name\"",
   "operator = \"ILIKE\"",
   "param = \"dollar\""]

/-- A line that says nothing to a reader of settings: comments and empty lines stay as they are, and
anything else becomes a comment. -/
def commented (line : Text) : Text :=
  if line.isEmpty || line.head? = some '#' then line else "# " ++ line

/-- A text with all its lines commented out. -/
def commentedOut (shown : Text) : Text :=
  wholeLines (shown.lines.map commented)

/-- The starter file of a project. -/
def project : Text :=
  commentedOut projectExample

/-- The starter file of a home directory. -/
def home : Text :=
  commentedOut homeExample

end Starter

end SearchClause
