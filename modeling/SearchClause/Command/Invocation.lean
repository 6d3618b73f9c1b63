import SearchClause.Text.Basic

/-!
# Command lines

A command line is a verb with its options and its query. Flags may stand before and after the query;
after `--` everything is taken as it stands. A flag is written in full and once, except the one that
asks for more to be told, which counts. The value of an option follows it as the next word, or after an
equals sign, or, for a short option, at once; the next word may start with a dash only if it is nothing
else.
-/

namespace SearchClause

/-- What a command line asks for. -/
inductive Command where
  /-- print the canonical form of a query -/
  | normalize (query : Text)
  /-- print a query without foreign characters -/
  | sanitize (query : Text)
  /-- show the tree of a query -/
  | parse (query : Text) (json raw : Bool)
  /-- compile a query -/
  | compile (query : Text) (dialect : Option Text) (json raw flat : Bool)
  /-- write a starter file -/
  | starter (inHome overwrite : Bool)
  /-- print the settings -/
  | settings
  /-- look for mistakes in the settings -/
  | check
  /-- explain the commands -/
  | help
deriving DecidableEq, Repr

/-- A command and how much it is to tell about itself. -/
structure Invocation where
  /-- how often more was asked for -/
  verbosity : Nat
  /-- the command -/
  command : Command
deriving DecidableEq, Repr

namespace Invocation

/-- The verbs. -/
inductive Verb where
  | normalize | sanitize | parse | compile | starter | settings | check
deriving DecidableEq, Repr

/-- The flags that are on or off. -/
inductive Flag where
  | json | raw | flat | inHome | overwrite
deriving DecidableEq, Repr

/-- The verb with a name. -/
def Verb.ofName? (t : Text) : Option Verb :=
  if t = "normalize".toList then some normalize
  else if t = "sanitize".toList then some sanitize
  else if t = "parse".toList then some parse
  else if t = "compile".toList then some compile
  else if t = "init".toList then some starter
  else if t = "config".toList then some settings
  else if t = "check".toList then some check
  else none

/-- The flag with a name. -/
def Flag.ofName? (t : Text) : Option Flag :=
  if t = "json".toList then some json
  else if t = "no-sanitize".toList then some raw
  else if t = "flat".toList then some flat
  else if t = "global".toList then some inHome
  else if t = "force".toList then some overwrite
  else none

/-- The flags that a verb knows. -/
def Verb.flags : Verb → List Flag
  | parse => [.json, .raw]
  | compile => [.json, .raw, .flat]
  | starter => [.inHome, .overwrite]
  | _ => []

/-- Whether a verb has the option for a dialect. -/
def Verb.hasDialect (v : Verb) : Bool :=
  v = .compile

/-- Whether a verb takes a query. -/
def Verb.hasQuery : Verb → Bool
  | normalize | sanitize | parse | compile => true
  | _ => false

/-- What has been read of a command line after its verb. -/
structure Given where
  /-- how often more was asked for -/
  verbosity : Nat
  /-- the flags given -/
  flags : List Flag
  /-- the dialect given -/
  dialect : Option Text
  /-- the query given -/
  query : Option Text
deriving DecidableEq, Repr

/-- Whether a word can be the value of the option before it. -/
def isValue (word : Text) : Bool :=
  word.head? != some '-' || word = ['-']

/-- A query, if the verb takes one and none was given. -/
def Given.addQuery (v : Verb) (g : Given) (word : Text) : Option Given :=
  if v.hasQuery && g.query.isNone then some { g with query := some word } else none

/-- A flag, if the verb knows it and it was not given. -/
def Given.addFlag (v : Verb) (g : Given) (flag : Flag) : Option Given :=
  if v.flags.contains flag && !g.flags.contains flag then some { g with flags := flag :: g.flags }
  else none

/-- A dialect, if the verb has one and none was given. -/
def Given.addDialect (v : Verb) (g : Given) (name : Text) : Option Given :=
  if v.hasDialect && g.dialect.isNone then some { g with dialect := some name } else none

/-- What short flags come to: more asked for, and the text after `-d`, if it is among them. -/
def cluster : Nat → Text → Option (Nat × Option Text)
  | count, [] => some (count, none)
  | count, c :: rest =>
    if c = 'v' then cluster (count + 1) rest
    else if c = 'd' then some (count, some rest)
    else none

/-- The words after the verb, once everything is taken as it stands. -/
def readLiteral (v : Verb) : Given → List Text → Option Given
  | g, [] => some g
  | g, word :: rest => (g.addQuery v word).bind fun g => readLiteral v g rest

/-- The words after the verb. `awaiting` says that the word before is an option without its value. -/
def readWords (v : Verb) : Bool → Given → List Text → Option Given
  | true, _, [] => none
  | true, g, word :: rest =>
    if isValue word then (g.addDialect v word).bind fun g => readWords v false g rest else none
  | false, g, [] => some g
  | false, g, word :: rest =>
    match word with
    | ['-', '-'] => readLiteral v g rest
    | '-' :: '-' :: long =>
      if long = "verbose".toList then
        readWords v false { g with verbosity := g.verbosity + 1 } rest
      else if long = "dialect".toList then
        if v.hasDialect && g.dialect.isNone then readWords v true g rest else none
      else if long.take 8 = "dialect=".toList then
        (g.addDialect v (long.drop 8)).bind fun g => readWords v false g rest
      else
        match Flag.ofName? long with
        | some flag => (g.addFlag v flag).bind fun g => readWords v false g rest
        | none => none
    | '-' :: c :: short =>
      match cluster 0 (c :: short) with
      | none => none
      | some (more, none) => readWords v false { g with verbosity := g.verbosity + more } rest
      | some (more, some []) =>
        if v.hasDialect && g.dialect.isNone then
          readWords v true { g with verbosity := g.verbosity + more } rest
        else none
      | some (more, some attached) =>
        let value := (Text.dropFirst? '=' attached).getD attached
        ({ g with verbosity := g.verbosity + more }.addDialect v value).bind fun g =>
          readWords v false g rest
    | _ => (g.addQuery v word).bind fun g => readWords v false g rest

/-- The command that was given, if nothing is missing. -/
def command? (v : Verb) (g : Given) : Option Command :=
  let json := g.flags.contains .json
  let raw := g.flags.contains .raw
  match v, g.query with
  | .normalize, some q => some (.normalize q)
  | .sanitize, some q => some (.sanitize q)
  | .parse, some q => some (.parse q json raw)
  | .compile, some q => some (.compile q g.dialect json raw (g.flags.contains .flat))
  | .starter, _ => some (.starter (g.flags.contains .inHome) (g.flags.contains .overwrite))
  | .settings, _ => some .settings
  | .check, _ => some .check
  | _, none => none

/-- How much more a flag before the verb asks for. -/
def verbosityOf? (word : Text) : Option Nat :=
  match word with
  | '-' :: '-' :: long => if long = "verbose".toList then some 1 else none
  | '-' :: c :: short => if (c :: short).all (· = 'v') then some (c :: short).length else none
  | _ => none

/-- The invocation in words, when more was asked for before. -/
def readFrom (verbosity : Nat) : List Text → Option Invocation
  | [] => none
  | word :: rest =>
    match verbosityOf? word with
    | some more => readFrom (verbosity + more) rest
    | none =>
      match Verb.ofName? word with
      | none => none
      | some v =>
        (readWords v false ⟨verbosity, [], none, none⟩ rest).bind fun g =>
          (command? v g).map fun c => ⟨g.verbosity, c⟩

/-- The words that ask for an explanation. -/
def asksForHelp (word : Text) : Bool :=
  word = "help".toList || word = "--help".toList || word = "-h".toList

/-- The invocation in words, if they are one. -/
def read (words : List Text) : Option Invocation :=
  if words.head?.any asksForHelp then some ⟨0, .help⟩ else readFrom 0 words

end Invocation

end SearchClause
