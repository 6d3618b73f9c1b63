import SearchClause.Config.Settings
import SearchClause.Files.Disk

/-!
# Finding configuration files

Files are looked for in a directory and in every directory above it. A file that says so is the last
one; without such a file the one in the home directory is added, unless it has been met on the way. The
files come with the nearest one first. There may be no home directory, and then nothing is added.
-/

namespace SearchClause

/-- Why settings cannot be loaded. -/
inductive ConfigError where
  /-- a file cannot be read -/
  | unreadable (path : Text) (fault : FileFault)
  /-- a file is no configuration; the text that was refused decides what is wrong with it -/
  | malformed (path refused : Text)
deriving DecidableEq, Repr

/-- The error in words, without the account of what is wrong with a text that was refused. -/
def ConfigError.message : ConfigError → Text
  | unreadable path fault => "failed to read config file " ++ path ++ ": " ++ fault.message
  | malformed path _ => "failed to parse config file " ++ path

/-- What a command sees of the machine it runs on. -/
structure Machine where
  /-- files and directories -/
  disk : Disk
  /-- where relative paths start -/
  working : Place
  /-- the home directory as the environment names it, if it does -/
  home : Option Text
  /-- the home directory of the account, if it has one, for an environment that names none -/
  accountHome : Option Text
deriving DecidableEq, Repr

namespace Machine

/-- The name of a configuration file. -/
def fileName : Text := ".sift.toml"

/-- The home directory, if there is one. An empty name names none. -/
def homeDirectory (m : Machine) : Option Text :=
  (m.home.filter (!·.isEmpty)).or (m.accountHome.filter (!·.isEmpty))

/-- The configuration file in the home directory, whether it is there or not. -/
def globalFile (m : Machine) : Option Text :=
  m.homeDirectory.map (Path.join · fileName)

/-- Whether a path is that of the file in the home directory. -/
def isGlobalFile (m : Machine) (path : Text) : Bool :=
  m.globalFile.any (Path.same path)

/-- The layer in a file. -/
def layer (m : Machine) (path : Text) : Except ConfigError Layer :=
  match m.disk.read m.working path with
  | .error fault => .error (.unreadable path fault)
  | .ok t =>
    match Layer.ofText? t with
    | none => .error (.malformed path t)
    | some layer => .ok layer

/-- Whether the search ends at a file. A file that cannot be read does not end it. -/
def endsSearch (m : Machine) (path : Text) : Bool :=
  match m.layer path with
  | .ok layer => layer.root = some true
  | .error _ => false

/-- The files among candidates up to one that ends the search, and whether one did. -/
def search (m : Machine) : List Text → List Text × Bool
  | [] => ([], false)
  | path :: rest =>
    if !m.disk.isFile m.working path then m.search rest
    else if m.endsSearch path then ([path], true)
    else
      match m.search rest with
      | (found, ended) => (path :: found, ended)

/-- Where a file is looked for from a directory on. -/
def candidates (directory : Text) : List Text :=
  (Path.ancestors directory).map (Path.join · fileName)

/-- What the file in the home directory adds to files that have been found. -/
def globalPart (m : Machine) (found : List Text) : List Text :=
  match m.globalFile with
  | none => []
  | some path =>
    if m.disk.isFile m.working path && !found.any (Path.same · path) then [path] else []

/-- The configuration files for a directory, the nearest one first. -/
def discover (m : Machine) (directory : Text) : List Text :=
  match m.search (candidates directory) with
  | (found, true) => found
  | (found, false) => found ++ m.globalPart found

/-- The layers in files, or the first error. -/
def layers (m : Machine) : List Text → Except ConfigError (List SourcedLayer)
  | [] => .ok []
  | path :: rest =>
    match m.layer path with
    | .error e => .error e
    | .ok layer => (m.layers rest).map (⟨path, layer⟩ :: ·)

/-- The settings in files, the nearest one first. -/
def settingsOf (m : Machine) (files : List Text) : Except ConfigError Settings :=
  (m.layers files).map Settings.ofLayers

/-- The settings for a directory. -/
def settings (m : Machine) (directory : Text) : Except ConfigError Settings :=
  m.settingsOf (m.discover directory)

end Machine

end SearchClause
