import SearchClause.Files.Path

/-!
# The disk as a value

What a command can see of the files around it, and the files it leaves behind, as a value: directories
and files by their places. A place is the list of names that leads to it from the top. Finding what a
path means, reading and writing are functions of the disk, and each can fail in the ways of a real one.

There are neither links nor permissions on this disk. A name leads to what is at its own place,
every directory can be entered, every file can be read and written, and a new one goes into any
directory.
-/

namespace SearchClause

/-- What a file holds: text, or bytes that are not text. -/
inductive Content where
  /-- readable text -/
  | text (t : Text)
  /-- bytes that no text has -/
  | bytes (b : List UInt8)
deriving DecidableEq, Repr

/-- The content with given bytes. -/
def Content.ofBytes (b : ByteArray) : Content :=
  match String.fromUTF8? b with
  | some s => .text s.toList
  | none => .bytes b.toList

/-- What is at a place. -/
inductive DiskEntry where
  /-- a directory -/
  | directory
  /-- a file -/
  | file (content : Content)
deriving DecidableEq, Repr

/-- The names that lead to a file or directory from the top. -/
abbrev Place := List Text

/-- Files and directories by place. The top is always a directory. -/
structure Disk where
  /-- what is where; the first entry of a place counts -/
  entries : List (Place × DiskEntry)
deriving DecidableEq, Repr

/-- Why a file cannot be used. -/
inductive FileFault where
  /-- nothing is there -/
  | missing
  /-- a directory is there -/
  | isDirectory
  /-- the way leads through a file -/
  | notDirectory
  /-- a name, or the whole path, is longer than the disk takes -/
  | nameTooLong
  /-- the path has a null character, which ends a path -/
  | nullInPath
  /-- the content is not text -/
  | notText
deriving DecidableEq, Repr

/-- The fault in words. -/
def FileFault.message : FileFault → Text
  | missing => "No such file or directory (os error 2)"
  | isDirectory => "Is a directory (os error 21)"
  | notDirectory => "Not a directory (os error 20)"
  | nameTooLong => "File name too long (os error 36)"
  | nullInPath => "file name contained an unexpected NUL byte"
  | notText => "stream did not contain valid UTF-8"

/-- The path of a place. -/
def Place.path (place : Place) : Text :=
  '/' :: Text.joinWith ['/'] place

namespace Disk

/-- A disk without files. -/
def empty : Disk := ⟨[]⟩

/-- What is at a place. -/
def get? (d : Disk) (place : Place) : Option DiskEntry :=
  if place = [] then some .directory else d.entries.lookup place

/-- The disk with something at a place. -/
def put (d : Disk) (place : Place) (entry : DiskEntry) : Disk :=
  ⟨(place, entry) :: d.entries.filter (·.1 ≠ place)⟩

/-- Putting something at a place changes what is there and nothing else. -/
theorem get?_put (d : Disk) (place other : Place) (entry : DiskEntry) (h : place ≠ []) :
    (d.put place entry).get? other = if other = place then some entry else d.get? other := by
  by_cases same : other = place
  · subst same
    simp [get?, put, h]
  · have skip : ∀ entries : List (Place × DiskEntry),
        (entries.filter (·.1 ≠ place)).lookup other = entries.lookup other := by
      intro entries
      induction entries with
      | nil => rfl
      | cons e rest ih =>
        by_cases here : e.1 = place
        · have apart : (other == e.1) = false := by simp [here, same]
          rw [List.filter_cons_of_neg (by simp [here]), ih]
          rw [List.lookup_cons, apart]
        · rw [List.filter_cons_of_pos (by simp [here])]
          rw [List.lookup_cons, List.lookup_cons, ih]
    have apart : (other == place) = false := by simp [same]
    simp only [get?, put, List.lookup_cons, apart, skip, same, if_false]

/-- The disk with directories on the way to a place, and at the place. -/
def makeDirectory (d : Disk) (place : Place) : Disk :=
  (List.range place.length).foldl (fun d i =>
    let part := place.take (i + 1)
    match d.get? part with
    | some _ => d
    | none => d.put part .directory) d

/-- The disk with a file and directories on the way to it. -/
def addFile (d : Disk) (place : Place) (content : Content) : Disk :=
  (d.makeDirectory place.dropLast).put place (.file content)

/-- The most bytes of a name. -/
def maxNameBytes : Nat := 255

/-- The most bytes of a path. -/
def maxPathBytes : Nat := 4095

/-- Where the pieces of a path lead from a place. A piece that says nothing asks for a directory, and
a name that is too long is noticed where it is looked up. -/
def follow (d : Disk) : Place → List Text → Except FileFault Place
  | place, [] => .ok place
  | place, piece :: rest =>
    match d.get? place with
    | none => .error .missing
    | some (.file _) => .error .notDirectory
    | some .directory =>
      if Path.isIdle piece then d.follow place rest
      else if piece = ['.', '.'] then d.follow place.dropLast rest
      else if maxNameBytes < Text.byteLength piece then .error .nameTooLong
      else d.follow (place ++ [piece]) rest

/-- Where a path leads, seen from a working directory. Null characters and an overlong path are noticed
before anything is looked up. -/
def locate (d : Disk) (working : Place) (path : Text) : Except FileFault Place :=
  if path.contains (Char.ofNat 0) then .error .nullInPath
  else if maxPathBytes < Text.byteLength path then .error .nameTooLong
  else
    match path with
    | [] => .error .missing
    | '/' :: rest => d.follow [] (Text.pieces (· = '/') rest)
    | _ => d.follow working (Text.pieces (· = '/') path)

/-- What a path leads to. -/
def find (d : Disk) (working : Place) (path : Text) : Except FileFault DiskEntry :=
  match d.locate working path with
  | .error e => .error e
  | .ok place =>
    match d.get? place with
    | none => .error .missing
    | some entry => .ok entry

/-- Whether a path leads to a file. -/
def isFile (d : Disk) (working : Place) (path : Text) : Bool :=
  match d.find working path with
  | .ok (.file _) => true
  | _ => false

/-- Whether a path leads to anything. -/
def hasEntry (d : Disk) (working : Place) (path : Text) : Bool :=
  match d.find working path with
  | .ok _ => true
  | .error _ => false

/-- The text of the file that a path leads to. -/
def read (d : Disk) (working : Place) (path : Text) : Except FileFault Text :=
  match d.find working path with
  | .error e => .error e
  | .ok .directory => .error .isDirectory
  | .ok (.file (.bytes _)) => .error .notText
  | .ok (.file (.text t)) => .ok t

/-- The disk with a text written to the file that a path leads to. The directory has to be there. -/
def write (d : Disk) (working : Place) (path : Text) (t : Text) : Except FileFault Disk :=
  match d.locate working path with
  | .error e => .error e
  | .ok place =>
    match d.get? place, d.get? place.dropLast with
    | some .directory, _ => .error .isDirectory
    | _, some .directory => .ok (d.put place (.file (.text t)))
    | _, some (.file _) => .error .notDirectory
    | _, none => .error .missing

/-- The files of a disk that are not on another one with the same content. -/
def changesSince (after before : Disk) : List (Place × Content) :=
  after.entries.filterMap fun e =>
    match e.2 with
    | .directory => none
    | .file content => if before.get? e.1 = some e.2 then none else some (e.1, content)

end Disk

end SearchClause
