import SearchClause.Config.Discovery
import SearchClause.Proofs.Reload

/-!
# What a root file shuts out

A file that says it is the root ends the search for files. So what lies beyond it, in directories
further up or in the home directory, has no say in the settings, whether it can be read or not.

* **one file** — `layer_of_fileAt?`: all that is ever looked at of a path is the file it leads to,
  if it leads to one;
* **search** — `search_of_isRoot`: the search passes the files on the way to the nearest root file,
  broken ones too, and stops there;
* **settings** — `rootFile_isolates`: two machines with the same files up to the nearest root file
  have the same settings, or the same error.
-/

namespace SearchClause

namespace Machine

/-! ## One file -/

/-- What is in the file that a path leads to, if it leads to a file. -/
def fileAt? (m : Machine) (path : Text) : Option Content :=
  match m.disk.find m.working path with
  | .ok (.file content) => some content
  | _ => none

/-- The layer in a file at a path, from what is in it. -/
def layerOf (path : Text) : Content → Except ConfigError Layer
  | .bytes _ => .error (.unreadable path .notText)
  | .text t =>
    match Layer.ofText? t with
    | none => .error (.malformed path t)
    | some layer => .ok layer

/-- There is a file at a path, it is a configuration, and it says that it is the root. -/
structure IsRoot (m : Machine) (path : Text) : Prop where
  /-- there is a file -/
  file : m.disk.isFile m.working path = true
  /-- it can be read, and it is a root -/
  root : ∃ layer, m.layer path = .ok layer ∧ layer.root = some true

section

variable {m m' : Machine} {path : Text} {content : Content}

theorem isFile_eq_isSome (m : Machine) (path : Text) :
    m.disk.isFile m.working path = (m.fileAt? path).isSome := by
  rw [Disk.isFile, fileAt?]
  rcases m.disk.find m.working path with fault | _ | content
  · rfl
  · rfl
  · rfl

/-- **The layer of a file is decided by what is in it.** -/
theorem layer_of_fileAt? (h : m.fileAt? path = some content) :
    m.layer path = layerOf path content := by
  rw [fileAt?] at h
  split at h
  next found hfind =>
    obtain rfl := Option.some.inj h
    rw [layer, Disk.read, hfind]
    cases found with
    | text t => rfl
    | bytes b => rfl
  next => cases h

theorem layer_congr (h : m.fileAt? path = m'.fileAt? path)
    (hfile : m.disk.isFile m.working path = true) : m.layer path = m'.layer path := by
  rw [isFile_eq_isSome] at hfile
  obtain ⟨content, hcontent⟩ := Option.isSome_iff_exists.1 hfile
  rw [layer_of_fileAt? hcontent, layer_of_fileAt? (h.symm.trans hcontent)]

theorem IsRoot.of_fileAt? (hroot : m.IsRoot path) (h : m.fileAt? path = m'.fileAt? path) :
    m'.IsRoot path := by
  obtain ⟨hfile, layer, hlayer, hsays⟩ := hroot
  refine ⟨?_, layer, ?_, hsays⟩
  · rw [isFile_eq_isSome, ← h, ← isFile_eq_isSome]
    exact hfile
  · rw [← layer_congr h hfile]
    exact hlayer

theorem IsRoot.endsSearch (hroot : m.IsRoot path) : m.endsSearch path = true := by
  obtain ⟨-, layer, hlayer, hsays⟩ := hroot
  rw [Machine.endsSearch, hlayer]
  exact decide_eq_true hsays

/-- A file that is no root does not end the search, whether it can be read or not. -/
theorem endsSearch_eq_false (hfile : m.disk.isFile m.working path = true)
    (hroot : ¬ m.IsRoot path) : m.endsSearch path = false := by
  rw [Machine.endsSearch]
  cases hlayer : m.layer path with
  | error e => rfl
  | ok layer => exact decide_eq_false fun hsays => hroot ⟨hfile, layer, hlayer, hsays⟩

end

/-! ## The search -/

section

variable {m m' : Machine} {directory root : Text} {near far files : List Text}

/-- **The search stops at the nearest root file** and has all files before it. -/
theorem search_of_isRoot (hnear : ∀ path ∈ near, ¬ m.IsRoot path) (hroot : m.IsRoot root) :
    m.search (near ++ root :: far) = (near.filter (m.disk.isFile m.working) ++ [root], true) := by
  induction near with
  | nil =>
    rw [List.nil_append, search, hroot.file, hroot.endsSearch]
    rfl
  | cons path near ih =>
    obtain ⟨hpath, hnear⟩ := List.forall_mem_cons.1 hnear
    rw [List.cons_append, search, ih hnear]
    cases hfile : m.disk.isFile m.working path with
    | false =>
      rw [List.filter_cons_of_neg (by simp [hfile])]
      rfl
    | true =>
      rw [List.filter_cons_of_pos hfile, endsSearch_eq_false hfile hpath]
      rfl

theorem discover_of_isRoot (hsplit : candidates directory = near ++ root :: far)
    (hnear : ∀ path ∈ near, ¬ m.IsRoot path) (hroot : m.IsRoot root) :
    m.discover directory = near.filter (m.disk.isFile m.working) ++ [root] := by
  rw [discover, hsplit, search_of_isRoot hnear hroot]

theorem layers_congr (h : ∀ path ∈ files, m.layer path = m'.layer path) :
    m.layers files = m'.layers files := by
  induction files with
  | nil => rfl
  | cons path files ih =>
    obtain ⟨hpath, hfiles⟩ := List.forall_mem_cons.1 h
    rw [layers, layers, hpath, ih hfiles]

/-- **A root file isolates what is below it.** If two machines have the same files, or none, where
files are looked for up to the nearest root file, they find the same files and load the same
settings or fail with the same error, whatever there is beyond. -/
theorem rootFile_isolates (hsplit : candidates directory = near ++ root :: far)
    (hnear : ∀ path ∈ near, ¬ m.IsRoot path) (hroot : m.IsRoot root)
    (hsame : ∀ path ∈ near ++ [root], m.fileAt? path = m'.fileAt? path) :
    m.discover directory = m'.discover directory ∧
      m.settings directory = m'.settings directory := by
  obtain ⟨hsame, hsameRoot⟩ := List.forall_mem_append.1 hsame
  have hsameRoot := hsameRoot root (List.mem_singleton.2 rfl)
  have hnear' : ∀ path ∈ near, ¬ m'.IsRoot path := fun path hpath hroot' =>
    hnear path hpath (hroot'.of_fileAt? (hsame path hpath).symm)
  have hfiles : near.filter (m.disk.isFile m.working) = near.filter (m'.disk.isFile m'.working) :=
    List.filter_congr fun path hpath => by
      rw [isFile_eq_isSome, isFile_eq_isSome, hsame path hpath]
  have hdiscover : m.discover directory = m'.discover directory := by
    rw [discover_of_isRoot hsplit hnear hroot,
      discover_of_isRoot hsplit hnear' (hroot.of_fileAt? hsameRoot), hfiles]
  refine ⟨hdiscover, ?_⟩
  rw [settings, settings, ← hdiscover, settingsOf, settingsOf]
  refine congrArg _ (layers_congr fun path hpath => ?_)
  -- every file found is a file, so the same on both machines
  rw [discover_of_isRoot hsplit hnear hroot, List.mem_append, List.mem_singleton,
    List.mem_filter] at hpath
  rcases hpath with ⟨hpath, hfile⟩ | rfl
  · exact layer_congr (hsame path hpath) hfile
  · exact layer_congr hsameRoot hroot.file

/-! ## Two machines -/

/-- A file that says no more than whether it is the root. -/
def rootLine (root : Bool) : Text :=
  settingLine "root" (writtenBool root)

theorem ofText?_rootLine (root : Bool) :
    Layer.ofText? (rootLine root) = some ⟨some root, none, none⟩ := by
  have hreads : Toml.Reads (rootLine root)
      [.assignment (Toml.plainAssignment ("root", .boolean root))] :=
    reads_settingLine "root" (by decide) (by decide) (spells_writtenBool root)
  have hmark : Toml.dropMark (rootLine root) = rootLine root := rfl
  rw [Layer.ofText?, Toml.document?, hmark, hreads.statements?_eq]
  rfl

/-- A directory with a file that is no root, below one with a root file, and what there is beyond.
-/
def belowRoot (beyond : List (Place × DiskEntry)) : Machine where
  disk := ⟨(["work"], .directory) :: (["work", "sub"], .directory) ::
    (["work", "sub", ".sift.toml"], .file (.text (rootLine false))) ::
    (["work", ".sift.toml"], .file (.text (rootLine true))) :: beyond⟩
  working := ["work", "sub"]
  home := some "/home"
  accountHome := none

/-- A file that is no configuration, and one in the home directory that is no text. -/
def brokenFiles : List (Place × DiskEntry) :=
  [([".sift.toml"], .file (.text "]")), (["home"], .directory),
    (["home", ".sift.toml"], .file (.bytes [255]))]

/-- Broken files beyond the root file, on one of two machines. -/
theorem rootFile_isolates_broken :
    candidates "/work/sub" =
        ["/work/sub/.sift.toml".toList] ++ "/work/.sift.toml".toList :: ["/.sift.toml".toList] ∧
      (belowRoot []).IsRoot "/work/.sift.toml" ∧
      (belowRoot []).discover "/work/sub" = (belowRoot brokenFiles).discover "/work/sub" ∧
      (belowRoot []).settings "/work/sub" = (belowRoot brokenFiles).settings "/work/sub" := by
  have hsplit : candidates "/work/sub" =
      ["/work/sub/.sift.toml".toList] ++ "/work/.sift.toml".toList :: ["/.sift.toml".toList] := by
    decide
  have hlayer (path : Text) (root : Bool) (hfile : (belowRoot []).fileAt? path =
      some (.text (rootLine root))) : (belowRoot []).layer path = .ok ⟨some root, none, none⟩ := by
    rw [layer_of_fileAt? hfile, layerOf, ofText?_rootLine]
  have hroot : (belowRoot []).IsRoot "/work/.sift.toml" :=
    ⟨by decide, _, hlayer _ true (by decide), rfl⟩
  have hnear : ∀ path ∈ ["/work/sub/.sift.toml".toList], ¬ (belowRoot []).IsRoot path := by
    rintro path hpath ⟨-, layer, hread, hsays⟩
    obtain rfl := List.mem_singleton.1 hpath
    rw [hlayer _ false (by decide)] at hread
    obtain rfl := Except.ok.inj hread
    cases hsays
  have hsame : ∀ path ∈ ["/work/sub/.sift.toml".toList] ++ ["/work/.sift.toml".toList],
      (belowRoot []).fileAt? path = (belowRoot brokenFiles).fileAt? path := by
    decide
  exact ⟨hsplit, hroot, rootFile_isolates hsplit hnear hroot hsame⟩

end

end Machine

end SearchClause
