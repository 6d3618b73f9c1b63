import SearchClause.Proofs.Ancestors
import SearchClause.Proofs.RootFile

/-!
# A new file that says nothing

A file is added where there was none. `Disk.AddsFile` says all that is different then, and what
follows from it is followed from the disk to the settings:

* **paths** — `locate_eq_ok_iff`: a path leads to the same place as before. A way through the new
  file was no way before, only the fault is another one;
* **files** — `fileAt?_cases`: a path either leads to the new file, or to what it led to;
* **search** — `discover_eq_filter`: if the new file does not end the search, the files found before
  are those found now, less the new ones;
* **settings** — `inForce_settings_eq`: if it sets nothing either, the settings stay the same.

A file may be found under two paths, so more than one path can be new.
-/

namespace SearchClause

/-! ## Paths -/

namespace Disk

/-- One disk has a file where another has nothing, and they are the same elsewhere. -/
structure AddsFile (d d' : Disk) (place : Place) (content : Content) : Prop where
  /-- nothing was there -/
  absent : d.get? place = none
  /-- the file is there -/
  there : d'.get? place = some (.file content)
  /-- nothing else has changed -/
  others : ∀ other, other ≠ place → d'.get? other = d.get? other

variable {d d' : Disk} {start place x y working : Place} {content : Content} {pieces : List Text}
  {p q : Text}

theorem addsFile_put (h : d.get? place = none) (content : Content) :
    d.AddsFile (d.put place (.file content)) place content := by
  have hplace : place ≠ [] := by
    rintro rfl
    cases h
  refine ⟨h, ?_, fun other hother => ?_⟩
  · rw [get?_put d place place _ hplace, if_pos rfl]
  · rw [get?_put d place other _ hplace, if_neg hother]

/-- Where a piece of a path leads from a directory. -/
inductive Leads (start : Place) (piece : Text) : Place → Prop where
  /-- a piece that says nothing leads nowhere else -/
  | stay : Path.isIdle piece = true → Leads start piece start
  /-- one directory up -/
  | up : Path.isIdle piece = false → piece = ['.', '.'] → Leads start piece start.dropLast
  /-- to a name, if it is not too long -/
  | down : Path.isIdle piece = false → piece ≠ ['.', '.'] →
      Text.byteLength piece ≤ maxNameBytes → Leads start piece (start ++ [piece])

/-- **A path leads on from directories only, piece by piece.** -/
theorem follow_cons_eq_ok_iff {piece : Text} {rest : List Text} :
    d.follow start (piece :: rest) = .ok x ↔
      d.get? start = some .directory ∧
        ∃ next, Leads start piece next ∧ d.follow next rest = .ok x := by
  rw [follow]
  constructor
  · intro h
    split at h
    · cases h
    · cases h
    next hstart =>
      refine ⟨hstart, ?_⟩
      split at h
      next hidle => exact ⟨start, .stay hidle, h⟩
      next hidle =>
        rw [Bool.not_eq_true] at hidle
        split at h
        next hup => exact ⟨start.dropLast, .up hidle hup, h⟩
        next hup =>
          split at h
          · cases h
          next hlong => exact ⟨start ++ [piece], .down hidle hup (Nat.le_of_not_lt hlong), h⟩
  · rintro ⟨hstart, next, hleads, h⟩
    rw [hstart]
    cases hleads with
    | stay hidle => rwa [if_pos hidle]
    | up hidle hup => rwa [hidle, if_neg Bool.false_ne_true, if_pos hup]
    | down hidle hup hlong =>
      rwa [hidle, if_neg Bool.false_ne_true, if_neg hup, if_neg (Nat.not_lt_of_le hlong)]

/-- What leads somewhere on one disk does on another with the same directories. -/
theorem follow_mono (hsame : ∀ other, d.get? other = some .directory →
    d'.get? other = some .directory) (h : d.follow start pieces = .ok x) :
    d'.follow start pieces = .ok x := by
  induction pieces generalizing start with
  | nil => exact h
  | cons piece rest ih =>
    obtain ⟨hstart, next, hleads, hrest⟩ := follow_cons_eq_ok_iff.1 h
    exact follow_cons_eq_ok_iff.2 ⟨hsame start hstart, next, hleads, ih hrest⟩

theorem locate_mono (hsame : ∀ other, d.get? other = some .directory →
    d'.get? other = some .directory) (h : d.locate working p = .ok x) :
    d'.locate working p = .ok x := by
  unfold locate at h ⊢
  split
  next hnull =>
    rw [if_pos hnull] at h
    cases h
  next hnull =>
    rw [if_neg hnull] at h
    split
    next hlong =>
      rw [if_pos hlong] at h
      cases h
    next hlong =>
      rw [if_neg hlong] at h
      split at h
      · cases h
      · exact follow_mono hsame h
      · exact follow_mono hsame h

theorem AddsFile.directory_iff (h : d.AddsFile d' place content) (other : Place) :
    d'.get? other = some .directory ↔ d.get? other = some .directory := by
  by_cases hother : other = place
  · subst hother
    rw [h.there, h.absent]
    simp
  · rw [h.others other hother]

/-- **A new file does not change where paths lead.** -/
theorem AddsFile.locate_eq_ok_iff (h : d.AddsFile d' place content) :
    d'.locate working p = .ok x ↔ d.locate working p = .ok x :=
  ⟨locate_mono fun other => (h.directory_iff other).1,
    locate_mono fun other => (h.directory_iff other).2⟩

/-! ## Paths with the same components -/

/-- Pieces that say nothing may be left out. -/
theorem follow_filter (h : d.follow start pieces = .ok x) :
    d.follow start (pieces.filter (!Path.isIdle ·)) = .ok x := by
  induction pieces generalizing start with
  | nil => exact h
  | cons piece rest ih =>
    obtain ⟨hstart, next, hleads, hrest⟩ := follow_cons_eq_ok_iff.1 h
    cases hidle : Path.isIdle piece with
    | true =>
      rw [List.filter_cons_of_neg (by simp [hidle])]
      cases hleads with
      | stay => exact ih hrest
      | up hbusy | down hbusy =>
        rw [hidle] at hbusy
        cases hbusy
    | false =>
      rw [List.filter_cons_of_pos (by simp [hidle])]
      exact follow_cons_eq_ok_iff.2 ⟨hstart, next, hleads, ih hrest⟩

/-- Where the components of a path are followed from. -/
def origin (working : Place) (p : Text) : Place :=
  if Path.lead p = ['/'] then [] else working

/-- A `.` that opens a path says nothing to the disk. -/
theorem filter_pieces_eq_components (p : Text) (hp : Path.lead p ≠ ['/']) :
    (Text.pieces (· = '/') p).filter (!Path.isIdle ·) = (Path.components p).2 := by
  unfold Path.components Path.body
  fun_cases Path.lead p with
  | case1 rest => exact absurd rfl hp
  | case2 => decide
  | case3 rest => rfl
  | case4 p _ _ _ => rfl

/-- **The components of a path lead where it leads.** -/
theorem follow_components (h : d.locate working p = .ok x) :
    d.follow (origin working p) (Path.components p).2 = .ok x := by
  unfold locate at h
  split at h
  · cases h
  · split at h
    · cases h
    · split at h
      · cases h
      next rest => exact follow_filter h
      next hslash =>
        have hlead : Path.lead p ≠ ['/'] := by
          fun_cases Path.lead p with
          | case1 rest => exact absurd rfl (hslash rest)
          | _ => decide
        rw [origin, if_neg hlead, ← filter_pieces_eq_components p hlead]
        exact follow_filter h

theorem locate_unique (hsame : Path.same p q = true) (hp : d.locate working p = .ok x)
    (hq : d.locate working q = .ok y) : x = y := by
  have hcomponents : Path.components p = Path.components q := of_decide_eq_true hsame
  have horigin : origin working p = origin working q := by
    rw [origin, origin, show Path.lead p = Path.lead q from congrArg Prod.fst hcomponents]
  have hx := follow_components hp
  rw [hcomponents, horigin, follow_components hq] at hx
  exact (Except.ok.inj hx).symm

end Disk

/-! ## Files -/

/-- What of the settings has an effect: all but the directory they come from. -/
def Settings.inForce (s : Settings) : QuerySettings × Dialects :=
  (s.query, s.dialects)

/-- A layer that makes no difference, neither to the settings nor to the search for others. -/
structure Layer.IsInert (l : Layer) : Prop extends l.SetsNothing where
  /-- it is no root -/
  root : l.root ≠ some true

namespace Machine

variable {m : Machine} {d' : Disk} {place x : Place} {content : Content} {path t : Text}
  {layer : Layer} {paths files : List Text}

theorem fileAt?_of_locate (h : m.disk.locate m.working path = .ok x) :
    m.fileAt? path = (m.disk.get? x).bind fun
      | .file content => some content
      | .directory => none := by
  simp only [fileAt?, Disk.find, h]
  rcases m.disk.get? x with _ | _ | content
  · rfl
  · rfl
  · rfl

theorem exists_locate_of_fileAt? (h : m.fileAt? path = some content) :
    ∃ x, m.disk.locate m.working path = .ok x ∧ m.disk.get? x = some (.file content) := by
  cases hlocate : m.disk.locate m.working path with
  | error fault =>
    rw [fileAt?, Disk.find, hlocate] at h
    cases h
  | ok x =>
    rw [fileAt?_of_locate hlocate] at h
    refine ⟨x, rfl, ?_⟩
    rcases hx : m.disk.get? x with _ | _ | found
    · rw [hx] at h
      cases h
    · rw [hx] at h
      cases h
    · rw [hx] at h
      obtain rfl := Option.some.inj h
      rfl

/-- **A path leads to the new file, or to what it led to before.** -/
theorem fileAt?_cases (h : m.disk.AddsFile d' place content) (path : Text) :
    (m.disk.locate m.working path = .ok place ∧ m.fileAt? path = none ∧
        { m with disk := d' }.fileAt? path = some content) ∨
      { m with disk := d' }.fileAt? path = m.fileAt? path := by
  cases hlocate : m.disk.locate m.working path with
  | error fault =>
    right
    rw [fileAt?, fileAt?, Disk.find, Disk.find, hlocate]
    cases hlocate' : d'.locate m.working path with
    | error fault' => rfl
    | ok x =>
      rw [h.locate_eq_ok_iff.1 hlocate'] at hlocate
      cases hlocate
  | ok x =>
    have hlocate' : d'.locate m.working path = .ok x := h.locate_eq_ok_iff.2 hlocate
    rw [fileAt?_of_locate hlocate, fileAt?_of_locate (m := { m with disk := d' }) hlocate']
    by_cases hx : x = place
    · subst hx
      left
      refine ⟨rfl, ?_, ?_⟩
      · rw [h.absent]
        rfl
      · rw [h.there]
        rfl
    · right
      rw [h.others x hx]

/-! ## The search -/

/-- Whether a path leads to a file. -/
def hasFile (m : Machine) (path : Text) : Bool :=
  m.disk.isFile m.working path

/-- A path of a machine with a new, inert file: one that leads to the new file, or one that tells
the same as before. -/
inductive Seen (m : Machine) (d' : Disk) (place : Place) (layer : Layer) (path : Text) : Prop where
  /-- it leads to the new file -/
  | gained : m.hasFile path = false → { m with disk := d' }.hasFile path = true →
      m.disk.locate m.working path = .ok place → { m with disk := d' }.layer path = .ok layer →
      Seen m d' place layer path
  /-- there is a file, and it was there -/
  | kept : m.hasFile path = true → { m with disk := d' }.hasFile path = true →
      { m with disk := d' }.layer path = m.layer path → Seen m d' place layer path
  /-- there is no file -/
  | missing : m.hasFile path = false → { m with disk := d' }.hasFile path = false →
      Seen m d' place layer path

theorem seen (h : m.disk.AddsFile d' place (.text t)) (ht : Layer.ofText? t = some layer)
    (path : Text) : Seen m d' place layer path := by
  rcases fileAt?_cases h path with ⟨hlocate, hnone, hsome⟩ | hsame
  · refine .gained ?_ ?_ hlocate ?_
    · rw [hasFile, isFile_eq_isSome, hnone]
      rfl
    · rw [hasFile, isFile_eq_isSome, hsome]
      rfl
    · rw [layer_of_fileAt? hsome, layerOf, ht]
  · cases hfile : m.hasFile path with
    | true =>
      refine .kept hfile ?_ (layer_congr hsame.symm hfile).symm
      rw [hasFile, isFile_eq_isSome, hsame, ← isFile_eq_isSome]
      exact hfile
    | false =>
      refine .missing hfile ?_
      rw [hasFile, isFile_eq_isSome, hsame, ← isFile_eq_isSome]
      exact hfile

theorem search_cons (m : Machine) (path : Text) (rest : List Text) :
    m.search (path :: rest) =
      if !m.hasFile path then m.search rest
      else if m.endsSearch path then ([path], true)
      else (path :: (m.search rest).1, (m.search rest).2) :=
  rfl

/-- **The search passes an inert new file** and finds what it found before. -/
theorem search_eq_filter (hseen : ∀ path, Seen m d' place layer path) (hl : layer.IsInert)
    (paths : List Text) :
    m.search paths = (({ m with disk := d' }.search paths).1.filter m.hasFile,
      ({ m with disk := d' }.search paths).2) := by
  induction paths with
  | nil => rfl
  | cons path rest ih =>
    rw [search_cons, search_cons, ih]
    cases hseen path with
    | gained hold hnew _ hlayer =>
      have hends : { m with disk := d' }.endsSearch path = false := by
        rw [endsSearch, hlayer]
        exact decide_eq_false hl.root
      simp [hold, hnew, hends]
    | kept hold hnew hlayer =>
      have hends : { m with disk := d' }.endsSearch path = m.endsSearch path := by
        rw [endsSearch, endsSearch, hlayer]
      cases hm : m.endsSearch path with
      | true => simp [hold, hnew, hends, hm]
      | false => simp [hold, hnew, hends, hm]
    | missing hold hnew => simp [hold, hnew]

theorem hasFile_of_mem_search (h : path ∈ (m.search paths).1) : m.hasFile path = true := by
  induction paths with
  | nil => cases h
  | cons first rest ih =>
    rw [search_cons] at h
    cases hfirst : m.hasFile first with
    | false => exact ih (by simpa [hfirst] using h)
    | true =>
      cases hends : m.endsSearch first with
      | true =>
        obtain rfl : path = first := by simpa [hfirst, hends] using h
        exact hfirst
      | false =>
        rcases (by simpa [hfirst, hends] using h : path = first ∨ path ∈ (m.search rest).1) with
          rfl | hmem
        · exact hfirst
        · exact ih hmem

theorem discover_eq (m : Machine) (directory : Text) :
    m.discover directory = (m.search (candidates directory)).1 ++
      if (m.search (candidates directory)).2 then []
      else m.globalPart (m.search (candidates directory)).1 := by
  rw [discover]
  rcases m.search (candidates directory) with ⟨found, _ | _⟩
  · rfl
  · exact (List.append_nil found).symm

/-- The file in the home directory is added if there is one and if it has not been found. -/
theorem globalPart_eq_filter (m : Machine) (found : List Text) :
    m.globalPart found =
      m.globalFile.toList.filter fun path => m.hasFile path && !found.any (Path.same · path) := by
  rw [globalPart]
  cases m.globalFile with
  | none => rfl
  | some path => rw [Option.toList_some, List.filter_singleton, hasFile, cond_eq_ite]

theorem hasFile_of_mem_discover {directory : Text} (h : path ∈ m.discover directory) :
    m.hasFile path = true := by
  rw [discover_eq] at h
  rcases List.mem_append.1 h with h | h
  · exact hasFile_of_mem_search h
  · split at h
    · cases h
    · rw [globalPart_eq_filter] at h
      exact (Bool.and_eq_true_iff.1 (List.mem_filter.1 h).2).1

/-- A new path is not that of a file which was there: the same components lead to the same place. -/
theorem any_same_eq (hseen : ∀ path, Seen m d' place layer path) (hpath : m.hasFile path = true)
    (habsent : m.disk.get? place = none)
    (hfiles : ∀ path ∈ files, { m with disk := d' }.hasFile path) :
    (files.filter m.hasFile).any (Path.same · path) = files.any (Path.same · path) := by
  rw [Bool.eq_iff_iff, List.any_eq_true, List.any_eq_true]
  constructor
  · rintro ⟨file, hmem, hsame⟩
    exact ⟨file, (List.mem_filter.1 hmem).1, hsame⟩
  · rintro ⟨file, hmem, hsame⟩
    refine ⟨file, List.mem_filter.2 ⟨hmem, ?_⟩, hsame⟩
    cases hseen file with
    | kept hold _ _ => exact hold
    | missing _ hnew =>
      rw [hfiles file hmem] at hnew
      cases hnew
    | gained _ _ hlocate _ =>
      rw [hasFile, isFile_eq_isSome] at hpath
      obtain ⟨content, hcontent⟩ := Option.isSome_iff_exists.1 hpath
      obtain ⟨y, hy, hthere⟩ := exists_locate_of_fileAt? hcontent
      obtain rfl := Disk.locate_unique hsame hlocate hy
      rw [habsent] at hthere
      cases hthere

/-- The home directory adds what it added before, or the new file. -/
theorem globalPart_eq_filter_globalPart (hseen : ∀ path, Seen m d' place layer path)
    (habsent : m.disk.get? place = none)
    (hfiles : ∀ path ∈ files, { m with disk := d' }.hasFile path) :
    m.globalPart (files.filter m.hasFile) =
      ({ m with disk := d' }.globalPart files).filter m.hasFile := by
  rw [globalPart_eq_filter, globalPart_eq_filter, List.filter_filter]
  refine List.filter_congr fun path _ => ?_
  cases hpath : m.hasFile path with
  | false => rfl
  | true =>
    have hnew : { m with disk := d' }.hasFile path = true := by
      cases hseen path with
      | kept _ hnew _ => exact hnew
      | gained hold | missing hold =>
        rw [hpath] at hold
        cases hold
    rw [any_same_eq hseen hpath habsent hfiles, hnew]
    rfl

/-- **The files found before are those found now, less the new ones.** -/
theorem discover_eq_filter (hseen : ∀ path, Seen m d' place layer path) (hl : layer.IsInert)
    (habsent : m.disk.get? place = none) (directory : Text) :
    m.discover directory = ({ m with disk := d' }.discover directory).filter m.hasFile := by
  have hfound : ∀ path ∈ ({ m with disk := d' }.search (candidates directory)).1,
      { m with disk := d' }.hasFile path := fun path => hasFile_of_mem_search
  rw [discover_eq, discover_eq, search_eq_filter hseen hl, List.filter_append]
  split
  · rfl
  · rw [globalPart_eq_filter_globalPart hseen habsent hfound]

/-! ## Settings -/

/-- A layer in front of others is laid over them, and an error is kept. -/
theorem inForce_settingsOf_cons {l : Layer} (h : m.layer path = .ok l) :
    (m.settingsOf (path :: files)).map Settings.inForce =
      ((m.settingsOf files).map Settings.inForce).map fun below =>
        (Settings.overlayQuery l below.1, Settings.overlayDialects l below.2) := by
  rw [settingsOf, settingsOf, layers, h]
  cases m.layers files with
  | error e => rfl
  | ok rest => rfl

/-- **Inert new files leave the settings in force as they were.** -/
theorem inForce_settingsOf_filter (hseen : ∀ path, Seen m d' place layer path) (hl : layer.IsInert)
    (hfiles : ∀ path ∈ files, { m with disk := d' }.hasFile path = true) :
    ({ m with disk := d' }.settingsOf files).map Settings.inForce =
      (m.settingsOf (files.filter m.hasFile)).map Settings.inForce := by
  induction files with
  | nil => rfl
  | cons path rest ih =>
    obtain ⟨hpath, hrest⟩ := List.forall_mem_cons.1 hfiles
    cases hseen path with
    | gained hold _ _ hlayer =>
      rw [List.filter_cons_of_neg (by simp [hold]), ← ih hrest, inForce_settingsOf_cons hlayer]
      simp only [Settings.overlayQuery_of_setsNothing hl.toSetsNothing,
        Settings.overlayDialects_of_setsNothing hl.toSetsNothing]
      cases { m with disk := d' }.settingsOf rest with
      | error e => rfl
      | ok s => rfl
    | kept hold _ hlayer =>
      rw [List.filter_cons_of_pos hold]
      cases hm : m.layer path with
      | error e => rw [settingsOf, settingsOf, layers, layers, hlayer, hm]
      | ok l => rw [inForce_settingsOf_cons hm, inForce_settingsOf_cons (hlayer.trans hm), ih hrest]
    | missing _ hnew =>
      rw [hpath] at hnew
      cases hnew

/-- **A new file that says nothing changes no setting**, and an error stays the same error. -/
theorem inForce_settings_eq (h : m.disk.AddsFile d' place (.text t))
    (ht : Layer.ofText? t = some layer) (hl : layer.IsInert) (directory : Text) :
    ({ m with disk := d' }.settings directory).map Settings.inForce =
      (m.settings directory).map Settings.inForce := by
  have hseen : ∀ path, Seen m d' place layer path := fun path => seen h ht path
  rw [settings, settings, discover_eq_filter hseen hl h.absent]
  exact inForce_settingsOf_filter hseen hl fun path => hasFile_of_mem_discover

end Machine

end SearchClause
