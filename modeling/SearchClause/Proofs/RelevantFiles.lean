import SearchClause.Proofs.Ancestors
import SearchClause.Proofs.NewFile

/-!
# The files that are found

Where files are looked for is a list of paths, from a directory outwards, and the files found are
described by it alone: those up to the nearest root file, or all of them and the one in the home
directory, if there is a home directory.

* **candidates** — `pairwise_candidates`: no two of them are the same path, for each has fewer
  components than the one before;
* **search** — `nearest_root_cases`: some path is that of the nearest root file, or none is that of
  a root file;
* **discovery** — `discover_cases`: the files found are known in both cases, and so they are the
  relevant ones (`discover_relevant`).
-/

namespace SearchClause

namespace Machine

/-! ## Where files are looked for -/

section

variable {m : Machine} {directory path : Text} {near far paths : List Text}

theorem isName_fileName : Path.IsName fileName :=
  ⟨by decide, by decide⟩

theorem candidates_eq (directory : Text) :
    candidates directory =
      Path.join directory fileName :: ((Path.parent directory).map candidates).getD [] := by
  rw [candidates, Path.ancestors_eq]
  cases Path.parent directory with
  | none => rfl
  | some above => rfl

/-- **No path is looked at twice.** -/
theorem pairwise_candidates (directory : Text) :
    (candidates directory).Pairwise fun p q => Path.same p q = false := by
  refine List.pairwise_map.2 ((Path.pairwise_ancestors directory).imp ?_)
  intro below above hsize
  rw [← Bool.not_eq_true]
  intro hsame
  have heq := Path.size_eq_of_same hsame
  rw [Path.size_join isName_fileName, Path.size_join isName_fileName] at heq
  omega

/-! ## The search -/

/-- The nearest root file, or that there is none. -/
theorem nearest_root_cases (m : Machine) (paths : List Text) :
    (∀ path ∈ paths, ¬ m.IsRoot path) ∨
      ∃ near root far, paths = near ++ root :: far ∧ (∀ path ∈ near, ¬ m.IsRoot path) ∧
        m.IsRoot root := by
  induction paths with
  | nil => exact .inl (List.forall_mem_nil _)
  | cons first rest ih =>
    by_cases hfirst : m.IsRoot first
    · exact .inr ⟨[], first, rest, rfl, List.forall_mem_nil _, hfirst⟩
    · rcases ih with hnone | ⟨near, root, far, rfl, hnear, hroot⟩
      · exact .inl (List.forall_mem_cons.2 ⟨hfirst, hnone⟩)
      · exact .inr ⟨first :: near, root, far, rfl, List.forall_mem_cons.2 ⟨hfirst, hnear⟩, hroot⟩

/-- **Without a root file the search has all files.** -/
theorem search_of_noRoot (hnone : ∀ path ∈ paths, ¬ m.IsRoot path) :
    m.search paths = (paths.filter m.hasFile, false) := by
  induction paths with
  | nil => rfl
  | cons path rest ih =>
    obtain ⟨hpath, hrest⟩ := List.forall_mem_cons.1 hnone
    rw [search_cons, ih hrest]
    cases hfile : m.hasFile path with
    | false =>
      rw [List.filter_cons_of_neg (by simp [hfile])]
      rfl
    | true =>
      rw [List.filter_cons_of_pos hfile, endsSearch_eq_false hfile hpath]
      rfl

/-! ## Discovery -/

/-- The file in the home directory is the one to add. -/
structure AddsGlobal (m : Machine) (found : List Text) (path : Text) : Prop where
  /-- there is a home directory -/
  global : m.globalFile = some path
  /-- the file is there -/
  file : m.hasFile path = true
  /-- it has not been found under a path with the same components -/
  fresh : ∀ file ∈ found, Path.same file path = false

theorem addsGlobal_iff {found : List Text} (hglobal : m.globalFile = some path) :
    m.AddsGlobal found path ↔ (m.hasFile path && !found.any (Path.same · path)) = true := by
  rw [Bool.and_eq_true, Bool.not_eq_true', List.any_eq_false]
  simp only [Bool.not_eq_true]
  exact ⟨fun h => ⟨h.file, h.fresh⟩, fun ⟨hfile, hfresh⟩ => ⟨hglobal, hfile, hfresh⟩⟩

theorem globalPart_eq_singleton {found : List Text} (h : m.AddsGlobal found path) :
    m.globalPart found = [path] := by
  rw [globalPart, h.global]
  exact if_pos ((addsGlobal_iff h.global).1 h)

theorem globalPart_eq_nil {found : List Text} (h : ∀ path, ¬ m.AddsGlobal found path) :
    m.globalPart found = [] := by
  rw [globalPart]
  cases hglobal : m.globalFile with
  | none => rfl
  | some path => exact if_neg fun hadds => h path ((addsGlobal_iff hglobal).2 hadds)

/-- **At most one file is added**, and it is the one to add. -/
theorem globalPart_cases (m : Machine) (found : List Text) :
    (∃ path, m.AddsGlobal found path ∧ m.globalPart found = [path]) ∨ m.globalPart found = [] := by
  by_cases h : ∃ path, m.AddsGlobal found path
  · obtain ⟨path, hadds⟩ := h
    exact .inl ⟨path, hadds, globalPart_eq_singleton hadds⟩
  · exact .inr (globalPart_eq_nil (not_exists.1 h))

theorem discover_of_noRoot (hnone : ∀ path ∈ candidates directory, ¬ m.IsRoot path) :
    m.discover directory = (candidates directory).filter m.hasFile ++
      m.globalPart ((candidates directory).filter m.hasFile) := by
  rw [discover, search_of_noRoot hnone]

/-- **The files found end with the nearest root file, or are all there are.** -/
theorem discover_cases (m : Machine) (directory : Text) :
    (∃ near root far, candidates directory = near ++ root :: far ∧
        (∀ path ∈ near, ¬ m.IsRoot path) ∧
        m.discover directory = near.filter m.hasFile ++ [root]) ∨
      (∀ path ∈ candidates directory, ¬ m.IsRoot path) ∧
        m.discover directory = (candidates directory).filter m.hasFile ++
          m.globalPart ((candidates directory).filter m.hasFile) := by
  obtain hnone | ⟨near, root, far, hsplit, hnear, hroot⟩ :=
    nearest_root_cases m (candidates directory)
  · exact .inr ⟨hnone, discover_of_noRoot hnone⟩
  · exact .inl ⟨near, root, far, hsplit, hnear, discover_of_isRoot hsplit hnear hroot⟩

/-- The files that matter for a directory. -/
structure Relevant (m : Machine) (directory : Text) (files : List Text) : Prop where
  /-- the nearest root file is the last one, after the files before it -/
  upToRoot : ∀ near root far, candidates directory = near ++ root :: far →
    (∀ path ∈ near, ¬ m.IsRoot path) → m.IsRoot root → files = near.filter m.hasFile ++ [root]
  /-- without a root file, the one in the home directory is the last one, if it is to be added -/
  withGlobal : (∀ path ∈ candidates directory, ¬ m.IsRoot path) →
    ∀ path, m.AddsGlobal ((candidates directory).filter m.hasFile) path →
      files = (candidates directory).filter m.hasFile ++ [path]
  /-- without a root file and without a file to add, there is no other -/
  withoutGlobal : (∀ path ∈ candidates directory, ¬ m.IsRoot path) →
    (∀ path, ¬ m.AddsGlobal ((candidates directory).filter m.hasFile) path) →
      files = (candidates directory).filter m.hasFile
  /-- no path comes twice -/
  distinct : files.Pairwise fun p q => Path.same p q = false
  /-- only the last one can be a root file -/
  rootLast : ∀ path ∈ files.dropLast, ¬ m.IsRoot path
  /-- a file that cannot be read is among them, and so are the files beyond it -/
  passesBroken : ∀ near broken far e, candidates directory = near ++ broken :: far →
    (∀ path ∈ near, ¬ m.IsRoot path) → m.hasFile broken = true → m.layer broken = .error e →
    broken ∈ files ∧
      ∀ between next beyond, far = between ++ next :: beyond →
        (∀ path ∈ between, ¬ m.IsRoot path) → m.hasFile next = true → next ∈ files

theorem pairwise_globalPart {found : List Text}
    (h : found.Pairwise fun p q => Path.same p q = false) :
    (found ++ m.globalPart found).Pairwise fun p q => Path.same p q = false := by
  rcases globalPart_cases m found with ⟨path, hadds, hpart⟩ | hpart
  · rw [hpart]
    refine List.pairwise_append.2 ⟨h, List.pairwise_singleton _ _, ?_⟩
    intro p hp q hq
    obtain rfl := List.mem_singleton.1 hq
    exact hadds.fresh p hp
  · rwa [hpart, List.append_nil]

theorem pairwise_discover (m : Machine) (directory : Text) :
    (m.discover directory).Pairwise fun p q => Path.same p q = false := by
  have hpairs := pairwise_candidates directory
  rcases discover_cases m directory with ⟨near, root, far, hsplit, -, hfiles⟩ | ⟨-, hfiles⟩
  · rw [hsplit] at hpairs
    rw [hfiles]
    refine hpairs.sublist (List.Sublist.append List.filter_sublist ?_)
    exact List.singleton_sublist.2 List.mem_cons_self
  · rw [hfiles]
    exact pairwise_globalPart (hpairs.sublist List.filter_sublist)

theorem mem_dropLast_globalPart {found : List Text}
    (h : path ∈ (found ++ m.globalPart found).dropLast) : path ∈ found := by
  rcases globalPart_cases m found with ⟨global, -, hpart⟩ | hpart
  · rwa [hpart, List.dropLast_concat] at h
  · rw [hpart, List.append_nil] at h
    exact (List.dropLast_sublist found).mem h

theorem not_isRoot_of_mem_dropLast (h : path ∈ (m.discover directory).dropLast) :
    ¬ m.IsRoot path := by
  rcases discover_cases m directory with ⟨near, root, far, -, hnear, hfiles⟩ | ⟨hnone, hfiles⟩
  · rw [hfiles, List.dropLast_concat] at h
    exact hnear path (List.mem_of_mem_filter h)
  · rw [hfiles] at h
    exact hnone path (List.mem_of_mem_filter (mem_dropLast_globalPart h))

/-- **A file is found if no root file comes before it.** -/
theorem mem_discover (hsplit : candidates directory = near ++ path :: far)
    (hnear : ∀ p ∈ near, ¬ m.IsRoot p) (hfile : m.hasFile path = true) :
    path ∈ m.discover directory := by
  obtain hnone | ⟨between, root, beyond, hfar, hbetween, hroot⟩ :=
    nearest_root_cases m (path :: far)
  · have hnone : ∀ p ∈ candidates directory, ¬ m.IsRoot p := by
      rw [hsplit]
      exact List.forall_mem_append.2 ⟨hnear, hnone⟩
    rw [discover_of_noRoot hnone, hsplit]
    refine List.mem_append_left _ (List.mem_filter.2 ⟨?_, hfile⟩)
    exact List.mem_append_right near List.mem_cons_self
  · rw [hfar, ← List.append_assoc] at hsplit
    rw [discover_of_isRoot hsplit (List.forall_mem_append.2 ⟨hnear, hbetween⟩) hroot]
    cases between with
    | nil =>
      obtain ⟨rfl, -⟩ := List.cons.inj hfar
      exact List.mem_append_right _ (List.mem_singleton.2 rfl)
    | cons first between =>
      obtain ⟨rfl, -⟩ := List.cons.inj hfar
      refine List.mem_append_left _ (List.mem_filter.2 ⟨?_, hfile⟩)
      exact List.mem_append_right near List.mem_cons_self

theorem not_isRoot_of_error {e : ConfigError} (h : m.layer path = .error e) : ¬ m.IsRoot path := by
  rintro ⟨-, layer, hlayer, -⟩
  rw [h] at hlayer
  cases hlayer

/-- **The files found are the relevant ones.** They are looked for in the directory and in what is
left of its path by cutting component after component, until there is none to cut. Whatever the disk
holds and wherever the home directory is, if there is one, the files found are those up to the
nearest root file, or all of them and the one in the home directory. -/
theorem discover_relevant (m : Machine) (directory : Text) :
    candidates directory =
        Path.join directory fileName :: ((Path.parent directory).map candidates).getD [] ∧
      ((Path.parent directory = none ∧ (Path.components directory).2 = [] ∧
          Path.lead directory ≠ ['.']) ∨
        (Path.parent directory = some [] ∧ Path.components directory = (['.'], [])) ∨
        ∃ above name, Path.parent directory = some above ∧
          Path.components directory =
            ((Path.components above).1, (Path.components above).2 ++ [name])) ∧
      m.Relevant directory (m.discover directory) := by
  refine ⟨candidates_eq directory, Path.components_parent directory, ?_, ?_, ?_,
    pairwise_discover m directory, ?_, ?_⟩
  · intro near root far hsplit hnear hroot
    exact discover_of_isRoot hsplit hnear hroot
  · intro hnone path hadds
    rw [discover_of_noRoot hnone, globalPart_eq_singleton hadds]
  · intro hnone hnot
    rw [discover_of_noRoot hnone, globalPart_eq_nil hnot, List.append_nil]
  · intro path hpath
    exact not_isRoot_of_mem_dropLast hpath
  · intro near broken far e hsplit hnear hfile hbroken
    refine ⟨mem_discover hsplit hnear hfile, ?_⟩
    rintro between next beyond rfl hbetween hnext
    have hpassed : ∀ path ∈ near ++ broken :: between, ¬ m.IsRoot path := by
      refine List.forall_mem_append.2 ⟨hnear, List.forall_mem_cons.2 ⟨?_, hbetween⟩⟩
      exact not_isRoot_of_error hbroken
    have hsplit : candidates directory = (near ++ broken :: between) ++ next :: beyond := by
      rw [hsplit, List.append_assoc]
      rfl
    exact mem_discover hsplit hpassed hnext

end

end Machine

end SearchClause
