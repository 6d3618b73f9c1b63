import SearchClause.Command.Run
import SearchClause.Proofs.CommentedOut
import SearchClause.Proofs.NewFile

/-!
# Writing a starter file

A starter file is made of comments, so it is read as a layer that says nothing
(`ofText?_commentedOut`). The command that writes one does so where nothing is, or where it may
overwrite, and otherwise changes nothing (`starter_cases`); without a home directory it has nowhere
to write one for it. Together with what is known of new files this makes the command harmless: a new
starter file changes no setting, wherever it is found and whatever other files there are
(`starter_harmless`).
-/

namespace SearchClause

/-! ## The starter files -/

namespace Starter

/-- A literal is checked through its characters. -/
theorem forall_mem_toList {s : String} {list : Text} (hs : s = String.ofList list)
    (h : list.all Toml.isTextChar = true) : ∀ c ∈ s.toList, Toml.isTextChar c = true := by
  rw [hs, String.toList_ofList]
  exact List.all_eq_true.1 h

theorem ofText?_project : Layer.ofText? project = some Layer.empty := by
  refine ofText?_commentedOut ?_
  rw [projectExample, lines_wholeLines]
  all_goals
    simp only [List.forall_mem_cons, List.not_mem_nil, false_imp_iff, implies_true, and_true]
    and_intros
    all_goals exact forall_mem_toList rfl (by decide)

theorem ofText?_home : Layer.ofText? home = some Layer.empty := by
  refine ofText?_commentedOut ?_
  rw [homeExample, lines_wholeLines]
  all_goals
    simp only [List.forall_mem_cons, List.not_mem_nil, false_imp_iff, implies_true, and_true]
    and_intros
    all_goals exact forall_mem_toList rfl (by decide)

end Starter

theorem Layer.isInert_empty : Layer.empty.IsInert where
  query := fun _ hq => by cases hq
  dialects := rfl
  root := by decide

/-! ## Writing a file -/

namespace Disk

variable {d d' : Disk} {working place : Place} {path t : Text}

/-- A file can be written where a path leads: no directory is there, and one is around it. -/
structure Takes (d : Disk) (working : Place) (path : Text) (place : Place) : Prop where
  /-- the path leads there -/
  located : d.locate working path = .ok place
  /-- it is no directory -/
  file : d.get? place ≠ some .directory
  /-- it is in a directory -/
  inside : d.get? place.dropLast = some .directory

theorem takes_of_write (h : d.write working path t = .ok d') :
    ∃ place, d.Takes working path place ∧ d' = d.put place (.file (.text t)) := by
  rw [write] at h
  split at h
  · cases h
  next place hlocate =>
    split at h
    · cases h
    next hinside hfile =>
      exact ⟨place, ⟨hlocate, fun hdir => hfile hdir, hinside⟩, (Except.ok.inj h).symm⟩
    · cases h
    · cases h

theorem Takes.ne_nil (h : d.Takes working path place) : place ≠ [] := by
  rintro rfl
  exact h.file rfl

theorem get?_eq_none_of_hasEntry (hlocate : d.locate working path = .ok place)
    (h : d.hasEntry working path = false) : d.get? place = none := by
  rw [hasEntry, find, hlocate] at h
  cases hplace : d.get? place with
  | none => rfl
  | some entry =>
    simp only [hplace] at h
    cases h

end Disk

/-! ## The command -/

namespace Run

theorem ofText?_starterText (m : Machine) (inHome : Bool) :
    Layer.ofText? (starterText m inHome) = some Layer.empty := by
  rw [starterText]
  split
  · exact Starter.ofText?_home
  · exact Starter.ofText?_project

theorem starterPath_eq_none {m : Machine} (h : m.homeDirectory = none) :
    starterPath m true = none := by
  rw [starterPath, isForHome, Bool.true_or, if_pos rfl, Machine.globalFile, h, Option.map_none]

/-- **What the command can do**: it fails and leaves the disk as it is, or it writes the starter
file where the disk takes it, and over nothing unless it is to be overwritten. -/
theorem starter_cases (m : Machine) (inHome overwrite : Bool) :
    ((starter m inHome overwrite).code = 1 ∧ (starter m inHome overwrite).disk = m.disk) ∨
      ((starter m inHome overwrite).code = 0 ∧ ∃ path place,
        starterPath m inHome = some path ∧ m.disk.Takes m.working path place ∧
        (overwrite = false → m.disk.hasEntry m.working path = false) ∧
        (starter m inHome overwrite).disk =
          m.disk.put place (.file (.text (starterText m inHome)))) := by
  generalize hout : starter m inHome overwrite = out
  delta starter at hout
  dsimp only at hout
  split at hout
  next =>
    subst hout
    exact .inl ⟨rfl, rfl⟩
  next path hpath =>
    split at hout
    next =>
      subst hout
      exact .inl ⟨rfl, rfl⟩
    next hthere =>
      split at hout
      next fault hwrite =>
        subst hout
        exact .inl ⟨rfl, rfl⟩
      next disk hwrite =>
        subst hout
        obtain ⟨place, htakes, rfl⟩ := Disk.takes_of_write hwrite
        refine .inr ⟨rfl, path, place, hpath, htakes, ?_, rfl⟩
        rintro rfl
        simpa using hthere

/-- **Writing a starter file is harmless.** If the command fails, the disk is as it was; without a
home directory it fails to write a file for it. If it succeeds, the starter file is where it belongs
and nothing else has changed; what was there before is gone only if it was to be overwritten; and if
nothing was there, the settings of the working directory stay in force, or cannot be loaded for the
same reason. -/
theorem starter_harmless (m : Machine) (inHome overwrite : Bool) :
    ((command m (.starter inHome overwrite)).code ≠ 0 →
        (command m (.starter inHome overwrite)).disk = m.disk) ∧
      (inHome = true → m.homeDirectory = none →
        (command m (.starter inHome overwrite)).code ≠ 0) ∧
      ((command m (.starter inHome overwrite)).code = 0 →
        ∃ path place, starterPath m inHome = some path ∧
          m.disk.locate m.working path = .ok place ∧
          (command m (.starter inHome overwrite)).disk.get? place =
            some (.file (.text (starterText m inHome))) ∧
          (∀ other, other ≠ place →
            (command m (.starter inHome overwrite)).disk.get? other = m.disk.get? other) ∧
          (overwrite = false → m.disk.hasEntry m.working path = false) ∧
          (m.disk.hasEntry m.working path = false →
            ({ m with disk := (command m (.starter inHome overwrite)).disk }.settings
                (Place.path m.working)).map Settings.inForce =
              (m.settings (Place.path m.working)).map Settings.inForce)) := by
  show ((starter m inHome overwrite).code ≠ 0 → (starter m inHome overwrite).disk = _) ∧
    (_ → _ → (starter m inHome overwrite).code ≠ 0) ∧ ((starter m inHome overwrite).code = 0 → _)
  rcases starter_cases m inHome overwrite with
    ⟨hcode, hdisk⟩ | ⟨hcode, path, place, hpath, htakes, hkept, hdisk⟩
  · rw [hcode]
    exact ⟨fun _ => hdisk, fun _ _ => Nat.one_ne_zero, fun hzero => absurd hzero Nat.one_ne_zero⟩
  · refine ⟨fun hnonzero => absurd hcode hnonzero, ?_,
      fun _ => ⟨path, place, hpath, htakes.located, ?_, ?_, hkept, ?_⟩⟩
    · rintro rfl hhome
      rw [starterPath_eq_none hhome] at hpath
      cases hpath
    · show (starter m inHome overwrite).disk.get? place = _
      rw [hdisk, Disk.get?_put _ _ _ _ htakes.ne_nil, if_pos rfl]
    · intro other hother
      show (starter m inHome overwrite).disk.get? other = _
      rw [hdisk, Disk.get?_put _ _ _ _ htakes.ne_nil, if_neg hother]
    · intro hmissing
      have habsent := Disk.get?_eq_none_of_hasEntry htakes.located hmissing
      show ({ m with disk := (starter m inHome overwrite).disk }.settings _).map _ = _
      rw [hdisk]
      exact Machine.inForce_settings_eq (Disk.addsFile_put habsent _)
        (ofText?_starterText m inHome) Layer.isInert_empty _

/-- A directory without a configuration file, below one that has settings, and no home directory. -/
def newProject : Machine where
  disk := ⟨[(["work"], .directory), ([".sift.toml"], .file (.text "query.max_depth = 2\n"))]⟩
  working := ["work"]
  home := some []
  accountHome := none

/-- The new file is the nearest one, and the settings above it stay in force. A starter file for the
home directory is refused. -/
theorem starter_harmless_newProject :
    starterPath newProject false = some "/work/.sift.toml".toList ∧
      newProject.disk.hasEntry newProject.working "/work/.sift.toml" = false ∧
      (command newProject (.starter false false)).code = 0 ∧
      ({ newProject with disk := (command newProject (.starter false false)).disk }.settings
          (Place.path newProject.working)).map Settings.inForce =
        (newProject.settings (Place.path newProject.working)).map Settings.inForce ∧
      newProject.homeDirectory = none ∧
      (command newProject (.starter true true)).code ≠ 0 ∧
      (command newProject (.starter true true)).disk = newProject.disk := by
  have hpath : starterPath newProject false = some "/work/.sift.toml".toList := by
    decide
  have hmissing : newProject.disk.hasEntry newProject.working "/work/.sift.toml" = false := by
    decide
  have hcode : (command newProject (.starter false false)).code = 0 := by
    decide
  have hhome : newProject.homeDirectory = none := rfl
  obtain ⟨-, -, hsuccess⟩ := starter_harmless newProject false false
  obtain ⟨path, place, hpath', -, -, -, -, hsettings⟩ := hsuccess hcode
  obtain rfl := Option.some.inj (hpath.symm.trans hpath')
  obtain ⟨hunchanged, hrefused, -⟩ := starter_harmless newProject true true
  have hfailed := hrefused rfl hhome
  exact ⟨hpath, hmissing, hcode, hsettings hmissing, hhome, hfailed, hunchanged hfailed⟩

end Run

end SearchClause
