import Mathlib.Data.List.DropRight
import SearchClause.Files.Path

/-!
# Paths by their components

A path can be spelled in many ways, and what joining and cutting do to it is said by its components:

* `components_join` — joining adds the name at the end;
* `components_parent` — cutting takes the last component off, and a path without components cannot
  be cut;
* `ancestors_eq` — so the ancestors of a path are the path and the ancestors of its parent, and no
  two of them have the same components.
-/

namespace SearchClause

namespace Path

/-! ## Joining -/

/-- A text that can be a component: it says something, and has no slash. -/
structure IsName (name : Text) : Prop where
  /-- it says something -/
  busy : isIdle name = false
  /-- it is one piece -/
  solid : '/' ∉ name

/-- The pieces of a text that say something. -/
def busyPieces (t : Text) : List Text :=
  (Text.pieces (· = '/') t).filter (!isIdle ·)

section

variable {p q name t u : Text}

theorem busyPieces_slash (t u : Text) :
    busyPieces (t ++ '/' :: u) = busyPieces t ++ busyPieces u := by
  rw [busyPieces, Text.pieces_append_cons (by simp), List.filter_append]
  rfl

theorem busyPieces_of_isName (h : IsName name) : busyPieces name = [name] := by
  have hone : Text.pieces (· = '/') (Text.joinWith ['/'] [name]) = [name] :=
    Text.pieces_joinWith (by simp) (by simpa using h.solid)
  rw [Text.joinWith] at hone
  rw [busyPieces, hone, List.filter_cons_of_pos (by simp [h.busy]), List.filter_nil]

theorem components_eq (p : Text) : components p = (lead p, busyPieces (p.drop (lead p).length)) :=
  rfl

/-- **Joining adds a piece at the end.** -/
theorem busyPieces_join (h : IsName name) (t : Text) :
    busyPieces (join t name) = busyPieces t ++ [name] := by
  have hname := busyPieces_of_isName h
  rw [join]
  split
  next hend =>
    rcases List.eq_nil_or_concat' t with rfl | ⟨t, c, rfl⟩
    · exact hname
    · obtain rfl : c = '/' := by simpa using hend
      rw [List.append_assoc, List.singleton_append, busyPieces_slash, busyPieces_slash, hname]
      simp [busyPieces, Text.pieces, isIdle]
  next => rw [busyPieces_slash, hname]

theorem lead_of_ne {c : Char} (hslash : c ≠ '/') (hdot : c ≠ '.') (t : Text) :
    lead (c :: t) = [] := by
  simp [lead, hslash, hdot]

theorem lead_of_dot_ne {c : Char} (hslash : c ≠ '/') (t : Text) : lead ('.' :: c :: t) = [] := by
  simp [lead, hslash]

/-- What a path starts with is decided before a slash that is not the first character. -/
theorem lead_append_slash (hp : p ≠ []) (u : Text) : lead (p ++ '/' :: u) = lead p := by
  obtain ⟨c, p, rfl⟩ := List.exists_cons_of_ne_nil hp
  by_cases hslash : c = '/'
  · subst hslash
    rfl
  · by_cases hdot : c = '.'
    · subst hdot
      cases p with
      | nil => rfl
      | cons d p =>
        by_cases hd : d = '/'
        · subst hd
          rfl
        · exact (lead_of_dot_ne hd _).trans (lead_of_dot_ne hd p).symm
    · exact (lead_of_ne hslash hdot _).trans (lead_of_ne hslash hdot p).symm

theorem lead_of_isName (h : IsName name) : lead name = [] := by
  obtain ⟨hbusy, hsolid⟩ := h
  fun_cases lead name with
  | case1 rest => exact absurd List.mem_cons_self hsolid
  | case2 => cases hbusy
  | case3 rest => exact absurd (List.mem_cons_of_mem _ List.mem_cons_self) hsolid
  | case4 => rfl

theorem lead_join (h : IsName name) (p : Text) : lead (join p name) = lead p := by
  rw [join]
  split
  next hend =>
    rcases List.eq_nil_or_concat' p with rfl | ⟨p, c, rfl⟩
    · exact lead_of_isName h
    · obtain rfl : c = '/' := by simpa using hend
      rw [List.append_assoc, List.singleton_append]
      by_cases hp : p = []
      · subst hp
        rfl
      · rw [lead_append_slash hp, lead_append_slash hp]
  next hne =>
    have hp : p ≠ [] := by
      rintro rfl
      exact hne rfl
    exact lead_append_slash hp name

theorem join_cons {c : Char} (h : c = '/' ∨ t ≠ []) : join (c :: t) name = c :: join t name := by
  cases t with
  | nil =>
    obtain rfl : c = '/' := h.resolve_right (by simp)
    rfl
  | cons d t =>
    rw [join, join, List.getLast?_cons_cons]
    exact (apply_ite (c :: ·) _ _ _).symm

/-- Joining leaves what a path starts with alone. -/
theorem busyPieces_drop_join (h : IsName name) (p : Text) :
    busyPieces ((join p name).drop (lead p).length) =
      busyPieces (p.drop (lead p).length) ++ [name] := by
  fun_cases lead p with
  | case1 rest =>
    rw [join_cons (.inl rfl)]
    exact busyPieces_join h rest
  | case2 => exact (busyPieces_slash [] name).trans (congrArg (_ ++ ·) (busyPieces_of_isName h))
  | case3 rest =>
    rw [join_cons (.inr (by simp))]
    exact busyPieces_join h ('/' :: rest)
  | case4 p _ _ _ => exact busyPieces_join h p

/-- **Joining adds a component.** -/
theorem components_join (h : IsName name) (p : Text) :
    components (join p name) = ((components p).1, (components p).2 ++ [name]) := by
  rw [components_eq, components_eq, lead_join h, busyPieces_drop_join h]

/-! ## Cutting -/

theorem trimIdle_eq (ps : List Text) : trimIdle ps = ps.rdropWhile isIdle :=
  rfl

/-- Pieces that say nothing at the end are no components. -/
theorem filter_trimIdle (ps : List Text) :
    (trimIdle ps).filter (!isIdle ·) = ps.filter (!isIdle ·) := by
  have hsplit : trimIdle ps ++ ps.rtakeWhile isIdle = ps :=
    List.rdropWhile_append_rtakeWhile
  have hidle : (ps.rtakeWhile isIdle).filter (!isIdle ·) = [] := by
    rw [List.filter_eq_nil_iff]
    intro piece hpiece
    simp [List.mem_rtakeWhile_imp hpiece]
  calc (trimIdle ps).filter (!isIdle ·)
      = (trimIdle ps ++ ps.rtakeWhile isIdle).filter (!isIdle ·) := by
        rw [List.filter_append, hidle, List.append_nil]
    _ = ps.filter (!isIdle ·) := by rw [hsplit]

/-- What is left of the pieces of a path when one that says something is taken off the end. -/
theorem trimIdle_cases (ps : List Text) :
    (trimIdle ps = [] ∧ ps.filter (!isIdle ·) = []) ∨
      ∃ front last back, trimIdle ps = front ++ [last] ∧
        ps = trimIdle front ++ back ∧ back ≠ [] ∧
        ps.filter (!isIdle ·) = (trimIdle front).filter (!isIdle ·) ++ [last] := by
  rcases List.eq_nil_or_concat' (trimIdle ps) with hnil | ⟨front, last, hlast⟩
  · refine .inl ⟨hnil, ?_⟩
    rw [← filter_trimIdle, hnil, List.filter_nil]
  · have hbusy : isIdle last = false := by
      have hne : ps.rdropWhile isIdle ≠ [] := by
        rw [← trimIdle_eq, hlast]
        simp
      have hnot := List.rdropWhile_last_not isIdle ps hne
      simpa [← trimIdle_eq, hlast] using hnot
    obtain ⟨idle, hidle⟩ := List.rdropWhile_prefix isIdle ps
    obtain ⟨idle', hidle'⟩ := List.rdropWhile_prefix isIdle front
    rw [← trimIdle_eq] at hidle hidle'
    refine .inr ⟨front, last, idle' ++ [last] ++ idle, hlast, ?_, by simp, ?_⟩
    · rw [← hidle, hlast, ← List.append_assoc, ← List.append_assoc, hidle']
    · rw [← filter_trimIdle ps, hlast, List.filter_append, filter_trimIdle,
        List.filter_cons_of_pos (by simp [hbusy]), List.filter_nil]

theorem lead_append_body (p : Text) : p = assemble (lead p) (body p) := by
  rw [assemble, body, Text.joinWith_pieces]
  fun_cases lead p with
  | case1 rest => rfl
  | case2 => rfl
  | case3 rest => rfl
  | case4 p _ _ _ => rfl

theorem components_lead (p : Text) : components (lead p) = (lead p, []) := by
  fun_cases lead p with
  | case1 rest => rfl
  | case2 => rfl
  | case3 rest => rfl
  | case4 p _ _ _ => rfl

/-- The first pieces of a path are a path that starts as it does. -/
theorem components_assemble {front back : List Text} (hbody : body p = front ++ back)
    (hback : back ≠ []) :
    components (assemble (lead p) front) = (lead p, front.filter (!isIdle ·)) := by
  by_cases hne : front = []
  · subst hne
    rw [assemble, Text.joinWith, List.append_nil]
    exact components_lead p
  · have hsolid : ∀ piece ∈ front, '/' ∉ piece := by
      intro piece hpiece
      refine Text.not_mem_of_mem_pieces (t := p.drop (lead p).length) ?_
      change piece ∈ body p
      rw [hbody]
      exact List.mem_append_left back hpiece
    -- the path goes on with a slash where the front ends
    have hp : p = assemble (lead p) front ++ '/' :: Text.joinWith ['/'] back := by
      conv_lhs => rw [lead_append_body p, hbody]
      rw [assemble, Text.joinWith_append hne hback, assemble]
      simp
    have hnonempty : assemble (lead p) front ≠ [] := by
      intro hnil
      have hlead : lead p = ['/'] := by
        rw [hp, hnil]
        rfl
      rw [hlead] at hnil
      cases hnil
    have hlead : lead (assemble (lead p) front) = lead p := by
      conv_rhs => rw [hp]
      exact (lead_append_slash hnonempty _).symm
    rw [components, hlead, body, hlead, assemble, List.drop_left, Text.pieces_joinWith hne hsolid]

/-- **Cutting takes the last component off.** A path that is just a `.` becomes empty, and a path
without components cannot be cut. -/
theorem components_parent (p : Text) :
    (parent p = none ∧ (components p).2 = [] ∧ lead p ≠ ['.']) ∨
      (parent p = some [] ∧ components p = (['.'], [])) ∨
      ∃ q name, parent p = some q ∧
        components p = ((components q).1, (components q).2 ++ [name]) := by
  obtain ⟨htrim, hnone⟩ | ⟨front, last, back, htrim, hbody, hback, hsome⟩ :=
    trimIdle_cases (body p)
  · have hcut : parent p = if lead p = ['.'] then some [] else none := by
      rw [parent, htrim]
    by_cases hdot : lead p = ['.']
    · refine .inr (.inl ⟨?_, ?_⟩)
      · rw [hcut, if_pos hdot]
      · rw [components, hnone, hdot]
    · refine .inl ⟨?_, hnone, hdot⟩
      rw [hcut, if_neg hdot]
  · refine .inr (.inr ⟨assemble (lead p) (trimIdle front), last, ?_, ?_⟩)
    · have hcons : front ++ [last] ≠ [] := by simp
      rw [parent, htrim]
      split
      next hnil => exact absurd hnil hcons
      next => rw [List.dropLast_concat]
    · rw [components_assemble hbody hback, components, hsome]

/-! ## Ancestors -/

theorem size_of_components {lead : Text} {names : List Text} (h : components p = (lead, names)) :
    size p = names.length + lead.length := by
  obtain ⟨rfl, rfl⟩ := Prod.mk.inj h
  rfl

theorem size_parent (h : parent p = some q) : size p = size q + 1 := by
  rcases components_parent p with ⟨hnone, -⟩ | ⟨hempty, hdot⟩ | ⟨r, name, hr, hcomponents⟩
  · rw [hnone] at h
    cases h
  · obtain rfl := Option.some.inj (hempty.symm.trans h)
    exact size_of_components hdot
  · obtain rfl := Option.some.inj (hr.symm.trans h)
    rw [size_of_components hcomponents, List.length_append, size]
    exact Nat.add_right_comm _ 1 _

theorem parent_of_size_eq_zero (h : size p = 0) : parent p = none := by
  cases hq : parent p with
  | none => rfl
  | some q =>
    rw [size_parent hq] at h
    cases h

/-- **The ancestors of a path are the path and the ancestors of its parent.** -/
theorem ancestors_eq (p : Text) : ancestors p = p :: ((parent p).map ancestors).getD [] := by
  rw [ancestors]
  cases hsize : size p with
  | zero =>
    rw [parent_of_size_eq_zero hsize]
    rfl
  | succ n =>
    rw [ancestorsFrom]
    cases hq : parent p with
    | none => rfl
    | some q =>
      have hn : size q = n := Nat.succ.inj ((size_parent hq).symm.trans hsize)
      change p :: ancestorsFrom n q = p :: ancestors q
      rw [ancestors, hn]

theorem ancestors_of_parent (h : parent p = some q) : ancestors p = p :: ancestors q := by
  rw [ancestors_eq, h]
  rfl

theorem ancestors_of_none (h : parent p = none) : ancestors p = [p] := by
  rw [ancestors_eq, h]
  rfl

/-- What holds of a path if it holds of its parent holds of every path. -/
theorem parent_induction {motive : Text → Prop} (root : ∀ p, parent p = none → motive p)
    (step : ∀ p q, parent p = some q → motive q → motive p) (p : Text) : motive p := by
  induction hn : size p generalizing p with
  | zero => exact root p (parent_of_size_eq_zero hn)
  | succ n ih =>
    cases hq : parent p with
    | none => exact root p hq
    | some q => exact step p q hq (ih q (Nat.succ.inj ((size_parent hq).symm.trans hn)))

theorem size_le_of_mem_ancestors (h : q ∈ ancestors p) : size q ≤ size p := by
  induction p using parent_induction with
  | root p hp =>
    rw [ancestors_of_none hp, List.mem_singleton] at h
    exact Nat.le_of_eq (congrArg size h)
  | step p r hr ih =>
    rw [ancestors_of_parent hr, List.mem_cons] at h
    rcases h with rfl | h
    · exact Nat.le_refl _
    · have hle := ih h
      rw [size_parent hr]
      exact Nat.le_succ_of_le hle

/-- **Ancestors get smaller and smaller**, so each has other components. -/
theorem pairwise_ancestors (p : Text) : (ancestors p).Pairwise fun q r => size r < size q := by
  induction p using parent_induction with
  | root p hp =>
    rw [ancestors_of_none hp]
    exact List.pairwise_singleton _ p
  | step p q hq ih =>
    rw [ancestors_of_parent hq]
    refine List.pairwise_cons.2 ⟨fun r hr => ?_, ih⟩
    rw [size_parent hq]
    exact Nat.lt_succ_of_le (size_le_of_mem_ancestors hr)

theorem size_join (h : IsName name) (p : Text) : size (join p name) = size p + 1 := by
  rw [size_of_components (components_join h p), List.length_append]
  exact Nat.add_right_comm _ 1 _

theorem size_eq_of_same (h : same p q = true) : size p = size q := by
  have hcomponents : components p = components q := of_decide_eq_true h
  exact size_of_components hcomponents

end

end Path

end SearchClause
