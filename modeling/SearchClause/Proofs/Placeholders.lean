import Mathlib.Data.List.Nodup
import SearchClause.Command.Run
import SearchClause.Proofs.FragmentMeaning

/-!
# The placeholders in a fragment

Whoever runs a clause finds its placeholders by looking for their marks. `Placeholder.scan` does so,
and knows nothing of how the clause was made; what it finds is then held against the values.

* **scanning** — `Placeholder.Shows` says which placeholders a text shows before anything that does
  not make the last of them longer, with a rule for every way in which a fragment is put together;
* **fragments** — `Tree.shows_rendered`: a subtree shows the placeholder of each of its terms, as
  often as a term has columns;
* **names** — `lookup_namedFrom` and `pairwise_sortNamed`: different numbers have different names,
  so each name leads to its value and none is lost when they are put in order.
-/

namespace SearchClause

namespace Placeholder

/-! ## Scanning -/

/-- What a placeholder starts with. -/
def isMark (c : Char) : Bool :=
  c = '?' || c = '$' || c = ':'

/-- What can stand in the name or the number after a mark. -/
def isNameChar (c : Char) : Bool :=
  c.isAlphanum || c = '_'

/-- The placeholders in a text: every mark with all name characters that follow it. -/
def scan : Text → List Text
  | [] => []
  | c :: rest =>
    if isMark c then (c :: rest.takeWhile isNameChar) :: scan rest else scan rest

/-- Whether there is no mark in a text. -/
def unmarked (s : Text) : Bool :=
  s.all (!isMark ·)

/-- The placeholders a text shows, whatever follows that is not part of the last one. -/
def Shows (s : Text) (ps : List Text) : Prop :=
  ∀ rest, Text.EndsRun isNameChar rest → scan (s ++ rest) = ps ++ scan rest

section

variable {c : Char} {s t run : Text} {ps qs : List Text}

theorem isMark_eq_false (h : isNameChar c = true) : isMark c = false := by
  rw [← Bool.not_eq_true]
  intro hmark
  simp only [isMark, Bool.or_eq_true, decide_eq_true_eq] at hmark
  rcases hmark with (rfl | rfl) | rfl
  · cases h
  · cases h
  · cases h

theorem scan_append_of_unmarked (hs : unmarked s = true) (t : Text) : scan (s ++ t) = scan t := by
  induction s with
  | nil => rfl
  | cons c s ih =>
    simp only [unmarked, List.all_cons, Bool.and_eq_true, Bool.not_eq_true'] at hs
    rw [List.cons_append, scan, if_neg (by simp [hs.1]), ih hs.2]

/-- A text without marks shows nothing. -/
theorem shows_of_unmarked (hs : unmarked s = true) : Shows s [] := by
  intro rest _
  exact scan_append_of_unmarked hs rest

/-- A mark and name characters are one placeholder. -/
theorem shows_mark (hc : isMark c = true) (hrun : ∀ d ∈ run, isNameChar d = true) :
    Shows (c :: run) [c :: run] := by
  intro rest hrest
  have hquiet : unmarked run = true := by
    apply List.all_eq_true.2
    intro d hd
    simp [isMark_eq_false (hrun d hd)]
  rw [List.cons_append, scan, if_pos hc, Text.takeWhile_run_append hrun hrest,
    scan_append_of_unmarked hquiet]
  rfl

/-- What stands in front without a mark changes nothing. -/
theorem Shows.after (hs : unmarked s = true) (h : Shows t ps) : Shows (s ++ t) ps := by
  intro rest hrest
  rw [List.append_assoc, scan_append_of_unmarked hs, h rest hrest]

/-- **Texts show what both of them show**, if the second does not lengthen a name in the first. -/
theorem Shows.append (h : Shows s ps) (hc : isNameChar c = false) (h' : Shows (c :: t) qs) :
    Shows (s ++ c :: t) (ps ++ qs) := by
  intro rest hrest
  have hends : Text.EndsRun isNameChar (c :: t ++ rest) := Text.endsRun_cons.2 hc
  rw [List.append_assoc, h _ hends, h' rest hrest, List.append_assoc]

theorem Shows.group (h : Shows s ps) : Shows ('(' :: s ++ [')']) ps := by
  have hclosed := h.append (by decide) (shows_of_unmarked (s := [')']) (by decide))
  rw [List.append_nil] at hclosed
  exact hclosed.after (s := ['(']) (by decide)

theorem Shows.enclosed (h : Shows s ps) (grouped : Bool) :
    Shows (Text.enclosed grouped s) ps := by
  cases grouped with
  | true => exact h.group
  | false => exact h

theorem Shows.and (h : Shows s ps) (h' : Shows t qs) : Shows (s ++ " AND " ++ t) (ps ++ qs) := by
  rw [List.append_assoc]
  exact h.append (by decide) (h'.after (s := " AND ") (by decide))

theorem Shows.or (h : Shows s ps) (h' : Shows t qs) : Shows (s ++ " OR " ++ t) (ps ++ qs) := by
  rw [List.append_assoc]
  exact h.append (by decide) (h'.after (s := " OR ") (by decide))

theorem Shows.scan_eq (h : Shows s ps) : scan s = ps := by
  have hscan := h [] Text.endsRun_nil
  rwa [List.append_nil, scan, List.append_nil] at hscan

/-- Every mark is the start of a placeholder. -/
theorem count_eq_countP_scan (hc : isMark c = true) (s : Text) :
    s.count c = (scan s).countP (·.head? = some c) := by
  induction s with
  | nil => rfl
  | cons d s ih =>
    rw [List.count_cons, ih, scan]
    cases hd : isMark d with
    | true =>
      rw [if_pos rfl, List.countP_cons]
      simp
    | false =>
      have hne : d ≠ c := by
        rintro rfl
        rw [hc] at hd
        cases hd
      simp [hne]

end

end Placeholder

/-! ## Fragments -/

open Placeholder (Shows)

theorem Placeholder.isNameChar_of_mem_ofNat {n : Nat} {c : Char} (h : c ∈ Text.ofNat n) :
    isNameChar c = true := by
  have hdigit : c.isDigit = true := Nat.isDigit_of_mem_toDigits (by decide) (by decide) h
  simp [isNameChar, Char.isAlphanum, hdigit]

theorem ParamStyle.shows_placeholder (style : ParamStyle) (index : Nat) :
    Shows (style.placeholder index) [style.placeholder index] := by
  have hdigits := @Placeholder.isNameChar_of_mem_ofNat index
  cases style with
  | numbered => exact Placeholder.shows_mark (by decide) fun c hc => hdigits hc
  | dollar => exact Placeholder.shows_mark (by decide) fun c hc => hdigits hc
  | named =>
    refine Placeholder.shows_mark (by decide) (List.forall_mem_cons.2 ⟨by decide, ?_⟩)
    intro c hc
    exact hdigits hc
  | anonymous => exact Placeholder.shows_mark (by decide) (List.forall_mem_nil _)

namespace Template

/-- There are no marks in the columns and the operator. -/
structure Unmarked (t : Template) : Prop where
  /-- none in a column -/
  columns : ∀ column ∈ t.columns, Placeholder.unmarked column = true
  /-- none in the operator -/
  operator : Placeholder.unmarked t.operator = true

variable {t : Template} {p : Text}

theorem shows_comparison (h : t.Unmarked) (hp : Shows p [p]) {column : Text}
    (hcolumn : Placeholder.unmarked column = true) : Shows (t.comparison p column) [p] := by
  have hfront : Placeholder.unmarked (column ++ ' ' :: t.operator ++ [' ']) = true := by
    have hblank : Placeholder.isMark ' ' = false := by decide
    have hoperator := h.operator
    rw [Placeholder.unmarked] at hcolumn hoperator ⊢
    simp [hcolumn, hoperator, hblank]
  have hshows := hp.after hfront
  rw [List.append_assoc] at hshows
  exact hshows

theorem shows_atoms (h : t.Unmarked) (hp : Shows p [p]) : ∀ a ∈ t.atoms p, Shows a [p] := by
  intro a ha
  rw [atoms] at ha
  split at ha
  next =>
    rw [List.mem_singleton.1 ha]
    exact hp
  next =>
    obtain ⟨column, hcolumn, rfl⟩ := List.mem_map.1 ha
    exact shows_comparison h hp (h.columns column hcolumn)

theorem shows_alternatives {a : Text} {as : List Text} (has : ∀ b ∈ a :: as, Shows b [p]) :
    Shows (Text.joinWith " OR " (a :: as)) (List.replicate (as.length + 1) p) := by
  induction as generalizing a with
  | nil => exact has a List.mem_cons_self
  | cons b as ih =>
    obtain ⟨ha, has⟩ := List.forall_mem_cons.1 has
    exact ha.or (ih has)

/-- **A clause shows its placeholder** as often as there are columns. -/
theorem shows_clause (h : t.Unmarked) (hp : Shows p [p]) (grouped : Bool) :
    Shows (t.clause p grouped) (List.replicate t.placeholdersPerTerm p) := by
  have hatoms := shows_atoms h hp
  obtain ⟨hcount, ⟨a, hone, hclause⟩ | ⟨a, as, hmany, hclause⟩⟩ := clause_cases t p grouped
  · rw [hone] at hatoms hcount
    rw [hclause, hcount]
    exact hatoms a List.mem_cons_self
  · rw [hmany] at hatoms hcount
    rw [hclause, hcount]
    exact (shows_alternatives hatoms).enclosed grouped

/-- The placeholders for some numbers, each as often as there are columns. -/
def placeholdersFor (t : Template) (numbers : List Nat) : List Text :=
  numbers.flatMap fun i => List.replicate t.placeholdersPerTerm (t.param.placeholder i)

end Template

/-- **A fragment shows the placeholders of its subtree**, whose terms are counted from `first`. -/
theorem Tree.shows_rendered {template : Template} (h : template.Unmarked) (t : Tree) (first : Nat)
    (grouped : Bool) :
    Shows ((t.numberFrom first).rendered template.renderer grouped)
      (template.placeholdersFor (List.range' first t.leafCount)) := by
  induction t generalizing first grouped with
  | leaf term =>
    rw [leafCount, List.range'_one, Template.placeholdersFor, List.flatMap_singleton]
    exact Template.shows_clause h (template.param.shows_placeholder first) grouped
  | not child ih => exact (ih first false).group.after (s := "NOT ") (by decide)
  | and left right ihl ihr =>
    rw [leafCount, ← List.range'_append_1, Template.placeholdersFor, List.flatMap_append]
    exact ((ihl first true).and (ihr (first + left.leafCount) true)).enclosed grouped
  | or left right ihl ihr =>
    rw [leafCount, ← List.range'_append_1, Template.placeholdersFor, List.flatMap_append]
    exact ((ihl first true).or (ihr (first + left.leafCount) true)).enclosed grouped

theorem Tree.scan_fragment {template : Template} (h : template.Unmarked) (t : Tree) :
    Placeholder.scan (t.compile template.renderer).fragment =
      template.placeholdersFor (List.range' 1 t.leafCount) := by
  rw [t.fragment_compile]
  exact (t.shows_rendered h 1 false).scan_eq

theorem Template.length_placeholdersFor (t : Template) (numbers : List Nat) :
    (t.placeholdersFor numbers).length = numbers.length * t.placeholdersPerTerm := by
  simp only [placeholdersFor, List.length_flatMap, List.length_replicate, List.map_const',
    List.sum_replicate_nat]

/-- Anonymous placeholders are all the same, so they are counted by their mark. -/
theorem Tree.count_fragment {template : Template} (h : template.Unmarked)
    (hstyle : template.param = .anonymous) (t : Tree) :
    (t.compile template.renderer).fragment.count '?' =
      t.leafCount * template.placeholdersPerTerm := by
  have hall : ∀ p ∈ template.placeholdersFor (List.range' 1 t.leafCount),
      decide (p.head? = some '?') = true := by
    intro p hp
    obtain ⟨i, -, hp⟩ := List.mem_flatMap.1 hp
    rw [List.eq_of_mem_replicate hp, hstyle]
    rfl
  rw [Placeholder.count_eq_countP_scan (by decide), t.scan_fragment h, List.countP_eq_length.2 hall,
    Template.length_placeholdersFor, List.length_range']

/-! ## Names -/

theorem Text.ofNat_injective : Function.Injective Text.ofNat := by
  intro a b h
  have hdigits := congrArg (Nat.ofDigitChars 10 · 0) h
  simpa [Text.ofNat] using hdigits

theorem paramName_injective : Function.Injective paramName := by
  intro a b h
  exact Text.ofNat_injective (List.cons.inj h).2

theorem map_fst_namedFrom (first : Nat) (args : List Text) :
    (namedFrom first args).map Prod.fst = (List.range' first args.length).map paramName := by
  induction args generalizing first with
  | nil => rfl
  | cons value rest ih => exact congrArg (paramName first :: ·) (ih (first + 1))

theorem nodup_namedArgs (args : List Text) : ((namedArgs args).map Prod.fst).Nodup := by
  rw [namedArgs, map_fst_namedFrom]
  exact (List.nodup_range' 1).map paramName_injective

/-- **Each name leads to its value.** -/
theorem lookup_namedFrom (first : Nat) (args : List Text) :
    (List.range' first args.length).map (fun i => (namedFrom first args).lookup (paramName i)) =
      args.map some := by
  induction args generalizing first with
  | nil => rfl
  | cons value rest ih =>
    rw [List.length_cons, List.range'_succ, List.map_cons, List.map_cons, ← ih (first + 1)]
    refine congrArg₂ List.cons List.lookup_cons_self (List.map_congr_left fun i hi => ?_)
    -- the names that come later are different ones
    have hne : paramName i ≠ paramName first := by
      intro heq
      obtain rfl := paramName_injective heq
      exact absurd (List.mem_range'_1.1 hi).1 (Nat.not_succ_le_self i)
    rw [namedFrom, List.lookup_cons, beq_eq_false_iff_ne.2 hne]

namespace Run

theorem insertNamed_perm (p : Text × Text) (named : List (Text × Text)) :
    (insertNamed p named).Perm (p :: named) := by
  induction named with
  | nil => exact List.Perm.refl [p]
  | cons q rest ih =>
    rw [insertNamed]
    split
    · exact List.Perm.refl _
    · exact (ih.cons q).trans (List.Perm.swap p q rest)

theorem sortNamed_perm (named : List (Text × Text)) : (sortNamed named).Perm named := by
  induction named with
  | nil => exact List.Perm.refl []
  | cons p rest ih => exact (insertNamed_perm p (sortNamed rest)).trans (ih.cons p)

theorem pairwise_insertNamed {p : Text × Text} {named : List (Text × Text)}
    (hp : ∀ q ∈ named, p.1 ≠ q.1) (h : named.Pairwise fun a b => Text.precedes a.1 b.1) :
    (insertNamed p named).Pairwise fun a b => Text.precedes a.1 b.1 := by
  induction named with
  | nil => exact List.pairwise_singleton _ p
  | cons q rest ih =>
    obtain ⟨hpq, hp⟩ := List.forall_mem_cons.1 hp
    obtain ⟨hq, hrest⟩ := List.pairwise_cons.1 h
    rw [insertNamed]
    split
    next hlt =>
      refine List.pairwise_cons.2 ⟨List.forall_mem_cons.2 ⟨hlt, ?_⟩, h⟩
      intro r hr
      exact Text.precedes_trans hlt (hq r hr)
    next hnlt =>
      refine List.pairwise_cons.2 ⟨?_, ih hp hrest⟩
      intro r hr
      rcases List.mem_cons.1 ((insertNamed_perm p rest).mem_iff.1 hr) with rfl | hr
      · exact Text.precedes_connected hpq (by simpa using hnlt)
      · exact hq r hr

/-- **Values with different names are put in order**, each once. -/
theorem pairwise_sortNamed {named : List (Text × Text)} (h : (named.map Prod.fst).Nodup) :
    (sortNamed named).Pairwise fun a b => Text.precedes a.1 b.1 := by
  induction named with
  | nil => exact List.Pairwise.nil
  | cons p rest ih =>
    obtain ⟨hp, hrest⟩ := List.nodup_cons.1 h
    refine pairwise_insertNamed ?_ (ih hrest)
    intro q hq heq
    apply hp
    rw [heq]
    exact List.mem_map_of_mem ((sortNamed_perm rest).mem_iff.1 hq)

end Run

/-! ## Placeholders and values -/

/-- A template is misaligned if its placeholders are anonymous and there are more of them than
terms. -/
theorem Template.misaligned_eq_false_iff {t : Template} (hstyle : t.param = .anonymous) :
    t.misaligned = false ↔ t.placeholdersPerTerm = 1 := by
  have hpos : 1 ≤ t.placeholdersPerTerm := Nat.le_max_right _ _
  simp only [misaligned, hstyle, decide_true, Bool.true_and, decide_eq_false_iff_not]
  omega

/-- The name in a placeholder leads to the value with the number of the placeholder. -/
theorem map_lookup_placeholdersFor {template : Template} (hstyle : template.param = .named)
    (args : List Text) :
    (template.placeholdersFor (List.range' 1 args.length)).map
        (fun placeholder => (namedArgs args).lookup placeholder.tail) =
      args.flatMap fun value => List.replicate template.placeholdersPerTerm (some value) := by
  calc (template.placeholdersFor (List.range' 1 args.length)).map
        (fun placeholder => (namedArgs args).lookup placeholder.tail)
      = (List.range' 1 args.length).flatMap fun i =>
          List.replicate template.placeholdersPerTerm ((namedArgs args).lookup (paramName i)) := by
        simp only [Template.placeholdersFor, hstyle, List.map_flatMap, List.map_replicate]
        rfl
    _ = ((List.range' 1 args.length).map fun i => (namedArgs args).lookup (paramName i)).flatMap
          (List.replicate template.placeholdersPerTerm) := by rw [List.flatMap_map]
    _ = (args.map some).flatMap (List.replicate template.placeholdersPerTerm) := by
        rw [namedArgs, lookup_namedFrom]
    _ = args.flatMap fun value => List.replicate template.placeholdersPerTerm (some value) := by
        rw [List.flatMap_map]

/-- **Placeholders and values line up.** The placeholders in the fragment of a tree are those of its
terms in order, each as often as there are columns. So anonymous ones are as many as the values
exactly if the template is not misaligned; and with named ones the names are all different, the name
in every placeholder leads to the text of its term, and putting the names in order loses none. -/
theorem placeholders_align {template : Template} (h : template.Unmarked) (t : Tree) {c : Compiled}
    (hc : t.compile template.renderer = c) :
    Placeholder.scan c.fragment =
        ((List.range' 1 t.leafCount).flatMap fun i =>
          List.replicate template.placeholdersPerTerm (template.param.placeholder i)) ∧
      (template.param = .anonymous →
        (c.fragment.count '?' = c.args.length ↔ template.misaligned = false)) ∧
      (template.param = .named →
        ((namedArgs c.args).map Prod.fst).Nodup ∧
          (Placeholder.scan c.fragment).map
              (fun placeholder => (namedArgs c.args).lookup placeholder.tail) =
            (t.leaves.flatMap fun leaf =>
              List.replicate template.placeholdersPerTerm (some leaf.text)) ∧
          (Run.sortNamed (namedArgs c.args)).Perm (namedArgs c.args) ∧
          (Run.sortNamed (namedArgs c.args)).Pairwise fun a b => Text.precedes a.1 b.1) := by
  subst hc
  have hargs : (t.compile template.renderer).args.length = t.leafCount := by
    rw [t.args_compile, List.length_map, t.length_leaves]
  refine ⟨t.scan_fragment h, ?_, ?_⟩
  · intro hstyle
    have hpos := t.leafCount_pos
    rw [t.count_fragment h hstyle, hargs, Template.misaligned_eq_false_iff hstyle]
    constructor
    · intro hcount
      exact Nat.eq_of_mul_eq_mul_left hpos (hcount.trans (Nat.mul_one _).symm)
    · intro hone
      rw [hone, Nat.mul_one]
  · intro hstyle
    have hnodup := nodup_namedArgs (t.compile template.renderer).args
    refine ⟨hnodup, ?_, Run.sortNamed_perm _, Run.pairwise_sortNamed hnodup⟩
    rw [t.scan_fragment h, ← hargs, map_lookup_placeholdersFor hstyle, t.args_compile,
      List.flatMap_map]

/-- Two columns and names: every name stands twice, and a value that comes again has another name.
-/
theorem placeholders_align_twoColumns :
    Template.Unmarked ⟨["name", "note"], "LIKE", .named⟩ ∧
      Tree.compile (Template.renderer ⟨["name", "note"], "LIKE", .named⟩)
          (.and (.leaf ⟨"%a%", .contains⟩) (.not (.leaf ⟨"%a%", .contains⟩))) =
        ⟨"(name LIKE :p1 OR note LIKE :p1) AND NOT (name LIKE :p2 OR note LIKE :p2)",
          ["%a%", "%a%"]⟩ ∧
      Placeholder.scan
          "(name LIKE :p1 OR note LIKE :p1) AND NOT (name LIKE :p2 OR note LIKE :p2)" =
        [":p1", ":p1", ":p2", ":p2"] ∧
      ((namedArgs ["%a%", "%a%"]).map Prod.fst).Nodup := by
  have hunmarked : Template.Unmarked ⟨["name", "note"], "LIKE", .named⟩ :=
    ⟨by decide, by decide⟩
  have hcompile : Tree.compile (Template.renderer ⟨["name", "note"], "LIKE", .named⟩)
        (.and (.leaf ⟨"%a%", .contains⟩) (.not (.leaf ⟨"%a%", .contains⟩))) =
      ⟨"(name LIKE :p1 OR note LIKE :p1) AND NOT (name LIKE :p2 OR note LIKE :p2)",
        ["%a%", "%a%"]⟩ := by
    decide
  obtain ⟨hscan, -, hnamed⟩ := placeholders_align hunmarked _ hcompile
  exact ⟨hunmarked, hcompile, hscan.trans (by decide), (hnamed rfl).1⟩

end SearchClause
