import SearchClause.Proofs.CleanSettings
import SearchClause.Proofs.FlatContent
import SearchClause.Proofs.Sanitizing
import SearchClause.Proofs.TypedTerms

/-!
# Values stay within the sanitizer's characters

The sanitizer sees the text that was typed, and the database the values made from it. In between a
query is normalized, cut into terms, and its terms are marked. Each of these steps is followed for
any class of characters that has the few signs they write by themselves (`writtenSigns`): what goes
in from the class comes out in the class. And no step leaves a quote in a value.

* **trees** — `forall_mem_normalize`, and `Origin.forall_mem_text` for a term wherever it stood;
* **flat queries** — `Flat.forall_mem_groups`;
* **the command** — `Run.compile_confines_arguments` puts them behind the sanitizer.
-/

namespace SearchClause

/-- The signs that are written without having been typed: the operators, and the marks of a
pattern. -/
def writtenSigns : Text :=
  ['+', ',', '%', '_']

variable {P : Char → Prop}

/-! ## Normalizing -/

namespace Canonical

variable {run s : Text} {quoted : Bool} {place : Place} {c : Char}

theorem forall_mem_foldWord (hsigns : ∀ c ∈ writtenSigns, P c) (hrun : ∀ c ∈ run, P c) :
    ∀ c ∈ foldWord run, P c := by
  rw [foldWord]
  split
  · exact List.forall_mem_singleton.2 (hsigns '+' (by decide))
  · split
    · exact List.forall_mem_singleton.2 (hsigns ',' (by decide))
    · exact hrun

theorem forall_mem_foldFrom (hsigns : ∀ c ∈ writtenSigns, P c) (hrun : ∀ c ∈ run, P c)
    (hs : ∀ c ∈ s, P c) : ∀ c ∈ foldFrom quoted run s, P c := by
  have hnil : ∀ c ∈ ([] : Text), P c := List.forall_mem_nil P
  induction s generalizing quoted run with
  | nil => exact forall_mem_foldWord hsigns hrun
  | cons c rest ih =>
    obtain ⟨hc, hrest⟩ := List.forall_mem_cons.1 hs
    have hword := forall_mem_foldWord hsigns hrun
    by_cases hq : c = '"'
    · subst hq
      rw [foldFrom_quote]
      exact List.forall_mem_append.2 ⟨hword, List.forall_mem_cons.2 ⟨hc, ih hnil hrest⟩⟩
    · cases quoted with
      | true =>
        rw [foldFrom_quoted hq]
        exact List.forall_mem_cons.2 ⟨hc, ih hnil hrest⟩
      | false =>
        cases halpha : isAlphabetic c with
        | true =>
          rw [foldFrom_letter halpha]
          exact ih (List.forall_mem_append.2 ⟨hrun, List.forall_mem_singleton.2 hc⟩) hrest
        | false =>
          rw [foldFrom_other hq halpha]
          exact List.forall_mem_append.2 ⟨hword, List.forall_mem_cons.2 ⟨hc, ih hnil hrest⟩⟩

theorem forall_mem_put (hsigns : ∀ c ∈ writtenSigns, P c) (hc : P c) :
    ∀ d ∈ place.put c, P d := by
  cases place with
  | quoted => exact List.forall_mem_singleton.2 hc
  | outside last gap =>
    have hplus : ∀ d ∈ (if gap && startsTerm (mapWildcard c) then ['+'] else [] : Text), P d := by
      split
      · exact List.forall_mem_singleton.2 (hsigns '+' (by decide))
      · exact List.forall_mem_nil P
    have hmapped : P (mapWildcard c) :=
      mapWildcard_induction (hsigns '%' (by decide)) (hsigns '_' (by decide)) fun _ _ => hc
    rw [Place.put]
    split
    · exact List.forall_mem_nil P
    · exact List.forall_mem_append.2 ⟨hplus, List.forall_mem_singleton.2 hmapped⟩

theorem forall_mem_layFrom (hsigns : ∀ c ∈ writtenSigns, P c) (hs : ∀ c ∈ s, P c) :
    ∀ c ∈ layFrom place s, P c := by
  induction s generalizing place with
  | nil =>
    rw [layFrom]
    exact List.forall_mem_nil P
  | cons c rest ih =>
    obtain ⟨hc, hrest⟩ := List.forall_mem_cons.1 hs
    rw [layFrom_cons]
    exact List.forall_mem_append.2 ⟨forall_mem_put hsigns hc, ih hrest⟩

end Canonical

/-- **Normalizing writes nothing but its signs.** -/
theorem forall_mem_normalize {s : Text} (hsigns : ∀ c ∈ writtenSigns, P c) (hs : ∀ c ∈ s, P c) :
    ∀ c ∈ normalize s, P c :=
  Canonical.forall_mem_layFrom hsigns
    (Canonical.forall_mem_foldFrom hsigns (List.forall_mem_nil P) hs)

/-! ## Terms of a tree -/

/-- **A term has characters of the text it stands in**, besides the mark of a pattern, and no
quote. -/
theorem Origin.forall_mem_text {s : Text} {term : Term} (h : Origin s term)
    (hsigns : ∀ c ∈ writtenSigns, P c) (hs : ∀ c ∈ s, P c) :
    ∀ c ∈ term.text, P c ∧ c ≠ '"' := by
  cases h with
  | @phrase u p v heq _ _ hp =>
    intro c hc
    refine ⟨hs c (by simp [heq, hc]), ?_⟩
    rintro rfl
    exact hp hc
  | @word u w v _ heq _ hw hterm =>
    intro c hc
    rcases Reader.mem_of_termOfWord hterm hc with hmem | rfl
    · exact ⟨hs c (by simp [heq, hmem]), Canonical.ne_quote_of_isWordChar (hw c hmem)⟩
    · exact ⟨hsigns '%' (by decide), by decide⟩

theorem forall_mem_args_of_buildTree {limit : Option Nat} {raw : Text} {t : Tree}
    (h : buildTree limit raw = .ok t) (hsigns : ∀ c ∈ writtenSigns, P c) (hraw : ∀ c ∈ raw, P c)
    (render : Renderer) : ∀ arg ∈ (t.compile render).args, ∀ c ∈ arg, P c ∧ c ≠ '"' := by
  intro arg harg
  rw [Tree.args_compile] at harg
  obtain ⟨term, hterm, rfl⟩ := List.mem_map.1 harg
  obtain ⟨b, hd, -⟩ := isQuery_of_buildTree h
  exact (hd.origin term hterm).forall_mem_text hsigns (forall_mem_normalize hsigns hraw)

/-! ## Terms of a flat query -/

theorem Text.subset_joinWith (separator : Text) {p : Text} {ps : List Text} (h : p ∈ ps) :
    p ⊆ joinWith separator ps := by
  induction ps with
  | nil => cases h
  | cons q ps ih =>
    cases ps with
    | nil =>
      obtain rfl := List.mem_singleton.1 h
      exact List.Subset.refl p
    | cons q' ps =>
      show p ⊆ q ++ separator ++ joinWith separator (q' :: ps)
      rcases List.mem_cons.1 h with rfl | h
      · exact List.subset_append_of_subset_left _ (List.subset_append_left _ _)
      · exact List.subset_append_of_subset_right _ (ih h)

namespace Flat

/-- **A term of a flat query is part of it**, and has no quote. -/
theorem forall_mem_groups (query : Text) :
    ∀ group ∈ groups query, ∀ t ∈ group, '"' ∉ t.value ∧ t.value ⊆ query := by
  intro group hgroup t ht
  obtain ⟨hmem, -⟩ := List.mem_filter.1 hgroup
  obtain ⟨piece, hpiece, rfl⟩ := List.mem_map.1 hmem
  obtain ⟨hquote, hsubset⟩ := forall_mem_terms piece.trim t ht
  refine ⟨hquote, fun c hc => ?_⟩
  have hjoined := Text.subset_joinWith [','] hpiece
  rw [Text.joinWith_pieces] at hjoined
  exact hjoined (Text.mem_of_mem_trim (hsubset hc))

theorem forall_mem_args {query : Text} (hsigns : ∀ c ∈ writtenSigns, P c)
    (hquery : ∀ c ∈ query, P c) (render : Text → Bool → Text) :
    ∀ arg ∈ (compile render query).args, ∀ c ∈ arg, P c ∧ c ≠ '"' := by
  intro arg harg
  rw [compile_eq] at harg
  obtain ⟨t, ht, rfl⟩ := List.mem_map.1 harg
  obtain ⟨group, hgroup, ht⟩ := List.mem_flatten.1 ht
  obtain ⟨hquote, hsubset⟩ := forall_mem_groups query group hgroup t ht
  have hmany : P '%' ∧ '%' ≠ '"' := ⟨hsigns '%' (by decide), by decide⟩
  have hvalue : ∀ c ∈ t.value, P c ∧ c ≠ '"' := by
    intro c hc
    refine ⟨hquery c (hsubset hc), ?_⟩
    rintro rfl
    exact hquote hc
  rw [argument]
  split
  · exact hvalue
  · exact List.forall_mem_append.2
      ⟨List.forall_mem_cons.2 ⟨hmany, hvalue⟩, List.forall_mem_singleton.2 hmany⟩

end Flat

/-! ## The command -/

/-- The characters that a value may have behind the sanitizer: letters and digits below 128, and the
punctuation that is kept, except the quote. -/
def IsConfined (value : Text) : Prop :=
  ∀ c ∈ value, (c.isAlphanum = true ∨ c ∈ keptPunctuation) ∧ c ≠ '"'

theorem isKept_writtenSigns : ∀ c ∈ writtenSigns, isKept c = true :=
  List.all_eq_true.1 (by decide)

theorem isConfined_of_isKept {value : Text} (h : ∀ c ∈ value, isKept c = true ∧ c ≠ '"') :
    IsConfined value := by
  intro c hc
  obtain ⟨hkept, hquote⟩ := h c hc
  exact ⟨by simpa [isKept] using hkept, hquote⟩

namespace Run

variable {s : Settings}

theorem prepared_of_sanitize (hs : s.query.sanitize = true) (query : Text) :
    (prepared s false query).1 = sanitize query := by
  delta prepared
  dsimp only
  rw [hs]
  simp only [Bool.not_true, Bool.or_false, Bool.false_eq_true, if_false]
  split
  · rfl
  · rfl

theorem isKept_of_mem_prepared (hs : s.query.sanitize = true) (query : Text) :
    ∀ c ∈ (prepared s false query).1, isKept c = true := by
  rw [prepared_of_sanitize hs]
  exact fun c hc => isKept_of_mem_sanitize hc

theorem isConfined_of_tree (hs : s.query.sanitize = true) {query : Text} {tree : Tree}
    (hbuilt : buildTree s.depthLimit (prepared s false query).1 = .ok tree) (render : Renderer) :
    ∀ arg ∈ (tree.compile render).args, IsConfined arg := by
  intro arg harg
  have hinput := isKept_of_mem_prepared hs query
  exact isConfined_of_isKept
    (forall_mem_args_of_buildTree hbuilt isKept_writtenSigns hinput render arg harg)

theorem isConfined_of_flat (hs : s.query.sanitize = true) (query : Text)
    (render : Text → Bool → Text) :
    ∀ arg ∈ (Flat.compile render (prepared s false query).1).args, IsConfined arg := by
  intro arg harg
  have hinput := isKept_of_mem_prepared hs query
  exact isConfined_of_isKept (Flat.forall_mem_args isKept_writtenSigns hinput render arg harg)

/-- What has been compiled is the flat form of a query, or the tree that was read from it. -/
theorem attempt_eq_ok {query : Text} {asked : Option Text} {raw flat : Bool} {c : Compiled}
    (h : attempt s query asked raw flat = .ok c) :
    (∃ render, c = Flat.compile render (prepared s raw query).1) ∨
      ∃ tree render, buildTree s.depthLimit (prepared s raw query).1 = .ok tree ∧
        c = tree.compile render := by
  cases hget : s.dialects.get? (asked.getD s.query.dialect) with
  | none =>
    rw [attempt_of_unknown (Dialects.get?_eq_none_iff.1 hget)] at h
    cases h
  | some template =>
    rw [attempt_of_known hget, compileIn] at h
    split at h
    · cases h
    · split at h
      · exact .inl ⟨_, (Except.ok.inj h).symm⟩
      · rw [Settings.buildQuery] at h
        cases htree : buildTree s.depthLimit (prepared s raw query).1 with
        | error e =>
          rw [htree] at h
          cases h
        | ok tree =>
          rw [htree] at h
          exact .inr ⟨tree, _, rfl, (Except.ok.inj h).symm⟩

/-- **Behind the sanitizer no value leaves its characters.** Whatever was typed, the values of the
tree read from it and those of its flat form are of letters, digits and the kept punctuation, and
have no quote; so are all values that the command reports when it succeeds. -/
theorem compile_confines_arguments (hs : s.query.sanitize = true) (query : Text) :
    (∀ tree, buildTree s.depthLimit (prepared s false query).1 = .ok tree →
      ∀ render, ∀ arg ∈ (tree.compile render).args, IsConfined arg) ∧
    (∀ render, ∀ arg ∈ (Flat.compile render (prepared s false query).1).args, IsConfined arg) ∧
    ∀ asked json flat, (compile s query asked json false flat).1 = 0 →
      ∃ (events : List Log.Event) (style : ParamStyle) (c : Compiled),
        attempt s query asked false flat = .ok c ∧
        compile s query asked json false flat =
          (0, events.map .log ++
            compiledReport (asked.getD s.query.dialect) style json c) ∧
        ∀ arg ∈ c.args, IsConfined arg := by
  refine ⟨fun tree hbuilt => isConfined_of_tree hs hbuilt, isConfined_of_flat hs query,
    fun asked json flat hcode => ?_⟩
  obtain ⟨events, hrefused, hcompiled⟩ := compile_of_attempt s query asked json false flat
  cases hattempt : attempt s query asked false flat with
  | error r =>
    rw [hrefused r hattempt] at hcode
    cases hcode
  | ok c =>
    obtain ⟨style, hreport⟩ := hcompiled c hattempt
    refine ⟨events, style, c, rfl, hreport, ?_⟩
    rcases attempt_eq_ok hattempt with ⟨render, rfl⟩ | ⟨tree, render, hbuilt, rfl⟩
    · exact isConfined_of_flat hs query render
    · exact isConfined_of_tree hs hbuilt render

/-- A query with letters and signs from elsewhere, in a phrase and next to a wildcard. -/
def foreignQuery : Text :=
  "=\"drop; tä'ble\" ük*?"

/-- The foreign characters are gone from the values of the tree and from those that the command
reports for the flat form. -/
theorem compile_confines_arguments_foreign :
    Settings.builtin.query.sanitize = true ∧
      buildTree Settings.builtin.depthLimit (prepared Settings.builtin false foreignQuery).1 =
        .ok (.and (.leaf ⟨"drop tble", .exact⟩) (.leaf ⟨"k%_", .wildcard⟩)) ∧
      IsConfined "drop tble" ∧ IsConfined "k%_" ∧
      (compile Settings.builtin foreignQuery none true false true).1 = 0 ∧
      ∃ c, attempt Settings.builtin foreignQuery none false true = .ok c ∧
        c.args = ["drop tble".toList, "%k*?%"] ∧ ∀ arg ∈ c.args, IsConfined arg := by
  have hs : Settings.builtin.query.sanitize = true := rfl
  have hinput : (prepared Settings.builtin false foreignQuery).1 = "=\"drop tble\" k*?" := by
    rw [prepared_of_sanitize hs]
    decide
  have hbuilt : buildTree Settings.builtin.depthLimit
      (prepared Settings.builtin false foreignQuery).1 =
        .ok (.and (.leaf ⟨"drop tble", .exact⟩) (.leaf ⟨"k%_", .wildcard⟩)) := by
    rw [hinput]
    decide +kernel
  have hattempt : attempt Settings.builtin foreignQuery none false true =
      .ok ⟨"(value LIKE ?1 AND value LIKE ?2)", ["drop tble", "%k*?%"]⟩ := by
    have hdialect : Settings.builtin.dialects.get?
        ((none : Option Text).getD Settings.builtin.query.dialect) = some Template.builtin := by
      decide
    rw [attempt_of_known hdialect, hinput]
    decide +kernel
  obtain ⟨events, -, hcompiled⟩ :=
    compile_of_attempt Settings.builtin foreignQuery none true false true
  obtain ⟨style, hreport⟩ := hcompiled _ hattempt
  have hcode : (compile Settings.builtin foreignQuery none true false true).1 = 0 := by
    rw [hreport]
  obtain ⟨htree, -, hcommand⟩ := compile_confines_arguments hs foreignQuery
  have hvalues := htree _ hbuilt Template.builtin.renderer
  obtain ⟨-, -, c, hc, -, hconfined⟩ := hcommand none true true hcode
  refine ⟨hs, hbuilt, hvalues _ ?_, hvalues _ ?_, hcode, c, hc, ?_, hconfined⟩
  · simp [Tree.args_compile, Tree.leaves]
  · simp [Tree.args_compile, Tree.leaves]
  · rw [hattempt] at hc
    obtain rfl := Except.ok.inj hc
    rfl

end Run

end SearchClause
