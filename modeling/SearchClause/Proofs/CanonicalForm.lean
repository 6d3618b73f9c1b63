import SearchClause.Proofs.Quotes
import SearchClause.Query.Canonical

/-!
# The canonical form is canonical

A text is canonical (`IsCanonical`) when outside quotes it has no blank, no shell wildcard and no
keyword. `normalize` leads to a canonical text and leaves one as it is, so it changes nothing the
second time. Each pass has its share in that:

* **keywords** — `cleanFrom_foldFrom`: after folding, no run of letters outside quotes is a keyword;
* **layout** — `cleanFrom_layFrom`: dropping blanks brings no keyword back. Without its blank `A ND`
  would be one; but a letter can both end and start a term, so a `+` is written between the two
  runs. `Laid` keeps track of it.
-/

namespace SearchClause

/-- A character that a canonical text may have outside quotes. -/
def IsPlainChar (c : Char) : Prop :=
  isBlank c = false ∧ c ≠ '*' ∧ c ≠ '?'

instance : DecidablePred IsPlainChar :=
  fun _ => inferInstanceAs (Decidable (_ ∧ _ ∧ _))

/-- Outside quotes there is no blank, no shell wildcard and no keyword. -/
def IsCanonical (s : Text) : Prop :=
  CleanOutside IsPlainChar s

instance (s : Text) : Decidable (IsCanonical s) :=
  decidable_of_iff (CleanFrom IsPlainChar false [] s) cleanOutside_iff.symm

namespace Canonical

/-- How the text read and the text written go together at a place: `run` is the run of letters read
last, and `out` the one written last. They are the same run until a blank is dropped; then the run
read is over, and the run written is not a keyword but might go on, if not for the gap. -/
inductive Laid : Place → Bool → Text → Text → Prop where
  /-- between quotes no run is kept -/
  | quoted : Laid .quoted true [] []
  /-- a blank has been dropped after the run -/
  | gap {last out} : ¬ IsKeyword out → Laid (.outside last true) false [] out
  /-- nothing has been dropped that a run could miss -/
  | close {last run} : (run ≠ [] → last.any endsTerm = true) →
      Laid (.outside last false) false run run

variable {allowed : Char → Prop} {c : Char} {run out s rest : Text} {quoted gap : Bool}
  {last : Option Char} {place : Place}

/-! ## Keywords -/

theorem foldWord_eq_self (h : ¬ IsKeyword run) : foldWord run = run := by
  simp only [IsKeyword, not_or] at h
  rw [foldWord, if_neg h.1, if_neg h.2]

theorem foldFrom_quote :
    foldFrom quoted run ('"' :: rest) = foldWord run ++ '"' :: foldFrom (!quoted) [] rest := by
  simp [foldFrom]

theorem foldFrom_quoted (hc : c ≠ '"') :
    foldFrom true run (c :: rest) = c :: foldFrom true [] rest := by
  simp [foldFrom, hc]

theorem foldFrom_letter (hc : isAlphabetic c = true) :
    foldFrom false run (c :: rest) = foldFrom false (run ++ [c]) rest := by
  simp [foldFrom, hc, ne_quote_of_isAlphabetic hc]

theorem foldFrom_other (hne : c ≠ '"') (hc : isAlphabetic c = false) :
    foldFrom false run (c :: rest) = foldWord run ++ c :: foldFrom false [] rest := by
  simp [foldFrom, hne, hc]

/-- A run of letters is written as an operator or as itself, and then it is no keyword. -/
theorem cleanFrom_foldWord (hrun : ∀ c ∈ run, isAlphabetic c = true)
    (hs : ∀ r, ¬ IsKeyword r → CleanFrom (fun _ => True) false r s) :
    CleanFrom (fun _ => True) false [] (foldWord run ++ s) := by
  by_cases hkey : IsKeyword run
  · have hrest := hs [] not_isKeyword_nil
    rcases hkey with rfl | rfl
    · exact (cleanFrom_other (by decide) (by decide)).2 ⟨trivial, not_isKeyword_nil, hrest⟩
    · exact (cleanFrom_other (by decide) (by decide)).2 ⟨trivial, not_isKeyword_nil, hrest⟩
  · rw [foldWord_eq_self hkey, cleanFrom_run hrun]
    exact ⟨fun _ _ => trivial, hs run hkey⟩

/-- **After folding there is no keyword outside quotes.** -/
theorem cleanFrom_foldFrom (hrun : ∀ c ∈ run, isAlphabetic c = true)
    (hquoted : quoted = true → run = []) :
    CleanFrom (fun _ => True) quoted [] (foldFrom quoted run s) := by
  induction s generalizing quoted run with
  | nil =>
    cases quoted with
    | true =>
      rw [hquoted rfl]
      exact not_isKeyword_nil
    | false =>
      -- the text ends a run as well as a quote does
      have hend := cleanFrom_foldWord (s := []) hrun fun _ hr => hr
      rwa [List.append_nil] at hend
  | cons c rest ih =>
    have hrest (q : Bool) : CleanFrom (fun _ => True) q [] (foldFrom q [] rest) :=
      ih (by simp) fun _ => rfl
    by_cases hq : c = '"'
    · subst hq
      rw [foldFrom_quote]
      cases quoted with
      | true =>
        rw [hquoted rfl]
        exact cleanFrom_quote.2 ⟨not_isKeyword_nil, hrest false⟩
      | false => exact cleanFrom_foldWord hrun fun r hr => cleanFrom_quote.2 ⟨hr, hrest true⟩
    · cases quoted with
      | true =>
        rw [foldFrom_quoted hq]
        exact (cleanFrom_quoted hq).2 (hrest true)
      | false =>
        cases hc : isAlphabetic c with
        | true =>
          rw [foldFrom_letter hc]
          exact ih (List.forall_mem_append.2 ⟨hrun, List.forall_mem_singleton.2 hc⟩) (by simp)
        | false =>
          rw [foldFrom_other hq hc]
          exact cleanFrom_foldWord hrun fun r hr =>
            (cleanFrom_other hq hc).2 ⟨trivial, hr, hrest false⟩

/-- A text without keywords is left as it is. -/
theorem foldFrom_eq_self (h : CleanFrom allowed quoted run s) (hquoted : quoted = true → run = []) :
    foldFrom quoted run s = run ++ s := by
  induction s generalizing quoted run with
  | nil => rw [foldFrom, foldWord_eq_self h, List.append_nil]
  | cons c rest ih =>
    by_cases hq : c = '"'
    · subst hq
      obtain ⟨hrun, hrest⟩ := cleanFrom_quote.1 h
      rw [foldFrom_quote, foldWord_eq_self hrun, ih hrest fun _ => rfl, List.nil_append]
    · cases quoted with
      | true =>
        rw [foldFrom_quoted hq, ih ((cleanFrom_quoted hq).1 h) fun _ => rfl, hquoted rfl]
        rfl
      | false =>
        cases hc : isAlphabetic c with
        | true =>
          rw [foldFrom_letter hc, ih ((cleanFrom_letter hc).1 h).2 (by simp), List.append_assoc]
          rfl
        | false =>
          obtain ⟨-, hrun, hrest⟩ := (cleanFrom_other hq hc).1 h
          rw [foldFrom_other hq hc, foldWord_eq_self hrun, ih hrest fun _ => rfl, List.nil_append]

/-! ## Layout -/

theorem layFrom_blank (hc : isBlank c = true) :
    layFrom (.outside last gap) (c :: rest) =
      layFrom (.outside last (gap || last.any endsTerm)) rest := by
  simp [layFrom, hc]

/-- A character that is no blank is written, after a `+` where a term starts behind a gap. An
operator starts no term, so its own branch is no exception. -/
theorem layFrom_written (hc : isBlank c = false) :
    layFrom (.outside last gap) (c :: rest) =
      (if gap && startsTerm (mapWildcard c) then ['+'] else []) ++
        mapWildcard c :: layFrom (.after (mapWildcard c)) rest := by
  by_cases hop : c = '+' ∨ c = ','
  · have hplain : mapWildcard c = c ∧ startsTerm c = false ∧
        Place.after c = .outside (some c) false := by
      rcases hop with rfl | rfl
      · decide
      · decide
    obtain ⟨hmap, hstart, hafter⟩ := hplain
    -- both sides write the operator alone, with a gap or without
    simp [layFrom, hc, hop, hmap, hstart, hafter]
  · simp only [layFrom, hc, hop, Bool.false_eq_true, if_false, Bool.or_eq_true, decide_eq_true_eq]
    split <;> rfl

theorem layFrom_quote :
    layFrom .quoted ('"' :: rest) = '"' :: layFrom (.outside (some '"') false) rest := by
  simp [layFrom]

theorem layFrom_quoted (hc : c ≠ '"') :
    layFrom .quoted (c :: rest) = c :: layFrom .quoted rest := by
  simp [layFrom, hc]

theorem mapWildcard_eq_self (hstar : c ≠ '*') (hmark : c ≠ '?') : mapWildcard c = c := by
  rw [mapWildcard, if_neg hstar, if_neg hmark]

/-- What holds of the signs for wildcards and of all that is no wildcard holds of what is written.
-/
theorem mapWildcard_induction {P : Char → Prop} (hmany : P '%') (hone : P '_')
    (hself : c ≠ '*' → c ≠ '?' → P c) : P (mapWildcard c) := by
  rw [mapWildcard]
  split
  next => exact hmany
  next hstar =>
    split
    next => exact hone
    next hmark => exact hself hstar hmark

theorem isPlainChar_mapWildcard (hc : isBlank c = false) : IsPlainChar (mapWildcard c) :=
  mapWildcard_induction (by decide) (by decide) fun hstar hmark => ⟨hc, hstar, hmark⟩

theorem mapWildcard_ne_quote (hc : c ≠ '"') : mapWildcard c ≠ '"' :=
  mapWildcard_induction (P := (· ≠ '"')) (by decide) (by decide) fun _ _ => hc

theorem isAlphabetic_mapWildcard (hc : isAlphabetic c = false) :
    isAlphabetic (mapWildcard c) = false :=
  mapWildcard_induction (P := (isAlphabetic · = false)) (by decide) (by decide) fun _ _ => hc

theorem mapWildcard_of_isAlphabetic (hc : isAlphabetic c = true) : mapWildcard c = c := by
  refine mapWildcard_eq_self ?_ ?_
  · rintro rfl
    exact absurd hc (by decide)
  · rintro rfl
    exact absurd hc (by decide)

theorem isWordChar_of_isAlphabetic (hc : isAlphabetic c = true) : isWordChar c = true := by
  simp [isWordChar, hc]

theorem Laid.not_isKeyword (h : Laid place quoted run out) (hrun : ¬ IsKeyword run) :
    ¬ IsKeyword out := by
  cases h with
  | quoted => exact hrun
  | gap hout => exact hout
  | close _ => exact hrun

theorem Laid.blank (h : Laid (.outside last gap) false run out) (hrun : ¬ IsKeyword run) :
    Laid (.outside last (gap || last.any endsTerm)) false [] out := by
  cases h with
  | gap hout => exact .gap hout
  | close hends =>
    cases hlast : last.any endsTerm with
    | true => exact .gap hrun
    | false =>
      have hnil : run = [] := by
        by_contra hne
        rw [hends hne] at hlast
        cases hlast
      rw [hnil]
      exact .close (absurd rfl)

theorem laid_after_letter (hc : isAlphabetic c = true) :
    Laid (.after c) false (run ++ [c]) (run ++ [c]) := by
  rw [Place.after, if_neg (ne_quote_of_isAlphabetic hc)]
  exact .close fun _ => by simp [endsTerm, isWordChar_of_isAlphabetic hc]

theorem laid_after (hc : c ≠ '"') : Laid (.after c) false [] [] := by
  rw [Place.after, if_neg hc]
  exact .close (absurd rfl)

/-- A `+` ends a run and starts none. -/
theorem cleanFrom_separated {b : Bool} (hout : ¬ IsKeyword out)
    (hs : ∀ r, ¬ IsKeyword r → CleanFrom IsPlainChar false r s) :
    CleanFrom IsPlainChar false out ((if b then ['+'] else []) ++ s) := by
  cases b with
  | true =>
    have hplus := hs [] not_isKeyword_nil
    exact (cleanFrom_other (by decide) (by decide)).2 ⟨by decide, hout, hplus⟩
  | false => exact hs out hout

/-- A letter goes on with the run it goes on with in the text read. -/
theorem Laid.letter (h : Laid (.outside last gap) false run out) (hc : isAlphabetic c = true)
    (hs : CleanFrom IsPlainChar false (run ++ [c]) s) :
    CleanFrom IsPlainChar false out ((if gap && startsTerm c then ['+'] else []) ++ c :: s) := by
  have hplain : IsPlainChar c := by
    have hmap := isPlainChar_mapWildcard (isBlank_of_isWordChar (isWordChar_of_isAlphabetic hc))
    rwa [mapWildcard_of_isAlphabetic hc] at hmap
  cases h with
  | gap hout =>
    have hstart : startsTerm c = true := by simp [startsTerm, isWordChar_of_isAlphabetic hc]
    rw [hstart]
    exact (cleanFrom_other (by decide) (by decide)).2
      ⟨by decide, hout, (cleanFrom_letter hc).2 ⟨hplain, hs⟩⟩
  | close _ => exact (cleanFrom_letter hc).2 ⟨hplain, hs⟩

/-- **Layout leaves no blank and no wildcard outside quotes, and brings no keyword back.** -/
theorem cleanFrom_layFrom (h : Laid place quoted run out)
    (hclean : CleanFrom (fun _ => True) quoted run s) :
    CleanFrom IsPlainChar quoted out (layFrom place s) := by
  induction s generalizing place quoted run out with
  | nil =>
    rw [layFrom]
    exact h.not_isKeyword hclean
  | cons c rest ih =>
    cases place with
    | quoted =>
      cases h
      by_cases hq : c = '"'
      · subst hq
        rw [layFrom_quote]
        have hrest := (cleanFrom_quote.1 hclean).2
        exact cleanFrom_quote.2 ⟨not_isKeyword_nil, ih (.close (absurd rfl)) hrest⟩
      · rw [layFrom_quoted hq]
        exact (cleanFrom_quoted hq).2 (ih .quoted ((cleanFrom_quoted hq).1 hclean))
    | outside last gap =>
      obtain rfl : quoted = false := by
        cases h
        · rfl
        · rfl
      cases hc : isAlphabetic c with
      | true =>
        -- a letter is the one character that a run could go on with
        have hblank := isBlank_of_isWordChar (isWordChar_of_isAlphabetic hc)
        rw [layFrom_written hblank, mapWildcard_of_isAlphabetic hc]
        exact h.letter hc (ih (laid_after_letter hc) ((cleanFrom_letter hc).1 hclean).2)
      | false =>
        by_cases hq : c = '"'
        · subst hq
          obtain ⟨hrun, hrest⟩ := cleanFrom_quote.1 hclean
          rw [layFrom_written (by decide)]
          exact cleanFrom_separated (h.not_isKeyword hrun) fun r hr =>
            cleanFrom_quote.2 ⟨hr, ih .quoted hrest⟩
        · obtain ⟨-, hrun, hrest⟩ := (cleanFrom_other hq hc).1 hclean
          cases hblank : isBlank c with
          | true =>
            -- nothing is written, so the run written waits behind the gap
            rw [layFrom_blank hblank]
            exact ih (h.blank hrun) hrest
          | false =>
            have hne := mapWildcard_ne_quote hq
            rw [layFrom_written hblank]
            refine cleanFrom_separated (h.not_isKeyword hrun) fun r hr => ?_
            exact (cleanFrom_other hne (isAlphabetic_mapWildcard hc)).2
              ⟨isPlainChar_mapWildcard hblank, hr, ih (laid_after hne) hrest⟩

/-- A canonical text is left as it is. -/
theorem layFrom_eq_self (last : Option Char) (h : CleanFrom IsPlainChar quoted run s) :
    layFrom (if quoted then .quoted else .outside last false) s = s := by
  induction s generalizing quoted run last with
  | nil => rw [layFrom]
  | cons c rest ih =>
    by_cases hq : c = '"'
    · subst hq
      have hrest := (cleanFrom_quote.1 h).2
      cases quoted with
      | true => exact layFrom_quote.trans (congrArg _ (ih _ hrest))
      | false =>
        have hwritten : layFrom (.outside last false) ('"' :: rest) = '"' :: layFrom .quoted rest :=
          layFrom_written (by decide)
        exact hwritten.trans (congrArg _ (ih last hrest))
    · cases quoted with
      | true => exact (layFrom_quoted hq).trans (congrArg _ (ih last ((cleanFrom_quoted hq).1 h)))
      | false =>
        obtain ⟨hplain, r, hrest⟩ : IsPlainChar c ∧ ∃ r, CleanFrom IsPlainChar false r rest := by
          cases hc : isAlphabetic c with
          | true => exact ⟨((cleanFrom_letter hc).1 h).1, _, ((cleanFrom_letter hc).1 h).2⟩
          | false => exact ⟨((cleanFrom_other hq hc).1 h).1, _, ((cleanFrom_other hq hc).1 h).2.2⟩
        have hwritten :
            layFrom (.outside last false) (c :: rest) = c :: layFrom (.after c) rest := by
          rw [layFrom_written hplain.1, mapWildcard_eq_self hplain.2.1 hplain.2.2]
          rfl
        rw [Place.after, if_neg hq] at hwritten
        exact hwritten.trans (congrArg _ (ih _ hrest))

end Canonical

theorem isCanonical_normalize (raw : Text) : IsCanonical (normalize raw) := by
  have hfold : CleanFrom (fun _ => True) false [] (Canonical.foldKeywords raw) :=
    Canonical.cleanFrom_foldFrom (by simp) (by simp)
  exact cleanOutside_iff.2 (Canonical.cleanFrom_layFrom (.close (absurd rfl)) hfold)

theorem normalize_eq_self {s : Text} (h : IsCanonical s) : normalize s = s := by
  have hclean := cleanOutside_iff.1 h
  rw [normalize, Canonical.foldKeywords, Canonical.foldFrom_eq_self hclean (by simp)]
  exact Canonical.layFrom_eq_self none hclean

/-- **Normalizing leads to the canonical texts and leaves exactly them as they are.** So doing it
twice is doing it once. -/
theorem normalize_eq_self_iff_isCanonical :
    (∀ raw, IsCanonical (normalize raw)) ∧ (∀ s, normalize s = s ↔ IsCanonical s) ∧
      ∀ q, normalize (normalize q) = normalize q := by
  refine ⟨isCanonical_normalize, fun s => ⟨fun h => ?_, normalize_eq_self⟩, fun q => ?_⟩
  · rw [← h]
    exact isCanonical_normalize s
  · exact normalize_eq_self (isCanonical_normalize q)

example : normalize ['A', ' ', 'N', 'D', ' ', 'O', 'R', '*'] = ['A', '+', 'N', 'D', ',', '%'] ∧
    IsCanonical ['A', '+', 'N', 'D', ',', '%'] := by
  decide

end SearchClause
