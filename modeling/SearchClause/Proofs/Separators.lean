import SearchClause.Proofs.Spacing

/-!
# Normalizing across blanks and operators

Where no quote is open, normalizing knows two kinds of places by little more than that they are
there.

* **blanks** — `exists_normalize_blanks`: what a run of blanks leaves behind is the same for every
  run, so one may stand for another (`normalize_eq_of_blanks`);
* **operators** — `Canonical.layFrom_parts`: an operator is written alone, and layout starts afresh
  behind it. So normalizing goes through operators to the texts between them
  (`normalize_distributes`). A keyword is an operator where its letters are a whole run: blanks set
  it off, and so does everything else that is no letter.
-/

namespace SearchClause

open Text (Blanks EndsRun StartsRun)

namespace Canonical

variable {c : Char} {b b' k s t u v run : Text}

/-! ## Keywords next to blanks -/

/-- Blanks end a run of letters. -/
theorem endsRun_blanks (hb : Blanks b) (h : b = [] → EndsRun isAlphabetic v) :
    EndsRun isAlphabetic (b ++ v) := by
  cases b with
  | nil => exact h rfl
  | cons c b =>
    exact Text.endsRun_cons.2 (not_isAlphabetic_of_isBlank (hb c List.mem_cons_self))

/-- Behind blanks a run of letters starts. -/
theorem startsRun_blanks (hb : Blanks b) (h : b = [] → StartsRun isAlphabetic u) :
    StartsRun isAlphabetic (u ++ b) := by
  rcases List.eq_nil_or_concat' b with rfl | ⟨b, c, rfl⟩
  · rw [List.append_nil]
    exact h rfl
  · rw [← List.append_assoc]
    exact Text.startsRun_concat (not_isAlphabetic_of_isBlank (hb c (by simp)))

theorem foldKeywords_blanks (hb : Blanks b) : foldKeywords (b ++ v) = b ++ foldKeywords v := by
  induction b with
  | nil => rfl
  | cons c b ih =>
    obtain ⟨hc, hb⟩ := List.forall_mem_cons.1 hb
    have hquote : c ≠ '"' := Text.ne_of_class hc '"' (by decide)
    rw [List.cons_append, foldKeywords_cons hquote (not_isAlphabetic_of_isBlank hc), ih hb,
      List.cons_append]

/-- Keywords are folded on both sides of blanks alone. -/
theorem foldKeywords_append_blanks (hu : Unquoted u) (hb : Blanks b)
    (h : b = [] → EndsRun isAlphabetic v) :
    foldKeywords (u ++ (b ++ v)) = foldKeywords u ++ (b ++ foldKeywords v) := by
  rw [foldKeywords_append hu (endsRun_blanks hb h), foldKeywords_blanks hb]

theorem foldKeywords_trailing (hu : Unquoted u) (hb : Blanks b) :
    foldKeywords (u ++ b) = foldKeywords u ++ b := by
  have happend := foldKeywords_append_blanks (v := []) hu hb fun _ => Text.endsRun_nil
  have hnil : foldKeywords [] = [] := rfl
  rwa [hnil, List.append_nil] at happend

/-- Letters go on with the run that is open. -/
theorem foldFrom_letters (hk : ∀ c ∈ k, isAlphabetic c = true) :
    foldFrom false run (k ++ s) = foldFrom false (run ++ k) s := by
  induction k generalizing run with
  | nil => rw [List.nil_append, List.append_nil]
  | cons c k ih =>
    obtain ⟨hc, hk⟩ := List.forall_mem_cons.1 hk
    rw [List.cons_append, foldFrom_letter hc, ih hk, List.append_assoc, List.singleton_append]

/-- A run of letters at the start of a text is folded as a whole. -/
theorem foldKeywords_run (hk : ∀ c ∈ k, isAlphabetic c = true) (hs : EndsRun isAlphabetic s) :
    foldKeywords (k ++ s) = foldWord k ++ foldKeywords s := by
  rw [foldKeywords, foldFrom_letters hk, List.nil_append, foldFrom_of_endsRun hs]
  rfl

/-! ## Operators -/

/-- **Layout starts afresh behind an operator**, whatever came before it. -/
theorem layFrom_parts (hs : Unquoted s) (hb : Blanks b) (hb' : Blanks b') (hc : c = '+' ∨ c = ',') :
    layFrom (.outside none false) (s ++ (b ++ c :: (b' ++ t))) =
      layFrom (.outside none false) s ++ c :: layFrom (.outside none false) t := by
  obtain ⟨last, gap, hplace⟩ := exists_foldl_next_eq hs none false
  rw [layFrom_append, hplace, layFrom_operator hb hb' hc]

theorem normalize_operator (hu : Unquoted u) (hc : c = '+' ∨ c = ',') :
    normalize (u ++ c :: v) = normalize u ++ c :: normalize v := by
  have hplain : c ≠ '"' ∧ isAlphabetic c = false := by
    rcases hc with rfl | rfl
    · decide
    · decide
  have hfold : foldKeywords (u ++ c :: v) = foldKeywords u ++ c :: foldKeywords v := by
    rw [foldKeywords_append hu (Text.endsRun_cons.2 hplain.2),
      foldKeywords_cons hplain.1 hplain.2]
  have hparts := layFrom_parts (t := foldKeywords v) (unquoted_foldKeywords.2 hu) Text.blanks_nil
    Text.blanks_nil hc
  rw [normalize, hfold]
  exact hparts

/-- A keyword whose letters are a whole run is the operator it stands for. -/
theorem normalize_keyword (hk : ∀ d ∈ k, isAlphabetic d = true) (hfold : foldWord k = [c])
    (hc : c = '+' ∨ c = ',') (hu : Unquoted u) (hb : Blanks b) (hb' : Blanks b')
    (hleft : b = [] → StartsRun isAlphabetic u) (hright : b' = [] → EndsRun isAlphabetic v) :
    normalize (u ++ (b ++ (k ++ (b' ++ v)))) = normalize u ++ c :: normalize v := by
  have hafter : foldKeywords (k ++ (b' ++ v)) = c :: (b' ++ foldKeywords v) := by
    rw [foldKeywords_run hk (endsRun_blanks hb' hright), hfold, foldKeywords_blanks hb']
    rfl
  -- cut before the keyword: no letter stands there, with blanks or without
  have hwhole : foldKeywords (u ++ (b ++ (k ++ (b' ++ v)))) =
      foldKeywords u ++ (b ++ c :: (b' ++ foldKeywords v)) := by
    rw [← List.append_assoc, foldKeywords_append_of_startsRun
      (unquoted_append hu (unquoted_of_blanks hb)) (startsRun_blanks hb hleft),
      foldKeywords_trailing hu hb, hafter, List.append_assoc]
  rw [normalize, hwhole]
  exact layFrom_parts (unquoted_foldKeywords.2 hu) hb hb' hc

end Canonical

section

variable {u v w w' : Text}

/-! ## Layout does not matter -/

/-- **What a run of blanks leaves behind does not depend on the run.** -/
theorem exists_normalize_blanks (hu : Unquoted u) (v : Text) :
    ∃ rest, ∀ w, Blanks w → w ≠ [] → normalize (u ++ (w ++ v)) = normalize u ++ rest := by
  obtain ⟨last, gap, hplace⟩ :=
    Canonical.exists_foldl_next_eq (Canonical.unquoted_foldKeywords.2 hu) none false
  refine ⟨Canonical.layFrom (.outside last (gap || last.any endsTerm))
    (Canonical.foldKeywords v), fun w hw hne => ?_⟩
  have hempty : w.isEmpty = false := List.isEmpty_eq_false_iff.2 hne
  rw [normalize, Canonical.foldKeywords_append_blanks hu hw fun hnil => absurd hnil hne,
    Canonical.layFrom_append, hplace, Canonical.layFrom_blanks_append hw, hempty, Bool.not_false,
    Bool.true_and]
  rfl

/-- Blanks at the start of a text are dropped. -/
theorem normalize_blanks_append (hw : Blanks w) : normalize (w ++ v) = normalize v := by
  rw [normalize, Canonical.foldKeywords_blanks hw, Canonical.layFrom_blanks hw rfl]
  rfl

/-- Blanks at the end of a text are dropped. -/
theorem normalize_append_blanks (hu : Unquoted u) (hw : Blanks w) :
    normalize (u ++ w) = normalize u := by
  obtain ⟨last, gap, hplace⟩ :=
    Canonical.exists_foldl_next_eq (Canonical.unquoted_foldKeywords.2 hu) none false
  rw [normalize, Canonical.foldKeywords_trailing hu hw, Canonical.layFrom_append, hplace,
    Canonical.layFrom_of_blanks hw, List.append_nil]
  rfl

/-- **Layout does not matter.** Any run of blanks outside quotes may stand for any other, and at the
ends of a text there may as well be none. -/
theorem normalize_eq_of_blanks (hu : Unquoted u) (hw : Blanks w) (hne : w ≠ []) (hw' : Blanks w')
    (hne' : w' ≠ []) (v : Text) :
    normalize (u ++ w ++ v) = normalize (u ++ w' ++ v) ∧ normalize (w ++ v) = normalize v ∧
      normalize (u ++ w) = normalize u := by
  refine ⟨?_, normalize_blanks_append hw, normalize_append_blanks hu hw⟩
  obtain ⟨rest, hrest⟩ := exists_normalize_blanks hu v
  rw [List.append_assoc, hrest w hw hne, List.append_assoc, hrest w' hw' hne']

/-- After a phrase, a no-break space and a tab are as good as one space. -/
theorem normalize_eq_of_blanks_noBreak :
    Unquoted "b OR \"c  AND\"" ∧ Blanks "\u00a0\t" ∧ Blanks " " ∧
      normalize ("b OR \"c  AND\"" ++ "\u00a0\t" ++ "d* e") = "b,\"c  AND\"+d%+e" ∧
      normalize ("b OR \"c  AND\"" ++ " " ++ "d* e") = "b,\"c  AND\"+d%+e" := by
  have hu : Unquoted "b OR \"c  AND\"" := by decide
  have hw : Blanks "\u00a0\t" := by decide
  have hw' : Blanks " " := by decide
  have hlaid : normalize ("b OR \"c  AND\"" ++ " " ++ "d* e") = "b,\"c  AND\"+d%+e" := by
    decide +kernel
  obtain ⟨heq, -, -⟩ := normalize_eq_of_blanks hu hw (by decide) hw' (by decide) "d* e"
  exact ⟨hu, hw, hw', heq.trans hlaid, hlaid⟩

/-! ## Operators part a text -/

/-- **Normalizing goes through operators**, and through the keywords that stand for them. Where a
keyword has no blanks on one side, it must end there for another reason: the text ends, or no letter
stands next to it. -/
theorem normalize_distributes (hu : Unquoted u) (v : Text) :
    normalize (u ++ "+" ++ v) = normalize u ++ "+" ++ normalize v ∧
      normalize (u ++ "," ++ v) = normalize u ++ "," ++ normalize v ∧
      ∀ w₁ w₂, Blanks w₁ → Blanks w₂ → (w₁ = [] → StartsRun isAlphabetic u) →
        (w₂ = [] → EndsRun isAlphabetic v) →
        normalize (u ++ w₁ ++ "AND" ++ w₂ ++ v) = normalize u ++ "+" ++ normalize v ∧
          normalize (u ++ w₁ ++ "OR" ++ w₂ ++ v) = normalize u ++ "," ++ normalize v := by
  have hand : ∀ d ∈ ['A', 'N', 'D'], isAlphabetic d = true :=
    List.all_eq_true.1 (by decide)
  have hor : ∀ d ∈ ['O', 'R'], isAlphabetic d = true :=
    List.all_eq_true.1 (by decide)
  refine ⟨?_, ?_, fun w₁ w₂ hw₁ hw₂ hleft hright => ⟨?_, ?_⟩⟩
  · simpa using Canonical.normalize_operator hu (.inl rfl)
  · simpa using Canonical.normalize_operator hu (.inr rfl)
  · simpa using Canonical.normalize_keyword hand rfl (.inl rfl) hu hw₁ hw₂ hleft hright
  · simpa using Canonical.normalize_keyword hor rfl (.inr rfl) hu hw₁ hw₂ hleft hright

/-- Between a closing quote and a sign a keyword needs no blanks. -/
theorem normalize_distributes_attached :
    Unquoted "a \"OR\"" ∧ StartsRun isAlphabetic "a \"OR\"" ∧ EndsRun isAlphabetic "-b OR c?" ∧
      normalize ("a \"OR\"" ++ "AND" ++ "-b OR c?") = "a+\"OR\"" ++ "+" ++ "-b,c_" := by
  have hu : Unquoted "a \"OR\"" := by decide
  have hstarts : StartsRun isAlphabetic "a \"OR\"" := by decide
  have hends : EndsRun isAlphabetic "-b OR c?" := by decide
  have hleft : normalize "a \"OR\"" = "a+\"OR\"" := by decide +kernel
  have hright : normalize "-b OR c?" = "-b,c_" := by decide +kernel
  obtain ⟨-, -, hkeyword⟩ := normalize_distributes hu "-b OR c?"
  have hwhole :=
    (hkeyword [] [] Text.blanks_nil Text.blanks_nil (fun _ => hstarts) fun _ => hends).1
  rw [List.append_nil, List.append_nil, hleft, hright] at hwhole
  exact ⟨hu, hstarts, hends, hwhole⟩

end

end SearchClause
