import SearchClause.Proofs.Composition
import SearchClause.Proofs.Numbering

/-!
# Phrases come through as they are

The quotes of a text cut it into pieces that stand outside quotes and inside by turns. What stands
inside is a phrase, and nothing in it means anything: a keyword, a wildcard, an operator or a blank
between quotes is searched for as it was typed. Three scanners have to agree on where a phrase is.

* **normalizing** — `quotedSpans_normalize`: both passes leave the phrases as they are, and in the
  same order;
* **reading** — `Grammar.Derives.phrases`: every phrase of a query that is read becomes a term of
  its own, so the phrases are found among the exact terms from left to right.
-/

namespace SearchClause

/-! ## Phrases -/

/-- The pieces that stand inside quotes, when the pieces of a text stand outside and inside by
turns; `quoted` says where the first one stands. -/
def insides : Bool → List Text → List Text
  | _, [] => []
  | false, _ :: rest => insides true rest
  | true, piece :: rest => piece :: insides false rest

/-- What stands between quotes in a text before which a quote has been opened or not. -/
def spansFrom (quoted : Bool) (s : Text) : List Text :=
  insides quoted (Text.pieces (· = '"') s)

/-- What stands between the first quote and the second one, between the third and the fourth, and so
on. -/
def quotedSpans (s : Text) : List Text :=
  spansFrom false s

/-- The texts of the exact terms from left to right. -/
def Tree.exactTexts (t : Tree) : List Text :=
  (t.leaves.filter (·.kind = .exact)).map Term.text

section

variable {c : Char} {b p s : Text}

theorem spansFrom_opening : spansFrom false ('"' :: s) = spansFrom true s := by
  simp [spansFrom, Text.pieces, insides]

theorem spansFrom_closing : spansFrom true ('"' :: s) = [] :: spansFrom false s := by
  simp [spansFrom, Text.pieces, insides]

theorem spansFrom_outside (hc : c ≠ '"') : spansFrom false (c :: s) = spansFrom false s := by
  obtain ⟨piece, others, hs⟩ := List.exists_cons_of_ne_nil (Text.pieces_ne_nil (· = '"') s)
  simp [spansFrom, Text.pieces, hc, hs, insides]

theorem spansFrom_inside (hc : c ≠ '"') :
    spansFrom true (c :: s) = (spansFrom true s).modifyHead (c :: ·) := by
  obtain ⟨piece, others, hs⟩ := List.exists_cons_of_ne_nil (Text.pieces_ne_nil (· = '"') s)
  simp [spansFrom, Text.pieces, hc, hs, insides]

/-- Outside quotes, what has no quote has no phrase. -/
theorem spansFrom_append (hb : '"' ∉ b) : spansFrom false (b ++ s) = spansFrom false s := by
  induction b with
  | nil => rfl
  | cons c b ih =>
    obtain ⟨hc, hb⟩ := List.ne_and_not_mem_of_not_mem_cons hb
    rw [List.cons_append, spansFrom_outside (Ne.symm hc), ih hb]

/-- A phrase goes up to the next quote. -/
theorem spansFrom_phrase (hp : '"' ∉ p) :
    spansFrom true (p ++ '"' :: s) = p :: spansFrom false s := by
  induction p with
  | nil => exact spansFrom_closing
  | cons c p ih =>
    obtain ⟨hc, hp⟩ := List.ne_and_not_mem_of_not_mem_cons hp
    rw [List.cons_append, spansFrom_inside (Ne.symm hc), ih hp]
    rfl

/-- The phrases of a text that closes its quotes come before those of what follows it. -/
theorem exists_spansFrom_append {quoted : Bool} {u : Text} (hu : Unquoted u ↔ quoted = false)
    (s : Text) :
    ∃ found, spansFrom quoted (u ++ s) = found ++ spansFrom false s ∧
      (quoted = true → found ≠ []) := by
  induction u generalizing quoted with
  | nil =>
    obtain rfl := hu.1 unquoted_nil
    exact ⟨[], rfl, by simp⟩
  | cons c u ih =>
    by_cases hq : c = '"'
    · subst hq
      obtain ⟨found, hfound, -⟩ := ih (unquoted_tail_iff hu)
      cases quoted with
      | false => exact ⟨found, spansFrom_opening.trans hfound, by simp⟩
      | true => exact ⟨[] :: found, spansFrom_closing.trans (congrArg _ hfound), by simp⟩
    · rw [unquoted_cons hq] at hu
      obtain ⟨found, hfound, hne⟩ := ih hu
      cases quoted with
      | false => exact ⟨found, (spansFrom_outside hq).trans hfound, by simp⟩
      | true =>
        -- the phrase that is open goes on, and it is there
        obtain ⟨first, others, rfl⟩ := List.exists_cons_of_ne_nil (hne rfl)
        refine ⟨(c :: first) :: others, ?_, by simp⟩
        rw [List.cons_append, spansFrom_inside hq, hfound]
        rfl

/-- **What stands between two quotes that belong together is a phrase.** -/
theorem mem_quotedSpans {u : Text} (hu : Unquoted u) (hp : '"' ∉ p) :
    p ∈ quotedSpans (u ++ '"' :: (p ++ '"' :: s)) := by
  obtain ⟨found, hfound, -⟩ := exists_spansFrom_append (iff_of_true hu rfl) ('"' :: (p ++ '"' :: s))
  rw [quotedSpans, hfound, spansFrom_opening, spansFrom_phrase hp]
  exact List.mem_append_right _ List.mem_cons_self

end

/-! ## Normalizing -/

namespace Canonical

variable {quoted : Bool} {run s : Text}

theorem quote_not_mem_foldWord (hrun : '"' ∉ run) : '"' ∉ foldWord run :=
  List.count_eq_zero.1 (count_quote_foldWord hrun)

/-- **Folding keywords keeps every phrase.** -/
theorem spansFrom_foldFrom (hrun : '"' ∉ run) (hquoted : quoted = true → run = []) :
    spansFrom quoted (foldFrom quoted run s) = spansFrom quoted s := by
  induction s generalizing quoted run with
  | nil =>
    cases quoted with
    | true => rw [hquoted rfl, foldFrom, foldWord_eq_self not_isKeyword_nil]
    | false =>
      have hword := spansFrom_append (s := []) (quote_not_mem_foldWord hrun)
      rwa [List.append_nil] at hword
  | cons c rest ih =>
    have hrest (q : Bool) : spansFrom q (foldFrom q [] rest) = spansFrom q rest :=
      ih (by simp) fun _ => rfl
    by_cases hq : c = '"'
    · subst hq
      cases quoted with
      | true =>
        rw [foldFrom_quote, hquoted rfl, foldWord_eq_self not_isKeyword_nil, List.nil_append,
          spansFrom_closing, spansFrom_closing]
        exact congrArg _ (hrest false)
      | false =>
        rw [foldFrom_quote, spansFrom_append (quote_not_mem_foldWord hrun), spansFrom_opening,
          spansFrom_opening]
        exact hrest true
    · cases quoted with
      | true => rw [foldFrom_quoted hq, spansFrom_inside hq, spansFrom_inside hq, hrest true]
      | false =>
        rw [spansFrom_outside hq]
        cases hc : isAlphabetic c with
        | true =>
          rw [foldFrom_letter hc]
          refine ih ?_ (by simp)
          simp [hrun, Ne.symm hq]
        | false =>
          rw [foldFrom_other hq hc, spansFrom_append (quote_not_mem_foldWord hrun),
            spansFrom_outside hq, hrest false]

/-- Whether a place is between quotes. -/
def Place.isQuoted : Place → Bool
  | .quoted => true
  | .outside _ _ => false

/-- The sign for a gap is outside quotes and no quote. -/
theorem spansFrom_gap {b : Bool} : spansFrom false ((if b then ['+'] else []) ++ s) =
    spansFrom false s := by
  refine spansFrom_append ?_
  split
  · decide
  · decide

/-- **Layout keeps every phrase.** -/
theorem spansFrom_layFrom (place : Place) (s : Text) :
    spansFrom place.isQuoted (layFrom place s) = spansFrom place.isQuoted s := by
  induction s generalizing place with
  | nil => rw [layFrom]
  | cons c rest ih =>
    cases place with
    | quoted =>
      by_cases hq : c = '"'
      · subst hq
        have hrest := ih (.outside (some '"') false)
        rw [layFrom_quote]
        exact spansFrom_closing.trans ((congrArg _ hrest).trans spansFrom_closing.symm)
      · have hrest := ih .quoted
        rw [layFrom_quoted hq]
        exact (spansFrom_inside hq).trans ((congrArg _ hrest).trans (spansFrom_inside hq).symm)
    | outside last gap =>
      by_cases hq : c = '"'
      · subst hq
        have hrest := ih .quoted
        rw [layFrom_written (by decide)]
        exact spansFrom_gap.trans (spansFrom_opening.trans (hrest.trans spansFrom_opening.symm))
      · have hskip : spansFrom false (c :: rest) = spansFrom false rest := spansFrom_outside hq
        cases hc : isBlank c with
        | true =>
          have hrest := ih (.outside last (gap || last.any endsTerm))
          rw [layFrom_blank hc]
          exact hrest.trans hskip.symm
        | false =>
          have hmap := mapWildcard_ne_quote hq
          have hrest := ih (.outside (some (mapWildcard c)) false)
          rw [layFrom_written hc, Place.after, if_neg hmap]
          exact spansFrom_gap.trans ((spansFrom_outside hmap).trans (hrest.trans hskip.symm))

end Canonical

/-- **Normalizing keeps every phrase.** -/
theorem quotedSpans_normalize (raw : Text) : quotedSpans (normalize raw) = quotedSpans raw := by
  have hlay := Canonical.spansFrom_layFrom (.outside none false) (Canonical.foldKeywords raw)
  exact hlay.trans (Canonical.spansFrom_foldFrom (by simp) (by simp))

/-! ## Reading -/

namespace Grammar

open Text (Blanks)

variable {part : Part} {s rest : Text} {t : Tree}

theorem quotedSpans_append {b : Text} (hb : '"' ∉ b) : quotedSpans (b ++ s) = quotedSpans s :=
  spansFrom_append hb

/-- Blanks and one more character that is no quote. -/
theorem quotedSpans_blanks_cons {b : Text} {c : Char} (hb : Blanks b) (hc : c ≠ '"') :
    quotedSpans (b ++ c :: s) = quotedSpans s := by
  rw [quotedSpans_append (quote_not_mem_blanks hb)]
  exact spansFrom_outside hc

/-- **The phrases of a part are among its exact terms**, and the phrases after it are those of the
text that is left. -/
theorem Derives.phrases (h : Derives part s t rest) :
    ∃ found, quotedSpans s = found ++ quotedSpans rest ∧ found.Sublist t.exactTexts := by
  induction h with
  | first _ ih => exact ih
  | @or s b s' left right rest _ hb _ ihl ihr =>
    obtain ⟨found, hl, hsub⟩ := ihl
    obtain ⟨found', hr, hsub'⟩ := ihr
    refine ⟨found ++ found', ?_, ?_⟩
    · rw [hl, quotedSpans_blanks_cons hb (by decide), hr, List.append_assoc]
    · simpa [Tree.exactTexts, Tree.leaves] using hsub.append hsub'
  | single _ ih => exact ih
  | @and s b s' left right rest _ hb _ ihl ihr =>
    obtain ⟨found, hl, hsub⟩ := ihl
    obtain ⟨found', hr, hsub'⟩ := ihr
    refine ⟨found ++ found', ?_, ?_⟩
    · rw [hl, quotedSpans_blanks_cons hb (by decide), hr, List.append_assoc]
    · simpa [Tree.exactTexts, Tree.leaves] using hsub.append hsub'
  | @negated b c b' s t rest hb hc hb' _ ih =>
    obtain ⟨found, hs, hsub⟩ := ih
    have hne : c ≠ '"' := by
      rcases hc with rfl | rfl
      · decide
      · decide
    refine ⟨found, ?_, hsub⟩
    rw [quotedSpans_blanks_cons hb hne, quotedSpans_append (quote_not_mem_blanks hb'), hs]
  | plain hb _ _ ih =>
    obtain ⟨found, hs, hsub⟩ := ih
    exact ⟨found, (quotedSpans_append (quote_not_mem_blanks hb)).trans hs, hsub⟩
  | group _ hb ih =>
    obtain ⟨found, hs, hsub⟩ := ih
    refine ⟨found, ?_, hsub⟩
    rw [quotedSpans_blanks_cons hb (by decide)] at hs
    exact (spansFrom_outside (by decide)).trans hs
  | @phrase marked p rest _ hp =>
    have hmarker : '"' ∉ marker marked := by
      cases marked with
      | false => decide
      | true => decide
    refine ⟨[p], ?_, List.Sublist.refl _⟩
    rw [quotedSpans_append hmarker]
    exact spansFrom_opening.trans (spansFrom_phrase hp)
  | word _ hw _ _ =>
    refine ⟨[], quotedSpans_append fun hmem => ?_, List.nil_sublist _⟩
    exact absurd (hw _ hmem) (by decide)

theorem IsQuery.phrases (h : IsQuery s t) : (quotedSpans s).Sublist t.exactTexts := by
  obtain ⟨b, hd, hb⟩ := h
  obtain ⟨found, hs, hsub⟩ := hd.phrases
  have hnone : quotedSpans b = [] := by
    rw [← List.append_nil b, quotedSpans_append (quote_not_mem_blanks hb)]
    rfl
  rwa [hs, hnone, List.append_nil]

end Grammar

theorem Tree.exactTexts_sublist (t : Tree) : t.exactTexts.Sublist (t.leaves.map Term.text) :=
  List.filter_sublist.map Term.text

/-- **Phrases come through the whole way as they are.** A query that is read closes its quotes, and
what stands between them is found, in order and character by character, among its exact terms. So
it is found among the values that go with the fragment, whatever the rule for terms. -/
theorem quotedSpans_sublist_exactTexts {raw : Text} {t : Tree} (h : buildTree none raw = .ok t) :
    Even (raw.count '"') ∧ (quotedSpans raw).Sublist t.exactTexts ∧
      ∀ render, ∃ q, buildQuery render raw = .ok q ∧ (quotedSpans raw).Sublist q.args := by
  have hsub : (quotedSpans raw).Sublist t.exactTexts := by
    rw [← quotedSpans_normalize]
    exact (buildTree_eq_ok_iff.1 h).phrases
  refine ⟨unquoted_of_buildTree h, hsub, fun render => ⟨t.compile render, ?_, ?_⟩⟩
  · rw [buildQuery, h]
    rfl
  · rw [Tree.args_compile]
    exact hsub.trans t.exactTexts_sublist

/-- A keyword, wildcards, operators, parentheses and blanks between quotes, beside an exact word. -/
theorem quotedSpans_sublist_exactTexts_operators :
    buildTree none "=x \" a  OR (b*\" -=\"+,!\"" =
        .ok (.and (.and (.leaf ⟨"x", .exact⟩) (.leaf ⟨" a  OR (b*", .exact⟩))
          (.not (.leaf ⟨"+,!", .exact⟩))) ∧
      quotedSpans "=x \" a  OR (b*\" -=\"+,!\"" = [" a  OR (b*".toList, "+,!".toList] ∧
      [" a  OR (b*".toList, "+,!".toList].Sublist
        ["x".toList, " a  OR (b*".toList, "+,!".toList] := by
  have h : buildTree none "=x \" a  OR (b*\" -=\"+,!\"" =
      .ok (.and (.and (.leaf ⟨"x", .exact⟩) (.leaf ⟨" a  OR (b*", .exact⟩))
        (.not (.leaf ⟨"+,!", .exact⟩))) := by
    decide +kernel
  have hspans : quotedSpans "=x \" a  OR (b*\" -=\"+,!\"" =
      [" a  OR (b*".toList, "+,!".toList] := by
    decide +kernel
  obtain ⟨-, hsub, -⟩ := quotedSpans_sublist_exactTexts h
  rw [hspans] at hsub
  exact ⟨h, hspans, hsub⟩

end SearchClause
