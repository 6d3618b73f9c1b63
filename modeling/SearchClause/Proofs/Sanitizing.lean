import Mathlib.Data.List.Chain
import SearchClause.Proofs.Phrases
import SearchClause.Proofs.Separators
import SearchClause.Query.Sanitize

/-!
# Sanitizing a query does not change it

The sanitizer knows nothing of quotes: it drops foreign characters, and puts one space for every run
of blanks wherever it stands. Normalizing does know of quotes, and outside them one run of blanks is
as good as another. So a query in which the sanitizer has nothing to do between quotes means the
same afterwards.

* **layout** — `Text.Collapses`: what single spaces do to a text, word by word. The result has no
  blanks to spare, so it is left alone the second time (`Collapses.self`);
* **quotes** — `normalize_of_collapses`: the words are passed from left to right; behind a word a
  run of blanks is exchanged for a space where no quote is open, and is one already where there is.
-/

namespace SearchClause

open Text (Blanks EndsRun StartsRun)

/-! ## Single spaces -/

namespace Text

/-- Some characters, and no blank among them. -/
def IsWord (w : Text) : Prop :=
  w ≠ [] ∧ ∀ c ∈ w, isBlank c = false

/-- From the first word on, a run of blanks between two words becomes a space, and one at the end is
dropped. -/
inductive Collapses : Text → Text → Prop where
  /-- the last word, and blanks after it -/
  | last {w b : Text} : IsWord w → Blanks b → Collapses (w ++ b) w
  /-- a word, and blanks before the next one -/
  | next {w b s t : Text} : IsWord w → Blanks b → b ≠ [] → Collapses s t →
      Collapses (w ++ (b ++ s)) (w ++ ' ' :: t)

section

variable {b s t w : Text}

theorem isBlank_space : isBlank ' ' = true := by
  decide

theorem words_blanks_append (hb : Blanks b) : words (b ++ s) = words s := by
  induction b with
  | nil => rfl
  | cons c b ih =>
    obtain ⟨hc, hb⟩ := List.forall_mem_cons.1 hb
    exact (words_append_cons hc [] (b ++ s)).trans (ih hb)

theorem words_of_blanks (hb : Blanks b) : words b = [] := by
  have happend := words_blanks_append (s := []) hb
  rwa [List.append_nil] at happend

theorem words_of_isWord (hw : IsWord w) : words w = [w] := by
  rw [words, pieces_eq_singleton hw.2]
  simp [hw.1]

/-- A word ends at the blanks after it. -/
theorem words_append (hw : IsWord w) (hb : Blanks b) (hne : b ≠ []) :
    words (w ++ (b ++ s)) = w :: words s := by
  obtain ⟨c, b, rfl⟩ := List.exists_cons_of_ne_nil hne
  obtain ⟨hc, hb⟩ := List.forall_mem_cons.1 hb
  rw [List.cons_append, words_append_cons hc, words_of_isWord hw, words_blanks_append hb]
  rfl

/-- **Single spaces are what collapsing leads to.** -/
theorem Collapses.words_ne_nil (h : Collapses s t) : words s ≠ [] ∧ singleSpaced s = t := by
  induction h with
  | @last w b hw hb =>
    have hwords : words (w ++ b) = [w] := by
      by_cases hne : b = []
      · rw [hne, List.append_nil, words_of_isWord hw]
      · have happend := words_append (s := []) hw hb hne
        rwa [List.append_nil, words_of_blanks blanks_nil] at happend
    rw [singleSpaced, hwords]
    exact ⟨by simp, rfl⟩
  | @next w b s t hw hb hne _ ih =>
    obtain ⟨hs, rfl⟩ := ih
    obtain ⟨v, vs, hvs⟩ := List.exists_cons_of_ne_nil hs
    rw [singleSpaced, singleSpaced, words_append hw hb hne, hvs]
    exact ⟨by simp, by simp [joinWith]⟩

theorem isWord_cons {c : Char} (hc : isBlank c = false) (hw : ∀ d ∈ w, isBlank d = false) :
    IsWord (c :: w) :=
  ⟨List.cons_ne_nil c w, List.forall_mem_cons.2 ⟨hc, hw⟩⟩

/-- The first word may be longer. -/
theorem Collapses.cons {c : Char} (hc : isBlank c = false) (h : Collapses s t) :
    Collapses (c :: s) (c :: t) := by
  cases h with
  | last hw hb => exact .last (isWord_cons hc hw.2) hb
  | next hw hb hne hs => exact .next (isWord_cons hc hw.2) hb hne hs

/-- A text that is not blank collapses, from its first word on. -/
theorem exists_collapses (s : Text) :
    Blanks s ∨ ∃ b s' t, Blanks b ∧ s = b ++ s' ∧ Collapses s' t := by
  induction s with
  | nil => exact .inl blanks_nil
  | cons c s ih =>
    cases hc : isBlank c with
    | true =>
      rcases ih with hs | ⟨b, s', t, hb, rfl, h⟩
      · exact .inl (List.forall_mem_cons.2 ⟨hc, hs⟩)
      · exact .inr ⟨c :: b, s', t, List.forall_mem_cons.2 ⟨hc, hb⟩, rfl, h⟩
    | false =>
      have hword : IsWord [c] := isWord_cons hc (List.forall_mem_nil _)
      rcases ih with hs | ⟨b, s', t, hb, rfl, h⟩
      · exact .inr ⟨[], c :: s, [c], blanks_nil, rfl, .last hword hs⟩
      · by_cases hne : b = []
        · -- no blank comes between, so the character belongs to the word
          subst hne
          exact .inr ⟨[], c :: s', c :: t, blanks_nil, rfl, h.cons hc⟩
        · exact .inr ⟨[], c :: (b ++ s'), c :: ' ' :: t, blanks_nil, rfl, .next hword hb hne h⟩

/-- A text with single spaces is empty, or its words have collapsed. -/
theorem singleSpaced_cases (s : Text) :
    singleSpaced s = [] ∧ Blanks s ∨
      ∃ b s', Blanks b ∧ s = b ++ s' ∧ Collapses s' (singleSpaced s) := by
  rcases exists_collapses s with hs | ⟨b, s', t, hb, rfl, h⟩
  · rw [singleSpaced, words_of_blanks hs]
    exact .inl ⟨rfl, hs⟩
  · refine .inr ⟨b, s', hb, rfl, ?_⟩
    rw [singleSpaced, words_blanks_append hb, ← singleSpaced, h.words_ne_nil.2]
    exact h

/-! ## What has collapsed -/

/-- What has collapsed cannot collapse any further. -/
theorem Collapses.self (h : Collapses s t) : Collapses t t := by
  induction h with
  | @last w b hw _ =>
    have hlast := Collapses.last hw blanks_nil
    rwa [List.append_nil] at hlast
  | next hw _ _ _ ih =>
    exact .next (b := [' ']) hw (List.forall_mem_singleton.2 isBlank_space) (by simp) ih

theorem Collapses.subset (h : Collapses s t) : ∀ c ∈ t, c ∈ s ∨ c = ' ' := by
  induction h with
  | last hw hb => exact fun c hc => .inl (List.mem_append_left _ hc)
  | next hw hb hne _ ih =>
    intro c hc
    simp only [List.mem_append, List.mem_cons] at hc ⊢
    rcases hc with hc | rfl | hc
    · exact .inl (.inl hc)
    · exact .inr rfl
    · exact (ih c hc).imp_left fun hc => .inr (.inr hc)

theorem IsWord.starts (hw : IsWord w) (s : Text) : EndsRun isBlank (w ++ s) := by
  obtain ⟨c, w, rfl⟩ := List.exists_cons_of_ne_nil hw.1
  exact endsRun_cons.2 (hw.2 c List.mem_cons_self)

theorem Collapses.starts (h : Collapses s t) : EndsRun isBlank t := by
  cases h with
  | last hw _ => simpa using hw.starts []
  | next hw _ _ _ => exact hw.starts _

/-- There is no blank at the end. -/
theorem Collapses.ends (h : Collapses s t) : StartsRun isBlank t ∧ t ≠ [] := by
  induction h with
  | last hw _ => exact ⟨fun c hc => hw.2 c (List.mem_of_getLast? hc), hw.1⟩
  | @next w b s t hw _ _ _ ih =>
    refine ⟨fun c hc => ih.1 c ?_, by simp⟩
    rwa [List.append_cons, List.getLast?_append_of_ne_nil _ ih.2] at hc

/-- Characters that are no blanks may stand before anything. -/
theorem isChain_append {R : Char → Char → Prop} (hR : ∀ c d, isBlank c = false → R c d)
    (hw : ∀ c ∈ w, isBlank c = false) (ht : t.IsChain R) : (w ++ t).IsChain R := by
  induction w with
  | nil => exact ht
  | cons c w ih =>
    obtain ⟨hc, hw⟩ := List.forall_mem_cons.1 hw
    exact List.isChain_cons.2 ⟨fun d _ => hR c d hc, ih hw⟩

/-- There are no two blanks next to each other. -/
theorem Collapses.isChain (h : Collapses s t) :
    t.IsChain fun c d => isBlank c = false ∨ isBlank d = false := by
  induction h with
  | last hw _ => simpa using isChain_append (fun _ _ hc => .inl hc) hw.2 List.IsChain.nil
  | next hw _ _ hs ih =>
    refine isChain_append (fun _ _ hc => .inl hc) hw.2 (List.isChain_cons.2 ⟨fun d hd => ?_, ih⟩)
    exact .inr (hs.starts d hd)

end

end Text

/-! ## The sanitizer -/

section

variable {b q s t u v w x y : Text}

theorem isKept_space : isKept ' ' = true := by
  decide

/-- What is sanitized is empty, or words of it have collapsed. -/
theorem sanitize_cases (x : Text) :
    sanitize x = [] ∨ ∃ s, (∀ c ∈ s, isKept c = true) ∧ Text.Collapses s (sanitize x) := by
  rcases Text.singleSpaced_cases (x.filter isKept) with ⟨hnil, -⟩ | ⟨b, s, -, hs, h⟩
  · exact .inl hnil
  · refine .inr ⟨s, fun c hc => ?_, h⟩
    have hmem : c ∈ x.filter isKept := hs ▸ List.mem_append_right b hc
    exact (List.mem_filter.1 hmem).2

theorem isKept_of_mem_sanitize {c : Char} (h : c ∈ sanitize x) : isKept c = true := by
  rcases sanitize_cases x with hnil | ⟨s, hs, hcollapses⟩
  · rw [hnil] at h
    cases h
  · rcases hcollapses.subset c h with hmem | rfl
    · exact hs c hmem
    · exact isKept_space

theorem singleSpaced_sanitize (x : Text) : Text.singleSpaced (sanitize x) = sanitize x := by
  rcases sanitize_cases x with hnil | ⟨s, -, h⟩
  · rw [hnil]
    rfl
  · exact h.self.words_ne_nil.2

theorem sanitize_of_kept (hq : ∀ c ∈ q, isKept c = true) : sanitize q = Text.singleSpaced q := by
  rw [sanitize, List.filter_eq_self.2 hq]

theorem sanitize_sanitize (x : Text) : sanitize (sanitize x) = sanitize x := by
  rw [sanitize_of_kept fun c hc => isKept_of_mem_sanitize hc, singleSpaced_sanitize]

/-- **No blank is to spare after sanitizing.** -/
theorem blanks_sanitize (x : Text) :
    EndsRun isBlank (sanitize x) ∧ StartsRun isBlank (sanitize x) ∧
      (sanitize x).IsChain fun c d => isBlank c = false ∨ isBlank d = false := by
  rcases sanitize_cases x with hnil | ⟨s, -, h⟩
  · rw [hnil]
    exact ⟨Text.endsRun_nil, Text.startsRun_nil, List.IsChain.nil⟩
  · exact ⟨h.starts, h.ends.1, h.isChain⟩

/-! ## Between quotes -/

/-- The only blank that is kept is the space. -/
theorem eq_space_of_isKept {c : Char} (hc : isKept c = true) (hblank : isBlank c = true) :
    c = ' ' := by
  have hall : ∀ n ∈ blankCodes, isKept (Char.ofNat n) = true → Char.ofNat n = ' ' := by
    decide +kernel
  have hcode := hall c.toNat (mem_blankCodes hblank)
  rw [Char.ofNat_toNat] at hcode
  exact hcode hc

/-- A place where a quote is open is behind a quote, and before another one if all quotes are closed
in the end. -/
theorem exists_quotes_around (hx : ¬ Unquoted x) (hxy : Unquoted (x ++ y)) :
    ∃ u p p' v, x = u ++ '"' :: p ∧ y = p' ++ '"' :: v ∧ Unquoted u ∧ '"' ∉ p ∧ '"' ∉ p' := by
  have hmemx : '"' ∈ x := by
    by_contra hmem
    exact hx (unquoted_of_not_mem hmem)
  have hmemy : '"' ∈ y := by
    by_contra hmem
    exact hx ((unquoted_append_iff.1 hxy).2 (unquoted_of_not_mem hmem))
  obtain ⟨p', v, hy, hp'⟩ := List.eq_append_cons_of_mem hmemy
  -- the last quote before the place is the first one on the way back
  obtain ⟨p, u, hrev, hp⟩ := List.eq_append_cons_of_mem (List.mem_reverse.2 hmemx)
  have hsplit : x = u.reverse ++ '"' :: p.reverse := by
    rw [← List.reverse_reverse x, hrev]
    simp
  have hp : '"' ∉ p.reverse := by simpa using hp
  refine ⟨u.reverse, p.reverse, p', v, hsplit, hy, ?_, hp, hp'⟩
  rw [hsplit, unquoted_append_iff, unquoted_cons_quote] at hx
  have hafter := unquoted_of_not_mem hp
  tauto

/-- Between quotes, blanks are single spaces; `u` is what stands before the text. -/
def SpacedInside (u s : Text) : Prop :=
  ∀ x b y, s = x ++ (b ++ y) → Blanks b → b ≠ [] → ¬ Unquoted (u ++ x) → b = [' ']

/-- Phrases without two spaces next to each other have single spaces. -/
theorem spacedInside_of_spans (hq : ∀ c ∈ q, isKept c = true) (hquotes : Unquoted q)
    (hspans : ∀ span ∈ quotedSpans q, ¬ [' ', ' '] <:+: span) : SpacedInside [] q := by
  rintro x b y rfl hb hne hx
  have hspaces : ∀ c ∈ b, c = ' ' := fun c hc =>
    eq_space_of_isKept (hq c (List.mem_append_right x (List.mem_append_left y hc))) (hb c hc)
  have hxy : Unquoted (x ++ y) := by
    simpa only [unquoted_append_iff, unquoted_of_blanks hb, true_iff] using hquotes
  obtain ⟨u, p, p', v, rfl, rfl, hu, hp, hp'⟩ := exists_quotes_around hx hxy
  -- the blanks are part of a phrase
  have hspan : p ++ (b ++ p') ∈ quotedSpans (u ++ '"' :: p ++ (b ++ (p' ++ '"' :: v))) := by
    have hquote : '"' ∉ p ++ (b ++ p') := by
      simp [hp, hp', Grammar.quote_not_mem_blanks hb]
    have hmem := mem_quotedSpans (s := v) hu hquote
    simpa using hmem
  rcases b with _ | ⟨c, _ | ⟨d, b⟩⟩
  · exact absurd rfl hne
  · rw [hspaces c List.mem_cons_self]
  · obtain rfl := hspaces c List.mem_cons_self
    obtain rfl := hspaces d (List.mem_cons_of_mem _ List.mem_cons_self)
    exact absurd ⟨p, b ++ p', by simp⟩ (hspans _ hspan)

/-! ## Normalizing what was sanitized -/

/-- Outside quotes a space is as good as any blanks. -/
theorem normalize_exchange (hu : Unquoted u) (hb : Blanks b) (hne : b ≠ []) (s : Text) :
    normalize (u ++ (b ++ s)) = normalize (u ++ ' ' :: s) := by
  obtain ⟨rest, hrest⟩ := exists_normalize_blanks hu s
  rw [hrest b hb hne]
  exact (hrest [' '] (List.forall_mem_singleton.2 Text.isBlank_space) (by simp)).symm

/-- **Collapsing does not matter**, if blanks between quotes are single spaces. -/
theorem normalize_of_collapses (h : Text.Collapses s t) (hquotes : Unquoted (u ++ s))
    (hinside : SpacedInside u s) : normalize (u ++ s) = normalize (u ++ t) := by
  induction h generalizing u with
  | @last w b hw hb =>
    rw [← List.append_assoc, unquoted_append_iff] at hquotes
    rw [← List.append_assoc]
    exact normalize_append_blanks (hquotes.2 (unquoted_of_blanks hb)) hb
  | @next w b s t hw hb hne _ ih =>
    have hspace : normalize (u ++ (w ++ (b ++ s))) = normalize (u ++ (w ++ ' ' :: s)) := by
      by_cases hplace : Unquoted (u ++ w)
      · rw [← List.append_assoc, normalize_exchange hplace hb hne, List.append_assoc]
      · rw [hinside w b s rfl hb hne hplace]
        rfl
    -- behind the space, quotes are open where they were behind the blanks
    have hparity (x : Text) :
        Unquoted (u ++ (w ++ [' ']) ++ x) ↔ Unquoted (u ++ (w ++ (b ++ x))) := by
      have hnone : b.count '"' = 0 := List.count_eq_zero.2 (Grammar.quote_not_mem_blanks hb)
      simp [Unquoted, hnone]
    have hrest := ih ((hparity s).2 hquotes) fun x b' y hs hb' hne' hx =>
      hinside (w ++ (b ++ x)) b' y (by simp [hs]) hb' hne' fun hx' => hx ((hparity x).2 hx')
    rw [hspace]
    simpa using hrest

theorem normalize_singleSpaced (hquotes : Unquoted q) (hinside : SpacedInside [] q) :
    normalize (Text.singleSpaced q) = normalize q := by
  rcases Text.singleSpaced_cases q with ⟨hnil, hblank⟩ | ⟨b, s, hb, rfl, h⟩
  · have hdropped := normalize_append_blanks unquoted_nil hblank
    rw [hnil]
    exact hdropped.symm
  · rw [normalize_blanks_append hb]
    refine (normalize_of_collapses (u := []) h ?_ fun x b' y hs hb' hne' hx => ?_).symm
    · exact (unquoted_append_iff.1 hquotes).1 (unquoted_of_blanks hb)
    · refine hinside (b ++ x) b' y (by rw [hs, List.append_assoc]) hb' hne' fun hx' => hx ?_
      have hboth : Unquoted (b ++ x) := hx'
      exact (unquoted_append_iff.1 hboth).1 (unquoted_of_blanks hb)

/-- **The sanitizer keeps to its characters and does not change a query.** Done twice it is as done
once; what it leaves are letters, digits and its punctuation, with no space at the ends and no two
next to each other. A query of these characters that closes its quotes, and has no two spaces next
to each other between them, is normalized to the same text, so the same is built from it. -/
theorem sanitize_transparent :
    (∀ x, sanitize (sanitize x) = sanitize x ∧
      (∀ c ∈ sanitize x, c.isAlphanum = true ∨ c ∈ keptPunctuation) ∧
      (sanitize x).head? ≠ some ' ' ∧ (sanitize x).getLast? ≠ some ' ' ∧
      ¬ [' ', ' '] <:+: sanitize x) ∧
    ∀ q, (∀ c ∈ q, c.isAlphanum = true ∨ c ∈ keptPunctuation) → Even (q.count '"') →
      (∀ span ∈ quotedSpans q, ¬ [' ', ' '] <:+: span) →
      normalize (sanitize q) = normalize q ∧
        ∀ limit, buildTree limit (sanitize q) = buildTree limit q := by
  refine ⟨fun x => ?_, fun q hchars hquotes hspans => ?_⟩
  · obtain ⟨hfirst, hlast, hchain⟩ := blanks_sanitize x
    refine ⟨sanitize_sanitize x, fun c hc => ?_, fun h => ?_, fun h => ?_, fun h => ?_⟩
    · simpa [isKept] using isKept_of_mem_sanitize hc
    · exact absurd (hfirst ' ' h) (by decide)
    · exact absurd (hlast ' ' h) (by decide)
    · have hpair : [' ', ' '].IsChain fun c d => isBlank c = false ∨ isBlank d = false :=
        List.IsChain.infix hchain h
      exact absurd (List.isChain_pair.1 hpair) (by decide)
  · have hkept : ∀ c ∈ q, isKept c = true := fun c hc => by simpa [isKept] using hchars c hc
    have hsame : normalize (sanitize q) = normalize q := by
      rw [sanitize_of_kept hkept]
      exact normalize_singleSpaced hquotes (spacedInside_of_spans hkept hquotes hspans)
    exact ⟨hsame, fun limit => congrArg (parse limit) hsame⟩

/-- Blanks on all sides, a phrase with a single space at its start and blanks around it. -/
theorem sanitize_transparent_spaces :
    (∀ c ∈ "  gene   AND  \" full name\"  -old* ".toList,
        c.isAlphanum = true ∨ c ∈ keptPunctuation) ∧
      Even ("  gene   AND  \" full name\"  -old* ".toList.count '"') ∧
      (∀ span ∈ quotedSpans "  gene   AND  \" full name\"  -old* ", ¬ [' ', ' '] <:+: span) ∧
      sanitize "  gene   AND  \" full name\"  -old* " = "gene AND \" full name\" -old*" ∧
      normalize (sanitize "  gene   AND  \" full name\"  -old* ") =
        normalize "  gene   AND  \" full name\"  -old* " ∧
      buildTree (some 0) (sanitize "  gene   AND  \" full name\"  -old* ") =
        buildTree (some 0) "  gene   AND  \" full name\"  -old* " := by
  have hchars : ∀ c ∈ "  gene   AND  \" full name\"  -old* ".toList,
      c.isAlphanum = true ∨ c ∈ keptPunctuation := by
    have hall : "  gene   AND  \" full name\"  -old* ".toList.all
        (fun c => decide (c.isAlphanum = true ∨ c ∈ keptPunctuation)) = true := by
      decide
    exact fun c hc => of_decide_eq_true (List.all_eq_true.1 hall c hc)
  have hquotes : Even ("  gene   AND  \" full name\"  -old* ".toList.count '"') := by decide
  have hspans : ∀ span ∈ quotedSpans "  gene   AND  \" full name\"  -old* ",
      ¬ [' ', ' '] <:+: span := by
    have hone : quotedSpans "  gene   AND  \" full name\"  -old* " = [" full name".toList] := by
      decide
    rw [hone, List.forall_mem_singleton]
    decide +kernel
  obtain ⟨hsame, hbuilt⟩ := sanitize_transparent.2 _ hchars hquotes hspans
  exact ⟨hchars, hquotes, hspans, by decide, hsame, hbuilt (some 0)⟩

end

end SearchClause
