import SearchClause.Proofs.Reread
import SearchClause.Proofs.Spacing

/-!
# When a written query is canonical

A tree that was built from a typed query is written as a query again, without blanks. Whether the
result is canonical is decided by the exact terms in it. Every other word comes from a canonical
text, and stays canonical when its marks are taken off and put back (`wordsCanonical_of_derives`).
But a phrase is taken as it stands between quotes, and written without them when it is made of word
characters; a `?` or a keyword in it then means something.

Main result: the written query is left alone by `normalize` exactly when no exact term that is
written bare has a `?` or a keyword (`normalize_written_iff_of_buildTree`). The phrase `"AND"` is
written `=AND`, and that is normalized to `=+`.
-/

namespace SearchClause

open Grammar (Derives Part)
open RoundTrip (Sound wordOf)
open Text (Blanks EndsRun)

/-- A value that means the same without quotes: it has no shell wildcard, and no maximal run of
letters in it is a keyword. Of the shell wildcards only `?` is asked about, as a value with a `*` is
never written bare. -/
structure KeepsBare (v : Text) : Prop where
  /-- no character is replaced -/
  mark : '?' ∉ v
  /-- no word is an operator -/
  words : KeywordFree v

variable {b p rest s v w : Text} {c : Char} {kind : MatchKind} {t : Tree} {term : Term}

/-! ## Canonical texts in parts -/

theorem endsRun_isAlphabetic (h : EndsRun isWordChar s) : EndsRun isAlphabetic s := by
  intro c hc
  rw [← Bool.not_eq_true]
  intro hletter
  have hword := h c hc
  rw [Canonical.isWordChar_of_isAlphabetic hletter] at hword
  cases hword

/-- The marks and operators that a written query has outside its values. -/
def writtenMarks : Text :=
  ['(', ')', ',', '+', '-', '=', '^', '$']

theorem of_mem_writtenMarks (hc : c ∈ writtenMarks) :
    c ≠ '"' ∧ isAlphabetic c = false ∧ IsPlainChar c := by
  have hall : writtenMarks.all
      (fun d => decide (d ≠ '"' ∧ isAlphabetic d = false ∧ IsPlainChar d)) = true := by
    decide
  exact of_decide_eq_true (List.all_eq_true.1 hall c hc)

/-- A mark is canonical wherever it stands. -/
theorem isCanonical_cons (hc : c ∈ writtenMarks) : IsCanonical (c :: s) ↔ IsCanonical s := by
  obtain ⟨hquote, hletter, hplain⟩ := of_mem_writtenMarks hc
  exact (cleanOutside_cons hquote hletter).trans (and_iff_right hplain)

/-- A mark parts a text where no quote is open. -/
theorem isCanonical_append_cons (hc : c ∈ writtenMarks) (hv : Unquoted v) :
    IsCanonical (v ++ c :: s) ↔ IsCanonical v ∧ IsCanonical s := by
  have hends : EndsRun isAlphabetic (c :: s) := Text.endsRun_cons.2 (of_mem_writtenMarks hc).2.1
  exact (cleanOutside_append hv hends).trans (and_congr_right' (isCanonical_cons hc))

theorem isCanonical_concat (hc : c ∈ writtenMarks) (hv : Unquoted v) :
    IsCanonical (v ++ [c]) ↔ IsCanonical v :=
  (isCanonical_append_cons hc hv).trans (and_iff_left cleanOutside_nil)

theorem IsCanonical.after_blanks (hb : Blanks b) (h : IsCanonical (b ++ s)) : IsCanonical s := by
  refine ((cleanOutside_append_left fun c hc => ⟨?_, ?_⟩).1 h).2
  · rintro rfl
    exact Grammar.quote_not_mem_blanks hb hc
  · exact not_isAlphabetic_of_isBlank (hb c hc)

/-! ## Terms -/

/-- A word with its marks is as canonical as its value. -/
theorem isCanonical_wordOf (hv : ∀ c ∈ v, isWordChar c = true) :
    IsCanonical (wordOf kind v) ↔ IsCanonical v := by
  cases kind with
  | startsWith => exact isCanonical_cons (by decide)
  | endsWith => exact isCanonical_concat (by decide) (unquoted_of_word hv)
  | _ => exact Iff.rfl

/-- **The value of a canonical word is canonical**, whatever marks the word had. -/
theorem isCanonical_of_termOfWord (hw : ∀ c ∈ w, isWordChar c = true) (hk : kind ≠ .exact)
    (h : Reader.termOfWord w = .ok (Term.ofValue kind v)) (hc : IsCanonical w) :
    IsCanonical v := by
  rcases RoundTrip.ends_of_termOfWord hk h with ⟨rfl, -⟩ | ⟨rfl, -⟩ | ⟨rfl, -⟩
  · exact (isCanonical_cons (by decide)).1 hc
  · have hv := unquoted_of_word fun c hc => hw c (List.mem_append_left _ hc)
    exact (isCanonical_concat (by decide) hv).1 hc
  · exact hc

/-- Without quotes, a bare value is canonical when it means the same. -/
theorem isCanonical_iff_keepsBare (hbare : isBareValue v = true) :
    IsCanonical v ↔ KeepsBare v := by
  obtain ⟨-, hw, hmarks⟩ := RoundTrip.isBareValue_iff.1 hbare
  have hquote : '"' ∉ v := fun hmem => absurd (hw _ hmem) (by decide)
  rw [IsCanonical, cleanOutside_iff_keywordFree hquote]
  constructor
  · rintro ⟨hchars, hwords⟩
    exact ⟨fun hmem => (hchars _ hmem).2.2 rfl, hwords⟩
  · intro h
    refine ⟨fun c hc => ⟨isBlank_of_isWordChar (hw c hc), ?_, ?_⟩, h.words⟩
    · rintro rfl
      exact hmarks '*' hc (by decide)
    · rintro rfl
      exact h.mark hc

/-- **An exact term is written canonically unless it is written bare and its value means
something.** -/
theorem isCanonical_written_exact (hs : Reader.SoundValue .exact v) :
    IsCanonical (Term.ofValue .exact v).written ↔ (isBareValue v = true → KeepsBare v) := by
  rw [RoundTrip.written_exact]
  by_cases hbare : isBareValue v = true
  · rw [if_pos hbare, isCanonical_cons (by decide), isCanonical_iff_keepsBare hbare]
    simp [hbare]
  · rw [if_neg hbare]
    have hquoted : IsCanonical ('"' :: (v ++ ['"'])) :=
      (cleanOutside_phrase (hs.unquoted rfl)).2 cleanOutside_nil
    exact iff_of_true hquoted fun h => absurd h hbare

theorem unquoted_written (hs : Sound term) : Unquoted term.written := by
  obtain ⟨v, hv, hsound⟩ := hs
  rw [hv]
  by_cases hk : term.kind = .exact
  · rw [hk] at hsound ⊢
    rw [RoundTrip.written_exact]
    split
    · next hbare =>
      rw [unquoted_cons (by decide)]
      exact unquoted_of_word (RoundTrip.isBareValue_iff.1 hbare).2.1
    · have hphrase := unquoted_of_not_mem (hsound.unquoted rfl)
      rw [List.cons_append, unquoted_cons_quote, unquoted_concat_quote, not_not]
      exact hphrase
  · rw [RoundTrip.written_ofValue hk]
    exact unquoted_of_word fun c hc => RoundTrip.mem_wordOf hsound hk hc

/-! ## Trees -/

theorem unquoted_enclosed {grouped : Bool} :
    Unquoted (Text.enclosed grouped s) ↔ Unquoted s := by
  cases grouped with
  | false => exact Iff.rfl
  | true =>
    rw [Text.enclosed, if_pos rfl, List.cons_append, unquoted_cons (by decide),
      unquoted_concat (by decide)]

theorem isCanonical_enclosed {grouped : Bool} (hs : Unquoted s) :
    IsCanonical (Text.enclosed grouped s) ↔ IsCanonical s := by
  cases grouped with
  | false => exact Iff.rfl
  | true =>
    rw [Text.enclosed, if_pos rfl, List.cons_append, isCanonical_cons (by decide),
      isCanonical_concat (by decide) hs]

/-- What a tree with two operands needs of them. -/
theorem isCanonical_binary {x y : Text} {grouped grouped' : Bool} {P Q : Prop}
    (hc : c ∈ writtenMarks) (hx : Unquoted x ∧ (IsCanonical x ↔ P))
    (hy : Unquoted y ∧ (IsCanonical y ↔ Q)) :
    Unquoted (Text.enclosed grouped x ++ c :: Text.enclosed grouped' y) ∧
      (IsCanonical (Text.enclosed grouped x ++ c :: Text.enclosed grouped' y) ↔
        P ∧ Q) := by
  have hleft : Unquoted (Text.enclosed grouped x) := unquoted_enclosed.2 hx.1
  constructor
  · refine unquoted_append hleft ((unquoted_cons (of_mem_writtenMarks hc).1).2 ?_)
    exact unquoted_enclosed.2 hy.1
  · rw [isCanonical_append_cons hc hleft, isCanonical_enclosed hx.1,
      isCanonical_enclosed hy.1, hx.2, hy.2]

/-- **A tree is written canonically when all its terms are**, and it closes its quotes. -/
theorem isCanonical_written_iff (hs : ∀ term ∈ t.leaves, Sound term) :
    Unquoted t.written ∧
      (IsCanonical t.written ↔ ∀ term ∈ t.leaves, IsCanonical term.written) := by
  induction t with
  | leaf term =>
    refine ⟨unquoted_written (hs term List.mem_cons_self), ?_⟩
    simp [Tree.written, Tree.leaves]
  | not child ih =>
    obtain ⟨hquotes, hiff⟩ := ih hs
    refine ⟨(unquoted_cons (by decide)).2 (unquoted_enclosed.2 hquotes), ?_⟩
    rw [Tree.written, isCanonical_cons (by decide), isCanonical_enclosed hquotes, hiff]
    rfl
  | and left right ihl ihr =>
    obtain ⟨hsl, hsr⟩ := List.forall_mem_append.1 hs
    obtain ⟨hquotes, hiff⟩ := isCanonical_binary (c := '+') (by decide) (ihl hsl) (ihr hsr)
    exact ⟨hquotes, hiff.trans List.forall_mem_append.symm⟩
  | or left right ihl ihr =>
    obtain ⟨hsl, hsr⟩ := List.forall_mem_append.1 hs
    obtain ⟨hquotes, hiff⟩ := isCanonical_binary (c := ',') (by decide) (ihl hsl) (ihr hsr)
    exact ⟨hquotes, hiff.trans List.forall_mem_append.symm⟩

/-! ## Trees that have been read -/

/-- The terms of a tree that are not exact are written canonically. -/
def WordsCanonical (t : Tree) : Prop :=
  ∀ term ∈ t.leaves, term.kind ≠ .exact → IsCanonical term.written

/-- **What is read from a canonical text is written canonically, but for its exact terms**, and
what is left of the text is canonical too. -/
theorem wordsCanonical_of_derives {part : Part} (h : Derives part s t rest)
    (hs : IsCanonical s) : WordsCanonical t ∧ IsCanonical rest := by
  induction h with
  | first _ ih => exact ih hs
  | single _ ih => exact ih hs
  | or _ hb _ ihl ihr =>
    obtain ⟨hl, hmid⟩ := ihl hs
    obtain ⟨hr, hrest⟩ := ihr ((isCanonical_cons (by decide)).1 (hmid.after_blanks hb))
    exact ⟨List.forall_mem_append.2 ⟨hl, hr⟩, hrest⟩
  | and _ hb _ ihl ihr =>
    obtain ⟨hl, hmid⟩ := ihl hs
    obtain ⟨hr, hrest⟩ := ihr ((isCanonical_cons (by decide)).1 (hmid.after_blanks hb))
    exact ⟨List.forall_mem_append.2 ⟨hl, hr⟩, hrest⟩
  | @negated b c b' s t rest hb hc hb' _ ih =>
    have hsign : isAlphabetic c = false ∧ c ≠ '"' := by
      rcases hc with rfl | rfl
      · decide
      · decide
    have hafter := ((cleanOutside_cons hsign.2 hsign.1).1 (hs.after_blanks hb)).2
    exact ih (IsCanonical.after_blanks hb' hafter)
  | plain hb _ _ ih => exact ih (hs.after_blanks hb)
  | group _ hb ih =>
    obtain ⟨hwords, hmid⟩ := ih ((isCanonical_cons (by decide)).1 hs)
    exact ⟨hwords, (isCanonical_cons (by decide)).1 (hmid.after_blanks hb)⟩
  | @phrase marked p rest _ hp =>
    refine ⟨fun term hterm hk => ?_, ?_⟩
    · obtain rfl := List.mem_singleton.1 hterm
      exact absurd rfl hk
    · cases marked with
      | false => exact (cleanOutside_phrase hp).1 hs
      | true => exact (cleanOutside_phrase hp).1 ((isCanonical_cons (by decide)).1 hs)
  | @word w term rest _ hw hend hterm =>
    obtain ⟨hword, hrest⟩ :=
      (cleanOutside_append (unquoted_of_word hw) (endsRun_isAlphabetic hend)).1 hs
    refine ⟨fun term' hmem hk => ?_, hrest⟩
    obtain rfl := List.mem_singleton.1 hmem
    obtain ⟨v, hv, hsound⟩ := Reader.exists_soundValue hw hterm
    rw [hv] at hterm ⊢
    rw [RoundTrip.written_ofValue hk, isCanonical_wordOf (hsound.wordlike hk)]
    exact isCanonical_of_termOfWord hw hk hterm hword

/-- A tree built from a typed query is written canonically when its exact terms are. -/
theorem isCanonical_written_of_derives {part : Part} (h : Derives part s t rest)
    (hs : IsCanonical s) :
    IsCanonical t.written ↔
      ∀ term ∈ t.leaves, term.kind = .exact → isBareValue term.text = true →
        KeepsBare term.text := by
  have hsound := RoundTrip.sound_of_derives h
  have hexact : ∀ term ∈ t.leaves, term.kind = .exact →
      (IsCanonical term.written ↔ (isBareValue term.text = true → KeepsBare term.text)) := by
    intro term hterm hk
    obtain ⟨v, hv, hs⟩ := hsound term hterm
    rw [hk] at hv hs
    rw [hv]
    exact isCanonical_written_exact hs
  rw [(isCanonical_written_iff hsound).2]
  constructor
  · intro hall term hterm hk
    exact (hexact term hterm hk).1 (hall term hterm)
  · intro hall term hterm
    by_cases hk : term.kind = .exact
    · exact (hexact term hterm hk).2 (hall term hterm hk)
    · exact (wordsCanonical_of_derives h hs).1 term hterm hk

/-- **The written form of a typed query is canonical exactly when no exact term that is written bare
has a `?` or a keyword**, and then typing it means reading it as it stands. -/
theorem normalize_written_iff_of_buildTree {raw : Text} (h : buildTree none raw = .ok t) :
    (normalize t.written = t.written ↔
      ∀ term ∈ t.leaves, term.kind = .exact → isBareValue term.text = true →
        KeepsBare term.text) ∧
      (normalize t.written = t.written → buildTree none t.written = parse none t.written) := by
  obtain ⟨b, hd, -⟩ := buildTree_eq_ok_iff.1 h
  refine ⟨?_, fun hfixed => congrArg (parse none) hfixed⟩
  rw [← isCanonical_written_of_derives hd (isCanonical_normalize raw)]
  constructor
  · intro hfixed
    rw [← hfixed]
    exact isCanonical_normalize t.written
  · exact normalize_eq_self

/-- A word that only starts like a keyword may stand bare, and between quotes anything may. -/
theorem normalize_written_iff_of_buildTree_phrases :
    buildTree none "\"ANDROID\" \"NOT ? AND\"" =
        .ok (.and (.leaf ⟨"ANDROID", .exact⟩) (.leaf ⟨"NOT ? AND", .exact⟩)) ∧
      (Tree.and (.leaf ⟨"ANDROID", .exact⟩) (.leaf ⟨"NOT ? AND", .exact⟩)).written =
        "=ANDROID+\"NOT ? AND\"" ∧
      normalize (Tree.and (.leaf ⟨"ANDROID", .exact⟩) (.leaf ⟨"NOT ? AND", .exact⟩)).written =
        (Tree.and (.leaf ⟨"ANDROID", .exact⟩) (.leaf ⟨"NOT ? AND", .exact⟩)).written := by
  have hbuilt : buildTree none "\"ANDROID\" \"NOT ? AND\"" =
      .ok (.and (.leaf ⟨"ANDROID", .exact⟩) (.leaf ⟨"NOT ? AND", .exact⟩)) := by
    decide +kernel
  refine ⟨hbuilt, by decide +kernel, (normalize_written_iff_of_buildTree hbuilt).1.2 ?_⟩
  intro term hterm _ hbare
  simp only [Tree.leaves, List.cons_append, List.nil_append, List.mem_cons, List.not_mem_nil,
    or_false] at hterm
  rcases hterm with rfl | rfl
  · exact (isCanonical_iff_keepsBare hbare).1 (by decide)
  · exact absurd hbare (by decide)

/-- **Not every written query is canonical.** The phrase is written bare, where its word is an
operator; and one with such a word inside is read as another query. -/
theorem normalize_written_ne_of_keyword_phrase :
    buildTree none "\"AND\"" = .ok (.leaf ⟨"AND", .exact⟩) ∧
      (Tree.leaf ⟨"AND", .exact⟩).written = "=AND" ∧
      normalize (Tree.leaf ⟨"AND", .exact⟩).written = "=+" ∧
      normalize (Tree.leaf ⟨"AND", .exact⟩).written ≠ (Tree.leaf ⟨"AND", .exact⟩).written ∧
      buildTree none "\"x-OR-y\"" = .ok (.leaf ⟨"x-OR-y", .exact⟩) ∧
      buildTree none (Tree.leaf ⟨"x-OR-y", .exact⟩).written =
        .ok (.or (.leaf ⟨"x-", .exact⟩) (.not (.leaf ⟨"%y%", .contains⟩))) := by
  have hnormal : normalize (Tree.leaf ⟨"AND", .exact⟩).written = "=+" := by
    decide +kernel
  have hwritten : (Tree.leaf ⟨"AND", .exact⟩).written = "=AND" := by
    decide +kernel
  refine ⟨by decide +kernel, hwritten, hnormal, ?_, by decide +kernel, by decide +kernel⟩
  rw [hnormal, hwritten]
  decide

end SearchClause
