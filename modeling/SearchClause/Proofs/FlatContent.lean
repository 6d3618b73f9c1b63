import SearchClause.Proofs.FlatReading

/-!
# What a flat query keeps

Every text is a flat query, and reading it passes over much: blanks, plus signs, quotes that are
never closed. It passes over nothing else. Without the signs and the blanks, the values of a piece
are the piece, character by character (`groups_keeps_content`).

* **terms** — `Takes.bare_eq`: what a term takes off a text is its value and signs;
* **scanning** — `bare_scan`: from term to term, what is passed over is a sign or a blank;
* **trimming** — `Text.exists_trim`: blanks come off the ends of a value, and nothing else.
-/

namespace SearchClause

open Text (Blanks EndsRun StartsRun)

/-! ## Trimming -/

namespace Text

variable {c : Char} {s : Text}

/-- **Trimming takes blanks off both ends**, and leaves none there. -/
theorem exists_trim (s : Text) : ∃ b b', Blanks b ∧ Blanks b' ∧ s = b ++ (trim s ++ b') ∧
    EndsRun isBlank (trim s) ∧ StartsRun isBlank (trim s) := by
  obtain ⟨b, hb, hs⟩ := exists_blanks s
  obtain ⟨b', hb', hrev⟩ := exists_blanks (skipBlanks s).reverse
  have hskip : skipBlanks s = trim s ++ b'.reverse := by
    rw [trim, ← List.reverse_append, ← hrev, List.reverse_reverse]
  refine ⟨b, b'.reverse, hb, fun c hc => hb' c (List.mem_reverse.1 hc), ?_, fun c hc => ?_,
    fun c hc => ?_⟩
  · rw [← hskip]
    exact hs
  · -- what comes first after trimming came first before the blanks at the end were taken off
    refine endsRun_dropWhile isBlank s c ?_
    rw [← skipBlanks, hskip, List.head?_append, Option.mem_def.1 hc]
    rfl
  · refine endsRun_dropWhile isBlank (skipBlanks s).reverse c ?_
    rwa [trim, List.getLast?_reverse] at hc

theorem trimmed_trim (h : trim s ≠ []) : Trimmed (trim s) := by
  obtain ⟨-, -, -, -, -, hfirst, hlast⟩ := exists_trim s
  exact ⟨h, hfirst, hlast⟩

theorem mem_of_mem_trim (h : c ∈ trim s) : c ∈ s := by
  obtain ⟨b, b', -, -, hs, -⟩ := exists_trim s
  rw [hs]
  exact List.mem_append_right _ (List.mem_append_left _ h)

end Text

namespace Flat

variable {c : Char} {after piece s signs : Text} {t : FlatTerm}

/-- A text without its blanks and without the signs given. -/
def bare (signs s : Text) : Text :=
  s.filter fun c => !(isBlank c || signs.contains c)

theorem bare_append (s s' : Text) : bare signs (s ++ s') = bare signs s ++ bare signs s' :=
  List.filter_append s s'

theorem bare_cons_of_mem (hc : c ∈ signs) : bare signs (c :: s) = bare signs s :=
  List.filter_cons_of_neg (by simp [hc])

theorem bare_cons_of_isBlank (hc : isBlank c = true) : bare signs (c :: s) = bare signs s :=
  List.filter_cons_of_neg (by simp [hc])

theorem bare_of_blanks {b : Text} (hb : Blanks b) : bare signs b = [] := by
  rw [bare, List.filter_eq_nil_iff]
  intro c hc
  simp [hb c hc]

theorem bare_trim (signs s : Text) : bare signs (Text.trim s) = bare signs s := by
  obtain ⟨b, b', hb, hb', hs, -⟩ := Text.exists_trim s
  have hbare := congrArg (bare signs) hs
  rw [bare_append, bare_append, bare_of_blanks hb, bare_of_blanks hb', List.nil_append,
    List.append_nil] at hbare
  exact hbare.symm

/-- Where there are no quotes, none need to be dropped. -/
theorem bare_of_quote_not_mem (h : '"' ∉ s) : bare ['+', '"', '='] s = bare ['+', '='] s := by
  refine List.filter_congr fun c hc => ?_
  have hquote : c ≠ '"' := by
    rintro rfl
    exact h hc
  simp [hquote]

/-! ## Scanning -/

theorem quote_not_mem_of_plain (h : ∀ c ∈ s, isPlain c = true) : '"' ∉ s := fun hmem =>
  absurd (h _ hmem) (by decide)

theorem Takes.quote_not_mem (h : Takes s t after) : '"' ∉ t.value := by
  cases h with
  | phrase exact _ hquote => exact hquote
  | run exact _ hplain => exact quote_not_mem_of_plain hplain

theorem Takes.subset (h : Takes s t after) : t.value ⊆ s ∧ after ⊆ s := by
  cases h with
  | phrase exact _ _ => exact ⟨fun c hc => by simp [hc], fun c hc => by simp [hc]⟩
  | run exact _ _ => exact ⟨fun c hc => by simp [hc], fun c hc => by simp [hc]⟩

theorem bare_mark (exact : Bool) : bare ['+', '"', '='] (mark exact) = [] := by
  cases exact with
  | true => decide
  | false => decide

/-- **A term takes its value and signs.** -/
theorem Takes.bare_eq (h : Takes s t after) :
    bare ['+', '"', '='] s = bare ['+', '='] t.value ++ bare ['+', '"', '='] after := by
  rw [← bare_of_quote_not_mem h.quote_not_mem]
  cases h with
  | phrase exact _ _ =>
    rw [bare_append, bare_mark, List.nil_append, bare_cons_of_mem (by simp), bare_append,
      bare_cons_of_mem (by simp)]
  | run exact _ _ => rw [bare_append, bare_mark, List.nil_append, bare_append]

/-- Where no term starts, there is no plain character. -/
theorem isPlain_of_term? (h : term? (c :: s) = none) : isPlain c = false := by
  unfold term? at h
  simp only at h
  split at h
  next => cases h
  next =>
    split at h
    next => cases h
    next =>
      split at h
      next => cases h
      next =>
        have hrun : run? (c :: s) = none := Option.map_eq_none_iff.1 h
        cases hc : isPlain c with
        | false => rfl
        | true => simp [run?, hc] at hrun

/-- **What is passed over between terms is a sign or a blank.** -/
theorem bare_scan (hs : ',' ∉ s) :
    bare ['+', '='] ((scan s).flatMap (·.value)) = bare ['+', '"', '='] s := by
  fun_induction scan s with
  | case1 => rfl
  | case2 c rest t after hterm ih =>
    have htakes := takes_of_term? hterm
    rw [List.flatMap_cons, bare_append, ih fun hmem => hs (htakes.subset.2 hmem),
      htakes.bare_eq]
  | case3 c rest hnone ih =>
    obtain ⟨hcomma, hrest⟩ := List.ne_and_not_mem_of_not_mem_cons hs
    have hpassed := isPlain_of_term? hnone
    simp only [isPlain, Bool.not_eq_false', Bool.or_eq_true, decide_eq_true_eq] at hpassed
    rw [ih hrest]
    rcases hpassed with ((rfl | rfl) | rfl) | hblank
    · rw [bare_cons_of_mem (by simp)]
    · rw [bare_cons_of_mem (by simp)]
    · exact absurd rfl hcomma
    · rw [bare_cons_of_isBlank hblank]

theorem forall_mem_scan (s : Text) : ∀ t ∈ scan s, '"' ∉ t.value ∧ t.value ⊆ s := by
  fun_induction scan s with
  | case1 => exact List.forall_mem_nil _
  | case2 c rest t after hterm ih =>
    have htakes := takes_of_term? hterm
    refine List.forall_mem_cons.2 ⟨⟨htakes.quote_not_mem, htakes.subset.1⟩, fun t' ht' => ?_⟩
    obtain ⟨hquote, hsubset⟩ := ih t' ht'
    exact ⟨hquote, List.Subset.trans hsubset htakes.subset.2⟩
  | case3 c rest _ ih =>
    intro t ht
    obtain ⟨hquote, hsubset⟩ := ih t ht
    exact ⟨hquote, List.Subset.trans hsubset (List.subset_cons_self c rest)⟩

/-! ## Terms of a piece -/

/-- A value that is dropped is made of blanks. -/
theorem bare_kept (signs : Text) (ts : List FlatTerm) :
    bare signs (((ts.map fun t => { t with value := t.value.trim }).filter
      (!·.value.isEmpty)).flatMap (·.value)) = bare signs (ts.flatMap (·.value)) := by
  induction ts with
  | nil => rfl
  | cons t ts ih =>
    rw [List.map_cons, List.flatMap_cons, bare_append, ← ih, ← bare_trim signs t.value]
    by_cases hempty : t.value.trim = []
    · rw [List.filter_cons_of_neg (by simp [hempty]), hempty]
      rfl
    · rw [List.filter_cons_of_pos (by simpa using hempty), List.flatMap_cons, bare_append]

theorem bare_terms (hs : ',' ∉ s) :
    bare ['+', '='] ((terms s).flatMap (·.value)) = bare ['+', '"', '='] s := by
  rw [terms, bare_kept, bare_scan hs]

theorem forall_mem_terms (s : Text) : ∀ t ∈ terms s, '"' ∉ t.value ∧ t.value ⊆ s := by
  intro t ht
  obtain ⟨hmem, -⟩ := List.mem_filter.1 ht
  obtain ⟨t', ht', rfl⟩ := List.mem_map.1 hmem
  obtain ⟨hquote, hsubset⟩ := forall_mem_scan s t' ht'
  exact ⟨fun h => hquote (Text.mem_of_mem_trim h), fun c hc => hsubset (Text.mem_of_mem_trim hc)⟩

theorem isPlainPhrase_of_mem_terms (hs : ',' ∉ s) (ht : t ∈ terms s) : IsPlainPhrase t.value := by
  obtain ⟨hquote, hsubset⟩ := forall_mem_terms s t ht
  obtain ⟨hmem, hne⟩ := List.mem_filter.1 ht
  obtain ⟨t', -, rfl⟩ := List.mem_map.1 hmem
  exact ⟨Text.trimmed_trim (by simpa using hne), hquote, fun h => hs (hsubset h)⟩

/-! ## Groups -/

/-- A piece is read as its terms, if it has any. -/
theorem groups_of_piece (h : ',' ∉ piece) :
    groups piece = [terms piece.trim].filter (!·.isEmpty) := by
  have hone : ∀ c ∈ piece, decide (c = ',') = false := by
    intro c hc
    refine decide_eq_false ?_
    rintro rfl
    exact h hc
  rw [groups, Text.pieces_eq_singleton hone, List.map_singleton]

theorem flatten_groups_of_piece (h : ',' ∉ piece) : (groups piece).flatten = terms piece.trim := by
  rw [groups_of_piece h]
  cases terms piece.trim with
  | nil => rfl
  | cons t ts => simp

/-- **Pieces are read one by one.** -/
theorem groups_eq_flatMap (query : Text) :
    groups query = (Text.pieces (· = ',') query).flatMap groups := by
  have hall : ∀ ps : List Text, (∀ p ∈ ps, ',' ∉ p) →
      (ps.map fun p => terms p.trim).filter (!·.isEmpty) = ps.flatMap groups := by
    intro ps hps
    induction ps with
    | nil => rfl
    | cons p ps ih =>
      obtain ⟨hp, hps⟩ := List.forall_mem_cons.1 hps
      rw [List.map_cons, ← List.singleton_append, List.filter_append, ih hps, List.flatMap_cons,
        groups_of_piece hp]
  exact hall _ fun p hp => Text.not_mem_of_mem_pieces hp

/-- **Reading a flat query loses, doubles and reorders nothing.** Each piece between commas is one
group or none, in order. Without blanks and signs, the values of its terms one after the other are
the piece. There is no group without terms, and every value is a plain phrase. -/
theorem groups_keeps_content (query : Text) :
    Text.joinWith [','] (Text.pieces (· = ',') query) = query ∧
      groups query = (Text.pieces (· = ',') query).flatMap groups ∧
      (∀ piece ∈ Text.pieces (· = ',') query, ',' ∉ piece ∧
        (groups piece = [] ∨ ∃ group, groups piece = [group]) ∧
        bare ['+', '='] ((groups piece).flatten.flatMap (·.value)) =
          bare ['+', '"', '='] piece) ∧
      ∀ group ∈ groups query, group ≠ [] ∧ ∀ t ∈ group, IsPlainPhrase t.value := by
  refine ⟨Text.joinWith_pieces ',' query, groups_eq_flatMap query, fun piece hpiece => ?_,
    fun group hgroup => ?_⟩
  · have hcomma := Text.not_mem_of_mem_pieces hpiece
    have htrim : ',' ∉ piece.trim := fun h => hcomma (Text.mem_of_mem_trim h)
    refine ⟨hcomma, ?_, ?_⟩
    · rw [groups_of_piece hcomma]
      cases terms piece.trim with
      | nil => exact .inl rfl
      | cons t ts => exact .inr ⟨t :: ts, rfl⟩
    · rw [flatten_groups_of_piece hcomma, bare_terms htrim, bare_trim]
  · obtain ⟨hmem, hne⟩ := List.mem_filter.1 hgroup
    obtain ⟨piece, hpiece, rfl⟩ := List.mem_map.1 hmem
    have hcomma := Text.not_mem_of_mem_pieces hpiece
    refine ⟨by simpa using hne, fun t ht => ?_⟩
    exact isPlainPhrase_of_mem_terms (fun h => hcomma (Text.mem_of_mem_trim h)) ht

/-- A mark before a quote that is never closed, a phrase of blanks, and two marks. -/
example : groups "=\"a+b,\" \" ,==c\"" =
    [[⟨"=", false⟩, ⟨"a", false⟩, ⟨"b", false⟩], [⟨"=c", true⟩]] := by
  decide +kernel

end Flat

end SearchClause
