import SearchClause.Proofs.Limits
import SearchClause.Proofs.Phrases
import SearchClause.Proofs.Spacing

/-!
# The terms of a typed query

Every term of a tree comes from one place in the text that was read (`Grammar.Derives.origin`): it
is a phrase between two quotes, or the term of a word outside quotes. From there its characters are
known. Normalizing leaves phrases alone, so a phrase is found in the text that was typed; and it
leaves no shell wildcard outside quotes, so a word has none.

Main result: `buildTree_typedTerms` says what values the terms of each kind have. A term that is no
pattern has wildcards only where its kind puts them, unless it is a phrase that was typed so.
-/

namespace SearchClause

/-- Where a term stands in a text. -/
inductive Origin (s : Text) : Term → Prop where
  /-- between two quotes that belong together -/
  | phrase {u p v : Text} : s = u ++ '"' :: (p ++ '"' :: v) → Unquoted u → p ≠ [] → '"' ∉ p →
      Origin s ⟨p, .exact⟩
  /-- outside quotes, as a word -/
  | word {u w v : Text} {term : Term} : s = u ++ (w ++ v) → Unquoted u →
      (∀ c ∈ w, isWordChar c = true) → Reader.termOfWord w = .ok term → Origin s term

/-- The characters that stand for others in a pattern, and the ones typed for them. -/
def wildcardMarks : Text :=
  ['%', '_', '*', '?']

/-- What the value of a term is like in a tree that was built from a typed text. -/
def TypedValue (raw : Text) (kind : MatchKind) (v : Text) : Prop :=
  v ≠ [] ∧
    match kind with
    | .contains | .startsWith | .endsWith => ∀ c ∈ v, isWordChar c = true ∧ c ∉ wildcardMarks
    | .wildcard =>
      (∀ c ∈ v, isWordChar c = true) ∧ ('%' ∈ v ∨ '_' ∈ v) ∧ '*' ∉ v ∧ '?' ∉ v
    | .exact => '"' ∉ v ∧ ((∃ c ∈ v, c ∈ wildcardMarks) → v ∈ quotedSpans raw)

variable {s rest w x : Text} {t : Tree} {term : Term}

/-! ## Origins -/

/-- A term stands where it stood when a text that closes its quotes is put in front. -/
theorem Origin.after (hx : Unquoted x) (h : Origin s term) : Origin (x ++ s) term := by
  cases h with
  | phrase hs hu hne hp =>
    rw [hs, ← List.append_assoc]
    exact .phrase rfl (unquoted_append hx hu) hne hp
  | word hs hu hw hterm =>
    rw [hs, ← List.append_assoc]
    exact .word rfl (unquoted_append hx hu) hw hterm

namespace Grammar

open Text (Blanks)

variable {part : Part} {b : Text} {c : Char}

/-- A part is the start of its text, and closes its quotes. -/
theorem Derives.exists_consumed (h : Derives part s t rest) : ∃ x, s = x ++ rest ∧ Unquoted x := by
  obtain ⟨x, rfl⟩ := h.isSuffix
  refine ⟨x, rfl, ?_⟩
  have hquotes := h.unquoted_iff
  rw [unquoted_append_iff] at hquotes
  tauto

theorem origin_after_blanks (hb : Blanks b) (h : Origin s term) : Origin (b ++ s) term :=
  h.after (unquoted_of_blanks hb)

theorem origin_after_sign (hb : Blanks b) (hc : c ≠ '"') (h : Origin s term) :
    Origin (b ++ c :: s) term :=
  origin_after_blanks hb (h.after (x := [c]) (unquoted_of_not_mem (by simpa using Ne.symm hc)))

/-- A term of what follows an operator stands in the whole text. -/
theorem Derives.origin_right (h : Derives part s t (b ++ c :: x)) (hb : Blanks b) (hc : c ≠ '"')
    (hx : Origin x term) : Origin s term := by
  obtain ⟨y, rfl, hy⟩ := h.exists_consumed
  exact (origin_after_sign hb hc hx).after hy

/-- **Every term of a tree stands in the text it was read from.** -/
theorem Derives.origin (h : Derives part s t rest) : ∀ term ∈ t.leaves, Origin s term := by
  induction h with
  | first _ ih => exact ih
  | single _ ih => exact ih
  | or hl hb _ ihl ihr =>
    exact List.forall_mem_append.2
      ⟨ihl, fun term hterm => hl.origin_right hb (by decide) (ihr term hterm)⟩
  | and hl hb _ ihl ihr =>
    exact List.forall_mem_append.2
      ⟨ihl, fun term hterm => hl.origin_right hb (by decide) (ihr term hterm)⟩
  | @negated b c b' s t rest hb hc hb' _ ih =>
    have hne : c ≠ '"' := by
      rcases hc with rfl | rfl
      · decide
      · decide
    exact fun term hterm => origin_after_sign hb hne (origin_after_blanks hb' (ih term hterm))
  | plain hb _ _ ih => exact fun term hterm => origin_after_blanks hb (ih term hterm)
  | group _ _ ih =>
    exact fun term hterm => origin_after_sign Text.blanks_nil (by decide) (ih term hterm)
  | @phrase marked p rest hne hp =>
    intro term hterm
    obtain rfl := List.mem_singleton.1 hterm
    have hmarker : Unquoted (marker marked) := by
      cases marked with
      | false => decide
      | true => decide
    exact .phrase rfl hmarker hne hp
  | word _ hw _ hterm =>
    intro term hmem
    obtain rfl := List.mem_singleton.1 hmem
    exact .word rfl unquoted_nil hw hterm

end Grammar

/-! ## Words of a canonical text -/

/-- A word outside quotes has only the characters that a canonical text has there. -/
theorem IsCanonical.plain_word {u v : Text} (hs : IsCanonical (u ++ (w ++ v))) (hu : Unquoted u)
    (hw : ∀ c ∈ w, isWordChar c = true) : ∀ c ∈ w, IsPlainChar c := by
  intro c hc
  obtain ⟨w₁, w₂, rfl⟩ := List.append_of_mem hc
  have hbefore : Unquoted (u ++ w₁) :=
    unquoted_append hu (unquoted_of_word fun d hd => hw d (List.mem_append_left _ hd))
  refine hs.chars (u ++ w₁) c (w₂ ++ v) ?_ hbefore (Canonical.ne_quote_of_isWordChar (hw c hc))
  simp

namespace Reader

/-- An exact term of a word is part of the word, and there is no pattern mark in the word. -/
theorem exact_of_termOfWord (h : termOfWord w = .ok term) (hk : term.kind = .exact) :
    ∀ c ∈ term.text, c ∈ w ∧ c ∉ patternMarks := by
  have hkind : ∀ {kind : MatchKind} {v : Text}, kind ≠ .exact →
      termOf (kindOr kind w) v ≠ .ok term := by
    intro kind v hne heq
    obtain ⟨-, rfl⟩ := termOf_eq_ok_iff.1 heq
    revert hk
    simp only [Term.ofValue, kindOr]
    split
    · simp
    · exact hne
  cases shape w with
  | exact hmark =>
    rw [termOfWord_exact hmark] at h
    rcases hp : isPatterned w with _ | _ <;> rw [hp] at h
    · obtain ⟨-, rfl⟩ := termOf_eq_ok_iff.1 h
      intro c hc
      have hmem : c ∈ w := mem_of_mem_exactValue hc
      exact ⟨hmem, not_isPatterned hp hmem⟩
    · cases h
  | caret v heq hlast =>
    subst heq
    exact absurd ((termOfWord_caret hlast).symm.trans h) (hkind (by decide))
  | dollar v heq hequals hcaret =>
    subst heq
    exact absurd ((termOfWord_dollar hequals hcaret).symm.trans h) (hkind (by decide))
  | bare hequals hcaret hlast =>
    exact absurd ((termOfWord_bare hequals hcaret hlast).symm.trans h) (hkind (by decide))

theorem mem_text_of_mem {kind : MatchKind} {v : Text} {c : Char} (h : c ∈ v) :
    c ∈ (Term.ofValue kind v).text := by
  cases kind <;> simp [Term.ofValue, h]

end Reader

/-! ## Values -/

theorem not_mem_wildcardMarks {c : Char} (hpattern : c ∉ Reader.patternMarks) (hmark : c ≠ '?') :
    c ∉ wildcardMarks := by
  simp only [Reader.patternMarks, List.mem_cons, List.not_mem_nil, or_false] at hpattern
  simp only [wildcardMarks, List.mem_cons, List.not_mem_nil, or_false]
  tauto

/-- The value of a word without shell wildcards is as it should be for a typed text. -/
theorem typedValue_of_soundValue {kind : MatchKind} {v : Text} (raw : Text)
    (hs : Reader.SoundValue kind v) (hshell : ∀ c ∈ v, c ≠ '*' ∧ c ≠ '?')
    (hexact : kind = .exact → ∀ c ∈ v, c ∉ Reader.patternMarks) : TypedValue raw kind v := by
  have hplain : kind = .contains ∨ kind = .startsWith ∨ kind = .endsWith →
      ∀ c ∈ v, isWordChar c = true ∧ c ∉ wildcardMarks := by
    intro hk c hc
    refine ⟨hs.wordlike ?_ c hc, not_mem_wildcardMarks (hs.plain hk c hc) (hshell c hc).2⟩
    rcases hk with rfl | rfl | rfl
    · decide
    · decide
    · decide
  refine ⟨hs.nonempty, ?_⟩
  cases kind with
  | contains => exact hplain (.inl rfl)
  | startsWith => exact hplain (.inr (.inl rfl))
  | endsWith => exact hplain (.inr (.inr rfl))
  | wildcard =>
    refine ⟨hs.wordlike (by decide), ?_, fun h => (hshell _ h).1 rfl, fun h => (hshell _ h).2 rfl⟩
    -- a pattern has a mark, and it is not the one that stands for another
    obtain ⟨c, hc, hmark⟩ := hs.pattern rfl
    simp only [Reader.patternMarks, List.mem_cons, List.not_mem_nil, or_false] at hmark
    rcases hmark with rfl | rfl | rfl
    · exact .inl hc
    · exact .inr hc
    · exact absurd rfl (hshell _ hc).1
  | exact =>
    refine ⟨hs.unquoted rfl, ?_⟩
    rintro ⟨c, hc, hmark⟩
    exact absurd hmark (not_mem_wildcardMarks (hexact rfl c hc) (hshell c hc).2)

/-- **A term that stands in a canonical text has a typed value.** -/
theorem Origin.exists_typedValue (h : Origin s term) (hs : IsCanonical s) :
    ∃ v, term = Term.ofValue term.kind v ∧ TypedValue s term.kind v := by
  cases h with
  | phrase heq hu hne hp =>
    refine ⟨_, rfl, hne, hp, fun _ => ?_⟩
    rw [heq]
    exact mem_quotedSpans hu hp
  | @word u w v' term heq hu hw hterm =>
    rw [heq] at hs
    have hchars := hs.plain_word hu hw
    obtain ⟨v, hv, hsound⟩ := Reader.exists_soundValue hw hterm
    have htext : ∀ c ∈ v, c ∈ term.text := by
      intro c hc
      rw [hv]
      exact Reader.mem_text_of_mem hc
    refine ⟨v, hv, typedValue_of_soundValue s hsound (fun c hc => ?_) fun hk c hc => ?_⟩
    · rcases Reader.mem_of_termOfWord hterm (htext c hc) with hmem | rfl
      · exact (hchars c hmem).2
      · decide
    · exact (Reader.exact_of_termOfWord hterm hk c (htext c hc)).2

/-- A phrase of the normalized text is one of the text that was typed. -/
theorem TypedValue.of_normalize {raw v : Text} {kind : MatchKind}
    (h : TypedValue (normalize raw) kind v) : TypedValue raw kind v := by
  unfold TypedValue at h ⊢
  rwa [quotedSpans_normalize] at h

/-! ## Typed queries -/

theorem isQuery_of_buildTree {limit : Option Nat} {raw : Text} (h : buildTree limit raw = .ok t) :
    Grammar.IsQuery (normalize raw) t := by
  cases limit with
  | none => exact buildTree_eq_ok_iff.1 h
  | some limit => exact buildTree_eq_ok_iff.1 (parse_of_parse_limit h)

/-- **The terms of a typed query.** Each is made from a value that is not empty. A word that occurs,
starts or ends has no wildcard in its value, so that those in its text are the ones its kind puts
there; a pattern has a `%` or a `_` and none of the signs typed for them; and an exact value with
one of all these signs is a phrase, as it was typed. So no term matches everything by having no
value. -/
theorem buildTree_typedTerms {limit : Option Nat} {raw : Text} (h : buildTree limit raw = .ok t) :
    ∀ term ∈ t.leaves,
      (∃ v, term = Term.ofValue term.kind v ∧ TypedValue raw term.kind v) ∧
      (term.kind = .contains → term.text ≠ "%%") ∧
      (term.kind = .startsWith ∨ term.kind = .endsWith → term.text ≠ "%") := by
  intro term hterm
  obtain ⟨b, hd, -⟩ := isQuery_of_buildTree h
  obtain ⟨v, hv, htyped⟩ := (hd.origin term hterm).exists_typedValue (isCanonical_normalize raw)
  refine ⟨⟨v, hv, htyped.of_normalize⟩, fun hk htext => ?_, fun hk htext => ?_⟩
  · rw [hv, hk] at htext
    exact htyped.1 (by simpa [Term.ofValue] using htext)
  · rcases hk with hk | hk
    · rw [hv, hk] at htext
      exact htyped.1 (by simpa [Term.ofValue] using htext)
    · rw [hv, hk] at htext
      exact htyped.1 (by simpa [Term.ofValue] using htext)

/-- All kinds of terms; the wildcards of the phrase are those that were typed, and the mark that is
left over at the start of a word is part of its value. -/
theorem buildTree_typedTerms_allKinds :
    buildTree (some 1) "ab (^^c,d$) -e*f? =gh \"*i_\"" =
        .ok (.and (.and (.and (.and (.leaf ⟨"%ab%", .contains⟩)
          (.or (.leaf ⟨"^c%", .startsWith⟩) (.leaf ⟨"%d", .endsWith⟩)))
          (.not (.leaf ⟨"e%f_", .wildcard⟩))) (.leaf ⟨"gh", .exact⟩)) (.leaf ⟨"*i_", .exact⟩)) ∧
      quotedSpans "ab (^^c,d$) -e*f? =gh \"*i_\"" = ["*i_".toList] ∧
      ∃ v, (⟨"*i_", .exact⟩ : Term) = Term.ofValue .exact v ∧
        TypedValue "ab (^^c,d$) -e*f? =gh \"*i_\"" .exact v := by
  have hbuilt : buildTree (some 1) "ab (^^c,d$) -e*f? =gh \"*i_\"" =
      .ok (.and (.and (.and (.and (.leaf ⟨"%ab%", .contains⟩)
        (.or (.leaf ⟨"^c%", .startsWith⟩) (.leaf ⟨"%d", .endsWith⟩)))
        (.not (.leaf ⟨"e%f_", .wildcard⟩))) (.leaf ⟨"gh", .exact⟩)) (.leaf ⟨"*i_", .exact⟩)) := by
    decide +kernel
  exact ⟨hbuilt, by decide +kernel,
    (buildTree_typedTerms hbuilt ⟨"*i_", .exact⟩ (by simp [Tree.leaves])).1⟩

end SearchClause
