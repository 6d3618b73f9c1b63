import SearchClause.Proofs.InPlace
import SearchClause.Proofs.Words
import SearchClause.Query.Printer

/-!
# Terms that are read as they were written

The kind of a term is written with marks at the ends of its value, and the reader takes marks off
again; so a value must not bring marks of its own. `Writable` lists what is asked of the value of
each kind. It depends on where the term stands: directly after a sign another sign belongs to the
word, elsewhere it would negate it.

Main results: a term with a sound value, written where an atom or a factor is read, is read back
exactly when its value is writable (`exists_atomBack`, `exists_factorBack`).
-/

namespace SearchClause

namespace RoundTrip

/-! ## Writable values -/

/-- The values with which a term of a kind is written so that it is read back. A sound value must
not take on a meaning at its ends that its kind does not have; `negated` says that a sign has been
read before it, so that no other one is looked for. -/
structure Writable (negated : Bool) (kind : MatchKind) (v : Text) : Prop
    extends Reader.SoundValue kind v where
  /-- nothing at the start marks it or negates it -/
  start : kind = .contains ∨ kind = .endsWith ∨ kind = .wildcard →
    v.head? ≠ some '=' ∧ v.head? ≠ some '^' ∧ (v.head? = some '-' → negated = true)
  /-- nothing at the end anchors it -/
  finish : kind = .contains ∨ kind = .startsWith ∨ kind = .wildcard → v.getLast? ≠ some '$'

variable {kind : MatchKind} {v w : Text}

theorem ofValue_inj {kind' : MatchKind} {v' : Text} :
    Term.ofValue kind v = Term.ofValue kind' v' ↔ kind = kind' ∧ v = v' := by
  constructor
  · intro h
    obtain rfl : kind = kind' := congrArg Term.kind h
    refine ⟨rfl, ?_⟩
    rw [← Term.value_ofValue kind v, h, Term.value_ofValue]
  · rintro ⟨rfl, rfl⟩
    rfl

/-- The written form of a term that is not exact. -/
def wordOf (kind : MatchKind) (v : Text) : Text :=
  match kind with
  | .startsWith => '^' :: v
  | .endsWith => v ++ ['$']
  | _ => v

theorem written_ofValue (hk : kind ≠ .exact) : (Term.ofValue kind v).written = wordOf kind v := by
  have hv := Term.value_ofValue kind v
  cases kind with
  | exact => exact absurd rfl hk
  | _ => simp only [Term.written, hv]; rfl

theorem written_exact : (Term.ofValue .exact v).written =
    if isBareValue v then '=' :: v else '"' :: v ++ ['"'] := by
  have hv := Term.value_ofValue .exact v
  simp only [Term.written, hv]
  rfl

/-- **How a word comes to have a value.** -/
theorem ends_of_termOfWord (hk : kind ≠ .exact)
    (h : Reader.termOfWord w = .ok (Term.ofValue kind v)) :
    w = '^' :: v ∧ w.getLast? ≠ some '$' ∨
    w = v ++ ['$'] ∧ w.head? ≠ some '=' ∧ w.head? ≠ some '^' ∨
    w = v ∧ w.head? ≠ some '=' ∧ w.head? ≠ some '^' ∧ w.getLast? ≠ some '$' := by
  cases Reader.shape w with
  | exact hmark =>
    rw [Reader.termOfWord_exact hmark] at h
    split at h
    · cases h
    · obtain ⟨-, heq⟩ := Reader.termOf_eq_ok_iff.1 h
      exact absurd (ofValue_inj.1 heq).1.symm hk
  | caret v' hw hlast =>
    rw [hw, Reader.termOfWord_caret (hw ▸ hlast)] at h
    obtain ⟨-, heq⟩ := Reader.termOf_eq_ok_iff.1 h
    exact .inl ⟨(ofValue_inj.1 heq).2 ▸ hw, hlast⟩
  | dollar v' hw hequals hcaret =>
    rw [hw, Reader.termOfWord_dollar (hw ▸ hequals) (hw ▸ hcaret)] at h
    obtain ⟨-, heq⟩ := Reader.termOf_eq_ok_iff.1 h
    exact .inr (.inl ⟨(ofValue_inj.1 heq).2 ▸ hw, hequals, hcaret⟩)
  | bare hequals hcaret hlast =>
    rw [Reader.termOfWord_bare hequals hcaret hlast] at h
    obtain ⟨-, heq⟩ := Reader.termOf_eq_ok_iff.1 h
    exact .inr (.inr ⟨(ofValue_inj.1 heq).2, hequals, hcaret, hlast⟩)

theorem isPatterned_eq_false (hs : Reader.SoundValue kind v)
    (hk : kind = .contains ∨ kind = .startsWith ∨ kind = .endsWith) :
    Reader.isPatterned v = false := by
  rw [← Bool.not_eq_true, Reader.isPatterned_iff]
  rintro ⟨c, hc, hm⟩
  exact hs.plain hk c hc hm

theorem termOfWord_self (hs : Reader.SoundValue kind v) (hk : kind = .contains ∨ kind = .wildcard) :
    Reader.termOfWord v = .ok (Term.ofValue kind v) ↔ Writable true kind v := by
  constructor
  · intro h
    rcases ends_of_termOfWord (by rintro rfl; simp at hk) h with ⟨hv, -⟩ | ⟨hv, -⟩ | ⟨-, hv⟩
    · exact absurd (congrArg List.length hv) (by simp)
    · exact absurd (congrArg List.length hv) (by simp)
    · obtain ⟨hequals, hcaret, hlast⟩ := hv
      exact { hs with start := fun _ => ⟨hequals, hcaret, fun _ => rfl⟩, finish := fun _ => hlast }
  · intro h
    obtain ⟨hequals, hcaret, -⟩ := h.start (by tauto)
    have hkind : Reader.kindOr .contains v = kind := by
      rcases hk with rfl | rfl
      · simp [Reader.kindOr, isPatterned_eq_false hs (by simp)]
      · simp [Reader.kindOr, Reader.isPatterned_iff.2 (hs.pattern rfl)]
    rw [Reader.termOfWord_bare hequals hcaret (h.finish (by tauto)), Reader.termOf_eq_ok_iff, hkind]
    exact ⟨hs.nonempty, rfl⟩

theorem termOfWord_starting (hs : Reader.SoundValue .startsWith v) :
    Reader.termOfWord ('^' :: v) = .ok (Term.ofValue .startsWith v) ↔
      Writable true .startsWith v := by
  have hlast : ('^' :: v).getLast? = v.getLast? := by
    obtain ⟨c, v', rfl⟩ := List.exists_cons_of_ne_nil hs.nonempty
    rfl
  constructor
  · intro h
    rcases ends_of_termOfWord (by simp) h with ⟨-, hv⟩ | ⟨-, -, hv⟩ | ⟨-, -, hv, -⟩
    · rw [hlast] at hv
      exact { hs with start := fun hk => by simp at hk, finish := fun _ => hv }
    · exact absurd rfl hv
    · exact absurd rfl hv
  · intro h
    have hkind : Reader.kindOr .startsWith ('^' :: v) = .startsWith := by
      have hv := isPatterned_eq_false hs (by simp)
      simpa [Reader.kindOr, Reader.isPatterned, Reader.patternMarks] using hv
    rw [Reader.termOfWord_caret (hlast ▸ h.finish (by simp)), Reader.termOf_eq_ok_iff, hkind]
    exact ⟨hs.nonempty, rfl⟩

theorem termOfWord_ending (hs : Reader.SoundValue .endsWith v) :
    Reader.termOfWord (v ++ ['$']) = .ok (Term.ofValue .endsWith v) ↔
      Writable true .endsWith v := by
  have hhead : (v ++ ['$']).head? = v.head? := by
    obtain ⟨c, v', rfl⟩ := List.exists_cons_of_ne_nil hs.nonempty
    rfl
  constructor
  · intro h
    rcases ends_of_termOfWord (by simp) h with ⟨-, hv⟩ | ⟨-, hv⟩ | ⟨-, -, -, hv⟩
    · exact absurd (by simp) hv
    · rw [hhead] at hv
      exact { hs with
        start := fun _ => ⟨hv.1, hv.2, fun _ => rfl⟩
        finish := fun hk => by simp at hk }
    · exact absurd (by simp) hv
  · intro h
    obtain ⟨hequals, hcaret, -⟩ := h.start (by simp)
    have hkind : Reader.kindOr .endsWith (v ++ ['$']) = .endsWith := by
      have hv := isPatterned_eq_false hs (by simp)
      simpa [Reader.kindOr, Reader.isPatterned, Reader.patternMarks] using hv
    rw [Reader.termOfWord_dollar (hhead ▸ hequals) (hhead ▸ hcaret), Reader.termOf_eq_ok_iff, hkind]
    exact ⟨hs.nonempty, rfl⟩

/-- A word is read as the term it was written for when the value is writable. -/
theorem termOfWord_wordOf (hs : Reader.SoundValue kind v) (hk : kind ≠ .exact) :
    Reader.termOfWord (wordOf kind v) = .ok (Term.ofValue kind v) ↔ Writable true kind v := by
  cases kind with
  | exact => exact absurd rfl hk
  | contains => exact termOfWord_self hs (.inl rfl)
  | wildcard => exact termOfWord_self hs (.inr rfl)
  | startsWith => exact termOfWord_starting hs
  | endsWith => exact termOfWord_ending hs

theorem isBareValue_iff : isBareValue v = true ↔
    v ≠ [] ∧ (∀ c ∈ v, isWordChar c = true) ∧ ∀ c ∈ v, c ∉ anchorsAndWildcards := by
  simp [isBareValue, and_assoc]

theorem termOfWord_marked (hbare : isBareValue v = true) :
    Reader.termOfWord ('=' :: v) = .ok (Term.ofValue .exact v) := by
  obtain ⟨hne, -, hmarks⟩ := isBareValue_iff.1 hbare
  have hpat : Reader.isPatterned ('=' :: v) = false := by
    rw [← Bool.not_eq_true, Reader.isPatterned_iff]
    rintro ⟨c, hc, hm⟩
    rcases List.mem_cons.1 hc with rfl | hc
    · exact absurd hm (by decide)
    · exact hmarks c hc (List.mem_cons_of_mem _ (List.mem_cons_of_mem _ hm))
  have hvalue : Reader.exactValue ('=' :: v) = v := by
    have hcaret : v.head? ≠ some '^' := fun h =>
      hmarks '^' (List.mem_of_mem_head? h) (by decide)
    have hdollar : v.getLast? ≠ some '$' := fun h =>
      hmarks '$' (List.mem_of_getLast? h) (by decide)
    simp [Reader.exactValue, Text.dropFirst?_eq_none hcaret, Text.dropLast?_eq_none hdollar]
  rw [Reader.termOfWord_exact (.inl rfl), hpat, hvalue, if_neg (by simp), Reader.termOf_eq_ok_iff]
  exact ⟨hne, rfl⟩

/-! ## Terms in their place -/

theorem leaf_mem_wordTrees {term : Term} :
    Tree.leaf term ∈ wordTrees w ↔ Reader.termOfWord w = .ok term := by
  simp [wordTrees]

theorem writable_exact {negated : Bool} (hs : Reader.SoundValue .exact v) :
    Writable negated .exact v :=
  { hs with
    start := fun h => by simp at h
    finish := fun h => by simp at h }

theorem mem_wordOf {c : Char} (hs : Reader.SoundValue kind v) (hk : kind ≠ .exact)
    (hc : c ∈ wordOf kind v) : isWordChar c = true := by
  have hv := hs.wordlike hk
  cases kind with
  | startsWith =>
    rcases List.mem_cons.1 hc with rfl | hc
    · decide
    · exact hv c hc
  | endsWith =>
    rcases List.mem_append.1 hc with hc | hc
    · exact hv c hc
    · obtain rfl := List.mem_singleton.1 hc
      decide
  | _ => exact hv c hc

theorem wordOf_ne_nil (hs : Reader.SoundValue kind v) : wordOf kind v ≠ [] := by
  have hne := hs.nonempty
  cases kind <;> simp [wordOf, hne]

theorem head?_wordOf (hs : Reader.SoundValue kind v) (hk : kind ≠ .exact) :
    (wordOf kind v).head? = if kind = .startsWith then some '^' else v.head? := by
  obtain ⟨c, v', rfl⟩ := List.exists_cons_of_ne_nil hs.nonempty
  cases kind with
  | exact => exact absurd rfl hk
  | _ => rfl

/-- Where no sign has been read, the written form must not start with one. -/
theorem writable_false_iff (hs : Reader.SoundValue kind v) (hk : kind ≠ .exact) :
    Writable false kind v ↔ Writable true kind v ∧ (wordOf kind v).head? ≠ some '-' := by
  rw [head?_wordOf hs hk]
  constructor
  · intro h
    refine ⟨{ hs with start := fun hk => ?_, finish := h.finish }, ?_⟩
    · exact ⟨(h.start hk).1, (h.start hk).2.1, fun _ => rfl⟩
    · by_cases hstart : kind = .startsWith
      · simp [hstart]
      · rw [if_neg hstart]
        intro hsign
        have := (h.start (by cases kind <;> simp_all)).2.2 hsign
        cases this
  · rintro ⟨h, hsign⟩
    refine { hs with start := fun hk => ⟨(h.start hk).1, (h.start hk).2.1, ?_⟩, finish := h.finish }
    intro hv
    rw [if_neg (by rintro rfl; simp at hk)] at hsign
    exact absurd hv hsign

/-- A term with a sound value, written where an atom is read. -/
theorem exists_atomBack (hs : Reader.SoundValue kind v) :
    ∃ R, AtomBack (Term.ofValue kind v).written R ∧
      (.leaf (Term.ofValue kind v) ∈ R ↔ Writable true kind v) := by
  by_cases hk : kind = .exact
  · subst hk
    rw [written_exact]
    by_cases hbare : isBareValue v = true
    · rw [if_pos hbare]
      obtain ⟨hne, hw, -⟩ := isBareValue_iff.1 hbare
      refine ⟨wordTrees ('=' :: v), atomBack_word ?_, ?_⟩
      · intro c hc
        rcases List.mem_cons.1 hc with rfl | hc
        · decide
        · exact hw c hc
      · rw [leaf_mem_wordTrees]
        exact ⟨fun _ => writable_exact hs, fun _ => termOfWord_marked hbare⟩
    · rw [if_neg hbare]
      exact ⟨_, atomBack_phrase hs.nonempty (hs.unquoted rfl),
        fun _ => writable_exact hs, fun _ => rfl⟩
  · rw [written_ofValue hk]
    refine ⟨wordTrees (wordOf kind v), atomBack_word fun c hc => mem_wordOf hs hk hc, ?_⟩
    rw [leaf_mem_wordTrees, termOfWord_wordOf hs hk]

theorem not_isSign_of_isWordChar {c : Char} (hw : isWordChar c = true) (hc : c ≠ '-') :
    ¬ Reader.IsSign c := by
  rintro (rfl | rfl)
  · exact hc rfl
  · exact absurd hw (by decide)

/-- A term with a sound value, written where a factor is read. -/
theorem exists_factorBack (hs : Reader.SoundValue kind v) :
    ∃ R, FactorBack (Term.ofValue kind v).written R ∧
      (.leaf (Term.ofValue kind v) ∈ R ↔ Writable false kind v) := by
  obtain ⟨R, hatom, hmem⟩ := exists_atomBack hs
  by_cases hk : kind = .exact
  · subst hk
    refine ⟨R, ?_, hmem.trans ⟨fun _ => writable_exact hs, fun _ => writable_exact hs⟩⟩
    rw [written_exact] at hatom ⊢
    by_cases hbare : isBareValue v = true
    · rw [if_pos hbare] at hatom ⊢
      exact hatom.factor (by decide) (by simp [Reader.IsSign])
    · rw [if_neg hbare] at hatom ⊢
      exact hatom.factor (by decide) (by simp [Reader.IsSign])
  · rw [written_ofValue hk] at hatom ⊢
    rw [writable_false_iff hs hk]
    rcases hword : wordOf kind v with _ | ⟨c, w⟩
    · exact absurd hword (wordOf_ne_nil hs)
    · have hw : ∀ d ∈ c :: w, isWordChar d = true := fun d hd => mem_wordOf hs hk (hword ▸ hd)
      by_cases hc : c = '-'
      · -- the sign is read as a negation, which no leaf is
        subst hc
        refine ⟨_, (atomBack_word fun d hd => hw d (List.mem_cons_of_mem _ hd)).negated, ?_⟩
        simp
      · refine ⟨R, ?_, ?_⟩
        · rw [hword] at hatom
          have hchar := hw c List.mem_cons_self
          exact hatom.factor (isBlank_of_isWordChar hchar) (not_isSign_of_isWordChar hchar hc)
        · rw [hmem]
          simp [hc]

end RoundTrip

end SearchClause
