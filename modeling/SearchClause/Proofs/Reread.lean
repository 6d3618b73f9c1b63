import SearchClause.Proofs.RoundTrip

/-!
# Writing a query that has been read

A tree that was read from a query is written as a query again. Whether this one is read as the same
tree is decided by the patterns in it. An exact term can always be written, and any other word is
written as it was read (`wordOf_eq_of_termOfWord`). But a pattern is stored without the `^` or `$`
it was read with, and written without one; what stood beside the mark is then at an end of the word
and is taken for a mark, or a sign, itself.

Main result: a query that has been read survives exactly when the ends of its patterns say nothing
(`parse_written_iff_of_parse`). The pattern of `^-a%` says that `a%` is negated.
-/

namespace SearchClause

namespace RoundTrip

open Grammar (Derives Part)

/-- Neither end of a pattern is taken for a mark, nor its start for a sign; `negated` says that a
sign has been read before it. -/
def MuteEnds (negated : Bool) (v : Text) : Prop :=
  v.head? ≠ some '=' ∧ v.head? ≠ some '^' ∧ (v.head? = some '-' → negated = true) ∧
    v.getLast? ≠ some '$'

/-- Every leaf that is no pattern is written so that it is read back. -/
def WordsReadable (negated : Bool) (t : Tree) : Prop :=
  ∀ p ∈ t.signedLeaves negated, p.2.kind ≠ .wildcard → Readable p.1 p.2

variable {negated : Bool} {kind : MatchKind} {s rest v w : Text} {t : Tree} {term : Term}

/-! ## Words -/

/-- A term that is no pattern has the kind that the shape of its word decides. -/
theorem eq_of_termOf_kindOr {k : MatchKind} {u : Text} (hpattern : kind ≠ .wildcard)
    (h : Reader.termOf (Reader.kindOr k w) u = .ok (Term.ofValue kind v)) : k = kind ∧ u = v := by
  obtain ⟨-, heq⟩ := Reader.termOf_eq_ok_iff.1 h
  obtain ⟨hk, hu⟩ := ofValue_inj.1 heq
  refine ⟨?_, hu⟩
  cases hp : Reader.isPatterned w with
  | false => simpa [Reader.kindOr, hp] using hk
  | true =>
    rw [Reader.kindOr, hp, if_pos rfl] at hk
    exact absurd hk.symm hpattern

/-- **A word that is neither exact nor a pattern is written as it was read.** -/
theorem wordOf_eq_of_termOfWord (hexact : kind ≠ .exact) (hpattern : kind ≠ .wildcard)
    (h : Reader.termOfWord w = .ok (Term.ofValue kind v)) : w = wordOf kind v := by
  cases Reader.shape w with
  | exact hmark =>
    rw [Reader.termOfWord_exact hmark] at h
    split at h
    · cases h
    · obtain ⟨-, heq⟩ := Reader.termOf_eq_ok_iff.1 h
      exact absurd (ofValue_inj.1 heq).1.symm hexact
  | caret v' hw hlast =>
    rw [hw, Reader.termOfWord_caret (hw ▸ hlast)] at h
    obtain ⟨rfl, rfl⟩ := eq_of_termOf_kindOr hpattern h
    exact hw
  | dollar v' hw hequals hcaret =>
    rw [hw, Reader.termOfWord_dollar (hw ▸ hequals) (hw ▸ hcaret)] at h
    obtain ⟨rfl, rfl⟩ := eq_of_termOf_kindOr hpattern h
    exact hw
  | bare hequals hcaret hlast =>
    rw [Reader.termOfWord_bare hequals hcaret hlast] at h
    obtain ⟨rfl, rfl⟩ := eq_of_termOf_kindOr hpattern h
    rfl

/-- The term of a word that is no pattern can be written wherever the word was read. -/
theorem readable_of_termOfWord (hw : ∀ c ∈ w, isWordChar c = true)
    (h : Reader.termOfWord w = .ok term) (hpattern : term.kind ≠ .wildcard)
    (hsign : w.head? = some '-' → negated = true) : Readable negated term := by
  obtain ⟨v, hv, hs⟩ := Reader.exists_soundValue hw h
  refine (readable_iff hv).2 ?_
  by_cases hexact : term.kind = .exact
  · rw [hexact] at hs ⊢
    exact writable_exact hs
  · rw [hv] at h
    have hword : w = wordOf term.kind v := wordOf_eq_of_termOfWord hexact hpattern h
    have hwritable : Writable true term.kind v := by
      rw [← termOfWord_wordOf hs hexact, ← hword]
      exact h
    cases negated with
    | true => exact hwritable
    | false =>
      refine (writable_false_iff hs hexact).2 ⟨hwritable, fun hhead => ?_⟩
      rw [← hword] at hhead
      exact absurd (hsign hhead) (by decide)

/-! ## Trees that have been read -/

theorem Readable.after_sign (h : Readable false term) : Readable true term := by
  obtain ⟨v, hv, hw⟩ := h
  refine ⟨v, hv, { hw with start := fun hk => ?_ }⟩
  exact ⟨(hw.start hk).1, (hw.start hk).2.1, fun _ => rfl⟩

theorem WordsReadable.after_sign (h : WordsReadable false t) : WordsReadable true t := by
  cases t with
  | leaf term =>
    intro p hp hk
    obtain rfl := List.mem_singleton.1 hp
    exact (h (false, term) (List.mem_singleton.2 rfl) hk).after_sign
  | _ => exact h

theorem wordsReadable_leaf (h : term.kind ≠ .wildcard → Readable negated term) :
    WordsReadable negated (.leaf term) := by
  intro p hp hk
  obtain rfl := List.mem_singleton.1 hp
  exact h hk

/-- What is known of the tree of a part. An atom may be read behind a sign, and only there does a
leading `-` belong to its word. -/
def PartReadable : Part → Text → Tree → Prop
  | .atom, s, t => WordsReadable true t ∧ (s.head? ≠ some '-' → WordsReadable false t)
  | _, _, t => WordsReadable false t

/-- **What has been read can be written, but for its patterns.** -/
theorem partReadable_of_derives {part : Part} (h : Derives part s t rest) :
    PartReadable part s t := by
  induction h with
  | first _ ih => exact ih
  | single _ ih => exact ih
  | or _ _ _ ihl ihr => exact List.forall_mem_append.2 ⟨ihl, ihr⟩
  | and _ _ _ ihl ihr => exact List.forall_mem_append.2 ⟨ihl, ihr⟩
  | negated _ _ _ _ ih => exact ih.1
  | @plain b c s t rest _ hc _ ih =>
    refine ih.2 fun hhead => hc (.inl ?_)
    simpa using hhead
  | group _ _ ih =>
    have hquery : WordsReadable false _ := ih
    exact ⟨hquery.after_sign, fun _ => hquery⟩
  | phrase hne hp =>
    have hs := Reader.soundValue_exact hne hp
    have hleaf : ∀ negated, WordsReadable negated (.leaf ⟨_, .exact⟩) := fun negated =>
      wordsReadable_leaf fun _ => ⟨_, rfl, writable_exact hs⟩
    exact ⟨hleaf true, fun _ => hleaf false⟩
  | @word w term rest hne hw hend hterm =>
    refine ⟨wordsReadable_leaf fun hk => ?_, fun hhead => wordsReadable_leaf fun hk => ?_⟩
    · exact readable_of_termOfWord hw hterm hk fun _ => rfl
    · refine readable_of_termOfWord hw hterm hk fun hsign => absurd ?_ hhead
      obtain ⟨w', rfl⟩ := Text.exists_of_head? hsign
      rfl

/-! ## Patterns -/

/-- A pattern is written as it stands, so it is read back when its ends say nothing. -/
theorem readable_wildcard_iff (hs : Sound term) (hk : term.kind = .wildcard) :
    Readable negated term ↔ MuteEnds negated term.text := by
  obtain ⟨v, hv, hsound⟩ := hs
  have htext : term.text = v := by
    rw [hv, hk]
    rfl
  rw [readable_iff hv, htext]
  constructor
  · intro h
    obtain ⟨hequals, hcaret, hsign⟩ := h.start (.inr (.inr hk))
    exact ⟨hequals, hcaret, hsign, h.finish (.inr (.inr hk))⟩
  · rintro ⟨hequals, hcaret, hsign, hdollar⟩
    exact { hsound with
      start := fun _ => ⟨hequals, hcaret, hsign⟩
      finish := fun _ => hdollar }

theorem whole_written_eq_ok_iff (hs : ∀ term ∈ t.leaves, Sound term) :
    Reader.whole none t.written = .ok t ↔ AllReadable false t := by
  obtain ⟨R, hR, hmem⟩ := exists_readsBack t hs
  rw [hR.query.whole t, hmem]

/-- **A query that has been read is read back from its written form exactly when the ends of its
patterns say nothing.** -/
theorem parse_written_iff_of_parse {s : Text} {t : Tree} (h : parse none s = .ok t) :
    parse none t.written = .ok t ↔
      ∀ p ∈ t.signedLeaves false, p.2.kind = .wildcard → MuteEnds p.1 p.2.text := by
  obtain ⟨b, hd, -⟩ := (Grammar.whole_eq_ok_iff s t).1 ((parse_eq_ok_iff_whole none s t).1 h)
  have hsound : ∀ p ∈ t.signedLeaves false, Sound p.2 := by
    intro p hp
    refine sound_of_derives hd p.2 ?_
    rw [← t.map_snd_signedLeaves false]
    exact List.mem_map_of_mem hp
  rw [parse_eq_ok_iff_whole, whole_written_eq_ok_iff (sound_of_derives hd)]
  constructor
  · intro hall p hp hk
    exact (readable_wildcard_iff (hsound p hp) hk).1 (hall p hp)
  · intro hends p hp
    by_cases hk : p.2.kind = .wildcard
    · exact (readable_wildcard_iff (hsound p hp) hk).2 (hends p hp hk)
    · exact partReadable_of_derives hd p hp hk

/-- Behind a sign, the sign at the start of a pattern is part of it. -/
theorem parse_written_iff_of_parse_signs :
    parse none "^a%+--b%" =
        .ok (.and (.leaf ⟨"a%", .wildcard⟩) (.not (.leaf ⟨"-b%", .wildcard⟩))) ∧
      (∀ p ∈ (Tree.and (.leaf ⟨"a%", .wildcard⟩) (.not (.leaf ⟨"-b%", .wildcard⟩))).signedLeaves
        false, p.2.kind = .wildcard → MuteEnds p.1 p.2.text) ∧
      parse none (Tree.and (.leaf ⟨"a%", .wildcard⟩) (.not (.leaf ⟨"-b%", .wildcard⟩))).written =
        .ok (.and (.leaf ⟨"a%", .wildcard⟩) (.not (.leaf ⟨"-b%", .wildcard⟩))) := by
  have hparse : parse none "^a%+--b%" =
      .ok (.and (.leaf ⟨"a%", .wildcard⟩) (.not (.leaf ⟨"-b%", .wildcard⟩))) := by
    decide +kernel
  have hends : ∀ p ∈ (Tree.and (.leaf ⟨"a%", .wildcard⟩)
      (.not (.leaf ⟨"-b%", .wildcard⟩))).signedLeaves false,
      p.2.kind = .wildcard → MuteEnds p.1 p.2.text := by
    simp [Tree.signedLeaves, MuteEnds]
  exact ⟨hparse, hends, (parse_written_iff_of_parse hparse).2 hends⟩

/-- **Not every query that has been read is read back.** Without the mark before it, the sign in
this pattern negates the rest. -/
theorem parse_written_ne_of_hidden_sign :
    parse none "^-a%" = .ok (.leaf ⟨"-a%", .wildcard⟩) ∧
      parse none (Tree.leaf ⟨"-a%", .wildcard⟩).written = .ok (.not (.leaf ⟨"a%", .wildcard⟩)) ∧
      parse none (Tree.leaf ⟨"-a%", .wildcard⟩).written ≠ .ok (.leaf ⟨"-a%", .wildcard⟩) := by
  have hread : parse none (Tree.leaf ⟨"-a%", .wildcard⟩).written =
      .ok (.not (.leaf ⟨"a%", .wildcard⟩)) := by
    decide +kernel
  refine ⟨by decide +kernel, hread, ?_⟩
  rw [hread]
  simp

end RoundTrip

end SearchClause
