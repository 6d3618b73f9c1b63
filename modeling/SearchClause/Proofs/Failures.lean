import SearchClause.Proofs.Grammar

/-!
# Where reading fails

Beside the rules by which a text starts with a part there are rules by which it does not. `Fails`
has one for each way in which reading can come to an end with a fault: some parts have been read,
and then comes a text that none of the rules of the grammar fits. The fault is found at the
innermost part and is handed outwards as it is.

* **reader** — `fails_of_queryAt`: whenever the reader fails without a limit, the text fails to be a
  query, with the same fault at the same place;
* **whole texts** — `failed_of_whole`: the only other error is that a query is followed by
  something;
* **exchange** — `Derives.exists_exchange`: what follows a part has no say in it, so that it can be
  exchanged for another text.
-/

namespace SearchClause

open Text (Blanks EndsRun skipBlanks)

namespace Grammar

open Reader (Failure)

/-- A query cannot go on with this text: it starts with no blank and no operator. -/
def Stops (s : Text) : Prop :=
  ∀ c ∈ s.head?, isBlank c = false ∧ c ≠ '+' ∧ c ≠ ','

/-- A text fails to start with a part. -/
inductive Fails : Part → Text → Failure → Prop where
  /-- the first clause fails -/
  | first {s e} : Fails .clause s e → Fails .query s e
  /-- a clause after a comma fails -/
  | or {s b s' left e} : Derives .query s left (b ++ ',' :: s') → Blanks b →
      Fails .clause s' e → Fails .query s e
  /-- the first factor fails -/
  | single {s e} : Fails .factor s e → Fails .clause s e
  /-- a factor after a plus sign fails -/
  | and {s b s' left e} : Derives .clause s left (b ++ '+' :: s') → Blanks b →
      Fails .factor s' e → Fails .clause s e
  /-- the atom after a sign fails -/
  | negated {b c b' s e} : Blanks b → Reader.IsSign c → Blanks b' → Fails .atom s e →
      Fails .factor (b ++ c :: (b' ++ s)) e
  /-- an atom without a sign fails -/
  | plain {b s e} : Blanks b → (∀ c ∈ s.head?, ¬ Reader.IsSign c) → Fails .atom s e →
      Fails .factor (b ++ s) e
  /-- the query in a group fails -/
  | inside {s e} : Fails .query s e → Fails .atom ('(' :: s) e
  /-- a group is not closed where its query ends -/
  | unclosed {s t b rest} : Derives .query s t (b ++ rest) → Blanks b → Stops rest →
      rest.head? ≠ some ')' → Fails .atom ('(' :: s) ⟨.unmatchedParenthesis, rest⟩
  /-- a quote is not closed -/
  | openPhrase {marked p} : '"' ∉ p →
      Fails .atom (marker marked ++ '"' :: p) ⟨.unterminatedQuote, '"' :: p⟩
  /-- there is nothing between quotes -/
  | emptyPhrase {marked rest} :
      Fails .atom (marker marked ++ '"' :: '"' :: rest) ⟨.emptyTerm, '"' :: '"' :: rest⟩
  /-- no atom starts here -/
  | noAtom {s} : EndsRun isWordChar s → s.head? ≠ some '(' → s.head? ≠ some '"' →
      Fails .atom s ⟨.emptyTerm, s⟩
  /-- a word stands for no term -/
  | badWord {w rest fault} : w ≠ [] → (∀ c ∈ w, isWordChar c = true) → EndsRun isWordChar rest →
      Reader.termOfWord w = .error fault → Fails .atom (w ++ rest) ⟨fault, w ++ rest⟩

end Grammar

/-! ## Ends of loops -/

namespace Reader

variable {α β ε : Type}

/-- A sequence of two steps fails when one of them does. -/
theorem bind_eq_error {x : Except ε α} {f : α → Except ε β} {e : ε} :
    x.bind f = .error e ↔ x = .error e ∨ ∃ a, x = .ok a ∧ f a = .error e := by
  cases x <;> simp [Except.bind]

theorem map_eq_error {x : Except ε α} {f : α → β} {e : ε} :
    x.map f = .error e ↔ x = .error e := by
  cases x <;> simp [Except.map]

section

variable {separator : Char} {item : Text → Except Failure (Tree × Text)}
  {join : Tree → Tree → Tree} {loop : Tree → Text → Except Failure (Tree × Text)}
  {left t : Tree} {s rest : Text}

/-- **A loop fails in one of its items**, and what each round before it has kept holds there. -/
theorem IsLoop.failure (hl : IsLoop separator item join loop) {P : Tree → Text → Prop}
    (hkeep : ∀ {left b after u rest}, P left (b ++ separator :: after) → Blanks b →
      item after = .ok (u, rest) → P (join left u) rest)
    {e : Failure} (hP : P left s) (h : loop left s = .error e) :
    ∃ left' b after, P left' (b ++ separator :: after) ∧ Blanks b ∧ item after = .error e := by
  -- every round leaves a shorter text, and `left` changes with it
  induction hn : s.length using Nat.strong_induction_on generalizing s left with
  | _ n ih =>
    obtain ⟨b, hb, hs⟩ := Text.exists_blanks s
    by_cases hsep : ∃ after, skipBlanks s = separator :: after
    · obtain ⟨after, hsep⟩ := hsep
      have hafter := Text.length_lt_of_skipBlanks hsep
      rw [hl.step hsep] at h
      rw [hs, hsep] at hP
      rcases bind_eq_error.1 h with hitem | ⟨⟨u, r⟩, hu, hloop⟩
      · exact ⟨left, b, after, hP, hb, hitem⟩
      · have hr := hl.shorter hu
        exact ih r.length (by omega) (hkeep hP hb hu) hloop rfl
    · rw [hl.stop (not_exists.1 hsep)] at h
      cases h

/-- A loop that comes to its end leaves no blank and no separator. -/
theorem IsLoop.stopped (hl : IsLoop separator item join loop) (h : loop left s = .ok (t, rest)) :
    EndsRun isBlank rest ∧ rest.head? ≠ some separator := by
  induction hn : s.length using Nat.strong_induction_on generalizing s left with
  | _ n ih =>
    by_cases hsep : ∃ after, skipBlanks s = separator :: after
    · obtain ⟨after, hsep⟩ := hsep
      have hafter := Text.length_lt_of_skipBlanks hsep
      rw [hl.step hsep] at h
      obtain ⟨⟨u, r⟩, hu, hloop⟩ := bind_eq_ok.1 h
      have hr := hl.shorter hu
      exact ih r.length (by omega) hloop rfl
    · rw [hl.stop (not_exists.1 hsep)] at h
      obtain ⟨-, rfl⟩ := Prod.mk.inj (Except.ok.inj h)
      refine ⟨Text.endsRun_dropWhile isBlank s, ?_⟩
      intro hhead
      exact hsep (List.head?_eq_some_iff.1 hhead)

end

variable {room : Option Nat} {s rest : Text} {t : Tree}

theorem stopped_of_clauseAt (h : clauseAt room s = .ok (t, rest)) :
    EndsRun isBlank rest ∧ rest.head? ≠ some '+' := by
  rw [clauseAt_eq] at h
  obtain ⟨_, -, hloop⟩ := bind_eq_ok.1 h
  exact (isLoop_clauseOn room).stopped hloop

/-- **A query takes all it can.** -/
theorem stops_of_queryAt (h : queryAt room s = .ok (t, rest)) : Grammar.Stops rest := by
  rw [queryAt_eq] at h
  obtain ⟨⟨u, r⟩, hu, hloop⟩ := bind_eq_ok.1 h
  obtain ⟨hblank, hcomma⟩ := (isLoop_queryOn room).stopped hloop
  -- every clause has taken its plus signs, so there is none after the last one
  have hfirst : (skipBlanks r).head? ≠ some '+' := by
    obtain ⟨hr, hplus⟩ := stopped_of_clauseAt hu
    rwa [skipBlanks, Text.dropWhile_of_endsRun hr]
  obtain ⟨b, hb, hplus⟩ := (isLoop_queryOn room).invariant
    (P := fun _ after => (skipBlanks after).head? ≠ some '+')
    (fun {_ _ after u r} _ _ hitem => by
      obtain ⟨hr, hplus⟩ := stopped_of_clauseAt hitem
      rwa [skipBlanks, Text.dropWhile_of_endsRun hr]) hfirst hloop
  rw [Text.skipBlanks_append hb, skipBlanks, Text.dropWhile_of_endsRun hblank] at hplus
  intro c hc
  refine ⟨hblank c hc, ?_, ?_⟩
  · rintro rfl
    exact hplus hc
  · rintro rfl
    exact hcomma hc

theorem closeAt_eq_error {u : Tree} {e : Failure} (h : closeAt (u, s) = .error e) :
    e = ⟨.unmatchedParenthesis, skipBlanks s⟩ ∧ (skipBlanks s).head? ≠ some ')' := by
  rw [closeAt] at h
  split at h
  · cases h
  next hopen =>
    refine ⟨(Except.error.inj h).symm, ?_⟩
    intro hhead
    obtain ⟨after, hafter⟩ := List.head?_eq_some_iff.1 hhead
    exact hopen after hafter

theorem endAt_eq_error {u : Tree} {e : Failure} (h : endAt (u, s) = .error e) :
    e = ⟨.unexpectedCharacter, skipBlanks s⟩ ∧ skipBlanks s ≠ [] := by
  rw [endAt] at h
  split at h
  · cases h
  next hmore => exact ⟨(Except.error.inj h).symm, hmore⟩

end Reader

/-! ## What the reader refuses fails -/

namespace Grammar

open Reader (Failure)

/-- Atoms that the reader refuses in texts shorter than `n` fail. -/
def AtomsFail (n : Nat) : Prop :=
  ∀ (s : Text) (e : Failure), s.length < n → Reader.atomAt none s = .error e →
    Fails .atom (skipBlanks s) e

/-- Queries that the reader refuses in texts shorter than `n` fail. -/
def QueriesFail (n : Nat) : Prop :=
  ∀ (s : Text) (e : Failure), s.length < n → Reader.queryAt none s = .error e → Fails .query s e

variable {n : Nat} {s rest : Text} {t : Tree} {e : Failure} {part : Part}

theorem Stops.skipBlanks_self (h : Stops s) : skipBlanks s = s :=
  Text.dropWhile_of_endsRun fun c hc => (h c hc).1

theorem fails_of_phraseAt (marked : Bool) (h : Reader.phraseAt ('"' :: s) s = .error e) :
    Fails .atom (marker marked ++ '"' :: s) e := by
  obtain ⟨p, after, rfl, hp, hend⟩ := Text.exists_run (· != '"') s
  have hquote : '"' ∉ p := fun hmem => by simpa using hp _ hmem
  cases after with
  | nil =>
    rw [List.append_nil, Reader.phraseAt_open hquote] at h
    rw [List.append_nil]
    obtain rfl := Except.error.inj h
    exact .openPhrase hquote
  | cons c after =>
    obtain rfl : c = '"' := by simpa using Text.endsRun_cons.1 hend
    by_cases hne : p = []
    · subst hne
      rw [List.nil_append, Reader.phraseAt_empty] at h
      obtain rfl := Except.error.inj h
      exact .emptyPhrase
    · rw [Reader.phraseAt_closed hne hquote] at h
      cases h

theorem fails_of_wordAt (hg : s.head? ≠ some '(') (hp : s.head? ≠ some '"')
    (h : Reader.wordAt s = .error e) : Fails .atom s e := by
  obtain ⟨w, after, rfl, hw, hend⟩ := Text.exists_run isWordChar s
  by_cases hne : w = []
  · subst hne
    rw [List.nil_append] at h hg hp ⊢
    rw [Reader.wordAt_empty hend] at h
    obtain rfl := Except.error.inj h
    exact .noAtom hend hg hp
  · rw [Reader.wordAt_run hne hw hend] at h
    rcases hterm : Reader.termOfWord w with fault | term
    · rw [hterm] at h
      obtain rfl := Except.error.inj h
      exact .badWord hne hw hend hterm
    · rw [hterm] at h
      cases h

theorem atomsFail_succ (hq : QueriesFail n) : AtomsFail (n + 1) := by
  intro s e hlen h
  by_cases hg : ∃ after, skipBlanks s = '(' :: after
  · obtain ⟨after, hg⟩ := hg
    have hshort := Text.length_lt_of_skipBlanks hg
    rw [Reader.atomAt_group hg (by simp)] at h
    rw [hg]
    rcases Reader.bind_eq_error.1 h with hinside | ⟨⟨t, r⟩, hquery, hclose⟩
    · exact .inside (hq after e (by omega) hinside)
    · -- the query in the group is read, and its end is not the end of the group
      obtain ⟨rfl, hopen⟩ := Reader.closeAt_eq_error hclose
      obtain ⟨b, hb, hd⟩ := derives_of_queryAt hquery
      have hstops := Reader.stops_of_queryAt hquery
      rw [hstops.skipBlanks_self] at hopen ⊢
      exact .unclosed hd hb hstops hopen
  · by_cases hp : ∃ after, skipBlanks s = '"' :: after
    · obtain ⟨after, hp⟩ := hp
      rw [Reader.atomAt_phrase hp] at h
      rw [hp]
      exact fails_of_phraseAt false h
    · by_cases hm : ∃ after, skipBlanks s = '=' :: '"' :: after
      · obtain ⟨after, hm⟩ := hm
        rw [Reader.atomAt_marked hm] at h
        rw [hm]
        exact fails_of_phraseAt true h
      · rw [Reader.atomAt_word (not_exists.1 hg) (not_exists.1 hp) (not_exists.1 hm)] at h
        refine fails_of_wordAt ?_ ?_ h
        · exact fun hhead => hg (List.head?_eq_some_iff.1 hhead)
        · exact fun hhead => hp (List.head?_eq_some_iff.1 hhead)

theorem fails_of_factorAt (ha : AtomsFail n) (hlen : s.length < n)
    (h : Reader.factorAt none s = .error e) : Fails .factor s e := by
  obtain ⟨b, hb, hs⟩ := Text.exists_blanks s
  by_cases hsign : ∃ c after, skipBlanks s = c :: after ∧ Reader.IsSign c
  · obtain ⟨c, after, hskip, hc⟩ := hsign
    have hshort := Text.length_lt_of_skipBlanks hskip
    rw [Reader.factorAt_sign hskip hc, Reader.map_eq_error] at h
    obtain ⟨b', hb', hafter⟩ := Text.exists_blanks after
    rw [hs, hskip, hafter]
    exact .negated hb hc hb' (ha after e (by omega) h)
  · have hplain : ∀ c after, skipBlanks s = c :: after → ¬ Reader.IsSign c := fun c after h hc =>
      hsign ⟨c, after, h, hc⟩
    rw [Reader.factorAt_plain hplain] at h
    rw [hs]
    refine .plain hb ?_ (ha s e hlen h)
    intro c hc
    obtain ⟨after, hafter⟩ := List.head?_eq_some_iff.1 hc
    exact hplain c after hafter

theorem fails_of_clauseAt (ha : AtomsFail n) (hlen : s.length < n)
    (h : Reader.clauseAt none s = .error e) : Fails .clause s e := by
  rw [Reader.clauseAt_eq] at h
  rcases Reader.bind_eq_error.1 h with hfirst | ⟨⟨u, r⟩, hu, hloop⟩
  · exact .single (fails_of_factorAt ha hlen hfirst)
  · have hsound := atomsSound n
    have hstart : ClauseSoFar n s u r :=
      ⟨Nat.lt_trans (Reader.length_lt_of_factorAt hu) hlen,
        .single (derives_of_factorAt hsound hlen hu)⟩
    obtain ⟨left, b, after, ⟨hshort, hd⟩, hb, hitem⟩ :=
      (Reader.isLoop_clauseOn none).failure (ClauseSoFar.step hsound) hstart hloop
    rw [List.length_append, List.length_cons] at hshort
    exact .and hd hb (fails_of_factorAt ha (by omega) hitem)

theorem queriesFail_of_atomsFail (ha : AtomsFail n) : QueriesFail n := by
  intro s e hlen h
  rw [Reader.queryAt_eq] at h
  rcases Reader.bind_eq_error.1 h with hfirst | ⟨⟨u, r⟩, hu, hloop⟩
  · exact .first (fails_of_clauseAt ha hlen hfirst)
  · have hsound := atomsSound n
    obtain ⟨b₀, hb₀, hd₀⟩ := derives_of_clauseAt hsound hlen hu
    have hstart : QuerySoFar n s u r :=
      ⟨Nat.lt_trans (Reader.length_lt_of_clauseAt hu) hlen, b₀, hb₀, .first hd₀⟩
    obtain ⟨left, b, after, ⟨hshort, b', hb', hd⟩, hb, hitem⟩ :=
      (Reader.isLoop_queryOn none).failure (QuerySoFar.step hsound) hstart hloop
    rw [List.length_append, List.length_cons] at hshort
    rw [← List.append_assoc] at hd
    exact .or hd (Text.blanks_append hb' hb) (fails_of_clauseAt ha (by omega) hitem)

theorem atomsFail (n : Nat) : AtomsFail n := by
  induction n with
  | zero =>
    intro s e hlen
    cases hlen
  | succ n ih => exact atomsFail_succ (queriesFail_of_atomsFail ih)

/-- **What the reader refuses fails**, with the same fault at the same place. -/
theorem fails_of_queryAt (h : Reader.queryAt none s = .error e) : Fails .query s e :=
  queriesFail_of_atomsFail (atomsFail (s.length + 1)) s e (Nat.lt_succ_self _) h

/-- A text that the reader refuses fails to start with a query, or something follows its query. -/
theorem failed_of_whole (h : Reader.whole none s = .error e) :
    Fails .query s e ∨ e.fault = .unexpectedCharacter ∧ e.unread ≠ [] ∧ Stops e.unread ∧
      ∃ t b, Blanks b ∧ Derives .query s t (b ++ e.unread) := by
  rw [Reader.whole_eq] at h
  rcases Reader.bind_eq_error.1 h with hquery | ⟨⟨t, r⟩, hquery, hend⟩
  · exact .inl (fails_of_queryAt hquery)
  · obtain ⟨rfl, hmore⟩ := Reader.endAt_eq_error hend
    have hstops := Reader.stops_of_queryAt hquery
    rw [hstops.skipBlanks_self] at hmore ⊢
    obtain ⟨b, hb, hd⟩ := derives_of_queryAt hquery
    exact .inr ⟨rfl, hmore, hstops, t, b, hb, hd⟩

/-! ## Exchange -/

theorem endsRun_after_blanks {b : Text} (hb : Blanks b) (hs : EndsRun isWordChar s) :
    EndsRun isWordChar (b ++ s) := by
  cases b with
  | nil => exact hs
  | cons c b => exact Text.endsRun_cons.2 (isWordChar_of_isBlank (hb c List.mem_cons_self))

/-- What stands between two parts ends the first one, whatever the second. -/
theorem endsRun_between {b : Text} {c : Char} (hb : Blanks b) (hc : isWordChar c = false)
    (x : Text) : EndsRun isWordChar (b ++ c :: x) :=
  endsRun_after_blanks hb (Text.endsRun_cons.2 hc)

/-- **What follows a part can be exchanged** for any text that does not go on with a word. -/
theorem Derives.exists_exchange (h : Derives part s t rest) :
    ∃ w, s = w ++ rest ∧ ∀ x, EndsRun isWordChar x → Derives part (w ++ x) t x := by
  induction h with
  | first _ ih =>
    obtain ⟨w, rfl, hw⟩ := ih
    exact ⟨w, rfl, fun x hx => .first (hw x hx)⟩
  | @or s b s' left right rest _ hb _ ihl ihr =>
    obtain ⟨w, rfl, hw⟩ := ihl
    obtain ⟨w', rfl, hw'⟩ := ihr
    refine ⟨w ++ b ++ ',' :: w', by simp, fun x hx => ?_⟩
    have hleft := hw _ (endsRun_between (c := ',') hb (by decide) (w' ++ x))
    simpa using Derives.or hleft hb (hw' x hx)
  | single _ ih =>
    obtain ⟨w, rfl, hw⟩ := ih
    exact ⟨w, rfl, fun x hx => .single (hw x hx)⟩
  | @and s b s' left right rest _ hb _ ihl ihr =>
    obtain ⟨w, rfl, hw⟩ := ihl
    obtain ⟨w', rfl, hw'⟩ := ihr
    refine ⟨w ++ b ++ '+' :: w', by simp, fun x hx => ?_⟩
    have hleft := hw _ (endsRun_between (c := '+') hb (by decide) (w' ++ x))
    simpa using Derives.and hleft hb (hw' x hx)
  | @negated b c b' s t rest hb hc hb' _ ih =>
    obtain ⟨w, rfl, hw⟩ := ih
    refine ⟨b ++ c :: (b' ++ w), by simp, fun x hx => ?_⟩
    simpa using Derives.negated hb hc hb' (hw x hx)
  | @plain b c s t rest hb hc hd ih =>
    obtain ⟨w, hs, hw⟩ := ih
    cases w with
    | nil =>
      -- no atom is empty
      obtain ⟨_, _, hempty, -⟩ := (hw [] Text.endsRun_nil).atom_head
      cases hempty
    | cons d w =>
      obtain ⟨rfl, rfl⟩ := List.cons.inj hs
      refine ⟨b ++ c :: w, by simp, fun x hx => ?_⟩
      simpa using Derives.plain hb hc (hw x hx)
  | @group s t b rest _ hb ih =>
    obtain ⟨w, rfl, hw⟩ := ih
    refine ⟨'(' :: (w ++ b ++ [')']), by simp, fun x hx => ?_⟩
    have hinside := hw _ (endsRun_between (c := ')') hb (by decide) x)
    simpa using Derives.group hinside hb
  | @phrase marked p rest hne hp =>
    refine ⟨marker marked ++ '"' :: (p ++ ['"']), by simp, fun x hx => ?_⟩
    have hphrase : Derives .atom (marker marked ++ '"' :: (p ++ '"' :: x)) (.leaf ⟨p, .exact⟩) x :=
      .phrase hne hp
    simpa using hphrase
  | word hne hw _ hterm => exact ⟨_, rfl, fun x hx => .word hne hw hx hterm⟩

end Grammar

end SearchClause
