import Mathlib.Data.Set.Subsingleton
import SearchClause.Proofs.Reading

/-!
# The grammar of queries

The rules by which a text is a query, given apart from the reader:

* `Derives part s t rest` — a text `s` starts with a `part` whose tree is `t`, and `rest` is what
  follows. Blanks may stand before every token. Nothing says how far a part goes: `a+b` starts with
  the clause `a` as much as with the clause `a+b`, and only a word has to be taken whole.
* `IsQuery s t` — the query that `s` starts with is all there is, up to blanks.

The reader never goes back, so that it finds a tree for every query, and the right one, is a
theorem: `parse_eq_ok_iff_isQuery`.
-/

namespace SearchClause

namespace Grammar

open Text (Blanks EndsRun skipBlanks)

/-- The parts of a query. -/
inductive Part where
  /-- clauses with commas between them -/
  | query
  /-- factors with plus signs between them -/
  | clause
  /-- an atom, negated or not -/
  | factor
  /-- a group, a phrase or a word -/
  | atom
deriving DecidableEq, Repr

/-- The sign before a quoted phrase: none, or `=`. -/
def marker (marked : Bool) : Text :=
  if marked then ['='] else []

/-- A text starts with a part, which has a tree, and goes on with another text. -/
inductive Derives : Part → Text → Tree → Text → Prop where
  /-- the first clause -/
  | first {s t rest} : Derives .clause s t rest → Derives .query s t rest
  /-- one more clause: operators group to the left -/
  | or {s b s' left right rest} : Derives .query s left (b ++ ',' :: s') → Blanks b →
      Derives .clause s' right rest → Derives .query s (.or left right) rest
  /-- the first factor -/
  | single {s t rest} : Derives .factor s t rest → Derives .clause s t rest
  /-- one more factor -/
  | and {s b s' left right rest} : Derives .clause s left (b ++ '+' :: s') → Blanks b →
      Derives .factor s' right rest → Derives .clause s (.and left right) rest
  /-- an atom after a sign, with blanks before both -/
  | negated {b c b' s t rest} : Blanks b → c = '-' ∨ c = '!' → Blanks b' →
      Derives .atom s t rest → Derives .factor (b ++ c :: (b' ++ s)) (.not t) rest
  /-- an atom that does not start with a sign -/
  | plain {b c s t rest} : Blanks b → ¬ (c = '-' ∨ c = '!') →
      Derives .atom (c :: s) t rest → Derives .factor (b ++ c :: s) t rest
  /-- a query in parentheses -/
  | group {s t b rest} : Derives .query s t (b ++ ')' :: rest) → Blanks b →
      Derives .atom ('(' :: s) t rest
  /-- a phrase in quotes, taken as it stands -/
  | phrase {marked p rest} : p ≠ [] → '"' ∉ p →
      Derives .atom (marker marked ++ '"' :: (p ++ '"' :: rest)) (.leaf ⟨p, .exact⟩) rest
  /-- a whole run of word characters -/
  | word {w term rest} : w ≠ [] → (∀ c ∈ w, isWordChar c = true) → EndsRun isWordChar rest →
      Reader.termOfWord w = .ok term → Derives .atom (w ++ rest) (.leaf term) rest

/-- A text is a query with a tree. -/
def IsQuery (s : Text) (t : Tree) : Prop :=
  ∃ b, Derives .query s t b ∧ Blanks b

/-- An atom starts with a character of its own, which is no blank. -/
theorem Derives.atom_head {s rest : Text} {t : Tree} (h : Derives .atom s t rest) :
    ∃ c s', s = c :: s' ∧ isBlank c = false := by
  cases h with
  | group hd hb => exact ⟨'(', _, rfl, by decide⟩
  | @phrase marked p _ hne hp =>
    cases marked with
    | false => exact ⟨'"', _, rfl, by decide⟩
    | true => exact ⟨'=', _, rfl, by decide⟩
  | @word w _ _ hne hw hend hterm =>
    obtain ⟨c, w', rfl⟩ := List.exists_cons_of_ne_nil hne
    exact ⟨c, w' ++ rest, rfl, isBlank_of_isWordChar (hw c List.mem_cons_self)⟩

/-! ## What the reader finds is derived

The tree of a loop grows to the left, so the loops are followed with a derivation of what has been
read so far. Groups are the only way back to queries, on a shorter text: the induction is on a bound
for the length. -/

/-- Atoms read from texts shorter than `n` are derived. -/
def AtomsSound (n : Nat) : Prop :=
  ∀ (room : Option Nat) (s : Text) (t : Tree) (rest : Text), s.length < n →
    Reader.atomAt room s = .ok (t, rest) → Derives .atom (skipBlanks s) t rest

/-- Queries read from texts shorter than `n` are derived, up to the blanks after them. -/
def QueriesSound (n : Nat) : Prop :=
  ∀ (room : Option Nat) (s : Text) (t : Tree) (rest : Text), s.length < n →
    Reader.queryAt room s = .ok (t, rest) → ∃ b, Blanks b ∧ Derives .query s t (b ++ rest)

variable {n : Nat} {room : Option Nat} {s s₀ rest : Text} {t left : Tree}

theorem derives_of_phraseAt {unread : Text} (marked : Bool)
    (h : Reader.phraseAt unread s = .ok (t, rest)) :
    Derives .atom (marker marked ++ '"' :: s) t rest := by
  obtain ⟨p, after, rfl, hp, hend⟩ := Text.exists_run (· != '"') s
  have hquote : '"' ∉ p := fun hmem => by simpa using hp _ hmem
  cases after with
  | nil =>
    rw [List.append_nil, Reader.phraseAt_open hquote] at h
    cases h
  | cons c after =>
    obtain rfl : c = '"' := by simpa using Text.endsRun_cons.1 hend
    by_cases hne : p = []
    · subst hne
      rw [List.nil_append, Reader.phraseAt_empty] at h
      cases h
    · rw [Reader.phraseAt_closed hne hquote] at h
      obtain ⟨rfl, rfl⟩ := Prod.mk.inj (Except.ok.inj h)
      exact .phrase hne hquote

theorem derives_of_wordAt (h : Reader.wordAt s = .ok (t, rest)) : Derives .atom s t rest := by
  obtain ⟨w, after, rfl, hw, hend⟩ := Text.exists_run isWordChar s
  by_cases hne : w = []
  · subst hne
    rw [List.nil_append, Reader.wordAt_empty hend] at h
    cases h
  · rw [Reader.wordAt_run hne hw hend] at h
    rcases hterm : Reader.termOfWord w with fault | term <;> rw [hterm] at h
    · cases h
    · obtain ⟨rfl, rfl⟩ := Prod.mk.inj (Except.ok.inj h)
      exact .word hne hw hend hterm

theorem atomsSound_succ (hq : QueriesSound n) : AtomsSound (n + 1) := by
  intro room s t rest hlen h
  by_cases hg : ∃ after, skipBlanks s = '(' :: after
  · obtain ⟨after, hg⟩ := hg
    have hshort : after.length < n := by
      have hlt := Text.length_lt_of_skipBlanks hg
      omega
    by_cases hroom : room = some 0
    · rw [hroom, Reader.atomAt_deep hg] at h
      cases h
    · rw [Reader.atomAt_group hg hroom] at h
      obtain ⟨⟨u, r⟩, hu, hclose⟩ := Reader.bind_eq_ok.1 h
      obtain ⟨b, hb, hd⟩ := hq _ _ _ _ hshort hu
      obtain ⟨rfl, b', hb', rfl⟩ := Reader.closeAt_eq_ok hclose
      rw [hg]
      rw [← List.append_assoc] at hd
      exact .group hd (Text.blanks_append hb hb')
  · by_cases hp : ∃ after, skipBlanks s = '"' :: after
    · obtain ⟨after, hp⟩ := hp
      rw [Reader.atomAt_phrase hp] at h
      rw [hp]
      exact derives_of_phraseAt false h
    · by_cases hm : ∃ after, skipBlanks s = '=' :: '"' :: after
      · obtain ⟨after, hm⟩ := hm
        rw [Reader.atomAt_marked hm] at h
        rw [hm]
        exact derives_of_phraseAt true h
      · rw [Reader.atomAt_word (not_exists.1 hg) (not_exists.1 hp) (not_exists.1 hm)] at h
        exact derives_of_wordAt h

theorem derives_of_factorAt (ha : AtomsSound n) (hlen : s.length < n)
    (h : Reader.factorAt room s = .ok (t, rest)) : Derives .factor s t rest := by
  obtain ⟨b, hb, hs⟩ := Text.exists_blanks s
  rcases hskip : skipBlanks s with _ | ⟨c, after⟩
  · -- there is no atom in blanks
    rw [Reader.factorAt_plain (by simp [hskip])] at h
    obtain ⟨c, s', hs', -⟩ := (ha _ _ _ _ hlen h).atom_head
    rw [hskip] at hs'
    cases hs'
  · by_cases hc : Reader.IsSign c
    · rw [Reader.factorAt_sign hskip hc] at h
      obtain ⟨⟨u, r⟩, hu, heq⟩ := Reader.map_eq_ok.1 h
      obtain ⟨rfl, rfl⟩ := Prod.mk.inj heq
      have hshort : after.length < n := by
        have hlt := Text.length_lt_of_skipBlanks hskip
        omega
      obtain ⟨b', hb', hafter⟩ := Text.exists_blanks after
      rw [hs, hskip, hafter]
      exact .negated hb hc hb' (ha _ _ _ _ hshort hu)
    · rw [Reader.factorAt_plain (by simpa [hskip] using hc)] at h
      have hd := ha _ _ _ _ hlen h
      rw [hs, hskip]
      rw [hskip] at hd
      exact .plain hb hc hd

/-- The invariant of the loop over factors: the clause so far is derived, and less than `n`
characters are left. -/
def ClauseSoFar (n : Nat) (s : Text) (left : Tree) (rest : Text) : Prop :=
  rest.length < n ∧ Derives .clause s left rest

theorem ClauseSoFar.step (ha : AtomsSound n) {s b after r : Text} {left u : Tree}
    (hP : ClauseSoFar n s left (b ++ '+' :: after)) (hb : Blanks b)
    (hu : Reader.factorAt room after = .ok (u, r)) : ClauseSoFar n s (.and left u) r := by
  obtain ⟨hlen, hd⟩ := hP
  have hafter : after.length < n := by
    simp at hlen
    omega
  exact ⟨Nat.lt_trans (Reader.length_lt_of_factorAt hu) hafter,
    .and hd hb (derives_of_factorAt ha hafter hu)⟩

theorem derives_of_clauseAt (ha : AtomsSound n) (hlen : s.length < n)
    (h : Reader.clauseAt room s = .ok (t, rest)) :
    ∃ b, Blanks b ∧ Derives .clause s t (b ++ rest) := by
  rw [Reader.clauseAt_eq] at h
  obtain ⟨⟨u, r⟩, hu, hloop⟩ := Reader.bind_eq_ok.1 h
  have hfirst : ClauseSoFar n s u r :=
    ⟨Nat.lt_trans (Reader.length_lt_of_factorAt hu) hlen, .single (derives_of_factorAt ha hlen hu)⟩
  obtain ⟨b, hb, -, hd⟩ :=
    (Reader.isLoop_clauseOn room).invariant (ClauseSoFar.step ha) hfirst hloop
  exact ⟨b, hb, hd⟩

/-- The invariant of the loop over clauses: the query so far is derived, up to the blanks after it,
and less than `n` characters are left. -/
def QuerySoFar (n : Nat) (s : Text) (left : Tree) (rest : Text) : Prop :=
  rest.length < n ∧ ∃ b, Blanks b ∧ Derives .query s left (b ++ rest)

theorem QuerySoFar.step (ha : AtomsSound n) {s b after r : Text} {left u : Tree}
    (hP : QuerySoFar n s left (b ++ ',' :: after)) (hb : Blanks b)
    (hu : Reader.clauseAt room after = .ok (u, r)) : QuerySoFar n s (.or left u) r := by
  obtain ⟨hlen, b', hb', hd⟩ := hP
  have hafter : after.length < n := by
    simp at hlen
    omega
  obtain ⟨b'', hb'', hc⟩ := derives_of_clauseAt ha hafter hu
  rw [← List.append_assoc] at hd
  exact ⟨Nat.lt_trans (Reader.length_lt_of_clauseAt hu) hafter, b'', hb'',
    .or hd (Text.blanks_append hb' hb) hc⟩

theorem queriesSound_of_atomsSound (ha : AtomsSound n) : QueriesSound n := by
  intro room s t rest hlen h
  rw [Reader.queryAt_eq] at h
  obtain ⟨⟨u, r⟩, hu, hloop⟩ := Reader.bind_eq_ok.1 h
  obtain ⟨b₀, hb₀, hd₀⟩ := derives_of_clauseAt ha hlen hu
  have hfirst : QuerySoFar n s u r :=
    ⟨Nat.lt_trans (Reader.length_lt_of_clauseAt hu) hlen, b₀, hb₀, .first hd₀⟩
  obtain ⟨b, hb, -, b', hb', hd⟩ :=
    (Reader.isLoop_queryOn room).invariant (QuerySoFar.step ha) hfirst hloop
  rw [← List.append_assoc] at hd
  exact ⟨b' ++ b, Text.blanks_append hb' hb, hd⟩

theorem atomsSound (n : Nat) : AtomsSound n := by
  induction n with
  | zero =>
    intro room s t rest hlen
    cases hlen
  | succ n ih => exact atomsSound_succ (queriesSound_of_atomsSound ih)

/-- **Soundness.** What the reader makes of the start of a text is derived from it. -/
theorem derives_of_queryAt (h : Reader.queryAt room s = .ok (t, rest)) :
    ∃ b, Blanks b ∧ Derives .query s t (b ++ rest) :=
  queriesSound_of_atomsSound (atomsSound (s.length + 1)) room s t rest (Nat.lt_succ_self _) h

/-! ## What is derived the reader finds

A loop of the reader takes all it can, and a derivation may stop earlier. So a derivation of a
clause is matched by the reader standing in its loop after that clause. -/

/-- What the reader does on a text that starts with a part. For a query the part must not be
followed by a plus sign, with which its last clause would go on. -/
def Followed : Part → Text → Tree → Text → Prop
  | .atom, s, t, rest => ∀ b, Blanks b → Reader.atomAt none (b ++ s) = .ok (t, rest)
  | .factor, s, t, rest => Reader.factorAt none s = .ok (t, rest)
  | .clause, s, t, rest => Reader.clauseAt none s = Reader.clauseOn none t rest
  | .query, s, t, rest => (∀ after, skipBlanks rest ≠ '+' :: after) →
      Reader.queryAt none s = Reader.queryOn none t rest

theorem followed_of_derives {part : Part} (h : Derives part s t rest) : Followed part s t rest := by
  induction h with
  | first hd ih =>
    intro hplus
    -- no plus sign follows, so the loop over factors is over and only blanks are lost
    rw [Reader.queryAt_eq, show Reader.clauseAt none _ = _ from ih, Reader.clauseOn_end hplus]
    exact Reader.queryOn_skipBlanks
  | @or s b s' left right rest hl hb hr ihl ihr =>
    intro hplus
    have hcomma : skipBlanks (b ++ ',' :: s') = ',' :: s' :=
      Text.skipBlanks_blanks_cons hb (by decide)
    rw [ihl (by simp [hcomma]), Reader.queryOn_comma hcomma,
      show Reader.clauseAt none _ = _ from ihr, Reader.clauseOn_end hplus]
    exact Reader.queryOn_skipBlanks
  | single hd ih =>
    change Reader.clauseAt none _ = _
    rw [Reader.clauseAt_eq, show Reader.factorAt none _ = _ from ih]
    rfl
  | @and s b s' left right rest hl hb hr ihl ihr =>
    have hplus : skipBlanks (b ++ '+' :: s') = '+' :: s' :=
      Text.skipBlanks_blanks_cons hb (by decide)
    change Reader.clauseAt none s = _
    rw [show Reader.clauseAt none s = _ from ihl, Reader.clauseOn_plus hplus,
      show Reader.factorAt none s' = _ from ihr]
    rfl
  | @negated b c b' s t rest hb hc hb' hd ih =>
    have hskip : skipBlanks (b ++ c :: (b' ++ s)) = c :: (b' ++ s) :=
      Text.skipBlanks_blanks_cons hb (by rcases hc with rfl | rfl <;> decide)
    change Reader.factorAt none _ = _
    rw [Reader.factorAt_sign hskip hc, ih b' hb']
    rfl
  | @plain b c s t rest hb hc hd ih =>
    have hskip : skipBlanks (b ++ c :: s) = c :: s := by
      obtain ⟨c', s', heq, hblank⟩ := hd.atom_head
      obtain ⟨rfl, rfl⟩ := List.cons.inj heq
      exact Text.skipBlanks_blanks_cons hb hblank
    change Reader.factorAt none _ = _
    rw [Reader.factorAt_plain, ih b hb]
    intro d after h
    obtain ⟨rfl, rfl⟩ := List.cons.inj (hskip.symm.trans h)
    exact hc
  | @group s t b rest hd hb ih =>
    intro b₀ hb₀
    have hclose : skipBlanks (b ++ ')' :: rest) = ')' :: rest :=
      Text.skipBlanks_blanks_cons hb (by decide)
    have hinner : Reader.queryAt none s = .ok (t, ')' :: rest) := by
      rw [ih (by simp [hclose]), Reader.queryOn_end (by simp [hclose]), hclose]
    rw [Reader.atomAt_group (Text.skipBlanks_blanks_cons hb₀ (by decide)) (by simp),
      Option.map_none, hinner]
    rfl
  | @phrase marked p rest hne hp =>
    intro b₀ hb₀
    cases marked with
    | false =>
      have hskip : skipBlanks (b₀ ++ (marker false ++ '"' :: (p ++ '"' :: rest))) =
          '"' :: (p ++ '"' :: rest) := Text.skipBlanks_blanks_cons hb₀ (by decide)
      rw [Reader.atomAt_phrase hskip, Reader.phraseAt_closed hne hp]
    | true =>
      have hskip : skipBlanks (b₀ ++ (marker true ++ '"' :: (p ++ '"' :: rest))) =
          '=' :: '"' :: (p ++ '"' :: rest) := Text.skipBlanks_blanks_cons hb₀ (by decide)
      rw [Reader.atomAt_marked hskip, Reader.phraseAt_closed hne hp]
  | @word w term rest hne hw hend hterm =>
    intro b₀ hb₀
    -- `=` alone has no term, so the quote after it is not lost to a word
    have hsign : w ≠ ['='] := by
      rintro rfl
      cases hterm
    rw [Reader.atomAt_run hb₀ hne hw (.inl hsign), Reader.wordAt_run hne hw hend, hterm]

/-- **Completeness.** What is derived from the start of a text, and not followed by an operator, the
reader finds there. -/
theorem queryAt_of_derives (h : Derives .query s t rest)
    (hplus : ∀ after, skipBlanks rest ≠ '+' :: after)
    (hcomma : ∀ after, skipBlanks rest ≠ ',' :: after) :
    Reader.queryAt none s = .ok (t, skipBlanks rest) := by
  rw [followed_of_derives h hplus, Reader.queryOn_end hcomma]

theorem whole_eq_ok_iff (s : Text) (t : Tree) : Reader.whole none s = .ok t ↔ IsQuery s t := by
  rw [Reader.whole_eq]
  constructor
  · intro h
    obtain ⟨⟨u, r⟩, hu, hend⟩ := Reader.bind_eq_ok.1 h
    obtain ⟨rfl, hr⟩ := Reader.endAt_eq_ok hend
    obtain ⟨b, hb, hd⟩ := derives_of_queryAt hu
    exact ⟨b ++ r, hd, Text.blanks_append hb hr⟩
  · rintro ⟨b, hd, hb⟩
    have hskip := Text.skipBlanks_of_blanks hb
    rw [queryAt_of_derives hd (by simp [hskip]) (by simp [hskip]), hskip]
    rfl

/-- **A query has one tree.** -/
theorem IsQuery.unique {s : Text} {t u : Tree} (ht : IsQuery s t) (hu : IsQuery s u) : t = u := by
  have h := (whole_eq_ok_iff s t).2 ht
  rw [(whole_eq_ok_iff s u).2 hu] at h
  exact (Except.ok.inj h).symm

/-- **The reader accepts exactly the queries**, and gives the tree of each; a query has no other
tree. -/
theorem parse_eq_ok_iff_isQuery (s : Text) :
    (∀ t, parse none s = .ok t ↔ IsQuery s t) ∧ {t | IsQuery s t}.Subsingleton :=
  ⟨fun t => (parse_eq_ok_iff_whole none s t).trans (whole_eq_ok_iff s t),
    fun _ ht _ hu => ht.unique hu⟩

end Grammar

end SearchClause
