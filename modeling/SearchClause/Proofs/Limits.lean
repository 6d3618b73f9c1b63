import SearchClause.Proofs.Nesting
import SearchClause.Proofs.Reading

/-!
# Reading with a limit

A limit on the nesting of groups changes nothing but the place where reading may stop: as long as no
group lies too deep, a text is read as it is without a limit, faults included, and otherwise the
first group that does is reported. `Curbed` says so of the answers of one reading function, with and
without the limit. It is kept when one function goes on where another has stopped, so that there is
one lemma for each equation of the reader and one induction over the length of the text.
-/

namespace SearchClause

open Text (Blanks EndsRun skipBlanks)

namespace Reader

section

variable {α β : Type} {limit : Nat} {s w : Text}

/-- The text that is left after an answer. -/
def unreadOf (rest : α → Text) : Except Failure α → Text
  | .ok a => rest a
  | .error e => e.unread

/-- The answer is that a group lies too deep, at the first place where one does. -/
def TooDeep (limit : Nat) (s : Text) (answer : Except Failure α) : Prop :=
  ∃ u v, s = u ++ '(' :: v ∧ Climbs u limit limit ∧ answer = .error ⟨.nestingTooDeep, '(' :: v⟩

/-- Two answers on a text, without a limit and with one: they are the same if the part of the text
that the first one has passed is not too deep. -/
def Curbed (limit : Nat) (rest : α → Text) (s : Text) (free limited : Except Failure α) : Prop :=
  ∃ u opened height, s = u ++ unreadOf rest free ∧ Climbs u opened height ∧
    (∀ a, free = .ok a → opened = 0) ∧ (height ≤ limit → limited = free) ∧
    (limit < height → TooDeep limit s limited)

/-! ## Putting answers together -/

theorem TooDeep.passed {answer : Except Failure α} {height : Nat} (h : TooDeep limit s answer)
    (hw : Climbs w 0 height) (hheight : height ≤ limit) : TooDeep limit (w ++ s) answer := by
  obtain ⟨u, v, rfl, hu, rfl⟩ := h
  refine ⟨w ++ u, v, (List.append_assoc w u _).symm, ?_, rfl⟩
  have hboth := hw.after_level hu
  rwa [Nat.max_eq_right hheight] at hboth

theorem TooDeep.opening {answer : Except Failure α} (h : TooDeep limit s answer) :
    TooDeep (limit + 1) ('(' :: s) answer := by
  obtain ⟨u, v, rfl, hu, rfl⟩ := h
  exact ⟨'(' :: u, v, rfl, hu.opening, rfl⟩

theorem TooDeep.bind {answer : Except Failure α} (h : TooDeep limit s answer)
    (f : α → Except Failure β) : TooDeep limit s (answer.bind f) := by
  obtain ⟨u, v, hs, hu, rfl⟩ := h
  exact ⟨u, v, hs, hu, rfl⟩

/-- An answer that has passed no group does not depend on the limit. -/
theorem curbed_of_level {rest : α → Text} {answer : Except Failure α}
    (hs : s = w ++ unreadOf rest answer) (hw : Climbs w 0 0) :
    Curbed limit rest s answer answer :=
  ⟨w, 0, 0, hs, hw, fun _ _ => rfl, fun _ => rfl, fun h => absurd h (Nat.not_lt_zero limit)⟩

/-- Text before the place where reading starts. -/
theorem Curbed.passed {rest : α → Text} {free limited : Except Failure α}
    (h : Curbed limit rest s free limited) (hw : Climbs w 0 0) :
    Curbed limit rest (w ++ s) free limited := by
  obtain ⟨u, opened, height, hs, hu, hok, hsame, hdeep⟩ := h
  refine ⟨w ++ u, opened, height, ?_, ?_, hok, hsame, ?_⟩
  · rw [List.append_assoc, ← hs]
  · simpa using hw.after_level hu
  · intro hlt
    exact (hdeep hlt).passed hw (Nat.zero_le limit)

/-- **One function after another.** The second goes on where the first has stopped, outside all
groups that the first has opened. -/
theorem Curbed.bind {rest : α → Text} {rest' : β → Text} {free limited : Except Failure α}
    {f g : α → Except Failure β} (h : Curbed limit rest s free limited)
    (hnext : ∀ a, free = .ok a → Curbed limit rest' (rest a) (f a) (g a)) :
    Curbed limit rest' s (free.bind f) (limited.bind g) := by
  obtain ⟨u, opened, height, hs, hu, hok, hsame, hdeep⟩ := h
  cases free with
  | error e =>
    refine ⟨u, opened, height, hs, hu, ?_, ?_, fun hlt => (hdeep hlt).bind g⟩
    · intro a ha
      cases ha
    · intro hle
      rw [hsame hle]
      rfl
  | ok a =>
    obtain rfl := hok a rfl
    obtain ⟨u', opened', height', hs', hu', hok', hsame', hdeep'⟩ := hnext a rfl
    have hs : s = u ++ rest a := hs
    refine ⟨u ++ u', opened', max height height', ?_, hu.after_level hu', hok', ?_, ?_⟩
    · rw [List.append_assoc, hs]
      exact congrArg (u ++ ·) hs'
    · intro hle
      rw [hsame ((Nat.le_max_left _ _).trans hle)]
      exact hsame' ((Nat.le_max_right _ _).trans hle)
    · intro hlt
      rcases Nat.lt_or_ge limit height with hfirst | hfirst
      · exact (hdeep hfirst).bind g
      · -- the first part is not too deep, so the second one is
        rw [hsame hfirst, hs]
        have hsecond : limit < height' := by omega
        exact (hdeep' hsecond).passed hu hfirst

theorem Curbed.map {rest : α → Text} {rest' : β → Text} {free limited : Except Failure α}
    {f : α → β} (h : Curbed limit rest s free limited) (hrest : ∀ a, rest' (f a) = rest a) :
    Curbed limit rest' s (free.map f) (limited.map f) := by
  have hbind : Curbed limit rest' s (free.bind fun a => .ok (f a))
      (limited.bind fun a => .ok (f a)) := by
    apply h.bind
    intro a _
    exact curbed_of_level (w := []) (hrest a).symm climbs_nil
  cases free with
  | error e => cases limited <;> exact hbind
  | ok a => cases limited <;> exact hbind

end

/-! ## Phrases and words -/

section

variable {limit n : Nat} {s after : Text}

theorem curbed_phraseAt (limit : Nat) (s : Text) :
    Curbed limit Prod.snd ('"' :: s) (phraseAt ('"' :: s) s) (phraseAt ('"' :: s) s) := by
  obtain ⟨p, after, rfl, hp, hend⟩ := Text.exists_run (· != '"') s
  have hquote : '"' ∉ p := fun hmem => by simpa using hp _ hmem
  cases after with
  | nil =>
    rw [List.append_nil, phraseAt_open hquote]
    exact curbed_of_level (w := []) rfl climbs_nil
  | cons c after =>
    obtain rfl : c = '"' := by simpa using Text.endsRun_cons.1 hend
    by_cases hne : p = []
    · subst hne
      rw [List.nil_append, phraseAt_empty]
      exact curbed_of_level (w := []) rfl climbs_nil
    · rw [phraseAt_closed hne hquote]
      exact curbed_of_level (w := '"' :: (p ++ ['"'])) (by simp [unreadOf]) (climbs_phrase hquote)

theorem curbed_wordAt (limit : Nat) (s : Text) :
    Curbed limit Prod.snd s (wordAt s) (wordAt s) := by
  obtain ⟨w, after, rfl, hw, hend⟩ := Text.exists_run isWordChar s
  by_cases hne : w = []
  · subst hne
    rw [List.nil_append, wordAt_empty hend]
    exact curbed_of_level (w := []) rfl climbs_nil
  · rw [wordAt_run hne hw hend]
    rcases termOfWord w with fault | term
    · exact curbed_of_level (w := []) rfl climbs_nil
    · exact curbed_of_level rfl (climbs_word hw)

/-! ## Groups -/

/-- Atoms in texts shorter than `n` are curbed by every limit. -/
def AtomsCurbed (n : Nat) : Prop :=
  ∀ (limit : Nat) (s : Text), s.length < n →
    Curbed limit Prod.snd s (atomAt none s) (atomAt (some limit) s)

/-- Queries in texts shorter than `n` are curbed by every limit. -/
def QueriesCurbed (n : Nat) : Prop :=
  ∀ (limit : Nat) (s : Text), s.length < n →
    Curbed limit Prod.snd s (queryAt none s) (queryAt (some limit) s)

/-- What the end of a group does to the answer before it: a group is one deeper than its inside,
whether it is closed or not. -/
theorem exists_climbs_closeAt {free : Except Failure (Tree × Text)} {u : Text} {opened height : Nat}
    (hs : s = u ++ unreadOf Prod.snd free) (hu : Climbs u opened height)
    (hok : ∀ p, free = .ok p → opened = 0) :
    ∃ u' opened', '(' :: s = u' ++ unreadOf Prod.snd (free.bind closeAt) ∧
      Climbs u' opened' (height + 1) ∧ ∀ p, free.bind closeAt = .ok p → opened' = 0 := by
  cases free with
  | error e =>
    refine ⟨'(' :: u, opened + 1, ?_, hu.opening, fun p hp => by cases hp⟩
    rw [hs]
    rfl
  | ok p =>
    obtain rfl := hok p rfl
    obtain ⟨b, hb, hrest⟩ := Text.exists_blanks p.2
    have hs : s = u ++ b ++ skipBlanks p.2 := by
      rw [List.append_assoc, ← hrest]
      exact hs
    have hlevel : Climbs (u ++ b) 0 height := by
      simpa using hu.after_level (climbs_blanks hb)
    change ∃ u' opened', '(' :: s = u' ++ unreadOf Prod.snd (closeAt p) ∧ _ ∧
      ∀ q, closeAt p = .ok q → opened' = 0
    rw [closeAt]
    split
    next rest hclose =>
      refine ⟨'(' :: (u ++ b ++ [')']), 0, ?_, hlevel.group, fun _ _ => rfl⟩
      rw [hs, hclose]
      simp [unreadOf]
    next hopen =>
      refine ⟨'(' :: (u ++ b), 1, ?_, hlevel.opening, fun q hq => by cases hq⟩
      rw [hs]
      rfl

/-- **A group uses up one of the limit.** -/
theorem curbed_group (hq : QueriesCurbed n) (hlen : after.length < n)
    (hs : skipBlanks s = '(' :: after) (limit : Nat) :
    Curbed limit Prod.snd ('(' :: after) (atomAt none s) (atomAt (some limit) s) := by
  have hfree : atomAt none s = (queryAt none after).bind closeAt := atomAt_group hs (by simp)
  obtain ⟨u, opened, height, hafter, hu, hok, hsame, hdeep⟩ := hq (limit - 1) after hlen
  obtain ⟨u', opened', hs', hu', hok'⟩ := exists_climbs_closeAt hafter hu hok
  rw [hfree]
  refine ⟨u', opened', height + 1, hs', hu', hok', ?_, ?_⟩
  · intro hle
    obtain ⟨limit, rfl⟩ : ∃ k, limit = k + 1 := ⟨limit - 1, by omega⟩
    rw [atomAt_group hs (by simp)]
    exact congrArg (·.bind closeAt) (hsame (Nat.le_of_succ_le_succ hle))
  · intro hlt
    cases limit with
    | zero =>
      rw [atomAt_deep hs]
      exact ⟨[], after, rfl, climbs_nil, rfl⟩
    | succ limit =>
      rw [atomAt_group hs (by simp)]
      exact ((hdeep (Nat.lt_of_succ_lt_succ hlt)).bind closeAt).opening

theorem atomsCurbed_succ (hq : QueriesCurbed n) : AtomsCurbed (n + 1) := by
  intro limit s hlen
  obtain ⟨b, hb, hs⟩ := Text.exists_blanks s
  suffices hskipped : Curbed limit Prod.snd (skipBlanks s) (atomAt none s)
      (atomAt (some limit) s) by
    have hpassed := hskipped.passed (climbs_blanks hb)
    rwa [← hs] at hpassed
  by_cases hg : ∃ after, skipBlanks s = '(' :: after
  · obtain ⟨after, hg⟩ := hg
    have hlt := Text.length_lt_of_skipBlanks hg
    rw [hg]
    exact curbed_group hq (by omega) hg limit
  · by_cases hp : ∃ after, skipBlanks s = '"' :: after
    · obtain ⟨after, hp⟩ := hp
      rw [atomAt_phrase hp, atomAt_phrase hp, hp]
      exact curbed_phraseAt limit after
    · by_cases hm : ∃ after, skipBlanks s = '=' :: '"' :: after
      · obtain ⟨after, hm⟩ := hm
        rw [atomAt_marked hm, atomAt_marked hm, hm]
        exact (curbed_phraseAt limit after).passed (w := ['=']) (climbs_plain (by simp))
      · have hg := not_exists.1 hg
        have hp := not_exists.1 hp
        have hm := not_exists.1 hm
        rw [atomAt_word hg hp hm, atomAt_word hg hp hm]
        exact curbed_wordAt limit _

/-! ## Clauses and queries -/

theorem curbed_factorAt (ha : AtomsCurbed n) (limit : Nat) (hlen : s.length < n) :
    Curbed limit Prod.snd s (factorAt none s) (factorAt (some limit) s) := by
  by_cases hsign : ∃ c after, skipBlanks s = c :: after ∧ IsSign c
  · obtain ⟨c, after, hskip, hc⟩ := hsign
    obtain ⟨b, hb, hs⟩ := Text.exists_blanks s
    have hlt := Text.length_lt_of_skipBlanks hskip
    have hpast : Climbs (b ++ [c]) 0 0 := by
      have hsign : Climbs [c] 0 0 := by
        rcases hc with rfl | rfl
        · exact climbs_plain (by simp)
        · exact climbs_plain (by simp)
      exact (climbs_blanks hb).after_level hsign
    rw [factorAt_sign hskip hc, factorAt_sign hskip hc]
    have hatom : Curbed limit Prod.snd after
        ((atomAt none after).map fun p => (Tree.not p.1, p.2))
        ((atomAt (some limit) after).map fun p => (Tree.not p.1, p.2)) :=
      (ha limit after (by omega)).map fun _ => rfl
    have hpassed := hatom.passed hpast
    rwa [List.append_assoc, List.singleton_append, ← hskip, ← hs] at hpassed
  · have hplain : ∀ c after, skipBlanks s = c :: after → ¬ IsSign c := fun c after h hc =>
      hsign ⟨c, after, h, hc⟩
    rw [factorAt_plain hplain, factorAt_plain hplain]
    exact ha limit s hlen

/-- **A loop over curbed items is curbed.** -/
theorem IsLoop.curbed {separator : Char} {item item' : Text → Except Failure (Tree × Text)}
    {join : Tree → Tree → Tree} {loop loop' : Tree → Text → Except Failure (Tree × Text)}
    (hl : IsLoop separator item join loop) (hl' : IsLoop separator item' join loop')
    (hseparator : Climbs [separator] 0 0)
    (hitem : ∀ s, s.length < n → Curbed limit Prod.snd s (item s) (item' s)) (left : Tree)
    (hlen : s.length < n) : Curbed limit Prod.snd s (loop left s) (loop' left s) := by
  -- every round leaves a shorter text, and `left` changes with it
  induction hm : s.length using Nat.strong_induction_on generalizing s left with
  | _ m ih =>
    obtain ⟨b, hb, hs⟩ := Text.exists_blanks s
    by_cases hsep : ∃ after, skipBlanks s = separator :: after
    · obtain ⟨after, hsep⟩ := hsep
      have hafter := Text.length_lt_of_skipBlanks hsep
      have hround : Curbed limit Prod.snd after (loop left s) (loop' left s) := by
        rw [hl.step hsep, hl'.step hsep]
        apply (hitem after (by omega)).bind
        rintro ⟨u, rest⟩ hu
        have hrest := hl.shorter hu
        exact ih rest.length (by omega) _ (show rest.length < n by omega) rfl
      have hpassed := hround.passed ((climbs_blanks hb).after_level hseparator)
      rwa [List.append_assoc, List.singleton_append, ← hsep, ← hs] at hpassed
    · have hstop := not_exists.1 hsep
      rw [hl.stop hstop, hl'.stop hstop]
      exact curbed_of_level hs (climbs_blanks hb)

theorem curbed_clauseAt (ha : AtomsCurbed n) (limit : Nat) (hlen : s.length < n) :
    Curbed limit Prod.snd s (clauseAt none s) (clauseAt (some limit) s) := by
  rw [clauseAt_eq, clauseAt_eq]
  apply (curbed_factorAt ha limit hlen).bind
  rintro ⟨u, rest⟩ hu
  have hrest := length_lt_of_factorAt hu
  exact (isLoop_clauseOn none).curbed (isLoop_clauseOn (some limit)) (climbs_plain (by simp))
    (fun s hs => curbed_factorAt ha limit hs) u (hrest.trans hlen)

theorem queriesCurbed_of_atomsCurbed (ha : AtomsCurbed n) : QueriesCurbed n := by
  intro limit s hlen
  rw [queryAt_eq, queryAt_eq]
  apply (curbed_clauseAt ha limit hlen).bind
  rintro ⟨u, rest⟩ hu
  have hrest := length_lt_of_clauseAt hu
  exact (isLoop_queryOn none).curbed (isLoop_queryOn (some limit)) (climbs_plain (by simp))
    (fun s hs => curbed_clauseAt ha limit hs) u (hrest.trans hlen)

theorem atomsCurbed (n : Nat) : AtomsCurbed n := by
  induction n with
  | zero =>
    intro limit s hlen
    cases hlen
  | succ n ih => exact atomsCurbed_succ (queriesCurbed_of_atomsCurbed ih)

/-- **A limit curbs the reading of a whole text**, and nothing else. -/
theorem curbed_whole (limit : Nat) (s : Text) :
    Curbed limit (fun _ => []) s (whole none s) (whole (some limit) s) := by
  rw [whole_eq, whole_eq]
  apply (queriesCurbed_of_atomsCurbed (atomsCurbed _) limit s (Nat.lt_succ_self _)).bind
  rintro ⟨t, rest⟩ _
  obtain ⟨b, hb, hrest⟩ := Text.exists_blanks rest
  refine curbed_of_level ?_ (climbs_blanks hb)
  refine hrest.trans (congrArg (b ++ ·) ?_)
  rw [endAt]
  split
  next hskip => exact hskip
  next => rfl

end

end Reader

/-! ## Limits on queries -/

section

variable {limit : Nat} {s u v : Text} {t : Tree}

theorem parse_error_of_whole {maxDepth : Option Nat} {fault : QueryFault} (hs : s = u ++ v)
    (h : Reader.whole maxDepth s = .error ⟨fault, v⟩) :
    parse maxDepth s = .error ⟨fault, Text.byteLength u, s⟩ := by
  have hposition : Text.byteLength s - Text.byteLength v = Text.byteLength u := by
    rw [hs, Text.byteLength_append, Nat.add_sub_cancel]
  rw [parse, h]
  dsimp only
  rw [hposition]

theorem parse_of_tooDeep (h : Reader.TooDeep limit s (Reader.whole (some limit) s)) :
    ∃ u v, s = u ++ '(' :: v ∧ FirstBeyond limit u ∧
      parse (some limit) s = .error ⟨.nestingTooDeep, Text.byteLength u, s⟩ := by
  obtain ⟨u, v, hs, hu, hwhole⟩ := h
  exact ⟨u, v, hs, hu.firstBeyond, parse_error_of_whole hs hwhole⟩

theorem parse_of_whole_eq (h : Reader.whole (some limit) s = Reader.whole none s) :
    parse (some limit) s = parse none s := by
  rw [parse, h, parse]

/-- With a limit a text is read as without one, or a group in it lies too deep. -/
theorem parse_limit_cases (limit : Nat) (s : Text) :
    parse (some limit) s = parse none s ∨
      ∃ u v, s = u ++ '(' :: v ∧ FirstBeyond limit u ∧
        parse (some limit) s = .error ⟨.nestingTooDeep, Text.byteLength u, s⟩ := by
  obtain ⟨_, _, height, -, -, -, hsame, hdeep⟩ := Reader.curbed_whole limit s
  rcases Nat.lt_or_ge limit height with hlt | hle
  · exact .inr (parse_of_tooDeep (hdeep hlt))
  · exact .inl (parse_of_whole_eq (hsame hle))

/-- What a limit does to a query that can be read is decided by the nesting of its groups. -/
theorem parse_limit_of_parse (h : parse none s = .ok t) (limit : Nat) :
    (nesting s ≤ limit → parse (some limit) s = .ok t) ∧
      (limit < nesting s → ∃ u v, s = u ++ '(' :: v ∧ FirstBeyond limit u ∧
        parse (some limit) s = .error ⟨.nestingTooDeep, Text.byteLength u, s⟩) := by
  obtain ⟨u, opened, height, hs, hu, -, hsame, hdeep⟩ := Reader.curbed_whole limit s
  -- a query is passed to its end
  rw [(parse_eq_ok_iff_whole none s t).1 h] at hs
  obtain rfl : s = u := hs.trans (List.append_nil u)
  rw [hu.nesting_eq]
  constructor
  · intro hle
    rw [parse_of_whole_eq (hsame hle), h]
  · intro hlt
    exact parse_of_tooDeep (hdeep hlt)

theorem parse_of_parse_limit (h : parse (some limit) s = .ok t) : parse none s = .ok t := by
  rcases parse_limit_cases limit s with hsame | ⟨u, v, -, -, hdeep⟩
  · rw [← hsame, h]
  · rw [h] at hdeep
    cases hdeep

theorem nesting_le_of_parse_limit (h : parse (some limit) s = .ok t) : nesting s ≤ limit := by
  by_contra hlt
  obtain ⟨u, v, -, -, hdeep⟩ :=
    (parse_limit_of_parse (parse_of_parse_limit h) limit).2 (Nat.lt_of_not_le hlt)
  rw [h] at hdeep
  cases hdeep

/-- **A limit refuses queries that are nested too deep, and does nothing else.** Unless it reports
a group that lies too deep, the answer is the one without a limit, errors included. A query that can
be read is read to the same tree if its nesting is within the limit; otherwise the place of the
error is the first group beyond it. So a query that is accepted is accepted with every greater
limit. -/
theorem parse_within_limit (s : Text) (limit : Nat) :
    (parse (some limit) s = parse none s ∨
        ∃ e, parse (some limit) s = .error e ∧ e.fault = .nestingTooDeep) ∧
      (∀ t, parse none s = .ok t →
        (nesting s ≤ limit → parse (some limit) s = .ok t) ∧
          (limit < nesting s → ∃ u v, s = u ++ '(' :: v ∧ FirstBeyond limit u ∧
            parse (some limit) s = .error ⟨.nestingTooDeep, Text.byteLength u, s⟩)) ∧
      ∀ limit' t, limit ≤ limit' → parse (some limit) s = .ok t →
        parse (some limit') s = .ok t := by
  refine ⟨?_, fun t h => parse_limit_of_parse h limit, ?_⟩
  · rcases parse_limit_cases limit s with hsame | ⟨u, v, -, -, hdeep⟩
    · exact .inl hsame
    · exact .inr ⟨_, hdeep, rfl⟩
  · intro limit' t hle h
    apply (parse_limit_of_parse (parse_of_parse_limit h) limit').1
    exact (nesting_le_of_parse_limit h).trans hle

/-- One group beside another that has a third in it, and parentheses in a phrase that do not count:
the third is the first beyond a limit of one. -/
theorem parse_within_limit_siblings :
    parse none "\"é((\"+(a),((b))" = .ok (.or
        (.and (.leaf ⟨"é((", .exact⟩) (.leaf ⟨"%a%", .contains⟩)) (.leaf ⟨"%b%", .contains⟩)) ∧
      nesting "\"é((\"+(a),((b))" = 2 ∧
      (∃ u v, "\"é((\"+(a),((b))".toList = u ++ '(' :: v ∧ FirstBeyond 1 u ∧
        parse (some 1) "\"é((\"+(a),((b))" =
          .error ⟨.nestingTooDeep, Text.byteLength u, "\"é((\"+(a),((b))"⟩) ∧
      parse (some 2) "\"é((\"+(a),((b))" = .ok (.or
        (.and (.leaf ⟨"é((", .exact⟩) (.leaf ⟨"%a%", .contains⟩)) (.leaf ⟨"%b%", .contains⟩)) := by
  have hparse : parse none "\"é((\"+(a),((b))" = .ok (.or
      (.and (.leaf ⟨"é((", .exact⟩) (.leaf ⟨"%a%", .contains⟩)) (.leaf ⟨"%b%", .contains⟩)) := by
    decide +kernel
  have hnesting : nesting "\"é((\"+(a),((b))" = 2 := by decide
  refine ⟨hparse, hnesting, ?_, ?_⟩
  · apply ((parse_within_limit _ 1).2.1 _ hparse).2
    exact Nat.lt_of_lt_of_eq (Nat.lt_succ_self 1) hnesting.symm
  · apply ((parse_within_limit _ 2).2.1 _ hparse).1
    exact hnesting.le

end

end SearchClause
