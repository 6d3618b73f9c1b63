import SearchClause.Proofs.CanonicalForm

/-!
# Normalizing a text in parts

Both passes go from left to right, and what they know of the text before a place is little. So a
text can be cut where no quote is open, and normalized in parts:

* **keywords** — `foldKeywords_append`, `foldKeywords_append_of_startsRun`: if no run of letters
  goes on behind the cut, keywords are folded in each part alone;
* **layout** — `layFrom_append`: every character is written and then left behind, so layout goes on
  in the second part from the place that the first part leads to;
* **quotes** — `count_quote_normalize`: no quote is added or dropped, so quotes are open at the same
  places of a text before and after;
* **clean texts** — `cleanOutside_append`: a text is clean if its parts are.
-/

namespace SearchClause

open Text (EndsRun StartsRun)

/-! ## Quotes -/

instance (u : Text) : Decidable (Unquoted u) :=
  inferInstanceAs (Decidable (Even _))

section

variable {c : Char} {quoted : Bool} {s u : Text}

theorem unquoted_cons_quote : Unquoted ('"' :: s) ↔ ¬ Unquoted s := by
  simp [Unquoted, Nat.even_add_one]

theorem unquoted_cons (hc : c ≠ '"') : Unquoted (c :: s) ↔ Unquoted s := by
  simp [Unquoted, hc]

/-- Two parts leave no quote open when both do, or neither does. -/
theorem unquoted_append_iff : Unquoted (u ++ s) ↔ (Unquoted u ↔ Unquoted s) := by
  rw [Unquoted, List.count_append, Nat.even_add, Unquoted, Unquoted]

/-- Behind a quote it is the other way round. -/
theorem unquoted_tail_iff (h : Unquoted ('"' :: s) ↔ quoted = false) :
    Unquoted s ↔ (!quoted) = false := by
  rw [← not_iff_not, ← unquoted_cons_quote, h]
  simp

end

namespace Canonical

variable {c : Char} {quoted gap : Bool} {run s u v : Text} {last : Option Char} {place : Place}

/-! ## Keywords -/

/-- A run of letters that does not go on is written at once. -/
theorem foldFrom_of_endsRun (h : EndsRun isAlphabetic s) :
    foldFrom false run s = foldWord run ++ foldFrom false [] s := by
  cases s with
  | nil => exact (List.append_nil _).symm
  | cons c rest =>
    by_cases hq : c = '"'
    · subst hq
      rw [foldFrom_quote, foldFrom_quote]
      rfl
    · have hc := Text.endsRun_cons.1 h
      rw [foldFrom_other hq hc, foldFrom_other hq hc]
      rfl

/-- The run of letters that is open at the cut must not go on behind it. It does not if the second
part starts with no letter, or if there is none: nothing was read, or what was read last is no
letter. -/
theorem foldFrom_append (hu : Unquoted u ↔ quoted = false)
    (hcut : EndsRun isAlphabetic v ∨ StartsRun isAlphabetic u ∧ (u = [] → run = [])) :
    foldFrom quoted run (u ++ v) = foldFrom quoted run u ++ foldFrom false [] v := by
  induction u generalizing quoted run with
  | nil =>
    obtain rfl := hu.1 unquoted_nil
    rcases hcut with hv | ⟨-, hrun⟩
    · exact foldFrom_of_endsRun hv
    · rw [hrun rfl]
      rfl
  | cons c u ih =>
    have htail : StartsRun isAlphabetic (c :: u) → StartsRun isAlphabetic u := fun h =>
      Text.startsRun_of_append (w := [c]) h
    by_cases hq : c = '"'
    · subst hq
      have hflip := unquoted_tail_iff hu
      rw [List.cons_append, foldFrom_quote, foldFrom_quote,
        ih hflip (hcut.imp_right fun h => ⟨htail h.1, fun _ => rfl⟩), List.append_assoc,
        List.cons_append]
    · rw [unquoted_cons hq] at hu
      cases quoted with
      | true =>
        rw [List.cons_append, foldFrom_quoted hq, foldFrom_quoted hq,
          ih hu (hcut.imp_right fun h => ⟨htail h.1, fun _ => rfl⟩), List.cons_append]
      | false =>
        cases hc : isAlphabetic c with
        | true =>
          -- a letter is not what the first part ends with
          have hne : StartsRun isAlphabetic (c :: u) → u ≠ [] := by
            rintro h rfl
            rw [h c rfl] at hc
            cases hc
          rw [List.cons_append, foldFrom_letter hc, foldFrom_letter hc,
            ih hu (hcut.imp_right fun h => ⟨htail h.1, fun hnil => absurd hnil (hne h.1)⟩)]
        | false =>
          rw [List.cons_append, foldFrom_other hq hc, foldFrom_other hq hc,
            ih hu (hcut.imp_right fun h => ⟨htail h.1, fun _ => rfl⟩), List.append_assoc,
            List.cons_append]

/-- **Keywords are folded in each part alone.** -/
theorem foldKeywords_append (hu : Unquoted u) (hv : EndsRun isAlphabetic v) :
    foldKeywords (u ++ v) = foldKeywords u ++ foldKeywords v :=
  foldFrom_append (by simp [hu]) (.inl hv)

theorem foldKeywords_append_of_startsRun (hu : Unquoted u) (hrun : StartsRun isAlphabetic u) :
    foldKeywords (u ++ v) = foldKeywords u ++ foldKeywords v :=
  foldFrom_append (by simp [hu]) (.inr ⟨hrun, fun _ => rfl⟩)

theorem foldKeywords_cons (hq : c ≠ '"') (hc : isAlphabetic c = false) :
    foldKeywords (c :: s) = c :: foldKeywords s :=
  foldFrom_other hq hc

theorem count_quote_foldWord (hrun : '"' ∉ run) : (foldWord run).count '"' = 0 := by
  rw [foldWord]
  split
  · rfl
  · split
    · rfl
    · exact List.count_eq_zero.2 hrun

theorem count_quote_foldFrom (hrun : '"' ∉ run) :
    (foldFrom quoted run s).count '"' = s.count '"' := by
  induction s generalizing quoted run with
  | nil => exact count_quote_foldWord hrun
  | cons c rest ih =>
    by_cases hq : c = '"'
    · subst hq
      rw [foldFrom_quote, List.count_append, count_quote_foldWord hrun, List.count_cons_self,
        List.count_cons_self, ih (by simp), Nat.zero_add]
    · have hcount (l : Text) : (c :: l).count '"' = l.count '"' := List.count_cons_of_ne hq
      cases quoted with
      | true => rw [foldFrom_quoted hq, hcount, hcount, ih (by simp)]
      | false =>
        cases hc : isAlphabetic c with
        | true => rw [foldFrom_letter hc, hcount, ih (by simp [hrun, Ne.symm hq])]
        | false =>
          rw [foldFrom_other hq hc, List.count_append, count_quote_foldWord hrun, hcount, hcount,
            ih (by simp), Nat.zero_add]

theorem unquoted_foldKeywords : Unquoted (foldKeywords s) ↔ Unquoted s := by
  rw [Unquoted, Unquoted, foldKeywords, count_quote_foldFrom (by simp)]

/-! ## Layout -/

/-- The place after a character has been passed. -/
def Place.next : Place → Char → Place
  | .quoted, c => if c = '"' then .outside (some c) false else .quoted
  | .outside last gap, c =>
    if isBlank c then .outside last (gap || last.any endsTerm) else .after (mapWildcard c)

/-- What is written when a character is passed. -/
def Place.put : Place → Char → Text
  | .quoted, c => [c]
  | .outside _ gap, c =>
    if isBlank c then []
    else (if gap && startsTerm (mapWildcard c) then ['+'] else []) ++ [mapWildcard c]

/-- One step of layout. -/
theorem layFrom_cons (place : Place) (c : Char) (s : Text) :
    layFrom place (c :: s) = place.put c ++ layFrom (place.next c) s := by
  cases place with
  | quoted =>
    by_cases hq : c = '"'
    · subst hq
      exact layFrom_quote
    · rw [layFrom_quoted hq, Place.next, if_neg hq]
      rfl
  | outside last gap =>
    cases hc : isBlank c with
    | true => rw [layFrom_blank hc, Place.put, Place.next, if_pos hc, if_pos hc, List.nil_append]
    | false => simp [layFrom_written hc, Place.put, Place.next, hc]

/-- **Layout goes on from the place that the first part leads to.** -/
theorem layFrom_append (place : Place) (u v : Text) :
    layFrom place (u ++ v) = layFrom place u ++ layFrom (u.foldl Place.next place) v := by
  induction u generalizing place with
  | nil => simp [layFrom]
  | cons c u ih =>
    rw [List.cons_append, layFrom_cons, ih, layFrom_cons, List.append_assoc, List.foldl_cons]

theorem next_quote_eq_quoted : place.next '"' = .quoted ↔ place ≠ .quoted := by
  cases place with
  | quoted => decide
  | outside last gap => exact ⟨fun _ => by simp, fun _ => rfl⟩

theorem next_eq_quoted (hq : c ≠ '"') : place.next c = .quoted ↔ place = .quoted := by
  cases place with
  | quoted => simp [Place.next, hq]
  | outside last gap =>
    have hmap := mapWildcard_ne_quote hq
    cases hc : isBlank c with
    | true => simp [Place.next, hc]
    | false => simp [Place.next, hc, Place.after, hmap]

/-- Layout is between quotes after a text when the text has left one open. -/
theorem foldl_next_eq_quoted_iff :
    u.foldl Place.next place = .quoted ↔ (place = .quoted ↔ Unquoted u) := by
  induction u generalizing place with
  | nil => simp [unquoted_nil]
  | cons c u ih =>
    rw [List.foldl_cons, ih]
    by_cases hq : c = '"'
    · subst hq
      rw [next_quote_eq_quoted, unquoted_cons_quote]
      tauto
    · rw [next_eq_quoted hq, unquoted_cons hq]

/-- A text that closes its quotes leads back outside. -/
theorem exists_foldl_next_eq (hu : Unquoted u) (last : Option Char) (gap : Bool) :
    ∃ last' gap', u.foldl Place.next (.outside last gap) = .outside last' gap' := by
  cases hplace : u.foldl Place.next (.outside last gap) with
  | quoted => simp [foldl_next_eq_quoted_iff, hu] at hplace
  | outside last' gap' => exact ⟨last', gap', rfl⟩

/-- Behind a character that ends no term, layout starts afresh. -/
theorem layFrom_fresh (hlast : last.any endsTerm = false) :
    layFrom (.outside last false) s = layFrom (.outside none false) s := by
  induction s with
  | nil => rw [layFrom, layFrom]
  | cons c s ih =>
    cases hc : isBlank c with
    | true =>
      rw [layFrom_blank hc, layFrom_blank hc, hlast]
      exact ih
    | false => rw [layFrom_written hc, layFrom_written hc]

theorem count_quote_put (place : Place) (c : Char) : (place.put c).count '"' = [c].count '"' := by
  cases place with
  | quoted => rfl
  | outside last gap =>
    by_cases hq : c = '"'
    · subst hq
      cases gap <;> rfl
    · have hmap := mapWildcard_ne_quote hq
      cases hc : isBlank c with
      | true => simp [Place.put, hc, hq]
      | false =>
        simp only [Place.put, hc, Bool.false_eq_true, if_false, List.count_append]
        split <;> simp [hmap, hq]

theorem count_quote_layFrom (place : Place) (s : Text) :
    (layFrom place s).count '"' = s.count '"' := by
  induction s generalizing place with
  | nil => rw [layFrom]
  | cons c s ih =>
    rw [layFrom_cons, List.count_append, count_quote_put, ih, ← List.count_append]
    rfl

end Canonical

/-- **Normalizing keeps every quote.** -/
theorem count_quote_normalize (s : Text) : (normalize s).count '"' = s.count '"' := by
  rw [normalize, Canonical.count_quote_layFrom, Canonical.foldKeywords,
    Canonical.count_quote_foldFrom (by simp)]

theorem unquoted_normalize {s : Text} : Unquoted (normalize s) ↔ Unquoted s := by
  rw [Unquoted, Unquoted, count_quote_normalize]

/-! ## Clean texts -/

section

variable {allowed : Char → Prop} {c : Char} {quoted : Bool} {run p s u v : Text}

/-- A run of letters that does not go on is looked at once. -/
theorem cleanFrom_of_endsRun (h : EndsRun isAlphabetic s) :
    CleanFrom allowed false run s ↔ ¬ IsKeyword run ∧ CleanFrom allowed false [] s := by
  cases s with
  | nil => simp [CleanFrom, not_isKeyword_nil]
  | cons c rest =>
    by_cases hq : c = '"'
    · subst hq
      simp only [cleanFrom_quote, not_isKeyword_nil, not_false_eq_true, true_and]
    · have hc := Text.endsRun_cons.1 h
      simp only [cleanFrom_other hq hc, not_isKeyword_nil, not_false_eq_true, true_and]
      tauto

theorem cleanFrom_append (hu : Unquoted u ↔ quoted = false) (hv : EndsRun isAlphabetic v) :
    CleanFrom allowed quoted run (u ++ v) ↔
      CleanFrom allowed quoted run u ∧ CleanFrom allowed false [] v := by
  induction u generalizing quoted run with
  | nil =>
    obtain rfl := hu.1 unquoted_nil
    exact cleanFrom_of_endsRun hv
  | cons c u ih =>
    rw [List.cons_append]
    by_cases hq : c = '"'
    · subst hq
      have hflip := unquoted_tail_iff hu
      rw [cleanFrom_quote, cleanFrom_quote, ih hflip, and_assoc]
    · rw [unquoted_cons hq] at hu
      cases quoted with
      | true => rw [cleanFrom_quoted hq, cleanFrom_quoted hq, ih hu]
      | false =>
        cases hc : isAlphabetic c with
        | true => rw [cleanFrom_letter hc, cleanFrom_letter hc, ih hu, and_assoc]
        | false =>
          rw [cleanFrom_other hq hc, cleanFrom_other hq hc, ih hu, and_assoc, and_assoc]

/-- **A text is clean if its parts are**, cut where no quote is open and no run of letters goes on.
-/
theorem cleanOutside_append (hu : Unquoted u) (hv : EndsRun isAlphabetic v) :
    CleanOutside allowed (u ++ v) ↔ CleanOutside allowed u ∧ CleanOutside allowed v := by
  simp only [cleanOutside_iff]
  exact cleanFrom_append (by simp [hu]) hv

theorem cleanOutside_nil : CleanOutside allowed [] :=
  cleanOutside_iff.2 not_isKeyword_nil

theorem cleanOutside_cons (hq : c ≠ '"') (hc : isAlphabetic c = false) :
    CleanOutside allowed (c :: s) ↔ allowed c ∧ CleanOutside allowed s := by
  rw [cleanOutside_iff, cleanFrom_other hq hc, cleanOutside_iff]
  simp [not_isKeyword_nil]

/-- A text in front that has no letters and no quotes is clean by its characters. -/
theorem cleanOutside_append_left (hu : ∀ c ∈ u, c ≠ '"' ∧ isAlphabetic c = false) :
    CleanOutside allowed (u ++ s) ↔ (∀ c ∈ u, allowed c) ∧ CleanOutside allowed s := by
  induction u with
  | nil => simp
  | cons c u ih =>
    obtain ⟨hc, hu⟩ := List.forall_mem_cons.1 hu
    rw [List.cons_append, cleanOutside_cons hc.1 hc.2, ih hu, List.forall_mem_cons, and_assoc]

theorem not_isAlphabetic_of_isBlank (hc : isBlank c = true) : isAlphabetic c = false := by
  rw [← Bool.not_eq_true]
  intro hletter
  have hblank := isBlank_of_isWordChar (Canonical.isWordChar_of_isAlphabetic hletter)
  rw [hc] at hblank
  cases hblank

/-- No maximal run of letters is a keyword. -/
def KeywordFree (s : Text) : Prop :=
  ∀ u w v, s = u ++ w ++ v → Text.IsRun isAlphabetic u w v → ¬ IsKeyword w

/-- Without quotes, all of a text is outside them. -/
theorem cleanOutside_iff_keywordFree (hs : '"' ∉ s) :
    CleanOutside allowed s ↔ (∀ c ∈ s, allowed c) ∧ KeywordFree s := by
  have hpre : ∀ u x, s = u ++ x → Unquoted u := by
    rintro u x rfl
    rw [Unquoted, List.count_eq_zero.2 fun hmem => hs (List.mem_append_left _ hmem)]
    exact Even.zero
  constructor
  · intro h
    refine ⟨fun c hc => ?_, fun u w v hv hrun => ?_⟩
    · obtain ⟨u, x, hu⟩ := List.append_of_mem hc
      refine h.chars u c x hu (hpre u _ hu) ?_
      rintro rfl
      exact hs hc
    · exact h.words u w v hv (hpre u (w ++ v) (by rw [hv, List.append_assoc])) hrun
  · rintro ⟨hchars, hwords⟩
    refine ⟨fun u c x hu _ _ => hchars c ?_, fun u w v hv _ hrun => hwords u w v hv hrun⟩
    simp [hu]

/-- Between quotes everything is clean. -/
theorem cleanOutside_phrase (hp : '"' ∉ p) :
    CleanOutside allowed ('"' :: (p ++ '"' :: s)) ↔ CleanOutside allowed s := by
  rw [cleanOutside_iff, cleanFrom_quote, cleanOutside_iff]
  simp only [not_isKeyword_nil, not_false_eq_true, true_and, Bool.not_false]
  induction p with
  | nil =>
    rw [List.nil_append, cleanFrom_quote]
    simp [not_isKeyword_nil]
  | cons c p ih =>
    obtain ⟨hc, hp⟩ := List.ne_and_not_mem_of_not_mem_cons hp
    rw [List.cons_append, cleanFrom_quoted (Ne.symm hc), ih hp]

end

end SearchClause
