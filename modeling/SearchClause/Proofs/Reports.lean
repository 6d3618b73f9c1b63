import SearchClause.Proofs.Failures
import SearchClause.Proofs.Limits
import SearchClause.Proofs.Words

/-!
# What an error says

An error names a fault and a place. Both can be checked against the text, without a look at how it
was read: `QueryFault.Shows` is what has to stand at the place, and `QueryFault.Follows` what has to
stand before it. A query that stops too early is complete up to the place, and one whose groups are
not closed is complete once they are; so much of it was right.

The limit comes in twice: it can be the reason of the error itself, and what is complete up to the
place has to be so within the limit.
-/

namespace SearchClause

open Text (Blanks EndsRun skipBlanks)

open Grammar (Fails Derives IsQuery Part Stops)

/-- No term can be read at the start of a text: there is nothing, a character that no term starts
with, a pair of quotes with nothing between them, or a word that is nothing but marks. -/
def LacksTerm (s : Text) : Prop :=
  s = [] ∨ (∃ c rest, s = c :: rest ∧ isWordChar c = false ∧ c ≠ '(' ∧ c ≠ '"') ∨
    (∃ rest, s = '"' :: '"' :: rest) ∨ s.takeWhile isWordChar ∈ Reader.bareMarks

/-- The word at the start of a text is marked to be exact, and has a character that stands for
others. -/
def MarksPattern (s : Text) : Prop :=
  Reader.ExactMarked (s.takeWhile isWordChar) ∧
    ∃ c ∈ s.takeWhile isWordChar, c = '%' ∨ c = '_' ∨ c = '*'

namespace QueryFault

/-- What stands at the place of a fault. -/
def Shows : QueryFault → Text → Prop
  | emptyTerm, s => LacksTerm s
  | unterminatedQuote, s => ∃ rest, s = '"' :: rest ∧ '"' ∉ rest
  | unmatchedParenthesis, s => Stops s ∧ s.head? ≠ some ')'
  | exactWithWildcard, s => MarksPattern s
  | unexpectedCharacter, s => s ≠ [] ∧ Stops s
  | nestingTooDeep, s => s.head? = some '('

/-- What stands before the place of a fault. -/
def Follows (maxDepth : Option Nat) : QueryFault → Text → Prop
  | emptyTerm, _ | exactWithWildcard, _ => True
  | unterminatedQuote, u => Unquoted u
  | unmatchedParenthesis, u => 1 ≤ openGroups u ∧
      ∃ t, parse maxDepth (u ++ List.replicate (openGroups u) ')') = .ok t
  | unexpectedCharacter, u => ∃ t, parse maxDepth u = .ok t
  | nestingTooDeep, u => ∃ limit, maxDepth = some limit ∧ FirstBeyond limit u

end QueryFault

/-! ## At the place -/

section

variable {part : Part} {s : Text} {e : Reader.Failure}

theorem shows_badWord {w rest : Text} {fault : QueryFault} (hne : w ≠ [])
    (hw : ∀ c ∈ w, isWordChar c = true) (hend : EndsRun isWordChar rest)
    (h : Reader.termOfWord w = .error fault) :
    fault.Shows (w ++ rest) ∧ (fault = .exactWithWildcard ∨ fault = .emptyTerm) := by
  have hrun := Text.takeWhile_run_append hw hend
  rcases Reader.termOfWord_eq_error hne h with ⟨rfl, hmark, hpattern⟩ | ⟨rfl, hmarks⟩
  · refine ⟨?_, .inl rfl⟩
    obtain ⟨c, hc, hmem⟩ := Reader.isPatterned_iff.1 hpattern
    rw [QueryFault.Shows, MarksPattern, hrun]
    exact ⟨hmark, c, hc, by simpa [Reader.patternMarks] using hmem⟩
  · refine ⟨?_, .inr rfl⟩
    rw [QueryFault.Shows, LacksTerm, hrun]
    exact .inr (.inr (.inr hmarks))

/-- **The innermost part shows the fault**, and the parts around it hand it on. -/
theorem Grammar.Fails.shows (h : Fails part s e) :
    e.fault.Shows e.unread ∧ e.fault ≠ .unexpectedCharacter ∧ e.fault ≠ .nestingTooDeep := by
  induction h with
  | first _ ih => exact ih
  | or _ _ _ ih => exact ih
  | single _ ih => exact ih
  | and _ _ _ ih => exact ih
  | negated _ _ _ _ ih => exact ih
  | plain _ _ _ ih => exact ih
  | inside _ ih => exact ih
  | unclosed _ _ hstops hopen => exact ⟨⟨hstops, hopen⟩, by simp, by simp⟩
  | openPhrase hp => exact ⟨⟨_, rfl, hp⟩, by simp, by simp⟩
  | emptyPhrase => exact ⟨.inr (.inr (.inl ⟨_, rfl⟩)), by simp, by simp⟩
  | @noAtom s hend hgroup hphrase =>
    refine ⟨?_, by simp, by simp⟩
    cases s with
    | nil => exact .inl rfl
    | cons c s =>
      refine .inr (.inl ⟨c, s, rfl, Text.endsRun_cons.1 hend, ?_, ?_⟩)
      · rintro rfl
        exact hgroup rfl
      · rintro rfl
        exact hphrase rfl
  | badWord hne hw hend hterm =>
    obtain ⟨hshows, rfl | rfl⟩ := shows_badWord hne hw hend hterm
    · exact ⟨hshows, by simp, by simp⟩
    · exact ⟨hshows, by simp, by simp⟩

/-! ## Before the place -/

/-- **Closing the open groups completes a part.** -/
theorem Grammar.Fails.exists_completion (h : Fails part s e)
    (he : e.fault = .unmatchedParenthesis) :
    ∃ u n, s = u ++ e.unread ∧
      ∀ x, ∃ t, Derives part (u ++ (List.replicate (n + 1) ')' ++ x)) t x := by
  induction h with
  | first _ ih =>
    obtain ⟨u, n, rfl, hclosed⟩ := ih he
    refine ⟨u, n, rfl, fun x => ?_⟩
    obtain ⟨t, ht⟩ := hclosed x
    exact ⟨t, .first ht⟩
  | @or s b s' left e hd hb _ ih =>
    obtain ⟨w, rfl, hw⟩ := hd.exists_exchange
    obtain ⟨u, n, rfl, hclosed⟩ := ih he
    refine ⟨w ++ (b ++ ',' :: u), n, by simp, fun x => ?_⟩
    obtain ⟨t, ht⟩ := hclosed x
    refine ⟨.or left t, ?_⟩
    simpa using Derives.or (hw _ (Grammar.endsRun_between hb (by decide) _)) hb ht
  | single _ ih =>
    obtain ⟨u, n, rfl, hclosed⟩ := ih he
    refine ⟨u, n, rfl, fun x => ?_⟩
    obtain ⟨t, ht⟩ := hclosed x
    exact ⟨t, .single ht⟩
  | @and s b s' left e hd hb _ ih =>
    obtain ⟨w, rfl, hw⟩ := hd.exists_exchange
    obtain ⟨u, n, rfl, hclosed⟩ := ih he
    refine ⟨w ++ (b ++ '+' :: u), n, by simp, fun x => ?_⟩
    obtain ⟨t, ht⟩ := hclosed x
    refine ⟨.and left t, ?_⟩
    simpa using Derives.and (hw _ (Grammar.endsRun_between hb (by decide) _)) hb ht
  | @negated b c b' s e hb hc hb' _ ih =>
    obtain ⟨u, n, rfl, hclosed⟩ := ih he
    refine ⟨b ++ c :: (b' ++ u), n, by simp, fun x => ?_⟩
    obtain ⟨t, ht⟩ := hclosed x
    refine ⟨.not t, ?_⟩
    simpa using Derives.negated hb hc hb' ht
  | @plain b s e hb hsign _ ih =>
    obtain ⟨u, n, rfl, hclosed⟩ := ih he
    refine ⟨b ++ u, n, by simp, fun x => ?_⟩
    obtain ⟨t, ht⟩ := hclosed x
    refine ⟨t, ?_⟩
    rw [List.append_assoc]
    cases u with
    | nil => exact .plain hb (by decide) ht
    | cons c u => exact .plain hb (hsign c rfl) ht
  | inside _ ih =>
    obtain ⟨u, n, rfl, hclosed⟩ := ih he
    refine ⟨'(' :: u, n + 1, rfl, fun x => ?_⟩
    obtain ⟨t, ht⟩ := hclosed (')' :: x)
    refine ⟨t, ?_⟩
    rw [List.replicate_succ', List.append_assoc]
    exact .group (b := []) ht Text.blanks_nil
  | @unclosed s t b rest hd hb _ _ =>
    obtain ⟨w, rfl, hw⟩ := hd.exists_exchange
    refine ⟨'(' :: (w ++ b), 0, by simp, fun x => ⟨t, ?_⟩⟩
    simpa using Derives.group (hw _ (Grammar.endsRun_between hb (by decide) x)) hb
  | openPhrase _ => cases he
  | emptyPhrase => cases he
  | noAtom _ _ _ => cases he
  | badWord hne hw hend hterm =>
    obtain ⟨-, rfl | rfl⟩ := shows_badWord hne hw hend hterm
    · cases he
    · cases he

end

section

variable {maxDepth : Option Nat} {s u : Text} {t : Tree} {e : Reader.Failure} {opened height : Nat}

/-- A query that is not too deep for a limit can be read. -/
theorem parse_of_isQuery (h : IsQuery s t) (hdepth : ∀ limit, maxDepth = some limit →
    nesting s ≤ limit) : parse maxDepth s = .ok t := by
  have hparse : parse none s = .ok t :=
    (parse_eq_ok_iff_whole none s t).2 ((Grammar.whole_eq_ok_iff s t).2 h)
  cases maxDepth with
  | none => exact hparse
  | some limit => exact (parse_limit_of_parse hparse limit).1 (hdepth limit rfl)

theorem IsQuery.exists_climbs (h : IsQuery s t) : ∃ height, Climbs s 0 height := by
  obtain ⟨u, opened, height, hs, hu, hok, -⟩ := Reader.curbed_whole 0 s
  have hwhole := (Grammar.whole_eq_ok_iff s t).2 h
  rw [hwhole] at hs
  obtain rfl : s = u := hs.trans (List.append_nil u)
  obtain rfl := hok t hwhole
  exact ⟨height, hu⟩

/-- How many groups are open at the place of an unmatched parenthesis is how many have to be
closed. -/
theorem follows_unmatched (h : Fails .query (u ++ e.unread) e)
    (he : e.fault = .unmatchedParenthesis) (hu : Climbs u opened height)
    (hdepth : ∀ limit, maxDepth = some limit → height ≤ limit) :
    QueryFault.Follows maxDepth .unmatchedParenthesis u := by
  obtain ⟨u', n, hs, hclosed⟩ := h.exists_completion he
  obtain rfl := List.append_cancel_right hs
  obtain ⟨t, ht⟩ := hclosed []
  rw [List.append_nil] at ht
  have hquery : IsQuery (u ++ List.replicate (n + 1) ')') t := ⟨[], ht, Text.blanks_nil⟩
  obtain ⟨height', hlevel⟩ := IsQuery.exists_climbs hquery
  obtain rfl := hu.opened_eq hlevel
  rw [QueryFault.Follows, hu.openGroups_eq]
  refine ⟨Nat.le_add_left 1 n, t, parse_of_isQuery hquery ?_⟩
  intro limit hlimit
  rw [nesting_append_closings, hu.nesting_eq]
  exact hdepth limit hlimit

/-- What the reader refuses without a limit is justified within every limit that lets the text
before it pass. -/
theorem justified_of_whole (h : Reader.whole none (u ++ e.unread) = .error e)
    (hu : Climbs u opened height) (hdepth : ∀ limit, maxDepth = some limit → height ≤ limit) :
    e.fault.Shows e.unread ∧ e.fault.Follows maxDepth u := by
  rcases Grammar.failed_of_whole h with hfails | ⟨hfault, hne, hstops, t, b, hb, hd⟩
  · obtain ⟨hshows, hunexpected, hdeep⟩ := hfails.shows
    refine ⟨hshows, ?_⟩
    cases hfault : e.fault with
    | emptyTerm => trivial
    | exactWithWildcard => trivial
    | unterminatedQuote => exact hu.unquoted
    | unmatchedParenthesis => exact follows_unmatched hfails hfault hu hdepth
    | unexpectedCharacter => exact absurd hfault hunexpected
    | nestingTooDeep => exact absurd hfault hdeep
  · rw [hfault]
    refine ⟨⟨hne, hstops⟩, t, ?_⟩
    -- without what follows, the text is the query and the blanks after it
    obtain ⟨w, hs, hw⟩ := hd.exists_exchange
    rw [← List.append_assoc] at hs
    obtain rfl := List.append_cancel_right hs
    have hblanks : EndsRun isWordChar b := by
      have hend := Grammar.endsRun_after_blanks hb Text.endsRun_nil
      rwa [List.append_nil] at hend
    refine parse_of_isQuery ⟨b, hw b hblanks, hb⟩ ?_
    intro limit hlimit
    rw [hu.nesting_eq]
    exact hdepth limit hlimit

/-- Every failure of the reader is justified, with a limit and without one. -/
theorem exists_justified (h : Reader.whole maxDepth s = .error e) :
    ∃ u, s = u ++ e.unread ∧ e.fault.Shows e.unread ∧ e.fault.Follows maxDepth u := by
  cases maxDepth with
  | none =>
    obtain ⟨u, opened, height, hs, hu, -⟩ := Reader.curbed_whole 0 s
    rw [h] at hs
    obtain rfl : s = u ++ e.unread := hs
    refine ⟨u, rfl, justified_of_whole h hu ?_⟩
    intro limit hlimit
    cases hlimit
  | some limit =>
    obtain ⟨u, opened, height, hs, hu, -, hsame, hdeep⟩ := Reader.curbed_whole limit s
    rcases Nat.lt_or_ge limit height with hlt | hle
    · obtain ⟨u, v, rfl, hu, hwhole⟩ := hdeep hlt
      obtain rfl := Except.error.inj (h.symm.trans hwhole)
      exact ⟨u, rfl, rfl, limit, rfl, hu.firstBeyond⟩
    · rw [hsame hle] at h
      rw [h] at hs
      obtain rfl : s = u ++ e.unread := hs
      refine ⟨u, rfl, justified_of_whole h hu ?_⟩
      intro limit' hlimit
      obtain rfl := Option.some.inj hlimit
      exact hle

end

/-- **Every error is true.** It has the text that was read and a place in it, between two
characters. What stands at the place and what stands before it are as the fault says; a quote that
is not closed is the last of an odd number. -/
theorem parse_error_justified {maxDepth : Option Nat} {s : Text} {e : QueryError}
    (h : parse maxDepth s = .error e) :
    e.input = s ∧ e.position ≤ Text.byteLength s ∧
      ∃ before after, s = before ++ after ∧ e.position = Text.byteLength before ∧
        e.fault.Shows after ∧ e.fault.Follows maxDepth before ∧
        (e.fault = .unterminatedQuote → Odd (s.count '"')) := by
  cases hwhole : Reader.whole maxDepth s with
  | ok t =>
    rw [parse, hwhole] at h
    cases h
  | error f =>
    obtain ⟨u, hs, hshows, hfollows⟩ := exists_justified hwhole
    have herror := parse_error_of_whole hs hwhole
    obtain rfl := Except.error.inj (h.symm.trans herror)
    refine ⟨rfl, ?_, u, f.unread, hs, rfl, hshows, hfollows, ?_⟩
    · rw [hs, Text.byteLength_append]
      exact Nat.le_add_right _ _
    · intro hfault
      dsimp only at hfault
      rw [hfault] at hshows hfollows
      obtain ⟨rest, hunread, hrest⟩ := hshows
      have hcount : s.count '"' = u.count '"' + 1 := by
        rw [hs, hunread, List.count_append, List.count_cons_self, List.count_eq_zero.2 hrest]
      rw [hcount]
      exact Even.add_one hfollows

/-- Two groups are open at the end of the text, and closing them completes a query that is nested
as deep as it may be. -/
theorem parse_error_justified_open_groups :
    parse (some 2) "\"é\",((a" = .error ⟨.unmatchedParenthesis, 8, "\"é\",((a"⟩ ∧
      ∃ before after, "\"é\",((a".toList = before ++ after ∧ 8 = Text.byteLength before ∧
        QueryFault.Shows .unmatchedParenthesis after ∧
        QueryFault.Follows (some 2) .unmatchedParenthesis before := by
  have hparse : parse (some 2) "\"é\",((a" =
      .error ⟨.unmatchedParenthesis, 8, "\"é\",((a"⟩ := by
    decide +kernel
  obtain ⟨-, -, before, after, hs, hposition, hshows, hfollows, -⟩ := parse_error_justified hparse
  exact ⟨hparse, before, after, hs, hposition, hshows, hfollows⟩

end SearchClause
