import Mathlib.Algebra.Group.Even
import Mathlib.Algebra.Ring.Parity
import SearchClause.Proofs.Runs
import SearchClause.Text.Alphabetic

/-!
# What stands outside quotes

Quotes open and close by turns, and a last one without a partner is open to the end of the text. So
a place in a text is outside quotes when the number of quotes before it is even. `CleanOutside` says
of the places outside quotes what characters stand there, and that no run of letters is a keyword.
The same can be found out in one pass from left to right, `CleanFrom`, which knows of the text
before only whether a quote is open and the letters that came last.
-/

namespace SearchClause

open Text (EndsRun StartsRun IsRun)

/-- No quote is open after the text. -/
def Unquoted (u : Text) : Prop :=
  Even (u.count '"')

/-- The words that stand for operators. -/
def IsKeyword (w : Text) : Prop :=
  w = ['A', 'N', 'D'] ∨ w = ['O', 'R']

instance (w : Text) : Decidable (IsKeyword w) :=
  inferInstanceAs (Decidable (_ ∨ _))

/-- Outside quotes there are only allowed characters, and no keyword stands as a word. -/
structure CleanOutside (allowed : Char → Prop) (s : Text) : Prop where
  /-- every character is allowed -/
  chars : ∀ u c v, s = u ++ c :: v → Unquoted u → c ≠ '"' → allowed c
  /-- no maximal run of letters is a keyword -/
  words : ∀ u w v, s = u ++ w ++ v → Unquoted u → IsRun isAlphabetic u w v → ¬ IsKeyword w

/-! ## One pass -/

/-- Clean from a place on: `quoted` says whether a quote is open, and outside quotes `run` is the
run of letters before the place. -/
def CleanFrom (allowed : Char → Prop) (quoted : Bool) (run : Text) : Text → Prop
  | [] => ¬ IsKeyword run
  | c :: rest =>
    if c = '"' then ¬ IsKeyword run ∧ CleanFrom allowed (!quoted) [] rest
    else if quoted then CleanFrom allowed quoted [] rest
    else if isAlphabetic c then allowed c ∧ CleanFrom allowed quoted (run ++ [c]) rest
    else allowed c ∧ ¬ IsKeyword run ∧ CleanFrom allowed quoted [] rest

instance decidableCleanFrom (allowed : Char → Prop) [DecidablePred allowed] (quoted : Bool)
    (run : Text) : (s : Text) → Decidable (CleanFrom allowed quoted run s)
  | [] => inferInstanceAs (Decidable (¬ IsKeyword run))
  | c :: rest =>
    have := fun quoted run => decidableCleanFrom allowed quoted run rest
    inferInstanceAs (Decidable
      (if c = '"' then ¬ IsKeyword run ∧ CleanFrom allowed (!quoted) [] rest
      else if quoted then CleanFrom allowed quoted [] rest
      else if isAlphabetic c then allowed c ∧ CleanFrom allowed quoted (run ++ [c]) rest
      else allowed c ∧ ¬ IsKeyword run ∧ CleanFrom allowed quoted [] rest))

/-- What the pass knows of the text before a place. -/
inductive Scanned : Text → Bool → Text → Prop where
  /-- a quote is open -/
  | inside {pre} : ¬ Unquoted pre → Scanned pre true []
  /-- no quote is open, and a run of letters comes last -/
  | outside {pre run} : Unquoted pre → StartsRun isAlphabetic pre →
      (∀ c ∈ run, isAlphabetic c = true) → Scanned (pre ++ run) false run

section

variable {allowed : Char → Prop} {pre run s rest : Text} {quoted : Bool} {c : Char}

theorem not_isKeyword_nil : ¬ IsKeyword [] := by
  decide

theorem not_isAlphabetic_quote : isAlphabetic '"' = false := by
  decide

theorem ne_quote_of_isAlphabetic (hc : isAlphabetic c = true) : c ≠ '"' := by
  rintro rfl
  rw [not_isAlphabetic_quote] at hc
  cases hc

theorem cleanFrom_quote : CleanFrom allowed quoted run ('"' :: rest) ↔
    ¬ IsKeyword run ∧ CleanFrom allowed (!quoted) [] rest := by
  simp [CleanFrom]

theorem cleanFrom_quoted (hc : c ≠ '"') :
    CleanFrom allowed true run (c :: rest) ↔ CleanFrom allowed true [] rest := by
  simp [CleanFrom, hc]

theorem cleanFrom_letter (hc : isAlphabetic c = true) :
    CleanFrom allowed false run (c :: rest) ↔
      allowed c ∧ CleanFrom allowed false (run ++ [c]) rest := by
  simp [CleanFrom, hc, ne_quote_of_isAlphabetic hc]

theorem cleanFrom_other (hne : c ≠ '"') (hc : isAlphabetic c = false) :
    CleanFrom allowed false run (c :: rest) ↔
      allowed c ∧ ¬ IsKeyword run ∧ CleanFrom allowed false [] rest := by
  simp [CleanFrom, hne, hc]

theorem cleanFrom_run {w : Text} (hw : ∀ c ∈ w, isAlphabetic c = true) :
    CleanFrom allowed false run (w ++ s) ↔
      (∀ c ∈ w, allowed c) ∧ CleanFrom allowed false (run ++ w) s := by
  induction w generalizing run with
  | nil => simp
  | cons c w ih =>
    rw [List.forall_mem_cons] at hw
    rw [List.cons_append, cleanFrom_letter hw.1, ih hw.2, List.forall_mem_cons, List.append_assoc,
      and_assoc]
    rfl

theorem unquoted_nil : Unquoted [] := by
  simp [Unquoted]

theorem unquoted_append_run (hrun : ∀ c ∈ run, isAlphabetic c = true) :
    Unquoted (pre ++ run) ↔ Unquoted pre := by
  have hcount : run.count '"' = 0 := by
    rw [List.count_eq_zero]
    intro hq
    exact ne_quote_of_isAlphabetic (hrun _ hq) rfl
  rw [Unquoted, List.count_append, hcount, Nat.add_zero, Unquoted]

theorem unquoted_concat_quote : Unquoted (pre ++ ['"']) ↔ ¬ Unquoted pre := by
  simp [Unquoted, List.count_append, Nat.even_add_one]

theorem unquoted_concat (hc : c ≠ '"') : Unquoted (pre ++ [c]) ↔ Unquoted pre := by
  simp [Unquoted, List.count_append, hc]

theorem Scanned.unquoted_iff (h : Scanned pre quoted run) : Unquoted pre ↔ quoted = false := by
  cases h with
  | inside hpre => simp [hpre]
  | outside hpre _ hrun => simp [unquoted_append_run hrun, hpre]

/-- Outside quotes the pass holds the run of letters that comes last. -/
theorem Scanned.run_eq {u w : Text} (h : Scanned (u ++ w) false run) (hu : StartsRun isAlphabetic u)
    (hw : ∀ c ∈ w, isAlphabetic c = true) : run = w := by
  generalize hpre : u ++ w = pre at h
  cases h with
  | outside _ hstart hrun => exact Text.eq_of_append_run hpre.symm hstart hrun hu hw

/-- A clean text has no keyword where a run of letters ends. -/
theorem CleanOutside.not_isKeyword (h : CleanOutside allowed (pre ++ s))
    (hscan : Scanned pre quoted run) (hs : EndsRun isAlphabetic s) : ¬ IsKeyword run := by
  cases hscan with
  | inside _ => exact not_isKeyword_nil
  | outside hpre hstart hrun => exact h.words _ _ _ rfl hpre ⟨hrun, hstart, hs⟩

/-! ## Steps -/

theorem Scanned.fresh (hpre : Unquoted pre) (hstart : StartsRun isAlphabetic pre) :
    Scanned pre false [] := by
  have h : Scanned (pre ++ []) false [] := .outside hpre hstart (by simp)
  rwa [List.append_nil] at h

theorem scanned_nil : Scanned [] false [] :=
  .fresh unquoted_nil Text.startsRun_nil

theorem Scanned.quote (h : Scanned pre quoted run) : Scanned (pre ++ ['"']) (!quoted) [] := by
  have hpre := h.unquoted_iff
  cases quoted with
  | false => exact .inside (by simp [unquoted_concat_quote, hpre])
  | true =>
    exact .fresh (by simp [unquoted_concat_quote, hpre])
      (Text.startsRun_concat not_isAlphabetic_quote)

theorem Scanned.letter (h : Scanned pre false run) (hc : isAlphabetic c = true) :
    Scanned (pre ++ [c]) false (run ++ [c]) := by
  cases h with
  | outside hpre hstart hrun =>
    rw [List.append_assoc]
    exact .outside hpre hstart (List.forall_mem_append.2 ⟨hrun, List.forall_mem_singleton.2 hc⟩)

theorem Scanned.other (h : Scanned pre false run) (hne : c ≠ '"') (hc : isAlphabetic c = false) :
    Scanned (pre ++ [c]) false [] :=
  .fresh ((unquoted_concat hne).2 (h.unquoted_iff.2 rfl)) (Text.startsRun_concat hc)

theorem Scanned.enclosed (h : Scanned pre true run) (hne : c ≠ '"') :
    Scanned (pre ++ [c]) true [] := by
  refine .inside ?_
  rw [unquoted_concat hne, h.unquoted_iff]
  simp

/-- One step of the pass over a clean text. -/
theorem Scanned.step (h : Scanned pre quoted run)
    (hclean : CleanFrom allowed quoted run (c :: rest)) :
    ∃ quoted' run', Scanned (pre ++ [c]) quoted' run' ∧ CleanFrom allowed quoted' run' rest := by
  by_cases hq : c = '"'
  · subst hq
    exact ⟨_, _, h.quote, (cleanFrom_quote.1 hclean).2⟩
  · cases quoted with
    | true => exact ⟨_, _, h.enclosed hq, (cleanFrom_quoted hq).1 hclean⟩
    | false =>
      cases hc : isAlphabetic c with
      | true => exact ⟨_, _, h.letter hc, ((cleanFrom_letter hc).1 hclean).2⟩
      | false => exact ⟨_, _, h.other hq hc, ((cleanFrom_other hq hc).1 hclean).2.2⟩

/-- The pass over a clean text reaches every place of it. -/
theorem Scanned.walk (h : Scanned pre quoted run) {u : Text}
    (hclean : CleanFrom allowed quoted run (u ++ s)) :
    ∃ quoted' run', Scanned (pre ++ u) quoted' run' ∧ CleanFrom allowed quoted' run' s := by
  induction u generalizing pre quoted run with
  | nil => exact ⟨quoted, run, by rwa [List.append_nil], hclean⟩
  | cons c u ih =>
    obtain ⟨quoted₁, run₁, h₁, hclean₁⟩ := h.step hclean
    obtain ⟨quoted₂, run₂, h₂, hclean₂⟩ := ih h₁ hclean₁
    exact ⟨quoted₂, run₂, by rwa [List.append_assoc] at h₂, hclean₂⟩

/-- From the start, the pass reaches every place. -/
theorem exists_scanned {u : Text} (h : CleanFrom allowed false [] (u ++ s)) :
    ∃ quoted run, Scanned u quoted run ∧ CleanFrom allowed quoted run s :=
  scanned_nil.walk h

/-- Where a run of letters ends, the pass has looked at it. -/
theorem not_isKeyword_of_endsRun (hclean : CleanFrom allowed false run s)
    (hs : EndsRun isAlphabetic s) : ¬ IsKeyword run := by
  cases s with
  | nil => exact hclean
  | cons c rest =>
    have hc := Text.endsRun_cons.1 hs
    by_cases hq : c = '"'
    · subst hq
      exact (cleanFrom_quote.1 hclean).1
    · exact ((cleanFrom_other hq hc).1 hclean).2.1

theorem cleanOutside_of_cleanFrom (h : CleanFrom allowed false [] s) : CleanOutside allowed s := by
  constructor
  · rintro u c v rfl hu hc
    obtain ⟨quoted, run, hscan, hclean⟩ := exists_scanned h
    obtain rfl := hscan.unquoted_iff.1 hu
    cases hletter : isAlphabetic c with
    | true => exact ((cleanFrom_letter hletter).1 hclean).1
    | false => exact ((cleanFrom_other hc hletter).1 hclean).1
  · rintro u w v rfl hu hw
    -- at the end of a maximal run of letters, the pass holds just this run
    obtain ⟨quoted, run, hscan, hclean⟩ := exists_scanned h
    obtain rfl := hscan.unquoted_iff.1 ((unquoted_append_run hw.inside).2 hu)
    obtain rfl := hscan.run_eq hw.before hw.inside
    exact not_isKeyword_of_endsRun hclean hw.after

/-- A clean text is found clean from every place on. -/
theorem Scanned.cleanFrom (hscan : Scanned pre quoted run) (h : CleanOutside allowed (pre ++ s)) :
    CleanFrom allowed quoted run s := by
  induction s generalizing pre quoted run with
  | nil => exact h.not_isKeyword hscan Text.endsRun_nil
  | cons c rest ih =>
    have hrest : CleanOutside allowed (pre ++ [c] ++ rest) := by rwa [List.append_assoc]
    by_cases hq : c = '"'
    · subst hq
      have hword := h.not_isKeyword hscan (Text.endsRun_cons.2 not_isAlphabetic_quote)
      exact cleanFrom_quote.2 ⟨hword, ih hscan.quote hrest⟩
    · cases quoted with
      | true => exact (cleanFrom_quoted hq).2 (ih (hscan.enclosed hq) hrest)
      | false =>
        have hallowed := h.chars pre c rest rfl (hscan.unquoted_iff.2 rfl) hq
        cases hc : isAlphabetic c with
        | true => exact (cleanFrom_letter hc).2 ⟨hallowed, ih (hscan.letter hc) hrest⟩
        | false =>
          have hword := h.not_isKeyword hscan (Text.endsRun_cons.2 hc)
          exact (cleanFrom_other hq hc).2 ⟨hallowed, hword, ih (hscan.other hq hc) hrest⟩

/-- **One pass finds out whether a text is clean.** -/
theorem cleanOutside_iff : CleanOutside allowed s ↔ CleanFrom allowed false [] s :=
  ⟨fun h => scanned_nil.cleanFrom h, cleanOutside_of_cleanFrom⟩

end

end SearchClause
