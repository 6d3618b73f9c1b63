import Mathlib.Data.List.TakeWhile
import SearchClause.Query.Symbol
import SearchClause.Text.Blank

/-!
# Runs of characters

A scanner takes the longest run of characters of one class and leaves the rest. `EndsRun` says that
a text cannot make the run before it longer; with it, taking a run off a text undoes putting it in
front. Blanks are the first example. No blank is a word character, so a run of blanks and a word
that follows it never share a character.
-/

namespace SearchClause

namespace Text

/-- No character of the class comes first, so a run of the class ends here. -/
def EndsRun (p : Char → Bool) (s : Text) : Prop :=
  ∀ c ∈ s.head?, p c = false

/-- Every character is a blank. -/
def Blanks (s : Text) : Prop :=
  ∀ c ∈ s, isBlank c = true

instance (p : Char → Bool) (s : Text) : Decidable (EndsRun p s) :=
  decidable_of_iff (s.head?.all (!p ·) = true) (by simp [EndsRun, Option.all_eq_true])

instance (s : Text) : Decidable (Blanks s) :=
  decidable_of_iff (s.all isBlank = true) List.all_eq_true

section

variable {p : Char → Bool} {c : Char} {b w s : Text}

theorem endsRun_nil : EndsRun p [] := by
  intro c hc
  cases hc

theorem endsRun_cons : EndsRun p (c :: s) ↔ p c = false := by
  simp [EndsRun]

theorem endsRun_dropWhile (p : Char → Bool) (s : Text) : EndsRun p (s.dropWhile p) := by
  intro c hc
  cases hs : s.dropWhile p with
  | nil => simp [hs] at hc
  | cons d rest =>
    have hd := List.head?_dropWhile_not p s
    rw [hs] at hc hd
    obtain rfl : d = c := by simpa using hc
    simpa using hd

theorem takeWhile_of_endsRun (h : EndsRun p s) : s.takeWhile p = [] := by
  cases s with
  | nil => rfl
  | cons c rest => simp [endsRun_cons.1 h]

theorem dropWhile_of_endsRun (h : EndsRun p s) : s.dropWhile p = s := by
  cases s with
  | nil => rfl
  | cons c rest => simp [endsRun_cons.1 h]

/-- **A run is taken whole.** -/
theorem takeWhile_run_append (hw : ∀ c ∈ w, p c = true) (hs : EndsRun p s) :
    (w ++ s).takeWhile p = w := by
  rw [List.takeWhile_append_of_pos hw, takeWhile_of_endsRun hs, List.append_nil]

/-- **What follows a run is left.** -/
theorem dropWhile_run_append (hw : ∀ c ∈ w, p c = true) (hs : EndsRun p s) :
    (w ++ s).dropWhile p = s := by
  rw [List.dropWhile_append_of_pos hw, dropWhile_of_endsRun hs]

/-- Every text is a run and a text that ends it. -/
theorem exists_run (p : Char → Bool) (s : Text) :
    ∃ w rest, s = w ++ rest ∧ (∀ c ∈ w, p c = true) ∧ EndsRun p rest :=
  ⟨s.takeWhile p, s.dropWhile p, List.takeWhile_append_dropWhile.symm,
    fun _ hc => List.mem_takeWhile_imp hc, endsRun_dropWhile p s⟩

/-- What is in a class is no character outside it. -/
theorem ne_of_class (hc : p c = true) : ∀ d, p d = false → c ≠ d := by
  rintro d hd rfl
  rw [hd] at hc
  cases hc

/-! ## Maximal runs -/

/-- No character of the class comes last, so a run of the class starts here. -/
def StartsRun (p : Char → Bool) (s : Text) : Prop :=
  ∀ c ∈ s.getLast?, p c = false

instance (p : Char → Bool) (s : Text) : Decidable (StartsRun p s) :=
  decidable_of_iff (s.getLast?.all (!p ·) = true) (by simp [StartsRun, Option.all_eq_true])

/-- Between `u` and `v` stands a run of the class that goes on to neither side. -/
structure IsRun (p : Char → Bool) (u w v : Text) : Prop where
  /-- it is of the class -/
  inside : ∀ c ∈ w, p c = true
  /-- it does not start earlier -/
  before : StartsRun p u
  /-- it does not end later -/
  after : EndsRun p v

theorem startsRun_nil : StartsRun p [] := by
  intro c hc
  cases hc

theorem startsRun_concat (h : p c = false) : StartsRun p (s ++ [c]) := by
  intro d hd
  obtain rfl : c = d := by simpa using hd
  exact h

theorem startsRun_of_append (h : StartsRun p (w ++ s)) : StartsRun p s := by
  intro c hc
  refine h c ?_
  rw [List.getLast?_append, Option.mem_def.1 hc]
  rfl

/-- **The run at the end of a text is one.** -/
theorem eq_of_append_run {u w' : Text} (h : s ++ w = u ++ w') (hs : StartsRun p s)
    (hw : ∀ c ∈ w, p c = true) (hu : StartsRun p u) (hw' : ∀ c ∈ w', p c = true) : w = w' := by
  -- read from its end, the run is what comes first
  have hrev : ∀ {t r : Text}, StartsRun p t → (∀ c ∈ r, p c = true) →
      (t ++ r).reverse.takeWhile p = r.reverse := by
    intro t r ht hr
    rw [List.reverse_append]
    refine takeWhile_run_append (fun c hc => hr c (List.mem_reverse.1 hc)) fun c hc => ht c ?_
    rwa [List.head?_reverse] at hc
  have heq := hrev hs hw
  rw [h, hrev hu hw'] at heq
  exact (List.reverse_inj.1 heq).symm

/-! ## Blanks -/

theorem blanks_nil : Blanks [] := by
  intro c hc
  cases hc

theorem blanks_append (hb : Blanks b) (hw : Blanks w) : Blanks (b ++ w) := by
  intro c hc
  rcases List.mem_append.1 hc with hc | hc
  · exact hb c hc
  · exact hw c hc

theorem skipBlanks_append (hb : Blanks b) : skipBlanks (b ++ s) = skipBlanks s :=
  List.dropWhile_append_of_pos hb

theorem length_lt_of_skipBlanks (h : skipBlanks s = c :: w) : w.length < s.length := by
  have hle := length_skipBlanks_le s
  rw [h, List.length_cons] at hle
  exact hle

theorem skipBlanks_of_blanks (hb : Blanks b) : skipBlanks b = [] := by
  simpa [skipBlanks] using skipBlanks_append (s := []) hb

theorem skipBlanks_cons (hc : isBlank c = false) : skipBlanks (c :: s) = c :: s :=
  dropWhile_of_endsRun (endsRun_cons.2 hc)

theorem skipBlanks_blanks_cons (hb : Blanks b) (hc : isBlank c = false) :
    skipBlanks (b ++ c :: s) = c :: s := by
  rw [skipBlanks_append hb, skipBlanks_cons hc]

/-- Every text is a run of blanks and what is left without it. -/
theorem exists_blanks (s : Text) : ∃ b, Blanks b ∧ s = b ++ skipBlanks s :=
  ⟨s.takeWhile isBlank, fun _ hc => List.mem_takeWhile_imp hc, List.takeWhile_append_dropWhile.symm⟩

theorem blanks_of_skipBlanks (h : skipBlanks s = []) : Blanks s := by
  obtain ⟨b, hb, hs⟩ := exists_blanks s
  rw [h, List.append_nil] at hs
  exact hs ▸ hb

end

end Text

/-- The blank code points one by one. -/
def blankCodes : List Nat :=
  blankRanges.flatMap fun range => List.range' range.1 (range.2 + 1 - range.1)

theorem mem_blankCodes {c : Char} (h : isBlank c = true) : c.toNat ∈ blankCodes := by
  simp only [isBlank, inRanges, List.any_eq_true, Bool.and_eq_true, decide_eq_true_eq] at h
  obtain ⟨range, hr, h₁, h₂⟩ := h
  simp only [blankCodes, List.mem_flatMap, List.mem_range']
  exact ⟨range, hr, c.toNat - range.1, by omega, by omega⟩

/-- **Blanks are outside every word.** -/
theorem isWordChar_of_isBlank {c : Char} (h : isBlank c = true) : isWordChar c = false := by
  -- there are 25 blanks, and none is in the tables of letters and numerals
  have all : ∀ n ∈ blankCodes, isWordChar (Char.ofNat n) = false := by decide +kernel
  simpa using all c.toNat (mem_blankCodes h)

theorem isBlank_of_isWordChar {c : Char} (h : isWordChar c = true) : isBlank c = false := by
  by_contra hb
  rw [isWordChar_of_isBlank (by simpa using hb)] at h
  cases h

end SearchClause
