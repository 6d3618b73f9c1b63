import Mathlib.Data.List.Basic
import SearchClause.Proofs.Runs
import SearchClause.Toml.Writer

/-!
# Written strings are read back

A string is written in the first form that suits it, and each form has a reader of its own. Every
reader undoes its form, whatever the string holds: quotes, backslashes, line breaks, control
characters.

* **characters** — `Spelled`: a character stands for itself or is an escape that stands for it;
* **several lines** — the reader looks ahead for three quotes in a row. Inside a string it never
  finds them. Where the string itself ends in quotes it finds them too early, and up to two of them
  belong to the string: `closing_of_threeQuotes?`.
-/

namespace SearchClause

namespace Toml

open Text (EndsRun)

variable {c d : Char} {s t rest after : Text}

/-! ## Characters -/

/-- A text that stands for a character in a string with escapes. -/
inductive Spelled (c : Char) : Text → Prop where
  /-- the character itself -/
  | plain : isTextChar c = true → c ≠ '\\' → c ≠ '"' → Spelled c [c]
  /-- an escape, which does not end its line -/
  | escape {e : Text} : (∀ rest, escape? (e ++ rest) = some (c, rest)) →
      (∀ rest, continued? (e ++ rest) = none) → Spelled c ('\\' :: e)

theorem newline?_eq_none (hn : c ≠ '\n') (hr : c ≠ '\r') : newline? (c :: s) = none := by
  unfold newline?
  split
  next heq => exact absurd (List.cons.inj heq).1 hn
  next heq => exact absurd (List.cons.inj heq).1 hr
  next => rfl

theorem skipSpaces_cons (hc : isSpace c = false) : skipSpaces (c :: s) = c :: s :=
  Text.dropWhile_of_endsRun (Text.endsRun_cons.2 hc)

/-- An escape goes on with a character that ends no line. -/
theorem continued?_cons (hs : isSpace c = false) (hn : c ≠ '\n') (hr : c ≠ '\r') :
    continued? (c :: s) = none := by
  rw [continued?, skipSpaces_cons hs, newline?_eq_none hn hr]
  rfl

theorem hexValue?_hexDigit : ∀ n < 16, hexValue? (hexDigit n) = some n := by
  decide

theorem charOf?_toNat (c : Char) : charOf? c.toNat = some c := by
  have hvalid : c.toNat.isValidChar := c.valid
  rw [charOf?, if_pos hvalid, Char.ofNat_toNat]

/-- The last two digits of a code point below 256 are all there is to it. -/
theorem escape?_codePoint (hc : c.toNat < 256) (rest : Text) :
    escape? ('u' :: '0' :: '0' :: hexDigit (c.toNat / 16) :: hexDigit (c.toNat % 16) :: rest) =
      some (c, rest) := by
  have hhigh := hexValue?_hexDigit (c.toNat / 16) (by omega)
  have hlow := hexValue?_hexDigit (c.toNat % 16) (by omega)
  have hzero : hexValue? '0' = some 0 := by decide
  have hnumber : hexNumber? 0 ['0', '0', hexDigit (c.toNat / 16), hexDigit (c.toNat % 16)] =
      some c.toNat := by
    simp only [hexNumber?, hzero, hhigh, hlow, Option.bind_some, Option.some.injEq]
    omega
  have hcode : codePoint? 4 ('0' :: '0' :: hexDigit (c.toNat / 16) :: hexDigit (c.toNat % 16) ::
      rest) = some (c, rest) := by
    rw [codePoint?, if_pos (by rfl)]
    simp only [List.take_succ_cons, List.take_zero, List.drop_succ_cons, List.drop_zero, hnumber,
      Option.bind_some, charOf?_toNat, Option.map_some]
  exact hcode

/-- A control character that has a letter. -/
theorem spelled_letter {e : Char} (hcode : e ≠ 'x' ∧ e ≠ 'u' ∧ e ≠ 'U')
    (hcontrol : controlOf? e = some c) (hline : isSpace e = false ∧ e ≠ '\n' ∧ e ≠ '\r') :
    Spelled c ['\\', e] := by
  obtain ⟨hx, hu, hU⟩ := hcode
  obtain ⟨hspace, hfeed, hreturn⟩ := hline
  refine .escape (e := [e]) (fun rest => ?_) fun rest => continued?_cons hspace hfeed hreturn
  simp only [List.cons_append, List.nil_append, escape?, hx, hu, hU, if_false, hcontrol,
    Option.map_some]

theorem spelled_quote : Spelled '"' ['\\', '"'] :=
  spelled_letter (by decide) (by decide) (by decide)

/-- **Every character but the quote is spelled.** -/
theorem spelled_writtenChar (hc : c ≠ '"') : Spelled c (writtenChar c) := by
  unfold writtenChar
  split
  next h => exact h ▸ spelled_letter (by decide) (by decide) (by decide)
  split
  next h => exact h ▸ spelled_letter (by decide) (by decide) (by decide)
  split
  next h => exact h ▸ spelled_letter (by decide) (by decide) (by decide)
  split
  next h => exact h ▸ spelled_letter (by decide) (by decide) (by decide)
  split
  next h => exact h ▸ spelled_letter (by decide) (by decide) (by decide)
  split
  next h => exact h ▸ spelled_letter (by decide) (by decide) (by decide)
  next hslash =>
    split
    next htext => exact .plain htext hslash hc
    next htext =>
      -- what is no text character has a code point of two digits
      have hcode : c.toNat < 256 := by
        simp only [isTextChar, Bool.or_eq_true, Bool.and_eq_true, decide_eq_true_eq, bne_iff_ne,
          not_or, not_and] at htext
        omega
      exact .escape (escape?_codePoint hcode)
        fun rest => continued?_cons (by decide) (by decide) (by decide)

/-- A spelling starts neither with a quote nor with a line break. -/
theorem Spelled.starts {w : Text} (h : Spelled c w) :
    ∃ e w', w = e :: w' ∧ e ≠ '"' ∧ isTextChar e = true := by
  cases h with
  | plain htext _ hquote => exact ⟨c, [], rfl, hquote, htext⟩
  | @escape e _ _ => exact ⟨'\\', e, rfl, by decide, by decide⟩

/-! ## Strings on one line -/

theorem basic_escape (h : escape? rest = some (d, after)) :
    basic ('\\' :: rest) = (basic after).map fun p => (d :: p.1, p.2) := by
  rw [basic]
  simp only [show ¬ '\\' = '"' by decide, if_false, if_true]
  split
  next hnone =>
    rw [h] at hnone
    cases hnone
  next d' after' hsome =>
    rw [h] at hsome
    obtain ⟨rfl, rfl⟩ := Prod.mk.inj (Option.some.inj hsome)
    rfl

theorem basic_spelled {w : Text} (h : Spelled c w) (s : Text) :
    basic (w ++ s) = (basic s).map fun p => (c :: p.1, p.2) := by
  cases h with
  | plain htext hslash hquote =>
    rw [List.cons_append, List.nil_append, basic, if_neg hquote, if_neg hslash, if_pos htext]
  | escape hescape _ => exact basic_escape (hescape s)

/-- The spelling of a character on one line. -/
theorem spelled_basic (c : Char) : Spelled c (if c = '"' then ['\\', '"'] else writtenChar c) := by
  split
  next h => exact h ▸ spelled_quote
  next h => exact spelled_writtenChar h

/-- **A string with escapes is read back.** -/
theorem basic_basicBody (t rest : Text) : basic (basicBody t ++ '"' :: rest) = some (t, rest) := by
  induction t with
  | nil => rw [basicBody, List.nil_append, basic, if_pos rfl]
  | cons c t ih =>
    rw [basicBody, List.append_assoc, basic_spelled (spelled_basic c), ih]
    rfl

/-- **A string without escapes is read back.** -/
theorem literal_append (htext : ∀ c ∈ t, isTextChar c = true) (hquote : '\'' ∉ t) (rest : Text) :
    literal (t ++ '\'' :: rest) = some (t, rest) := by
  induction t with
  | nil => rw [List.nil_append, literal, if_pos rfl]
  | cons c t ih =>
    rw [List.forall_mem_cons] at htext
    obtain ⟨hc, ht⟩ := List.ne_and_not_mem_of_not_mem_cons hquote
    rw [List.cons_append, literal, if_neg (Ne.symm hc), if_pos htext.1, ih htext.2 ht]
    rfl

/-! ## Three quotes -/

section

variable {q : Char}

theorem threeQuotes?_self (q : Char) (rest : Text) :
    threeQuotes? q (q :: q :: q :: rest) = some rest := by
  simp [threeQuotes?]

/-- Looking ahead for three quotes finds just them. -/
theorem exists_of_threeQuotes? (h : threeQuotes? q s = some after) : s = q :: q :: q :: after := by
  unfold threeQuotes? at h
  split at h
  next a b c rest =>
    split at h
    next heq =>
      obtain ⟨rfl, rfl, rfl⟩ := heq
      rw [Option.some.inj h]
    next => cases h
  next => cases h

theorem threeQuotes?_eq_none (hc : c ≠ q) : threeQuotes? q (c :: s) = none := by
  cases h : threeQuotes? q (c :: s) with
  | none => rfl
  | some after => exact absurd (List.cons.inj (exists_of_threeQuotes? h)).1 hc

theorem closing_of_head_ne (h : rest.head? ≠ some q) : closing q rest = ([], rest) := by
  match rest, h with
  | [], _ => rfl
  | [a], h => simp [closing, show a ≠ q by simpa using h]
  | a :: b :: rest, h => simp [closing, show a ≠ q by simpa using h]

/-- One quote before the closing ones belongs to the string. -/
theorem closing_one (h : rest.head? ≠ some q) : closing q (q :: rest) = ([q], rest) := by
  cases rest with
  | nil => simp [closing]
  | cons a rest => simp [closing, show a ≠ q by simpa using h]

/-- Two quotes before the closing ones belong to the string. -/
theorem closing_two (q : Char) (rest : Text) : closing q (q :: q :: rest) = ([q, q], rest) := by
  simp [closing]

/-- **Three quotes seen too early.** What is left of a body without three quotes in a row is quotes
only, and the reader gives them to the string. -/
theorem closing_of_threeQuotes? {body : Text} (hbody : threeQuotes? q body = none)
    (hrest : rest.head? ≠ some q)
    (h : threeQuotes? q (body ++ q :: q :: q :: rest) = some after) :
    closing q after = (body, rest) ∧ ∀ c ∈ body, c = q := by
  have heq := exists_of_threeQuotes? h
  match body, hbody with
  | [], _ =>
    obtain rfl : rest = after := by simpa using heq
    exact ⟨closing_of_head_ne hrest, by simp⟩
  | [a], _ =>
    obtain ⟨rfl, rfl⟩ : a = q ∧ q :: rest = after := by simpa using heq
    exact ⟨closing_one hrest, by simp⟩
  | [a, b], _ =>
    obtain ⟨rfl, rfl, rfl⟩ : a = q ∧ b = q ∧ q :: q :: rest = after := by simpa using heq
    exact ⟨closing_two _ rest, by simp⟩
  | a :: b :: d :: body, hbody =>
    obtain ⟨rfl, rfl, rfl, -⟩ : a = q ∧ b = q ∧ d = q ∧ body ++ q :: q :: q :: rest = after := by
      simpa using heq
    rw [threeQuotes?_self] at hbody
    cases hbody

end

/-! ## Strings with escapes on several lines -/

theorem longBasic_closed (h : threeQuotes? '"' s = some after) :
    longBasic s = some (closing '"' after) := by
  have hthree := h
  rw [exists_of_threeQuotes? h] at hthree ⊢
  rw [longBasic]
  simp only [hthree]

theorem longBasic_char (hthree : threeQuotes? '"' (c :: s) = none) (hslash : c ≠ '\\')
    (hc : isTextChar c = true ∨ c = '\n') :
    longBasic (c :: s) = (longBasic s).map fun p => (c :: p.1, p.2) := by
  have hcond : (isTextChar c || c = '\n' || (c = '\r' && s.head? = some '\n')) = true := by
    rcases hc with hc | hc
    · simp [hc]
    · simp [hc]
  rw [longBasic]
  simp only [hthree, hslash, if_false, hcond, if_true]

theorem longBasic_escape (hcont : continued? rest = none) (h : escape? rest = some (d, after)) :
    longBasic ('\\' :: rest) = (longBasic after).map fun p => (d :: p.1, p.2) := by
  have hthree : threeQuotes? '"' ('\\' :: rest) = none := threeQuotes?_eq_none (by decide)
  rw [longBasic]
  simp only [hthree, if_true]
  split
  next after' hsome =>
    rw [hcont] at hsome
    cases hsome
  next =>
    split
    next hnone =>
      rw [h] at hnone
      cases hnone
    next d' after' hsome =>
      rw [h] at hsome
      obtain ⟨rfl, rfl⟩ := Prod.mk.inj (Option.some.inj hsome)
      rfl

theorem longBasic_spelled {w : Text} (h : Spelled c w) (s : Text) :
    longBasic (w ++ s) = (longBasic s).map fun p => (c :: p.1, p.2) := by
  cases h with
  | plain htext hslash hquote =>
    exact longBasic_char (threeQuotes?_eq_none hquote) hslash (.inl htext)
  | escape hescape hcont => exact longBasic_escape (hcont s) (hescape s)

/-- A body goes on with a quote as it is, which is not the third in a row, or with another
character. -/
theorem longBasicBody_cases (run : Nat) (c : Char) (t : Text) :
    (c = '"' ∧ run ≠ 2 ∧ longBasicBody run (c :: t) = '"' :: longBasicBody (run + 1) t) ∨
      ∃ e w, e ≠ '"' ∧ longBasicBody run (c :: t) = e :: w := by
  rw [longBasicBody]
  by_cases hc : c = '"'
  · by_cases hrun : run = 2
    · exact .inr ⟨'\\', _, by decide, by rw [if_pos hc, if_pos hrun]⟩
    · exact .inl ⟨hc, hrun, by rw [if_pos hc, if_neg hrun]⟩
  · by_cases hn : c = '\n'
    · exact .inr ⟨'\n', _, by decide, by rw [if_neg hc, if_pos hn]⟩
    · obtain ⟨e, w, hw, he, -⟩ := (spelled_writtenChar hc).starts
      exact .inr ⟨e, _, he, by rw [if_neg hc, if_neg hn, hw, List.cons_append]⟩

/-- A quote at the start of a body is one of the string. -/
theorem exists_of_longBasicBody_eq {run : Nat} (h : longBasicBody run t = '"' :: after) :
    run ≠ 2 ∧ ∃ t', t = '"' :: t' ∧ longBasicBody (run + 1) t' = after := by
  cases t with
  | nil => cases h
  | cons c t =>
    rcases longBasicBody_cases run c t with ⟨rfl, hrun, heq⟩ | ⟨e, w, he, heq⟩
    · rw [heq] at h
      exact ⟨hrun, t, rfl, (List.cons.inj h).2⟩
    · rw [heq] at h
      exact absurd (List.cons.inj h).1 he

/-- **No three quotes in a row are written.** -/
theorem threeQuotes?_longBasicBody {run : Nat} (hrun : run ≤ 2) (t : Text) :
    threeQuotes? '"' (longBasicBody run t) = none := by
  cases h : threeQuotes? '"' (longBasicBody run t) with
  | none => rfl
  | some after =>
    obtain ⟨hfirst, t₁, -, h₁⟩ := exists_of_longBasicBody_eq (exists_of_threeQuotes? h)
    obtain ⟨hsecond, t₂, -, h₂⟩ := exists_of_longBasicBody_eq h₁
    obtain ⟨hthird, -⟩ := exists_of_longBasicBody_eq h₂
    omega

/-- A body of quotes is written as it is. -/
theorem longBasicBody_of_quotes {run : Nat} (h : ∀ c ∈ longBasicBody run t, c = '"') :
    longBasicBody run t = t := by
  induction t generalizing run with
  | nil => rfl
  | cons c t ih =>
    rcases longBasicBody_cases run c t with ⟨rfl, -, heq⟩ | ⟨e, w, he, heq⟩
    · rw [heq, List.forall_mem_cons] at h
      rw [heq, ih h.2]
    · exact absurd (h e (heq ▸ List.mem_cons_self)) he

/-- **A string with escapes on several lines is read back.** -/
theorem longBasic_longBasicBody {run : Nat} (hrun : run ≤ 2) (hrest : rest.head? ≠ some '"') :
    longBasic (longBasicBody run t ++ '"' :: '"' :: '"' :: rest) = some (t, rest) := by
  induction t generalizing run with
  | nil =>
    rw [longBasicBody, List.nil_append, longBasic_closed (threeQuotes?_self _ _),
      closing_of_head_ne hrest]
  | cons c t ih =>
    cases hthree : threeQuotes? '"' (longBasicBody run (c :: t) ++ '"' :: '"' :: '"' :: rest) with
    | some after =>
      -- no three quotes are written in a row, so the closing ones are among those seen here
      obtain ⟨hclosing, hquotes⟩ :=
        closing_of_threeQuotes? (threeQuotes?_longBasicBody hrun _) hrest hthree
      rw [longBasic_closed hthree, hclosing, longBasicBody_of_quotes hquotes]
    | none =>
      rw [longBasicBody] at hthree ⊢
      by_cases hc : c = '"'
      · subst hc
        by_cases htwo : run = 2
        · rw [if_pos rfl, if_pos htwo]
          have hread := longBasic_spelled spelled_quote
            (longBasicBody 0 t ++ '"' :: '"' :: '"' :: rest)
          rw [ih (Nat.zero_le 2)] at hread
          exact hread
        · rw [if_pos rfl, if_neg htwo, List.cons_append] at hthree ⊢
          rw [longBasic_char hthree (by decide) (.inl (by decide)), ih (by omega)]
          rfl
      · rw [if_neg hc] at hthree ⊢
        by_cases hn : c = '\n'
        · subst hn
          rw [if_pos rfl, List.cons_append] at hthree ⊢
          rw [longBasic_char hthree (by decide) (.inr rfl), ih (Nat.zero_le 2)]
          rfl
        · rw [if_neg hn, List.append_assoc, longBasic_spelled (spelled_writtenChar hc),
            ih (Nat.zero_le 2)]
          rfl

/-! ## Strings without escapes on several lines -/

/-- A string that is not crowded does not start with three quotes. -/
theorem threeQuotes?_of_crowdedFrom {q : Char} {run : Nat} (hrun : run ≤ 2)
    (h : crowdedFrom q run t = false) : threeQuotes? q t = none := by
  cases hthree : threeQuotes? q t with
  | none => rfl
  | some after =>
    rw [exists_of_threeQuotes? hthree] at h
    simp only [crowdedFrom, if_true, Bool.or_eq_false_iff, decide_eq_false_iff_not] at h
    omega

theorem crowdedFrom_tail {q : Char} {run : Nat} (hrun : run ≤ 2)
    (h : crowdedFrom q run (c :: t) = false) : ∃ run' ≤ 2, crowdedFrom q run' t = false := by
  rw [crowdedFrom] at h
  split at h
  next =>
    rw [Bool.or_eq_false_iff, decide_eq_false_iff_not] at h
    exact ⟨run + 1, by omega, h.2⟩
  next => exact ⟨0, Nat.zero_le 2, h⟩

/-- **A string without escapes on several lines is read back.** -/
theorem longLiteral_append {run : Nat} (hrun : run ≤ 2) (hcrowd : crowdedFrom '\'' run t = false)
    (htext : ∀ c ∈ t, isTextChar c = true ∨ c = '\n') (hrest : rest.head? ≠ some '\'') :
    longLiteral (t ++ '\'' :: '\'' :: '\'' :: rest) = some (t, rest) := by
  induction t generalizing run with
  | nil =>
    have hthree : threeQuotes? '\'' ('\'' :: '\'' :: '\'' :: rest) = some rest :=
      threeQuotes?_self _ _
    rw [List.nil_append, longLiteral]
    simp only [hthree, closing_of_head_ne hrest]
  | cons c t ih =>
    obtain ⟨run', hrun', htail⟩ := crowdedFrom_tail hrun hcrowd
    rw [List.forall_mem_cons] at htext
    cases hthree : threeQuotes? '\'' (c :: t ++ '\'' :: '\'' :: '\'' :: rest) with
    | some after =>
      obtain ⟨hclosing, -⟩ :=
        closing_of_threeQuotes? (threeQuotes?_of_crowdedFrom hrun hcrowd) hrest hthree
      rw [List.cons_append] at hthree ⊢
      rw [longLiteral]
      simp only [hthree, hclosing]
    | none =>
      rw [List.cons_append] at hthree ⊢
      have hcond : (isTextChar c || c = '\n' ||
          (c = '\r' && (t ++ '\'' :: '\'' :: '\'' :: rest).head? = some '\n')) = true := by
        rcases htext.1 with hc | hc
        · simp [hc]
        · simp [hc]
      rw [longLiteral]
      simp only [hthree, hcond, if_true, ih hrun' htail htext.2]
      rfl

/-! ## Any form -/

/-- No quote of either kind comes first. -/
def EndsString (rest : Text) : Prop :=
  EndsRun (fun c => c = '"' || c = '\'') rest

theorem EndsString.head_ne (h : EndsString rest) :
    rest.head? ≠ some '"' ∧ rest.head? ≠ some '\'' := by
  refine ⟨fun hq => ?_, fun hq => ?_⟩
  · exact absurd (h _ hq) (by decide)
  · exact absurd (h _ hq) (by decide)

theorem newline?_of_isTextChar (hc : isTextChar c = true) : newline? (c :: s) = none := by
  refine newline?_eq_none ?_ ?_
  · rintro rfl
    exact absurd hc (by decide)
  · rintro rfl
    exact absurd hc (by decide)

/-- The line break after the opening quotes is not one of the string, and nothing else is taken for
one. -/
theorem dropNewline_opening (h : '\n' ∉ t → ∃ c w, s = c :: w ∧ isTextChar c = true) :
    dropNewline (opening t ++ s) = s := by
  rw [opening]
  split
  next => rfl
  next hn =>
    obtain ⟨c, w, rfl, hc⟩ := h fun hmem => hn (List.contains_iff_mem.2 hmem)
    rw [List.nil_append, dropNewline, newline?_of_isTextChar hc]
    rfl

/-- A string on one line does not look like one on several. -/
theorem threeQuotes?_oneLine {q : Char} {body : Text} (hbody : body.head? ≠ some q)
    (hrest : rest.head? ≠ some q) : threeQuotes? q (q :: (body ++ q :: rest)) = none := by
  cases h : threeQuotes? q (q :: (body ++ q :: rest)) with
  | none => rfl
  | some after =>
    have heq := (List.cons.inj (exists_of_threeQuotes? h)).2
    cases body with
    | nil => exact absurd (congrArg List.head? (List.cons.inj heq).2) hrest
    | cons c body => exact absurd (congrArg some (List.cons.inj heq).1) hbody

theorem head?_basicBody_ne (t : Text) : (basicBody t).head? ≠ some '"' := by
  cases t with
  | nil => simp [basicBody]
  | cons c t =>
    obtain ⟨e, w, hw, he, -⟩ := (spelled_basic c).starts
    rw [basicBody, hw]
    simpa using he

theorem string?_basicForm (hrest : EndsString rest) (t : Text) :
    string? (basicForm t ++ rest) = some (t, rest) := by
  have hform : basicForm t ++ rest = '"' :: (basicBody t ++ '"' :: rest) := by simp [basicForm]
  have hquotes := threeQuotes?_oneLine (head?_basicBody_ne t) hrest.head_ne.1
  have hticks : threeQuotes? '\'' ('"' :: (basicBody t ++ '"' :: rest)) = none :=
    threeQuotes?_eq_none (by decide)
  rw [hform, string?]
  simp only [hquotes, hticks, basic_basicBody]

theorem string?_literalForm (hrest : EndsString rest) (htext : ∀ c ∈ t, isTextChar c = true)
    (hquote : '\'' ∉ t) : string? (literalForm t ++ rest) = some (t, rest) := by
  have hform : literalForm t ++ rest = '\'' :: (t ++ '\'' :: rest) := by simp [literalForm]
  have hquotes : threeQuotes? '"' ('\'' :: (t ++ '\'' :: rest)) = none :=
    threeQuotes?_eq_none (by decide)
  have hticks : threeQuotes? '\'' ('\'' :: (t ++ '\'' :: rest)) = none :=
    threeQuotes?_oneLine (fun h => hquote (List.mem_of_mem_head? h)) hrest.head_ne.2
  rw [hform, string?]
  simp only [hquotes, hticks, literal_append htext hquote]

/-- Only a line feed of the string is written as one at the start of a body. -/
theorem longBasicBody_starts (hn : '\n' ∉ t) (rest : Text) :
    ∃ c w, longBasicBody 0 t ++ '"' :: rest = c :: w ∧ isTextChar c = true := by
  cases t with
  | nil => exact ⟨'"', rest, rfl, by decide⟩
  | cons c t =>
    rw [longBasicBody]
    by_cases hc : c = '"'
    · exact ⟨'"', _, by rw [if_pos hc, if_neg (by decide)]; rfl, by decide⟩
    · have hne : c ≠ '\n' := fun h => hn (h ▸ List.mem_cons_self)
      rw [if_neg hc, if_neg hne]
      obtain ⟨e, w, hw, -, htext⟩ := (spelled_writtenChar hc).starts
      exact ⟨e, _, by rw [hw]; rfl, htext⟩

theorem string?_longBasicForm (hrest : EndsString rest) (t : Text) :
    string? (longBasicForm t ++ rest) = some (t, rest) := by
  have hform : longBasicForm t ++ rest =
      '"' :: '"' :: '"' :: (opening t ++ (longBasicBody 0 t ++ '"' :: '"' :: '"' :: rest)) := by
    show "\"\"\"".toList ++ opening t ++ longBasicBody 0 t ++ "\"\"\"".toList ++ rest = _
    rw [List.append_assoc, List.append_assoc, List.append_assoc]
    rfl
  have hdrop : dropNewline (opening t ++ (longBasicBody 0 t ++ '"' :: '"' :: '"' :: rest)) =
      longBasicBody 0 t ++ '"' :: '"' :: '"' :: rest :=
    dropNewline_opening fun hn => longBasicBody_starts hn _
  rw [hform, string?]
  simp only [threeQuotes?_self, hdrop, longBasic_longBasicBody (Nat.zero_le 2) hrest.head_ne.1]

theorem string?_longLiteralForm (hrest : EndsString rest)
    (htext : ∀ c ∈ t, isTextChar c = true ∨ c = '\n') (hcrowd : crowded '\'' t = false) :
    string? (longLiteralForm t ++ rest) = some (t, rest) := by
  have hform : longLiteralForm t ++ rest =
      '\'' :: '\'' :: '\'' :: (opening t ++ (t ++ '\'' :: '\'' :: '\'' :: rest)) := by
    show "'''".toList ++ opening t ++ t ++ "'''".toList ++ rest = _
    rw [List.append_assoc, List.append_assoc, List.append_assoc]
    rfl
  have hquotes : threeQuotes? '"'
      ('\'' :: '\'' :: '\'' :: (opening t ++ (t ++ '\'' :: '\'' :: '\'' :: rest))) = none :=
    threeQuotes?_eq_none (by decide)
  have hdrop : dropNewline (opening t ++ (t ++ '\'' :: '\'' :: '\'' :: rest)) =
      t ++ '\'' :: '\'' :: '\'' :: rest := by
    refine dropNewline_opening fun hn => ?_
    cases t with
    | nil => exact ⟨'\'', _, rfl, by decide⟩
    | cons c t =>
      refine ⟨c, _, rfl, (htext c List.mem_cons_self).resolve_right fun hc => hn ?_⟩
      exact hc ▸ List.mem_cons_self
  rw [hform, string?]
  simp only [hquotes, threeQuotes?_self, hdrop,
    longLiteral_append (Nat.zero_le 2) hcrowd htext hrest.head_ne.2]

theorem textChar_of_not_needsCode (h : t.any needsCode = false) :
    ∀ c ∈ t, isTextChar c = true ∨ c = '\n' := by
  intro c hc
  have hcode := List.any_eq_false.1 h c hc
  by_cases htext : isTextChar c = true
  · exact .inl htext
  · refine .inr (Classical.byContradiction fun hn => hcode ?_)
    simp [needsCode, htext, hn]

/-- **A written string is read back**, in whatever form it is written. -/
theorem string?_writeString (hrest : EndsString rest) (t : Text) :
    string? (writeString t ++ rest) = some (t, rest) := by
  unfold writeString
  dsimp only
  split
  next => exact string?_basicForm hrest t
  split
  next h =>
    simp only [Bool.and_eq_true, Bool.not_eq_true', List.contains_eq_mem,
      decide_eq_false_iff_not] at h
    obtain ⟨⟨hcode, hquote⟩, hn⟩ := h
    refine string?_literalForm hrest (fun c hc => ?_) hquote
    exact (textChar_of_not_needsCode hcode c hc).resolve_right fun h => hn (h ▸ hc)
  split
  next => exact string?_longBasicForm hrest t
  split
  next h =>
    simp only [Bool.and_eq_true, Bool.not_eq_true'] at h
    exact string?_longLiteralForm hrest (textChar_of_not_needsCode h.1) h.2
  split
  next => exact string?_longBasicForm hrest t
  next => exact string?_basicForm hrest t

/-- A written string starts with a quote. -/
theorem writeString_starts (t : Text) :
    ∃ q s, writeString t = q :: s ∧ (q = '"' ∨ q = '\'') := by
  unfold writeString
  dsimp only
  split
  next => exact ⟨_, _, rfl, .inl rfl⟩
  split
  next => exact ⟨_, _, rfl, .inr rfl⟩
  split
  next => exact ⟨_, _, rfl, .inl rfl⟩
  split
  next => exact ⟨_, _, rfl, .inr rfl⟩
  split
  next => exact ⟨_, _, rfl, .inl rfl⟩
  next => exact ⟨_, _, rfl, .inl rfl⟩

/-! ## Keys -/

theorem simpleKey?_basicForm (t rest : Text) :
    simpleKey? (basicForm t ++ rest) = some (t, rest) := by
  have hform : basicForm t ++ rest = '"' :: (basicBody t ++ '"' :: rest) := by simp [basicForm]
  rw [hform, simpleKey?, basic_basicBody]

theorem simpleKey?_bare (hne : t ≠ []) (hbare : ∀ c ∈ t, isBareKeyChar c = true)
    (hrest : EndsRun isBareKeyChar rest) : simpleKey? (t ++ rest) = some (t, rest) := by
  have htake := Text.takeWhile_run_append hbare hrest
  have hdrop := Text.dropWhile_run_append hbare hrest
  -- no quote is a bare character, so the key is not taken for a string
  have hhead : ∀ c ∈ (t ++ rest).head?, isBareKeyChar c = true := by
    rw [List.head?_append_of_ne_nil t hne]
    exact fun c hc => hbare c (List.mem_of_mem_head? hc)
  unfold simpleKey?
  split
  next heq => exact absurd (hhead '"' (by rw [heq]; rfl)) (by decide)
  next heq => exact absurd (hhead '\'' (by rw [heq]; rfl)) (by decide)
  next => rw [htake, hdrop, if_neg (by simpa using hne)]

/-- **A written key is read back.** -/
theorem simpleKey?_writeKey (hrest : EndsRun isBareKeyChar rest) (t : Text) :
    simpleKey? (writeKey t ++ rest) = some (t, rest) := by
  unfold writeKey
  dsimp only
  split
  next h =>
    simp only [Bool.and_eq_true, Bool.not_eq_true', List.isEmpty_eq_false_iff,
      List.all_eq_true] at h
    exact simpleKey?_bare h.1 h.2 hrest
  split
  next => exact simpleKey?_basicForm t rest
  split
  next h =>
    simp only [Bool.and_eq_true, Bool.not_eq_true', Bool.not_eq_false', List.all_eq_true,
      List.contains_eq_mem, decide_eq_false_iff_not] at h
    have hform : literalForm t ++ rest = '\'' :: (t ++ '\'' :: rest) := by simp [literalForm]
    rw [hform, simpleKey?, literal_append h.1 h.2]
  next => exact simpleKey?_basicForm t rest

theorem isSpace_of_isBareKeyChar (hc : isBareKeyChar c = true) : isSpace c = false := by
  have hne := Text.ne_of_class hc
  simp (disch := decide) [isSpace, hne]

/-- A written key does not start with a space. -/
theorem writeKey_starts (t : Text) : ∃ c w, writeKey t = c :: w ∧ isSpace c = false := by
  unfold writeKey
  dsimp only
  split
  next h =>
    simp only [Bool.and_eq_true, Bool.not_eq_true', List.isEmpty_eq_false_iff,
      List.all_eq_true] at h
    obtain ⟨c, w, rfl⟩ := List.exists_cons_of_ne_nil h.1
    exact ⟨c, w, rfl, isSpace_of_isBareKeyChar (h.2 c List.mem_cons_self)⟩
  split
  next => exact ⟨_, _, rfl, by decide⟩
  split
  next => exact ⟨_, _, rfl, by decide⟩
  next => exact ⟨_, _, rfl, by decide⟩

end Toml

end SearchClause
