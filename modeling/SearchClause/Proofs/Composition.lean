import SearchClause.Proofs.Grammar
import SearchClause.Proofs.Seams

/-!
# Putting queries together

Queries as they were typed can be put in parentheses and combined, without a look at what is inside:
the tree of the whole is made of the trees of the parts. That takes two things.

* **normalizing** — `layFrom_group`: a query in parentheses is normalized as it is alone. It closes
  its quotes, since a query that is read does, and a parenthesis ends every run of letters.
* **reading** — `Derives.append`: what is derived from the start of a text is derived with more text
  behind it, as long as that does not go on with a word.
-/

namespace SearchClause

open Text (Blanks EndsRun)

namespace Grammar

variable {part : Part} {s rest x : Text} {t : Tree}

theorem endsRun_append {p : Char → Bool} (hrest : EndsRun p rest) (hx : EndsRun p x) :
    EndsRun p (rest ++ x) := by
  cases rest with
  | nil => exact hx
  | cons c rest => exact Text.endsRun_cons.2 (Text.endsRun_cons.1 hrest)

/-- **More text may follow**, if it does not go on with a word. -/
theorem Derives.append (h : Derives part s t rest) (hx : EndsRun isWordChar x) :
    Derives part (s ++ x) t (rest ++ x) := by
  induction h with
  | first _ ih => exact .first ih
  | or _ hb _ ihl ihr =>
    rw [List.append_assoc] at ihl
    exact .or ihl hb ihr
  | single _ ih => exact .single ih
  | and _ hb _ ihl ihr =>
    rw [List.append_assoc] at ihl
    exact .and ihl hb ihr
  | negated hb hc hb' _ ih =>
    rw [List.append_assoc, List.cons_append, List.append_assoc]
    exact .negated hb hc hb' ih
  | plain hb hc _ ih =>
    rw [List.append_assoc]
    exact .plain hb hc ih
  | group _ hb ih =>
    rw [List.append_assoc] at ih
    exact .group ih hb
  | phrase hne hp =>
    rw [List.append_assoc, List.cons_append, List.append_assoc]
    exact .phrase hne hp
  | word hne hw hend hterm =>
    rw [List.append_assoc]
    exact .word hne hw (endsRun_append hend hx) hterm

/-! ## Quotes -/

theorem unquoted_append_of_not_mem {b : Text} (hb : '"' ∉ b) : Unquoted (b ++ s) ↔ Unquoted s := by
  rw [Unquoted, List.count_append, List.count_eq_zero.2 hb, Nat.zero_add, Unquoted]

theorem quote_not_mem_blanks {b : Text} (hb : Blanks b) : '"' ∉ b := fun hmem =>
  absurd (hb _ hmem) (by decide)

/-- Blanks and one more character that is no quote. -/
theorem unquoted_blanks_cons {b : Text} {c : Char} (hb : Blanks b) (hc : c ≠ '"') :
    Unquoted (b ++ c :: s) ↔ Unquoted s := by
  rw [unquoted_append_of_not_mem (quote_not_mem_blanks hb), unquoted_cons hc]

/-- **A part closes the quotes it opens.** -/
theorem Derives.unquoted_iff (h : Derives part s t rest) : Unquoted s ↔ Unquoted rest := by
  induction h with
  | first _ ih => exact ih
  | or _ hb _ ihl ihr => rw [ihl, unquoted_blanks_cons hb (by decide), ihr]
  | single _ ih => exact ih
  | and _ hb _ ihl ihr => rw [ihl, unquoted_blanks_cons hb (by decide), ihr]
  | @negated b c b' s t rest hb hc hb' _ ih =>
    have hne : c ≠ '"' := by
      rcases hc with rfl | rfl
      · decide
      · decide
    rw [unquoted_blanks_cons hb hne, unquoted_append_of_not_mem (quote_not_mem_blanks hb'), ih]
  | plain hb _ _ ih => rw [unquoted_append_of_not_mem (quote_not_mem_blanks hb), ih]
  | group _ hb ih => rw [unquoted_cons (by decide), ih, unquoted_blanks_cons hb (by decide)]
  | @phrase marked p rest _ hp =>
    have hmarker : '"' ∉ marker marked := by
      cases marked with
      | false => decide
      | true => decide
    rw [unquoted_append_of_not_mem hmarker, unquoted_cons_quote, unquoted_append_of_not_mem hp,
      unquoted_cons_quote, not_not]
  | word _ hw _ _ =>
    refine unquoted_append_of_not_mem fun hmem => ?_
    exact absurd (hw _ hmem) (by decide)

namespace IsQuery

variable {p q : Text} {a b : Tree}

/-- **A query closes its quotes.** -/
theorem unquoted (h : IsQuery p a) : Unquoted p := by
  obtain ⟨bl, hd, hb⟩ := h
  rw [hd.unquoted_iff, ← List.append_nil bl,
    unquoted_append_of_not_mem (quote_not_mem_blanks hb)]
  exact unquoted_nil

/-! ## Queries in parentheses -/

theorem atom (h : IsQuery p a) (rest : Text) : Derives .atom ('(' :: p ++ ')' :: rest) a rest := by
  obtain ⟨bl, hd, hb⟩ := h
  exact .group (hd.append (x := ')' :: rest) (Text.endsRun_cons.2 (by decide))) hb

theorem factor (h : IsQuery p a) (rest : Text) :
    Derives .factor ('(' :: p ++ ')' :: rest) a rest :=
  .plain (b := []) Text.blanks_nil (by decide) (h.atom rest)

theorem grouped (h : IsQuery p a) : IsQuery ('(' :: p ++ [')']) a :=
  ⟨[], .first (.single (h.factor [])), Text.blanks_nil⟩

theorem negated {c : Char} (hc : c = '-' ∨ c = '!') (h : IsQuery p a) :
    IsQuery (c :: '(' :: p ++ [')']) (.not a) := by
  have hd : Derives .factor ([] ++ c :: ([] ++ ('(' :: p ++ [')']))) (.not a) [] :=
    .negated Text.blanks_nil hc Text.blanks_nil (h.atom [])
  exact ⟨[], .first (.single hd), Text.blanks_nil⟩

theorem and (hp : IsQuery p a) (hq : IsQuery q b) :
    IsQuery ('(' :: p ++ ')' :: '+' :: ('(' :: q ++ [')'])) (.and a b) :=
  ⟨[], .first (.and (b := []) (.single (hp.factor _)) Text.blanks_nil (hq.factor [])),
    Text.blanks_nil⟩

theorem or (hp : IsQuery p a) (hq : IsQuery q b) :
    IsQuery ('(' :: p ++ ')' :: ',' :: ('(' :: q ++ [')'])) (.or a b) :=
  ⟨[], .or (b := []) (.first (.single (hp.factor _))) Text.blanks_nil (.single (hq.factor [])),
    Text.blanks_nil⟩

end IsQuery

end Grammar

/-! ## Normalizing -/

namespace Canonical

variable {s t y separator : Text} {operator : Char} {last : Option Char} {gap : Bool}

theorem foldKeywords_group (hs : Unquoted s) :
    foldKeywords ('(' :: s ++ ')' :: y) = '(' :: foldKeywords s ++ ')' :: foldKeywords y := by
  have hopen : Unquoted ('(' :: s) := (unquoted_cons (by decide)).2 hs
  rw [foldKeywords_append hopen (Text.endsRun_cons.2 (by decide)),
    foldKeywords_cons (c := '(') (by decide) (by decide),
    foldKeywords_cons (c := ')') (by decide) (by decide)]

theorem layFrom_opening : layFrom (.outside last gap) ('(' :: s) =
    (if gap then ['+'] else []) ++ '(' :: layFrom (.outside none false) s := by
  have hwritten : layFrom (.outside last gap) ('(' :: s) =
      (if gap && true then ['+'] else []) ++ '(' :: layFrom (.outside (some '(') false) s :=
    layFrom_written (by decide)
  have hfresh : layFrom (.outside (some '(') false) s = layFrom (.outside none false) s :=
    layFrom_fresh (by decide)
  rw [hwritten, Bool.and_true, hfresh]

/-- A closing parenthesis starts no term, so it is written alone, with a gap before it or not. -/
theorem layFrom_closing : layFrom (.outside last gap) (')' :: s) =
    ')' :: layFrom (.outside (some ')') false) s := by
  have hwritten : layFrom (.outside last gap) (')' :: s) =
      (if gap && false then ['+'] else []) ++ ')' :: layFrom (.outside (some ')') false) s :=
    layFrom_written (by decide)
  rw [hwritten, Bool.and_false]
  rfl

/-- **In parentheses a text is normalized as it is alone**, and what follows does not depend on it.
-/
theorem layFrom_group (hs : Unquoted s) :
    layFrom (.outside last gap) (foldKeywords ('(' :: s ++ ')' :: y)) =
      (if gap then ['+'] else []) ++ '(' :: normalize s ++
        ')' :: layFrom (.outside (some ')') false) (foldKeywords y) := by
  obtain ⟨last', gap', hplace⟩ := exists_foldl_next_eq (unquoted_foldKeywords.2 hs) none false
  rw [foldKeywords_group hs, List.cons_append, layFrom_opening, layFrom_append, hplace,
    layFrom_closing, List.append_assoc, List.cons_append]
  rfl

/-- Between two groups, a text becomes an operator. The operator is written on the way, or it is the
`+` for the gap that is left. -/
def Joins (separator : Text) (operator : Char) : Prop :=
  Unquoted separator ∧ ∃ last gap,
    (foldKeywords separator).foldl Place.next (.outside (some ')') false) = .outside last gap ∧
      layFrom (.outside (some ')') false) (foldKeywords separator) ++ (if gap then ['+'] else []) =
        [operator]

theorem joins_or : Joins [' ', 'O', 'R', ' '] ',' :=
  ⟨by decide, some ',', false, by decide⟩

theorem joins_comma : Joins [','] ',' :=
  ⟨by decide, some ',', false, by decide⟩

theorem joins_and : Joins [' ', 'A', 'N', 'D', ' '] '+' :=
  ⟨by decide, some '+', false, by decide⟩

theorem joins_plus : Joins ['+'] '+' :=
  ⟨by decide, some '+', false, by decide⟩

theorem joins_space : Joins [' '] '+' :=
  ⟨by decide, some ')', true, by decide⟩

theorem normalize_group (hs : Unquoted s) :
    normalize ('(' :: s ++ [')']) = '(' :: normalize s ++ [')'] :=
  layFrom_group (y := []) hs

theorem normalize_signed {c : Char} (hc : c = '-' ∨ c = '!') (hs : Unquoted s) :
    normalize (c :: '(' :: s ++ [')']) = c :: '(' :: normalize s ++ [')'] := by
  have hplain : c ≠ '"' ∧ isAlphabetic c = false ∧ isBlank c = false ∧ mapWildcard c = c := by
    rcases hc with rfl | rfl
    · decide
    · decide
  obtain ⟨hq, hletter, hblank, hmap⟩ := hplain
  rw [normalize, List.cons_append, foldKeywords_cons hq hletter, layFrom_written hblank, hmap,
    Place.after, if_neg hq, layFrom_group hs]
  rfl

theorem normalize_joined (hsep : Joins separator operator) (hs : Unquoted s) (ht : Unquoted t) :
    normalize ('(' :: s ++ ')' :: (separator ++ ('(' :: t ++ [')']))) =
      '(' :: normalize s ++ ')' :: operator :: ('(' :: normalize t ++ [')']) := by
  obtain ⟨hunquoted, last, gap, hplace, hwritten⟩ := hsep
  have hopening : Text.EndsRun isAlphabetic ('(' :: t ++ [')']) := Text.endsRun_cons.2 (by decide)
  have hrest :
      layFrom (.outside (some ')') false) (foldKeywords (separator ++ ('(' :: t ++ [')']))) =
        operator :: ('(' :: normalize t ++ [')']) := by
    rw [foldKeywords_append hunquoted hopening, layFrom_append, hplace, layFrom_group ht,
      ← List.append_assoc, ← List.append_assoc, hwritten]
    rfl
  rw [normalize, layFrom_group hs, hrest]
  rfl

end Canonical

/-! ## The tree of the whole -/

section

variable {s t : Text} {a b : Tree}

open Canonical (Joins)

theorem buildTree_eq_ok_iff : buildTree none s = .ok a ↔ Grammar.IsQuery (normalize s) a := by
  rw [buildTree, parse_eq_ok_iff_whole, Grammar.whole_eq_ok_iff]

theorem unquoted_of_buildTree (h : buildTree none s = .ok a) : Unquoted s :=
  unquoted_normalize.1 (buildTree_eq_ok_iff.1 h).unquoted

theorem buildTree_or {separator : Text} (hsep : Joins separator ',')
    (hs : buildTree none s = .ok a) (ht : buildTree none t = .ok b) :
    buildTree none ('(' :: s ++ ')' :: (separator ++ ('(' :: t ++ [')']))) = .ok (.or a b) := by
  rw [buildTree_eq_ok_iff,
    Canonical.normalize_joined hsep (unquoted_of_buildTree hs) (unquoted_of_buildTree ht)]
  exact (buildTree_eq_ok_iff.1 hs).or (buildTree_eq_ok_iff.1 ht)

theorem buildTree_and {separator : Text} (hsep : Joins separator '+')
    (hs : buildTree none s = .ok a) (ht : buildTree none t = .ok b) :
    buildTree none ('(' :: s ++ ')' :: (separator ++ ('(' :: t ++ [')']))) = .ok (.and a b) := by
  rw [buildTree_eq_ok_iff,
    Canonical.normalize_joined hsep (unquoted_of_buildTree hs) (unquoted_of_buildTree ht)]
  exact (buildTree_eq_ok_iff.1 hs).and (buildTree_eq_ok_iff.1 ht)

theorem buildTree_not {c : Char} (hc : c = '-' ∨ c = '!') (hs : buildTree none s = .ok a) :
    buildTree none (c :: '(' :: s ++ [')']) = .ok (.not a) := by
  rw [buildTree_eq_ok_iff, Canonical.normalize_signed hc (unquoted_of_buildTree hs)]
  exact (buildTree_eq_ok_iff.1 hs).negated hc

theorem buildTree_group (hs : buildTree none s = .ok a) :
    buildTree none ('(' :: s ++ [')']) = .ok a := by
  rw [buildTree_eq_ok_iff, Canonical.normalize_group (unquoted_of_buildTree hs)]
  exact (buildTree_eq_ok_iff.1 hs).grouped

/-- **Typed queries can be put together.** In parentheses a query keeps its tree, whatever it is
made of, and between two queries the operators and their keywords build the tree they stand for. -/
theorem buildTree_composed (hs : buildTree none s = .ok a) (ht : buildTree none t = .ok b) :
    buildTree none ("(" ++ s ++ ") OR (" ++ t ++ ")") = .ok (.or a b) ∧
      buildTree none ("(" ++ s ++ "),(" ++ t ++ ")") = .ok (.or a b) ∧
      buildTree none ("(" ++ s ++ ") AND (" ++ t ++ ")") = .ok (.and a b) ∧
      buildTree none ("(" ++ s ++ ")+(" ++ t ++ ")") = .ok (.and a b) ∧
      buildTree none ("(" ++ s ++ ") (" ++ t ++ ")") = .ok (.and a b) ∧
      buildTree none ("-(" ++ s ++ ")") = .ok (.not a) ∧
      buildTree none ("!(" ++ s ++ ")") = .ok (.not a) ∧
      buildTree none ("(" ++ s ++ ")") = .ok a := by
  refine ⟨?_, ?_, ?_, ?_, ?_, ?_, ?_, ?_⟩
  · simpa using buildTree_or Canonical.joins_or hs ht
  · simpa using buildTree_or Canonical.joins_comma hs ht
  · simpa using buildTree_and Canonical.joins_and hs ht
  · simpa using buildTree_and Canonical.joins_plus hs ht
  · simpa using buildTree_and Canonical.joins_space hs ht
  · simpa using buildTree_not (.inl rfl) hs
  · simpa using buildTree_not (.inr rfl) hs
  · simpa using buildTree_group hs

/-- Blanks at the ends of a query, a keyword and a parenthesis between quotes, and a shell wildcard
at the seam. -/
theorem buildTree_composed_quotes :
    buildTree none " a AND \"OR (\" " =
        .ok (.and (.leaf ⟨"%a%", .contains⟩) (.leaf ⟨"OR (", .exact⟩)) ∧
      buildTree none "-b OR c*" =
        .ok (.or (.not (.leaf ⟨"%b%", .contains⟩)) (.leaf ⟨"c%", .wildcard⟩)) ∧
      buildTree none ("(" ++ " a AND \"OR (\" " ++ ") (" ++ "-b OR c*" ++ ")") =
        .ok (.and (.and (.leaf ⟨"%a%", .contains⟩) (.leaf ⟨"OR (", .exact⟩))
          (.or (.not (.leaf ⟨"%b%", .contains⟩)) (.leaf ⟨"c%", .wildcard⟩))) := by
  have hs : buildTree none " a AND \"OR (\" " =
      .ok (.and (.leaf ⟨"%a%", .contains⟩) (.leaf ⟨"OR (", .exact⟩)) := by
    decide +kernel
  have ht : buildTree none "-b OR c*" =
      .ok (.or (.not (.leaf ⟨"%b%", .contains⟩)) (.leaf ⟨"c%", .wildcard⟩)) := by
    decide +kernel
  obtain ⟨-, -, -, -, hjoined, -⟩ := buildTree_composed hs ht
  exact ⟨hs, ht, hjoined⟩

end

end SearchClause
