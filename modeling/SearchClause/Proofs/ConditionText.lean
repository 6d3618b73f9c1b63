import SearchClause.Proofs.Condition
import SearchClause.Text.Blank

/-!
# The text of a condition

From a text to its tokens (`lex`) and to its condition (`read`). Parentheses stand for themselves. A
word is what stands between blanks and parentheses, and the words `NOT`, `AND` and `OR` are
operators. One blank on each side belongs to the operator; any other text between operators and
parentheses is an atom, exactly as it stands, unless it is blank.

Conditions are put together from texts as they are from tokens: `Reads` says what a text is wherever
an atom could end after it, and follows the rules of `Written`.
-/

namespace SearchClause

namespace Condition

/-- The operator that a word stands for. -/
def keyword? (word : Text) : Option Token :=
  if word = ['N', 'O', 'T'] then some .not
  else if word = ['A', 'N', 'D'] then some .and
  else if word = ['O', 'R'] then some .or
  else none

/-- The token of a text without operators, if there is one. -/
def atomTokens (s : Text) : List Token :=
  if s.all isBlank then [] else [.atom s]

/-- The tokens of a text that has been read up to the end of a word. -/
def wordTokens (before word : Text) : List Token :=
  match keyword? word with
  | some operator => atomTokens before.dropLast ++ [operator]
  | none => atomTokens (before ++ word)

/-- Lexing in the middle of a text: `word` is the part of a word that has been read, and `before`
what stands before it since the last token. -/
def lexFrom (before word : Text) : Text → List Token
  | [] => wordTokens before word
  | c :: rest =>
    if c = '(' then wordTokens before word ++ .opening :: lexFrom [] [] rest
    else if c = ')' then wordTokens before word ++ .closing :: lexFrom [] [] rest
    else if isBlank c then
      match keyword? word with
      | some operator => atomTokens before.dropLast ++ operator :: lexFrom [] [] rest
      | none => lexFrom (before ++ word ++ [c]) [] rest
    else lexFrom before (word ++ [c]) rest

/-- The tokens of a text. -/
def lex (s : Text) : List Token :=
  lexFrom [] [] s

/-- The condition of a text, if it is one. -/
def read (s : Text) : Option Condition :=
  readTokens (lex s)

/-- Whether a character is part of a word. -/
def isSolid (b : Char) : Bool :=
  !isBlank b && b != '(' && b != ')'

/-- The text has no parentheses and no operators. -/
def Plain (s : Text) : Prop :=
  '(' ∉ s ∧ ')' ∉ s ∧ ∀ word ∈ s.words, keyword? word = none

instance (s : Text) : Decidable (Plain s) :=
  inferInstanceAs (Decidable (_ ∧ _ ∧ _))

section

variable {before word s t rest : Text} {ts us : List Token} {c d : Condition} {operator : Token}

theorem isSolid_iff {b : Char} : isSolid b = true ↔ isBlank b = false ∧ b ≠ '(' ∧ b ≠ ')' := by
  simp [isSolid, and_assoc]

theorem ne_paren_of_isBlank {b : Char} (hb : isBlank b = true) : b ≠ '(' ∧ b ≠ ')' := by
  constructor
  · rintro rfl
    exact absurd hb (by decide)
  · rintro rfl
    exact absurd hb (by decide)

theorem Plain.append (hs : Plain s) (ht : Plain t) {b : Char} (hb : isBlank b = true) :
    Plain (s ++ b :: t) := by
  obtain ⟨hopens, hcloses, hwordss⟩ := hs
  obtain ⟨hopent, hcloset, hwordst⟩ := ht
  obtain ⟨hopen, hclose⟩ := ne_paren_of_isBlank hb
  refine ⟨by simp [hopens, hopent, Ne.symm hopen], by simp [hcloses, hcloset, Ne.symm hclose], ?_⟩
  intro word hword
  rw [Text.words_append_cons hb, List.mem_append] at hword
  exact hword.elim (hwordss word) (hwordst word)

/-! ## Words -/

theorem lexFrom_opening : lexFrom before word ('(' :: rest) =
    wordTokens before word ++ .opening :: lex rest := by
  simp [lexFrom, lex]

theorem lexFrom_closing : lexFrom before word (')' :: rest) =
    wordTokens before word ++ .closing :: lex rest := by
  simp [lexFrom, lex]

theorem lexFrom_blank {b : Char} (hb : isBlank b = true) (hword : keyword? word = none) :
    lexFrom before word (b :: rest) = lexFrom (before ++ word ++ [b]) [] rest := by
  simp [lexFrom, ne_paren_of_isBlank hb, hb, hword]

theorem lexFrom_operator {b : Char} (hb : isBlank b = true)
    (hword : keyword? word = some operator) :
    lexFrom before word (b :: rest) = atomTokens before.dropLast ++ operator :: lex rest := by
  simp [lexFrom, lex, ne_paren_of_isBlank hb, hb, hword]

theorem lexFrom_solid {b : Char} (hb : isSolid b = true) :
    lexFrom before word (b :: rest) = lexFrom before (word ++ [b]) rest := by
  obtain ⟨hblank, hopen, hclose⟩ := isSolid_iff.1 hb
  simp [lexFrom, hblank, hopen, hclose]

theorem lexFrom_word (hs : s.all isSolid = true) :
    lexFrom before word (s ++ rest) = lexFrom before (word ++ s) rest := by
  induction s generalizing word with
  | nil => rw [List.append_nil, List.nil_append]
  | cons b s ih =>
    rw [List.all_cons, Bool.and_eq_true] at hs
    rw [List.cons_append, lexFrom_solid hs.1, ih hs.2, List.append_assoc]
    rfl

theorem all_isSolid_of_keyword? (hs : keyword? s = some operator) : s.all isSolid = true := by
  rw [keyword?] at hs
  split at hs
  next h => subst h; decide
  next =>
    split at hs
    next h => subst h; decide
    next =>
      split at hs
      next h => subst h; decide
      next => cases hs

/-- A single word without parentheses is plain unless it is an operator. -/
theorem plain_word (hs : s.all isSolid = true) (hkey : keyword? s = none) : Plain s := by
  have hsolid (b : Char) (hb : b ∈ s) := isSolid_iff.1 (List.all_eq_true.1 hs b hb)
  refine ⟨fun h => (hsolid _ h).2.1 rfl, fun h => (hsolid _ h).2.2 rfl, fun word hword => ?_⟩
  rw [Text.words, Text.pieces_eq_singleton fun b hb => (hsolid b hb).1, List.mem_filter,
    List.mem_singleton] at hword
  rw [hword.1, hkey]

/-- **Lexing goes through a text without operators** and keeps all of it. -/
theorem exists_lexFrom_append (before word : Text) (hword : ∀ b ∈ word, isBlank b = false)
    (hopen : '(' ∉ s) (hclose : ')' ∉ s)
    (hwords : ∀ p ∈ Text.pieces isBlank (word ++ s), keyword? p = none) :
    ∃ before' word', before' ++ word' = before ++ (word ++ s) ∧ keyword? word' = none ∧
      ∀ rest, lexFrom before word (s ++ rest) = lexFrom before' word' rest := by
  induction s generalizing before word with
  | nil =>
    rw [List.append_nil, Text.pieces_eq_singleton hword] at hwords
    exact ⟨before, word, by rw [List.append_nil], hwords _ (List.mem_singleton.2 rfl), fun _ => rfl⟩
  | cons b s ih =>
    rw [List.mem_cons, not_or] at hopen hclose
    cases hb : isBlank b with
    | true =>
      -- the word ends here, and it is no operator
      rw [Text.pieces_append_cons hb, Text.pieces_eq_singleton hword, List.singleton_append] at hwords
      obtain ⟨hkey, hwords⟩ := List.forall_mem_cons.1 hwords
      obtain ⟨before', word', heq, hkey', hrest⟩ :=
        ih (before ++ word ++ [b]) [] (by simp) hopen.2 hclose.2 hwords
      refine ⟨before', word', ?_, hkey', fun rest => ?_⟩
      · simpa using heq
      · rw [List.cons_append, lexFrom_blank hb hkey, hrest]
    | false =>
      have hlonger := List.forall_mem_append.2 ⟨hword, List.forall_mem_singleton.2 hb⟩
      have hsolid := isSolid_iff.2 ⟨hb, Ne.symm hopen.1, Ne.symm hclose.1⟩
      rw [List.append_cons] at hwords
      obtain ⟨before', word', heq, hkey', hrest⟩ :=
        ih before (word ++ [b]) hlonger hopen.2 hclose.2 hwords
      refine ⟨before', word', ?_, hkey', fun rest => ?_⟩
      · simpa using heq
      · rw [List.cons_append, lexFrom_solid hsolid, hrest]

/-! ## Texts in their place -/

/-- An atom ends where the text starts, and then there are the given tokens. -/
def EndsAtom (rest : Text) (ts : List Token) : Prop :=
  ∀ before word, keyword? word = none → lexFrom before word rest = atomTokens (before ++ word) ++ ts

theorem wordTokens_eq (hword : keyword? word = none) :
    wordTokens before word = atomTokens (before ++ word) := by
  rw [wordTokens, hword]

theorem endsAtom_nil : EndsAtom [] [] := by
  intro before word hword
  rw [lexFrom, wordTokens_eq hword, List.append_nil]

theorem endsAtom_closing : EndsAtom (')' :: s) (.closing :: lex s) := by
  intro before word hword
  rw [lexFrom_closing, wordTokens_eq hword]

theorem endsAtom_operator (ht : keyword? t = some operator) :
    EndsAtom (' ' :: t ++ ' ' :: s) (operator :: lex s) := by
  intro before word hword
  have hblank : isBlank ' ' = true := by decide
  rw [List.cons_append, lexFrom_blank hblank hword, lexFrom_word (all_isSolid_of_keyword? ht),
    List.nil_append, lexFrom_operator hblank ht, List.dropLast_concat]

/-- Where an atom could end, the tokens that follow are those of the rest alone. -/
theorem EndsAtom.lex_eq (h : EndsAtom rest us) : lex rest = us :=
  h [] [] rfl

/-- The tokens of a text, wherever an atom could end after it. -/
def Lexed (s : Text) (ts : List Token) : Prop :=
  ∀ rest us, EndsAtom rest us → lex (s ++ rest) = ts ++ us

theorem lexed_atom (hs : Plain s) (hne : s.all isBlank = false) : Lexed s [.atom s] := by
  intro rest us hrest
  obtain ⟨hopen, hclose, hwords⟩ := hs
  have hpieces : ∀ p ∈ Text.pieces isBlank ([] ++ s), keyword? p = none := by
    intro p hp
    by_cases hempty : p = []
    · rw [hempty]
      rfl
    · exact hwords p (List.mem_filter.2 ⟨hp, by simpa using hempty⟩)
  -- the lexer comes out of the text with all of it at hand, and what follows ends the atom
  obtain ⟨before, word, heq, hword, hlex⟩ :=
    exists_lexFrom_append [] [] (by simp) hopen hclose hpieces
  rw [lex, hlex, hrest before word hword, heq, List.nil_append, List.nil_append, atomTokens, hne]
  rfl

theorem Lexed.group (h : Lexed s ts) :
    Lexed ('(' :: s ++ [')']) (.opening :: ts ++ [.closing]) := by
  intro rest us hrest
  have hinner : lex (s ++ ')' :: rest) = ts ++ .closing :: lex rest := h _ _ endsAtom_closing
  rw [List.append_assoc, List.cons_append, lex, lexFrom_opening, List.singleton_append, hinner,
    hrest.lex_eq]
  simp [wordTokens, keyword?, atomTokens]

theorem Lexed.joined (hs : Lexed s ts) (ht : Lexed t us) {w : Text}
    (hw : keyword? w = some operator) :
    Lexed (s ++ (' ' :: w ++ [' ']) ++ t) (ts ++ operator :: us) := by
  intro rest vs hrest
  have hleft := hs _ _ (endsAtom_operator (s := t ++ rest) hw)
  rw [ht rest vs hrest] at hleft
  simpa using hleft

theorem Lexed.not (h : Lexed s ts) : Lexed (['N', 'O', 'T', ' '] ++ s) (.not :: ts) := by
  intro rest us hrest
  have hnot : keyword? ['N', 'O', 'T'] = some .not := rfl
  have hword : lex (['N', 'O', 'T'] ++ ' ' :: (s ++ rest)) = .not :: lex (s ++ rest) := by
    rw [lex, lexFrom_word (all_isSolid_of_keyword? hnot), List.nil_append,
      lexFrom_operator (by decide) hnot]
    rfl
  exact hword.trans (congrArg _ (h rest us hrest))

/-! ## Conditions from texts -/

/-- What a text is, wherever an atom could end after it. -/
def Reads (l : Level) (s : Text) (c : Condition) : Prop :=
  ∃ ts, Lexed s ts ∧ Written l ts c

theorem reads_atom (hs : Plain s) (hne : s.all isBlank = false) : Reads .factor s (.atom s) :=
  ⟨_, lexed_atom hs hne, .atom s⟩

theorem Reads.group (h : Reads .disjunction s c) : Reads .factor ('(' :: s ++ [')']) c := by
  obtain ⟨ts, hlex, hc⟩ := h
  exact ⟨_, hlex.group, hc.group⟩

theorem Reads.not (h : Reads .factor s c) : Reads .factor (['N', 'O', 'T', ' '] ++ s) (.not c) := by
  obtain ⟨ts, hlex, hc⟩ := h
  exact ⟨_, hlex.not, hc.not⟩

theorem Reads.conjunction (h : Reads .factor s c) : Reads .conjunction s c := by
  obtain ⟨ts, hlex, hc⟩ := h
  exact ⟨ts, hlex, hc.factor⟩

theorem Reads.disjunction (h : Reads .conjunction s c) : Reads .disjunction s c := by
  obtain ⟨ts, hlex, hc⟩ := h
  exact ⟨ts, hlex, hc.conjunction⟩

theorem Reads.and (hs : Reads .conjunction s c) (ht : Reads .factor t d) :
    Reads .conjunction (s ++ " AND " ++ t) (.and c d) := by
  obtain ⟨ts, hlexs, hc⟩ := hs
  obtain ⟨us, hlext, hd⟩ := ht
  exact ⟨_, hlexs.joined hlext (w := ['A', 'N', 'D']) rfl, hc.and hd⟩

theorem Reads.or (hs : Reads .disjunction s c) (ht : Reads .conjunction t d) :
    Reads .disjunction (s ++ " OR " ++ t) (.or c d) := by
  obtain ⟨ts, hlexs, hc⟩ := hs
  obtain ⟨us, hlext, hd⟩ := ht
  exact ⟨_, hlexs.joined hlext (w := ['O', 'R']) rfl, hc.or hd⟩

/-- **A text that is put together by the rules is read as it was put together.** -/
theorem Reads.read_eq (h : Reads .disjunction s c) : read s = some c := by
  obtain ⟨ts, hlex, hc⟩ := h
  have hwhole := hlex [] [] endsAtom_nil
  rw [List.append_nil, List.append_nil] at hwhole
  rw [read, hwhole]
  exact readTokens_eq_some_iff.2 hc

example : read "NOT a < 1 AND b OR (c OR d) AND e" =
    some (.or (.and (.not (.atom "a < 1")) (.atom "b"))
      (.and (.or (.atom "c") (.atom "d")) (.atom "e"))) := by
  decide

end

end Condition

end SearchClause
