import Mathlib.Data.Set.NAry
import SearchClause.Proofs.Reading

/-!
# A part of a query in its place

A query is written from parts, and what is said here of a part is how it is read where it stands:
with the rest of the query after it. `Delimits` is all that has to be known of the rest. A part `p`
is said to be read as the trees in a set `R`; there is a single one, or none if the part cannot be
read, and so the statements say both when reading succeeds and what it gives:

* **atoms and factors** (`AtomBack`, `FactorBack`) are read the same in front of every rest;
* **clauses and queries** (`ClauseBack`, `QueryBack`) go on where they can, so what is said of them
  is where the reader stands after them.

There is one rule for each way in which the printer puts parts together.
-/

namespace SearchClause

open Text (EndsRun skipBlanks)
open Reader (Failure queryAt queryOn clauseAt clauseOn factorAt atomAt)

namespace RoundTrip

/-! ## What follows a written part -/

/-- After a part of a written query comes an operator, a closing parenthesis or nothing. -/
def Delimits (rest : Text) : Prop :=
  ∀ c ∈ rest.head?, c = '+' ∨ c = ',' ∨ c = ')'

theorem delimits_nil : Delimits [] := by
  intro c hc
  cases hc

theorem delimits_cons {c : Char} {rest : Text} (hc : c = '+' ∨ c = ',' ∨ c = ')') :
    Delimits (c :: rest) := by
  intro d hd
  obtain rfl : c = d := by simpa using hd
  exact hc

namespace Delimits

variable {rest : Text}

theorem endsRun (h : Delimits rest) : EndsRun isWordChar rest := by
  intro c hc
  rcases h c hc with rfl | rfl | rfl <;> decide

theorem skipBlanks_eq (h : Delimits rest) : skipBlanks rest = rest := by
  refine Text.dropWhile_of_endsRun fun c hc => ?_
  rcases h c hc with rfl | rfl | rfl <;> decide

theorem head?_ne_quote (h : Delimits rest) : rest.head? ≠ some '"' := by
  intro hq
  rcases h '"' hq with hc | hc | hc <;> exact absurd hc (by decide)

end Delimits

/-! ## How a part is read -/

section

variable {p q rest : Text} {R S : Set Tree}

/-- `p` is read as an atom. -/
def AtomBack (p : Text) (R : Set Tree) : Prop :=
  ∀ rest, Delimits rest → ∀ z, atomAt none (p ++ rest) = .ok z ↔ ∃ u ∈ R, z = (u, rest)

/-- `p` is read as a factor. -/
def FactorBack (p : Text) (R : Set Tree) : Prop :=
  ∀ rest, Delimits rest → ∀ z, factorAt none (p ++ rest) = .ok z ↔ ∃ u ∈ R, z = (u, rest)

/-- `p` is read as the start of a clause. -/
def ClauseBack (p : Text) (R : Set Tree) : Prop :=
  ∀ rest, Delimits rest → ∀ z,
    clauseAt none (p ++ rest) = .ok z ↔ ∃ u ∈ R, clauseOn none u rest = .ok z

/-- `p` is read as the start of a query. -/
def QueryBack (p : Text) (R : Set Tree) : Prop :=
  ∀ rest, Delimits rest → (∀ after, rest ≠ '+' :: after) → ∀ z,
    queryAt none (p ++ rest) = .ok z ↔ ∃ u ∈ R, queryOn none u rest = .ok z

/-- A clause ends where no `+` follows. -/
theorem ClauseBack.ends (h : ClauseBack p R) (hrest : Delimits rest)
    (hplus : ∀ after, rest ≠ '+' :: after) (z : Tree × Text) :
    clauseAt none (p ++ rest) = .ok z ↔ ∃ u ∈ R, z = (u, rest) := by
  have hend (u : Tree) : clauseOn none u rest = .ok (u, rest) := by
    rw [Reader.clauseOn_end (by rwa [hrest.skipBlanks_eq]), hrest.skipBlanks_eq]
  simp only [h rest hrest z, hend, Except.ok.injEq, eq_comm]

/-- A query ends where neither `+` nor `,` follows. -/
theorem QueryBack.ends (h : QueryBack p R) (hrest : Delimits rest)
    (hplus : ∀ after, rest ≠ '+' :: after) (hcomma : ∀ after, rest ≠ ',' :: after)
    (z : Tree × Text) : queryAt none (p ++ rest) = .ok z ↔ ∃ u ∈ R, z = (u, rest) := by
  have hend (u : Tree) : queryOn none u rest = .ok (u, rest) := by
    rw [Reader.queryOn_end (by rwa [hrest.skipBlanks_eq]), hrest.skipBlanks_eq]
  simp only [h rest hrest hplus z, hend, Except.ok.injEq, eq_comm]

/-- What comes after a part of which the trees are known starts from one of them. -/
theorem bind_eq_ok_iff {α : Type} {x : Except Failure (Tree × Text)}
    (hx : ∀ z, x = .ok z ↔ ∃ u ∈ R, z = (u, rest)) {f : Tree × Text → Except Failure α} {b : α} :
    x.bind f = .ok b ↔ ∃ u ∈ R, f (u, rest) = .ok b := by
  rw [Reader.bind_eq_ok]
  constructor
  · rintro ⟨a, ha, hb⟩
    obtain ⟨u, hu, rfl⟩ := (hx a).1 ha
    exact ⟨u, hu, hb⟩
  · rintro ⟨u, hu, hb⟩
    exact ⟨(u, rest), (hx _).2 ⟨u, hu, rfl⟩, hb⟩

/-! ## Putting parts together -/

theorem FactorBack.clause (h : FactorBack p R) : ClauseBack p R := by
  intro rest hrest z
  rw [Reader.clauseAt_eq]
  exact bind_eq_ok_iff (h rest hrest)

theorem ClauseBack.query (h : ClauseBack p R) : QueryBack p R := by
  intro rest hrest hplus z
  rw [Reader.queryAt_eq]
  exact bind_eq_ok_iff (h.ends hrest hplus)

theorem QueryBack.group (h : QueryBack p R) : AtomBack ('(' :: p ++ [')']) R := by
  intro rest hrest z
  have hopen : skipBlanks ('(' :: p ++ [')'] ++ rest) = '(' :: (p ++ ')' :: rest) := by
    simpa using Text.skipBlanks_cons (c := '(') (s := p ++ ')' :: rest) (by decide)
  have hclose (u : Tree) : Reader.closeAt (u, ')' :: rest) = .ok (u, rest) := by
    have hskip : skipBlanks (')' :: rest) = ')' :: rest := Text.skipBlanks_cons (by decide)
    rw [Reader.closeAt, hskip]
    rfl
  have hend : Delimits (')' :: rest) := delimits_cons (.inr (.inr rfl))
  have hinner := h.ends hend (by simp) (by simp)
  rw [Reader.atomAt_group hopen (by simp), Option.map_none, bind_eq_ok_iff hinner]
  simp only [hclose, Except.ok.injEq, eq_comm]

theorem AtomBack.negated (h : AtomBack p R) : FactorBack ('-' :: p) (Set.image Tree.not R) := by
  intro rest hrest z
  have hskip : skipBlanks ('-' :: p ++ rest) = '-' :: (p ++ rest) :=
    Text.skipBlanks_cons (by decide)
  rw [Reader.factorAt_sign hskip (.inl rfl), Reader.map_eq_ok]
  constructor
  · rintro ⟨a, ha, rfl⟩
    obtain ⟨u, hu, rfl⟩ := (h rest hrest a).1 ha
    exact ⟨.not u, ⟨u, hu, rfl⟩, rfl⟩
  · rintro ⟨_, ⟨u, hu, rfl⟩, rfl⟩
    exact ⟨(u, rest), (h rest hrest _).2 ⟨u, hu, rfl⟩, rfl⟩

theorem AtomBack.factor {c : Char} (hblank : isBlank c = false) (hc : ¬ Reader.IsSign c)
    (h : AtomBack (c :: p) R) : FactorBack (c :: p) R := by
  intro rest hrest z
  rw [Reader.factorAt_plain, h rest hrest z]
  intro d after hd
  rw [List.cons_append, Text.skipBlanks_cons hblank] at hd
  obtain ⟨rfl, -⟩ := List.cons.inj hd
  exact hc

theorem ClauseBack.and (hp : ClauseBack p R) (hq : FactorBack q S) :
    ClauseBack (p ++ '+' :: q) (Set.image2 Tree.and R S) := by
  intro rest hrest z
  have hplus : skipBlanks ('+' :: (q ++ rest)) = '+' :: (q ++ rest) :=
    Text.skipBlanks_cons (by decide)
  rw [List.append_assoc, List.cons_append, hp _ (delimits_cons (.inl rfl)), Set.exists_mem_image2]
  simp only [Reader.clauseOn_plus hplus, bind_eq_ok_iff (hq rest hrest)]

theorem QueryBack.or (hp : QueryBack p R) (hq : ClauseBack q S) :
    QueryBack (p ++ ',' :: q) (Set.image2 Tree.or R S) := by
  intro rest hrest hplus z
  have hcomma : skipBlanks (',' :: (q ++ rest)) = ',' :: (q ++ rest) :=
    Text.skipBlanks_cons (by decide)
  rw [List.append_assoc, List.cons_append, hp _ (delimits_cons (.inr (.inl rfl))) (by simp),
    Set.exists_mem_image2]
  simp only [Reader.queryOn_comma hcomma, bind_eq_ok_iff (hq.ends hrest hplus)]

theorem QueryBack.whole (h : QueryBack p R) (u : Tree) : Reader.whole none p = .ok u ↔ u ∈ R := by
  have hp := h.ends delimits_nil (by simp) (by simp)
  rw [List.append_nil] at hp
  rw [Reader.whole_eq, bind_eq_ok_iff hp]
  simp [Reader.endAt, skipBlanks]

end

/-! ## Written terms -/

/-- The trees that a run of word characters is read as: the leaf with its term, if it has one. -/
def wordTrees (w : Text) : Set Tree :=
  {u | ∃ term, Reader.termOfWord w = .ok term ∧ u = .leaf term}

/-- The run may be empty: then nothing is read, and the empty word has no term. -/
theorem atomBack_word {w : Text} (hw : ∀ c ∈ w, isWordChar c = true) :
    AtomBack w (wordTrees w) := by
  intro rest hrest z
  by_cases hne : w = []
  · subst hne
    have hnone : ∀ c after, skipBlanks rest = c :: after → c = '+' ∨ c = ',' ∨ c = ')' := by
      intro c after h
      rw [hrest.skipBlanks_eq] at h
      exact hrest c (by simp [h])
    have hat : atomAt none rest = Reader.wordAt (skipBlanks rest) := by
      apply Reader.atomAt_word
      · intro after h
        simpa using hnone _ _ h
      · intro after h
        simpa using hnone _ _ h
      · intro after h
        simpa using hnone _ _ h
    rw [List.nil_append, hat, hrest.skipBlanks_eq, Reader.wordAt_empty hrest.endsRun]
    simp [wordTrees, Reader.termOfWord, Text.dropFirst?, Text.dropLast?, Reader.termOf]
  · have hat : atomAt none (w ++ rest) = Reader.wordAt (w ++ rest) :=
      Reader.atomAt_run Text.blanks_nil hne hw (.inr hrest.head?_ne_quote)
    rw [hat, Reader.wordAt_run hne hw hrest.endsRun]
    rcases hterm : Reader.termOfWord w with fault | term
    · simp [wordTrees, hterm]
    · simp [wordTrees, hterm, eq_comm]

theorem atomBack_phrase {v : Text} (hne : v ≠ []) (hv : '"' ∉ v) :
    AtomBack ('"' :: v ++ ['"']) {.leaf ⟨v, .exact⟩} := by
  intro rest hrest z
  have hskip : skipBlanks ('"' :: v ++ ['"'] ++ rest) = '"' :: (v ++ '"' :: rest) := by
    simpa using Text.skipBlanks_cons (c := '"') (s := v ++ '"' :: rest) (by decide)
  rw [Reader.atomAt_phrase hskip, Reader.phraseAt_closed hne hv]
  simp [eq_comm]

end RoundTrip

end SearchClause
