import Mathlib.Data.List.Basic
import SearchClause.Proofs.Reading

/-!
# The shapes of a word

What a bare word means is decided by its two ends and by the pattern marks in it. Here every word
has one of four shapes, and for each shape there is an equation for the term it stands for. From
them follows what the terms of a query are like: `SoundValue` holds of the value of every word that
is read, whatever its shape.
-/

namespace SearchClause

namespace Text

variable {c d : Char} {t : Text}

@[simp] theorem dropFirst?_cons_self (c : Char) (t : Text) : dropFirst? c (c :: t) = some t := by
  simp [dropFirst?]

theorem dropFirst?_eq_none (h : t.head? ≠ some c) : dropFirst? c t = none := by
  cases t with
  | nil => rfl
  | cons d t => simpa [dropFirst?] using h

@[simp] theorem dropLast?_concat_self (c : Char) (t : Text) : dropLast? c (t ++ [c]) = some t := by
  simp [dropLast?]

theorem dropLast?_eq_none (h : t.getLast? ≠ some c) : dropLast? c t = none := by
  simp [dropLast?, h]

/-- A text that ends in `c` is a text before `c`. -/
theorem exists_of_getLast? (h : t.getLast? = some c) : ∃ s, t = s ++ [c] :=
  ⟨t.dropLast, (List.dropLast_append_getLast? c h).symm⟩

/-- A text that starts with `c` is `c` before a text. -/
theorem exists_of_head? (h : t.head? = some c) : ∃ s, t = c :: s :=
  List.head?_eq_some_iff.1 h

theorem mem_of_mem_getD_dropFirst? (h : d ∈ (dropFirst? c t).getD t) : d ∈ t := by
  cases t with
  | nil => simp [dropFirst?] at h
  | cons e t =>
    by_cases he : e = c
    · rw [he, dropFirst?_cons_self] at h
      exact List.mem_cons_of_mem _ h
    · rwa [dropFirst?_eq_none (by simpa using he)] at h

theorem mem_of_mem_getD_dropLast? (h : d ∈ (dropLast? c t).getD t) : d ∈ t := by
  by_cases hc : t.getLast? = some c
  · obtain ⟨s, rfl⟩ := exists_of_getLast? hc
    rw [dropLast?_concat_self] at h
    exact List.mem_append_left _ h
  · rwa [dropLast?_eq_none hc] at h

end Text

namespace Reader

/-! ## Shapes -/

/-- A word that is marked to be matched as a whole: `=x` or `^x$`. -/
def ExactMarked (w : Text) : Prop :=
  w.head? = some '=' ∨ w.head? = some '^' ∧ w.getLast? = some '$'

/-- What is left of a word without the marks of an exact term. -/
def exactValue (w : Text) : Text :=
  let bare := (Text.dropFirst? '=' w).getD w
  let bare := (Text.dropFirst? '^' bare).getD bare
  (Text.dropLast? '$' bare).getD bare

/-- Whether a word has a pattern mark. -/
def isPatterned (w : Text) : Bool :=
  w.any patternMarks.contains

/-- The kind of a word, which pattern marks overrule. -/
def kindOr (kind : MatchKind) (w : Text) : MatchKind :=
  if isPatterned w then .wildcard else kind

/-- The shape of a word. -/
inductive Shape (w : Text) : Prop where
  /-- `=x` or `^x$` -/
  | exact (h : ExactMarked w)
  /-- `^x` -/
  | caret (v : Text) (hw : w = '^' :: v) (hlast : w.getLast? ≠ some '$')
  /-- `x$` -/
  | dollar (v : Text) (hw : w = v ++ ['$']) (hequals : w.head? ≠ some '=')
      (hcaret : w.head? ≠ some '^')
  /-- a word without marks at its ends -/
  | bare (hequals : w.head? ≠ some '=') (hcaret : w.head? ≠ some '^')
      (hlast : w.getLast? ≠ some '$')

theorem shape (w : Text) : Shape w := by
  by_cases hequals : w.head? = some '='
  · exact .exact (.inl hequals)
  · by_cases hcaret : w.head? = some '^'
    · by_cases hlast : w.getLast? = some '$'
      · exact .exact (.inr ⟨hcaret, hlast⟩)
      · obtain ⟨v, hv⟩ := Text.exists_of_head? hcaret
        exact .caret v hv hlast
    · by_cases hlast : w.getLast? = some '$'
      · obtain ⟨v, hv⟩ := Text.exists_of_getLast? hlast
        exact .dollar v hv hequals hcaret
      · exact .bare hequals hcaret hlast

/-! ## Equations -/

section

variable {w v : Text}

theorem termOfWord_exact (h : ExactMarked w) :
    termOfWord w =
      if isPatterned w then .error .exactWithWildcard else termOf .exact (exactValue w) := by
  have hmark : (w.head? = some '=' || (w.head? = some '^' && w.getLast? = some '$')) = true := by
    simpa [ExactMarked] using h
  simp only [termOfWord, hmark, if_true]
  rfl

theorem not_exactMarked (hequals : w.head? ≠ some '=')
    (h : w.head? ≠ some '^' ∨ w.getLast? ≠ some '$') :
    (w.head? = some '=' || (w.head? = some '^' && w.getLast? = some '$')) = false := by
  rcases h with h | h <;> simp [hequals, h]

theorem termOfWord_caret (h : ('^' :: v).getLast? ≠ some '$') :
    termOfWord ('^' :: v) = termOf (kindOr .startsWith ('^' :: v)) v := by
  simp only [termOfWord, not_exactMarked (w := '^' :: v) (by simp) (.inr h), Bool.false_eq_true,
    if_false, Text.dropFirst?_cons_self]
  rfl

theorem termOfWord_dollar (hequals : (v ++ ['$']).head? ≠ some '=')
    (hcaret : (v ++ ['$']).head? ≠ some '^') :
    termOfWord (v ++ ['$']) = termOf (kindOr .endsWith (v ++ ['$'])) v := by
  simp only [termOfWord, not_exactMarked hequals (.inl hcaret), Bool.false_eq_true, if_false,
    Text.dropFirst?_eq_none hcaret, Text.dropLast?_concat_self]
  rfl

theorem termOfWord_bare (hequals : w.head? ≠ some '=') (hcaret : w.head? ≠ some '^')
    (hlast : w.getLast? ≠ some '$') : termOfWord w = termOf (kindOr .contains w) w := by
  simp only [termOfWord, not_exactMarked hequals (.inl hcaret), Bool.false_eq_true, if_false,
    Text.dropFirst?_eq_none hcaret, Text.dropLast?_eq_none hlast]
  rfl

theorem termOf_eq_ok_iff {kind : MatchKind} {term : Term} :
    termOf kind v = .ok term ↔ v ≠ [] ∧ Term.ofValue kind v = term := by
  cases v <;> simp [termOf]

theorem mem_of_mem_exactValue {c : Char} (h : c ∈ exactValue w) : c ∈ w :=
  Text.mem_of_mem_getD_dropFirst?
    (Text.mem_of_mem_getD_dropFirst? (Text.mem_of_mem_getD_dropLast? h))

end

/-! ## Sound values -/

/-- What the value of a term of a kind is like, wherever the term stands. -/
structure SoundValue (kind : MatchKind) (v : Text) : Prop where
  /-- there is a value -/
  nonempty : v ≠ []
  /-- an exact value can be put in quotes -/
  unquoted : kind = .exact → '"' ∉ v
  /-- any other value is a word -/
  wordlike : kind ≠ .exact → ∀ c ∈ v, isWordChar c = true
  /-- a value that is no pattern has no pattern marks -/
  plain : kind = .contains ∨ kind = .startsWith ∨ kind = .endsWith → ∀ c ∈ v, c ∉ patternMarks
  /-- a pattern has one -/
  pattern : kind = .wildcard → ∃ c ∈ v, c ∈ patternMarks

theorem soundValue_exact {v : Text} (hne : v ≠ []) (hv : '"' ∉ v) : SoundValue .exact v where
  nonempty := hne
  unquoted := fun _ => hv
  wordlike := fun hk => absurd rfl hk
  plain := fun hk => by simp at hk
  pattern := fun hk => by cases hk

theorem isPatterned_iff {w : Text} : isPatterned w = true ↔ ∃ c ∈ w, c ∈ patternMarks := by
  simp [isPatterned]

theorem not_isPatterned {w : Text} (h : isPatterned w = false) {c : Char} (hc : c ∈ w) :
    c ∉ patternMarks := by
  intro hm
  rw [isPatterned_iff.2 ⟨c, hc, hm⟩] at h
  cases h

/-- The value of a word that is not exact: at most one mark, which is no pattern mark, has been
taken off the word. -/
theorem soundValue_kindOr {kind : MatchKind} {w v : Text} (hkind : kind ≠ .exact)
    (hkind' : kind ≠ .wildcard) (hne : v ≠ []) (hw : ∀ c ∈ w, isWordChar c = true)
    (hsub : ∀ c ∈ v, c ∈ w) (hmarks : ∀ c ∈ w, c ∈ patternMarks → c ∈ v) :
    SoundValue (kindOr kind w) v := by
  rcases hp : isPatterned w with _ | _
  · have hk : kindOr kind w = kind := by simp [kindOr, hp]
    rw [hk]
    exact {
      nonempty := hne
      unquoted := fun h => absurd h hkind
      wordlike := fun _ c hc => hw c (hsub c hc)
      plain := fun _ c hc => not_isPatterned hp (hsub c hc)
      pattern := fun h => absurd h hkind' }
  · have hk : kindOr kind w = .wildcard := by simp [kindOr, hp]
    obtain ⟨c, hc, hm⟩ := isPatterned_iff.1 hp
    rw [hk]
    exact {
      nonempty := hne
      unquoted := fun h => by cases h
      wordlike := fun _ c hc => hw c (hsub c hc)
      plain := fun h => by simp at h
      pattern := fun _ => ⟨c, hmarks c hc hm, hm⟩ }

/-- **The value of a word is sound**, whatever the shape of the word. -/
theorem exists_soundValue {w : Text} {term : Term} (hw : ∀ c ∈ w, isWordChar c = true)
    (h : termOfWord w = .ok term) :
    ∃ v, term = Term.ofValue term.kind v ∧ SoundValue term.kind v := by
  cases shape w with
  | exact hmark =>
    rw [termOfWord_exact hmark] at h
    rcases hp : isPatterned w with _ | _ <;> rw [hp] at h
    · obtain ⟨hne, rfl⟩ := termOf_eq_ok_iff.1 h
      refine ⟨exactValue w, rfl, soundValue_exact hne fun hq => ?_⟩
      exact absurd (hw _ (mem_of_mem_exactValue hq)) (by decide)
    · cases h
  | caret v heq hlast =>
    subst heq
    rw [termOfWord_caret hlast] at h
    obtain ⟨hne, rfl⟩ := termOf_eq_ok_iff.1 h
    refine ⟨v, rfl, soundValue_kindOr (by simp) (by simp) hne hw ?_ ?_⟩
    · exact fun c hc => List.mem_cons_of_mem _ hc
    · intro c hc hm
      rcases List.mem_cons.1 hc with rfl | hc
      · exact absurd hm (by decide)
      · exact hc
  | dollar v heq hequals hcaret =>
    subst heq
    rw [termOfWord_dollar hequals hcaret] at h
    obtain ⟨hne, rfl⟩ := termOf_eq_ok_iff.1 h
    refine ⟨v, rfl, soundValue_kindOr (by simp) (by simp) hne hw ?_ ?_⟩
    · exact fun c hc => List.mem_append_left _ hc
    · intro c hc hm
      rcases List.mem_append.1 hc with hc | hc
      · exact hc
      · obtain rfl := List.mem_singleton.1 hc
        exact absurd hm (by decide)
  | bare hequals hcaret hlast =>
    rw [termOfWord_bare hequals hcaret hlast] at h
    obtain ⟨hne, rfl⟩ := termOf_eq_ok_iff.1 h
    exact ⟨w, rfl, soundValue_kindOr (by simp) (by simp) hne hw (fun _ hc => hc) (fun _ hc _ => hc)⟩

/-! ## Characters -/

theorem mem_ofValue {kind : MatchKind} {v : Text} {c : Char}
    (h : c ∈ (Term.ofValue kind v).text) : c ∈ v ∨ c = '%' := by
  cases kind with
  | contains => simpa [Term.ofValue, or_comm, or_assoc] using h
  | exact => exact .inl h
  | startsWith => simpa [Term.ofValue] using h
  | endsWith => simpa [Term.ofValue, or_comm] using h
  | wildcard => exact .inl h

/-- **The term of a word has the characters of the word**, and the mark that its kind adds. -/
theorem mem_of_termOfWord {w : Text} {term : Term} (h : termOfWord w = .ok term) {c : Char}
    (hc : c ∈ term.text) : c ∈ w ∨ c = '%' := by
  cases shape w with
  | exact hmark =>
    rw [termOfWord_exact hmark] at h
    rcases hp : isPatterned w with _ | _ <;> rw [hp] at h
    · obtain ⟨-, rfl⟩ := termOf_eq_ok_iff.1 h
      exact (mem_ofValue hc).imp_left mem_of_mem_exactValue
    · cases h
  | caret v heq hlast =>
    subst heq
    rw [termOfWord_caret hlast] at h
    obtain ⟨-, rfl⟩ := termOf_eq_ok_iff.1 h
    exact (mem_ofValue hc).imp_left (List.mem_cons_of_mem _)
  | dollar v heq hequals hcaret =>
    subst heq
    rw [termOfWord_dollar hequals hcaret] at h
    obtain ⟨-, rfl⟩ := termOf_eq_ok_iff.1 h
    exact (mem_ofValue hc).imp_left (List.mem_append_left _)
  | bare hequals hcaret hlast =>
    rw [termOfWord_bare hequals hcaret hlast] at h
    obtain ⟨-, rfl⟩ := termOf_eq_ok_iff.1 h
    exact mem_ofValue hc

/-! ## Words without a term -/

/-- The words that are nothing but marks. -/
def bareMarks : List Text :=
  [['='], ['^'], ['$'], ['^', '$'], ['=', '^'], ['=', '$'], ['=', '^', '$']]

section

variable {w v : Text} {fault : QueryFault}

theorem termOf_eq_error {kind : MatchKind} (h : termOf kind v = .error fault) :
    v = [] ∧ fault = .emptyTerm := by
  cases v with
  | nil => exact ⟨rfl, (Except.error.inj h).symm⟩
  | cons c v => cases h

/-- If the marks of an exact term are all there is, the word is one of a few. -/
theorem mem_bareMarks_of_exactValue (hne : w ≠ []) (h : exactValue w = []) : w ∈ bareMarks := by
  have hfirst : ∀ (c : Char) (t : Text),
      t = (Text.dropFirst? c t).getD t ∨ t = c :: (Text.dropFirst? c t).getD t := by
    intro c t
    by_cases hc : t.head? = some c
    · obtain ⟨t', rfl⟩ := Text.exists_of_head? hc
      exact .inr (by simp)
    · exact .inl (by simp [Text.dropFirst?_eq_none hc])
  have hlast : ∀ t : Text, (Text.dropLast? '$' t).getD t = [] → t = [] ∨ t = ['$'] := by
    intro t ht
    by_cases hc : t.getLast? = some '$'
    · obtain ⟨t', rfl⟩ := Text.exists_of_getLast? hc
      rw [Text.dropLast?_concat_self] at ht
      exact .inr (by simpa using ht)
    · rw [Text.dropLast?_eq_none hc] at ht
      exact .inl ht
  -- the marks are put back one after the other, the last one first
  have hcaret := hfirst '^' ((Text.dropFirst? '=' w).getD w)
  have hequals := hfirst '=' w
  have hmem : w ∈ [] :: bareMarks := by
    rcases hlast _ h with hdollar | hdollar <;> rw [hdollar] at hcaret <;>
      rcases hcaret with hcaret | hcaret <;> rw [hcaret] at hequals <;>
      rcases hequals with rfl | rfl <;> decide
  exact (List.mem_cons.1 hmem).resolve_left hne

/-- **A word without a term** is an exact one with a pattern mark, or it has no value. -/
theorem termOfWord_eq_error (hne : w ≠ []) (h : termOfWord w = .error fault) :
    fault = .exactWithWildcard ∧ ExactMarked w ∧ isPatterned w = true ∨
      fault = .emptyTerm ∧ w ∈ bareMarks := by
  cases shape w with
  | exact hmark =>
    rw [termOfWord_exact hmark] at h
    rcases hp : isPatterned w with _ | _
    · rw [hp] at h
      obtain ⟨hvalue, hfault⟩ := termOf_eq_error h
      exact .inr ⟨hfault, mem_bareMarks_of_exactValue hne hvalue⟩
    · rw [hp] at h
      exact .inl ⟨(Except.error.inj h).symm, hmark, rfl⟩
  | caret v heq hlast =>
    subst heq
    rw [termOfWord_caret hlast] at h
    obtain ⟨rfl, hfault⟩ := termOf_eq_error h
    exact .inr ⟨hfault, by decide⟩
  | dollar v heq hequals hcaret =>
    subst heq
    rw [termOfWord_dollar hequals hcaret] at h
    obtain ⟨rfl, hfault⟩ := termOf_eq_error h
    exact .inr ⟨hfault, by decide⟩
  | bare hequals hcaret hlast =>
    rw [termOfWord_bare hequals hcaret hlast] at h
    exact absurd (termOf_eq_error h).1 hne

end

end Reader

end SearchClause
