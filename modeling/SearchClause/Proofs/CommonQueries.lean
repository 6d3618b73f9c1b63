import SearchClause.Proofs.FlatMeaning
import SearchClause.Proofs.FlatReading
import SearchClause.Proofs.Spacing
import SearchClause.Proofs.Writable

/-!
# Queries of both languages

A query that has no negation, no groups in parentheses and only plain words and marked phrases can
be typed in the full language and in the flat one. `IsCommonQuery` says which these are. Both
languages then ask for the same: the values are the same, and the fragments hold together.

* **typed** — `Typed` follows such a text through normalizing to the tree that is read. Between two
  terms layout leaves one operator, whatever blanks there were (`Lays.plus`, `Lays.comma`);
* **trees** — `exists_typed_query`: the tree is a disjunction of conjunctions, leaning to the left,
  and has the value of the groups;
* **flat** — the groups are what the flat reader finds, and its fragment has the same value.
-/

namespace SearchClause

open Grammar (Derives Part)
open Text (Blanks EndsRun)

/-! ## The common language -/

/-- A word of letters and numerals, none of whose maximal runs of letters is a keyword. -/
structure IsPlainWord (w : Text) : Prop where
  /-- there is something -/
  nonempty : w ≠ []
  /-- there are no marks -/
  chars : ∀ c ∈ w, isAlphabetic c = true ∨ isNumeric c = true
  /-- no word is an operator -/
  words : KeywordFree w

/-- The terms of both languages: a word, or an exact word or phrase. -/
inductive TermText : Text → FlatTerm → Prop where
  /-- a word that may occur anywhere -/
  | word {w} : IsPlainWord w → TermText w ⟨w, false⟩
  /-- an exact word -/
  | marked {w} : IsPlainWord w → TermText ('=' :: w) ⟨w, true⟩
  /-- an exact phrase -/
  | phrase {p} : IsPlainPhrase p → TermText ('=' :: '"' :: (p ++ ['"'])) ⟨p, true⟩

/-- A query of both languages: groups with commas between them, of terms with plus signs or blanks
between them. -/
def IsCommonQuery (q : Text) (groups : List (List FlatTerm)) : Prop :=
  Joined (Joined TermText IsPlus) IsComma q groups

variable {c : Char} {s s' w x : Text} {t : FlatTerm} {left right tree : Tree}

namespace IsPlainWord

theorem isWordChar (h : IsPlainWord w) : ∀ c ∈ w, isWordChar c = true := by
  intro c hc
  rcases h.chars c hc with hletter | hnumeral
  · simp [SearchClause.isWordChar, hletter]
  · simp [SearchClause.isWordChar, hnumeral]

/-- Marks are neither letters nor numerals. -/
theorem not_mem (h : IsPlainWord w) (hletter : isAlphabetic c = false)
    (hnumeral : isNumeric c = false) : c ∉ w := by
  intro hc
  rcases h.chars c hc with hc | hc
  · rw [hletter] at hc
    cases hc
  · rw [hnumeral] at hc
    cases hc

theorem trimmed (h : IsPlainWord w) : Text.Trimmed w :=
  ⟨h.nonempty, fun c hc => isBlank_of_isWordChar (h.isWordChar c (List.mem_of_mem_head? hc)),
    fun c hc => isBlank_of_isWordChar (h.isWordChar c (List.mem_of_getLast? hc))⟩

theorem clean (h : IsPlainWord w) : CleanOutside (fun _ => True) w :=
  (cleanOutside_iff_keywordFree (h.not_mem (by decide) (by decide))).2
    ⟨fun _ _ => trivial, h.words⟩

/-- No character of a word is one of some marks. -/
theorem not_mem_marks (h : IsPlainWord w) {marks : Text}
    (hmarks : marks.all (fun c => !isAlphabetic c && !isNumeric c) = true) :
    ∀ c ∈ w, c ∉ marks := by
  intro c hc hmark
  have hthis := List.all_eq_true.1 hmarks c hmark
  simp only [Bool.and_eq_true, Bool.not_eq_true'] at hthis
  exact h.not_mem hthis.1 hthis.2 hc

/-- Letters and numerals without a keyword are enough, and that can be decided. -/
theorem of_cleanFrom (hne : w ≠ []) (hall : w.all (fun c => isAlphabetic c || isNumeric c) = true)
    (hclean : CleanFrom (fun _ => True) false [] w) : IsPlainWord w := by
  have hquote : '"' ∉ w := fun hmem => absurd (List.all_eq_true.1 hall _ hmem) (by decide)
  refine ⟨hne, fun c hc => Bool.or_eq_true _ _ ▸ List.all_eq_true.1 hall c hc, ?_⟩
  exact ((cleanOutside_iff_keywordFree hquote).1 (cleanOutside_iff.2 hclean)).2

end IsPlainWord

/-! ## Terms of the flat language -/

theorem Flat.isPlain_of_isWordChar (hc : isWordChar c = true) : Flat.isPlain c = true := by
  have hquote : c ≠ '"' := Text.ne_of_class hc '"' (by decide)
  have hplus : c ≠ '+' := Text.ne_of_class hc '+' (by decide)
  have hcomma : c ≠ ',' := Text.ne_of_class hc ',' (by decide)
  simp [Flat.isPlain, hquote, hplus, hcomma, isBlank_of_isWordChar hc]

/-- **The terms of both languages are terms of the flat one.** -/
theorem TermText.spells (h : TermText s t) : Flat.Spells s t := by
  cases h with
  | word hw =>
    have hplain : ∀ c ∈ s, Flat.isPlain c = true := fun c hc =>
      Flat.isPlain_of_isWordChar (hw.isWordChar c hc)
    have hmark : s.head? ≠ some '=' := fun hhead =>
      hw.not_mem (c := '=') (by decide) (by decide) (List.mem_of_mem_head? hhead)
    exact ⟨fun rest hrest => Flat.term?_run hw.nonempty hplain hmark hrest, hw.trimmed, hw.trimmed,
      hw.not_mem (by decide) (by decide)⟩
  | @marked w hw =>
    have hplain : ∀ c ∈ w, Flat.isPlain c = true := fun c hc =>
      Flat.isPlain_of_isWordChar (hw.isWordChar c hc)
    have hcomma : ',' ∉ w := hw.not_mem (by decide) (by decide)
    refine ⟨fun rest hrest => Flat.term?_marked hw.nonempty hplain hrest, hw.trimmed, ?_, ?_⟩
    · refine ⟨List.cons_ne_nil _ _, Text.endsRun_cons.2 (by decide), fun c hc => ?_⟩
      refine hw.trimmed.last c ?_
      rwa [List.getLast?_cons_of_ne_nil hw.nonempty] at hc
    · simpa using hcomma
  | @phrase p hp =>
    have hquoted : Flat.Spells (FlatTerm.quoted ⟨p, true⟩) ⟨p, true⟩ := Flat.spells_quoted hp
    exact hquoted

/-! ## Layout of texts that are terms at both ends -/

namespace Canonical

variable {a b out rest : Text} {d : Char} {last : Option Char} {gap : Bool}

/-- A text is laid out as another one wherever a term may start, and a term can end after it. Behind
a gap it is set off by an operator. -/
def Lays (s out : Text) : Prop :=
  ∀ last gap rest, ∃ d, endsTerm d = true ∧
    layFrom (.outside last gap) (s ++ rest) =
      (if gap then ['+'] else []) ++ (out ++ layFrom (.outside (some d) false) rest)

/-- A gap before the start of a term becomes an operator. -/
theorem layFrom_gap (hstart : startsTerm c = true) (hlit : IsLiteralChar c) :
    layFrom (.outside last gap) (c :: rest) =
      (if gap then ['+'] else []) ++ layFrom (.outside last false) (c :: rest) := by
  have hblank := isBlank_of_startsTerm hstart
  rw [layFrom_written hblank, layFrom_written hblank, mapWildcard_eq_self hlit.1 hlit.2, hstart,
    Bool.and_true]
  rfl

theorem isLiteralChar_of_plain (h : IsPlainWord w) : ∀ c ∈ w, IsLiteralChar c := by
  intro c hc
  refine ⟨?_, ?_⟩
  · rintro rfl
    exact h.not_mem (by decide) (by decide) hc
  · rintro rfl
    exact h.not_mem (by decide) (by decide) hc

/-- A run of literal word characters is laid out as it stands. -/
theorem lays_word (hne : w ≠ []) (hw : ∀ c ∈ w, isWordChar c = true)
    (hlit : ∀ c ∈ w, IsLiteralChar c) : Lays w w := by
  intro last gap rest
  obtain ⟨d, hd, hlay⟩ : ∃ d, endsTerm d = true ∧
      layFrom (.outside last false) (w ++ rest) = w ++ layFrom (.outside (some d) false) rest :=
    exists_layFrom_word hne hw hlit
  refine ⟨d, hd, ?_⟩
  obtain ⟨c, v, rfl⟩ := List.exists_cons_of_ne_nil hne
  have hstart : startsTerm c = true := by simp [startsTerm, hw c List.mem_cons_self]
  rw [List.cons_append, layFrom_gap hstart (hlit c List.mem_cons_self)]
  exact congrArg _ hlay

theorem lays_phrase {p : Text} (hp : '"' ∉ p) :
    Lays ('=' :: '"' :: (p ++ ['"'])) ('=' :: '"' :: (p ++ ['"'])) := by
  intro last gap rest
  refine ⟨'"', by decide, ?_⟩
  have hassoc : '=' :: '"' :: (p ++ ['"']) ++ rest = '=' :: '"' :: (p ++ '"' :: rest) := by simp
  have hmark : layFrom (.outside last false) ('=' :: '"' :: (p ++ '"' :: rest)) =
      '=' :: layFrom (.outside (some '=') false) ('"' :: (p ++ '"' :: rest)) :=
    layFrom_char (by decide) (by decide)
  have hquote : layFrom (.outside (some '=') false) ('"' :: (p ++ '"' :: rest)) =
      '"' :: layFrom .quoted (p ++ '"' :: rest) :=
    layFrom_char (by decide) (by decide)
  rw [hassoc, layFrom_gap (by decide) (by decide), hmark, hquote, layFrom_phrase hp]
  simp

/-- What is between two terms is laid out as one operator: it is written at once, or the gap that is
left becomes one. -/
theorem Lays.join (hs : Lays s a) (hs' : Lays s' b)
    (hx : ∀ d rest, endsTerm d = true → ∃ done last gap,
      layFrom (.outside (some d) false) (x ++ rest) = done ++ layFrom (.outside last gap) rest ∧
        done ++ (if gap then ['+'] else []) = [c]) :
    Lays (s ++ (x ++ s')) (a ++ c :: b) := by
  intro last gap rest
  obtain ⟨d, hd, hfirst⟩ := hs last gap (x ++ (s' ++ rest))
  obtain ⟨done, last', gap', hsep, hoperator⟩ := hx d (s' ++ rest) hd
  obtain ⟨d', hd', hsecond⟩ := hs' last' gap' rest
  refine ⟨d', hd', ?_⟩
  rw [List.append_assoc, List.append_assoc, hfirst, hsep, hsecond, ← List.append_assoc done,
    hoperator, List.append_assoc a]
  rfl

/-- An operator with blanks around it is laid out alone. -/
theorem Lays.operator {b₁ b₂ : Text} (hs : Lays s a) (hs' : Lays s' b) (hb₁ : Blanks b₁)
    (hb₂ : Blanks b₂) (hc : c = '+' ∨ c = ',') :
    Lays (s ++ (b₁ ++ c :: b₂ ++ s')) (a ++ c :: b) := by
  refine hs.join hs' fun d rest _ => ⟨[c], none, false, ?_, rfl⟩
  rw [List.append_assoc, List.cons_append, layFrom_operator hb₁ hb₂ hc]
  rfl

theorem Lays.plus (hs : Lays s a) (hx : IsPlus x) (hs' : Lays s' b) :
    Lays (s ++ (x ++ s')) (a ++ '+' :: b) := by
  rcases hx with ⟨b₁, b₂, hb₁, hb₂, rfl⟩ | ⟨hne, hblanks⟩
  · exact hs.operator hs' hb₁ hb₂ (.inl rfl)
  · refine hs.join hs' fun d rest hd => ⟨[], some d, true, ?_, rfl⟩
    exact layFrom_leaves_gap hblanks hne hd

theorem Lays.comma (hs : Lays s a) (hx : IsComma x) (hs' : Lays s' b) :
    Lays (s ++ (x ++ s')) (a ++ ',' :: b) := by
  obtain ⟨b₁, b₂, hb₁, hb₂, rfl⟩ := hx
  exact hs.operator hs' hb₁ hb₂ (.inr rfl)

theorem Lays.layFrom_eq (h : Lays s out) : layFrom (.outside none false) s = out := by
  obtain ⟨d, -, hlay⟩ := h none false []
  rwa [List.append_nil, layFrom, List.append_nil] at hlay

end Canonical

/-! ## Typed texts -/

/-- A text that is typed for a part of a query: it has no keywords, and what is left of it after
layout is that part with a tree. -/
structure Typed (part : Part) (s : Text) (tree : Tree) : Prop where
  /-- it closes its quotes -/
  unquoted : Unquoted s
  /-- it has no keywords -/
  clean : CleanOutside (fun _ => True) s
  /-- what is laid out is the part -/
  derived : ∃ out, Canonical.Lays s out ∧ Derives part out tree []

/-- A separator has no letters and no quotes, and there is one. -/
structure Separates (x : Text) : Prop where
  /-- there is something -/
  nonempty : x ≠ []
  /-- it ends a word and starts none -/
  chars : ∀ c ∈ x, c ≠ '"' ∧ isAlphabetic c = false

theorem separates_of_blanks {b : Text} (hb : Blanks b) :
    ∀ c ∈ b, c ≠ '"' ∧ isAlphabetic c = false := fun c hc =>
  ⟨Flat.ne_quote_of_isBlank (hb c hc), not_isAlphabetic_of_isBlank (hb c hc)⟩

theorem separates_operator {b b' : Text} (hb : Blanks b) (hb' : Blanks b')
    (hc : c ≠ '"' ∧ isAlphabetic c = false) : Separates (b ++ c :: b') := by
  refine ⟨by simp, List.forall_mem_append.2 ⟨separates_of_blanks hb, ?_⟩⟩
  exact List.forall_mem_cons.2 ⟨hc, separates_of_blanks hb'⟩

theorem IsPlus.separates (h : IsPlus x) : Separates x := by
  rcases h with ⟨b, b', hb, hb', rfl⟩ | ⟨hne, hblanks⟩
  · exact separates_operator hb hb' (by decide)
  · exact ⟨hne, separates_of_blanks hblanks⟩

theorem IsComma.separates (h : IsComma x) : Separates x := by
  obtain ⟨b, b', hb, hb', rfl⟩ := h
  exact separates_operator hb hb' (by decide)

theorem Separates.unquoted (h : Separates x) : Unquoted x :=
  unquoted_of_not_mem fun hmem => (h.chars _ hmem).1 rfl

theorem Separates.clean (h : Separates x) (hs : Unquoted s)
    (hclean : CleanOutside (fun _ => True) s) (hclean' : CleanOutside (fun _ => True) s') :
    CleanOutside (fun _ => True) (s ++ (x ++ s')) := by
  have hends : EndsRun isAlphabetic (x ++ s') := by
    obtain ⟨c, x', rfl⟩ := List.exists_cons_of_ne_nil h.nonempty
    exact Text.endsRun_cons.2 (h.chars c List.mem_cons_self).2
  refine (cleanOutside_append hs hends).2 ⟨hclean, ?_⟩
  exact (cleanOutside_append_left h.chars).2 ⟨fun _ _ => trivial, hclean'⟩

namespace Typed

/-- Two typed texts with a separator between them, which layout makes an operator. -/
theorem join {p p' : Part} (hl : Typed p s left) (hr : Typed p' s' right) (hx : Separates x)
    (hc : isWordChar c = false)
    (hlays : ∀ a b, Canonical.Lays s a → Canonical.Lays s' b →
      Canonical.Lays (s ++ (x ++ s')) (a ++ c :: b))
    (hder : ∀ a b, Derives p a left (c :: b) → Derives p' b right [] → Derives p a tree []) :
    Typed p (s ++ (x ++ s')) tree := by
  obtain ⟨a, hlays₁, hleft⟩ := hl.derived
  obtain ⟨b, hlays₂, hright⟩ := hr.derived
  refine ⟨unquoted_append hl.unquoted (unquoted_append hx.unquoted hr.unquoted),
    hx.clean hl.unquoted hl.clean hr.clean, a ++ c :: b, hlays a b hlays₁ hlays₂, ?_⟩
  exact hder _ b (hleft.append (Text.endsRun_cons.2 hc)) hright

theorem and (hl : Typed .clause s left) (hx : IsPlus x) (hr : Typed .factor s' right) :
    Typed .clause (s ++ (x ++ s')) (.and left right) := by
  refine hl.join hr hx.separates (c := '+') (by decide) (fun a b ha hb => ha.plus hx hb) ?_
  intro a b hleft hright
  exact .and (b := []) hleft Text.blanks_nil hright

theorem or (hl : Typed .query s left) (hx : IsComma x) (hr : Typed .clause s' right) :
    Typed .query (s ++ (x ++ s')) (.or left right) := by
  refine hl.join hr hx.separates (c := ',') (by decide) (fun a b ha hb => ha.comma hx hb) ?_
  intro a b hleft hright
  exact .or (b := []) hleft Text.blanks_nil hright

theorem single (h : Typed .factor s tree) : Typed .clause s tree := by
  obtain ⟨out, hlays, hder⟩ := h.derived
  exact ⟨h.unquoted, h.clean, out, hlays, .single hder⟩

theorem first (h : Typed .clause s tree) : Typed .query s tree := by
  obtain ⟨out, hlays, hder⟩ := h.derived
  exact ⟨h.unquoted, h.clean, out, hlays, .first hder⟩

/-- **A typed query is built.** -/
theorem buildTree_eq (h : Typed .query s tree) : buildTree none s = .ok tree := by
  obtain ⟨out, hlays, hder⟩ := h.derived
  rw [buildTree_eq_ok_iff, normalize_eq_layFrom h.clean, hlays.layFrom_eq]
  exact ⟨[], hder, Text.blanks_nil⟩

/-- A word that is read as a term, and starts with no sign. -/
theorem of_word {term : Term} (hne : w ≠ []) (hw : ∀ c ∈ w, isWordChar c = true)
    (hlit : ∀ c ∈ w, IsLiteralChar c) (hclean : CleanOutside (fun _ => True) w)
    (hsign : w.head? ≠ some '-') (hterm : Reader.termOfWord w = .ok term) :
    Typed .factor w (.leaf term) := by
  refine ⟨unquoted_of_word hw, hclean, w, Canonical.lays_word hne hw hlit, ?_⟩
  have hatom := Derives.word hne hw (Text.endsRun_nil (p := isWordChar)) hterm
  rw [List.append_nil] at hatom
  obtain ⟨c, v, rfl⟩ := List.exists_cons_of_ne_nil hne
  refine .plain (b := []) Text.blanks_nil ?_ hatom
  rintro (rfl | rfl)
  · exact hsign rfl
  · exact absurd (hw '!' List.mem_cons_self) (by decide)

end Typed

/-! ## Trees of groups -/

/-- The leaf for a term of the flat language. -/
def FlatTerm.leaf (t : FlatTerm) : Term :=
  Term.ofValue (if t.exact then .exact else .contains) t.value

theorem FlatTerm.text_leaf (t : FlatTerm) : t.leaf.text = Flat.argument t := by
  obtain ⟨value, _ | _⟩ := t
  · rfl
  · rfl

theorem TermText.typed (h : TermText s t) : Typed .factor s (.leaf t.leaf) := by
  cases h with
  | word hw =>
    have hnone (c : Char) (hletter : isAlphabetic c = false) (hnumeral : isNumeric c = false) :
        c ∉ s := hw.not_mem hletter hnumeral
    have hpattern : Reader.isPatterned s = false := by
      rw [← Bool.not_eq_true, Reader.isPatterned_iff]
      rintro ⟨c, hc, hmark⟩
      exact hw.not_mem_marks (by decide) c hc hmark
    have hhead (d : Char) (hd : d ∉ s) : s.head? ≠ some d := fun h =>
      hd (List.mem_of_mem_head? h)
    refine .of_word hw.nonempty hw.isWordChar (Canonical.isLiteralChar_of_plain hw) hw.clean
      (hhead '-' (hnone '-' (by decide) (by decide))) ?_
    rw [Reader.termOfWord_bare (hhead '=' (hnone '=' (by decide) (by decide)))
      (hhead '^' (hnone '^' (by decide) (by decide)))
      (fun h => hnone '$' (by decide) (by decide) (List.mem_of_getLast? h)),
      Reader.termOf_eq_ok_iff, Reader.kindOr, hpattern]
    exact ⟨hw.nonempty, rfl⟩
  | @marked w hw =>
    have hbare : isBareValue w = true :=
      RoundTrip.isBareValue_iff.2 ⟨hw.nonempty, hw.isWordChar, hw.not_mem_marks (by decide)⟩
    refine .of_word (List.cons_ne_nil _ _) (List.forall_mem_cons.2 ⟨by decide, hw.isWordChar⟩)
      (List.forall_mem_cons.2 ⟨by decide, Canonical.isLiteralChar_of_plain hw⟩) ?_ (by simp)
      (RoundTrip.termOfWord_marked hbare)
    exact (cleanOutside_cons (by decide) (by decide)).2 ⟨trivial, hw.clean⟩
  | @phrase p hp =>
    refine ⟨?_, ?_, _, Canonical.lays_phrase hp.unquoted, ?_⟩
    · rw [unquoted_cons (by decide), unquoted_cons_quote, unquoted_concat_quote, not_not]
      exact unquoted_of_not_mem hp.unquoted
    · refine (cleanOutside_cons (by decide) (by decide)).2 ⟨trivial, ?_⟩
      exact (cleanOutside_phrase hp.unquoted).2 cleanOutside_nil
    · have hatom : Derives .atom (Grammar.marker true ++ '"' :: (p ++ ['"']))
          (.leaf ⟨p, .exact⟩) [] := .phrase hp.nonempty hp.unquoted
      exact .plain (b := []) Text.blanks_nil (by decide) hatom

/-- A tree that asks for all of some terms: it has their values, and holds when they do. -/
structure Conjoins (tree : Tree) (terms : List FlatTerm) : Prop where
  /-- the leaves have the values of the terms -/
  texts : tree.leaves.map Term.text = terms.map Flat.argument
  /-- the tree holds when all leaves do -/
  value : ∀ holds first, tree.valueFrom holds first = Flat.allHold holds first terms.length

/-- A tree that asks for one of some groups. -/
structure Disjoins (tree : Tree) (groups : List (List FlatTerm)) : Prop where
  /-- the leaves have the values of the terms -/
  texts : tree.leaves.map Term.text = groups.flatten.map Flat.argument
  /-- the tree holds when all leaves of a group do -/
  value : ∀ holds first, tree.valueFrom holds first = Flat.value holds first groups

/-- A tree with the values of some terms has as many leaves. -/
theorem leafCount_of_texts {terms : List FlatTerm}
    (h : tree.leaves.map Term.text = terms.map Flat.argument) : tree.leafCount = terms.length := by
  have hlength := congrArg List.length h
  rwa [List.length_map, List.length_map, Tree.length_leaves] at hlength

/-- **A group is typed for a conjunction.** -/
theorem exists_typed_group {terms : List FlatTerm} (h : Joined TermText IsPlus s terms) :
    ∃ tree, Typed .clause s tree ∧ Conjoins tree terms := by
  induction h with
  | @single s t hs =>
    refine ⟨_, hs.typed.single, ?_, fun holds first => ?_⟩
    · simp [Tree.leaves, t.text_leaf]
    · simp [Tree.valueFrom, Flat.allHold]
  | @more s ts x s' t _ hx hs' ih =>
    obtain ⟨tree, htyped, hconj⟩ := ih
    refine ⟨_, htyped.and hx hs'.typed, ?_, fun holds first => ?_⟩
    · simp [Tree.leaves, hconj.texts, t.text_leaf]
    · rw [Tree.valueFrom, hconj.value, leafCount_of_texts hconj.texts, List.length_append,
        List.length_singleton, Flat.allHold_concat]
      rfl

/-- **A query of both languages is typed for a disjunction of conjunctions.** -/
theorem exists_typed_query {groups : List (List FlatTerm)} (h : IsCommonQuery s groups) :
    ∃ tree, Typed .query s tree ∧ Disjoins tree groups := by
  unfold IsCommonQuery at h
  induction h with
  | single hs =>
    obtain ⟨tree, htyped, hconj⟩ := exists_typed_group hs
    refine ⟨tree, htyped.first, ?_, fun holds first => ?_⟩
    · simp [hconj.texts]
    · simp [hconj.value, Flat.value]
  | @more s gs x s' ts _ hx hs' ih =>
    obtain ⟨left, hleft, hdisj⟩ := ih
    obtain ⟨right, hright, hconj⟩ := exists_typed_group hs'
    refine ⟨_, hleft.or hx hright, ?_, fun holds first => ?_⟩
    · simp [Tree.leaves, hdisj.texts, hconj.texts]
    · rw [Tree.valueFrom, hdisj.value, hconj.value, leafCount_of_texts hdisj.texts,
        Flat.value_concat]

theorem IsCommonQuery.groups_eq {groups : List (List FlatTerm)} (h : IsCommonQuery s groups) :
    Flat.groups s = groups := by
  refine Flat.groups_joined (h.mono fun s terms hs => ?_)
  exact hs.mono fun s t hs => hs.spells

theorem IsCommonQuery.groups_nonempty {groups : List (List FlatTerm)}
    (h : IsCommonQuery s groups) : ∀ group ∈ groups, group ≠ [] := by
  rw [← h.groups_eq]
  intro group hgroup
  have hkept := (List.mem_filter.1 hgroup).2
  simpa using hkept

/-! ## Agreement -/

/-- The rule that leaves bare numbered placeholders. -/
def bareTemplate : Template :=
  ⟨[], [], .numbered⟩

/-- **The full and the flat language agree on their common queries.** Such a query is built, its
values are those of the flat query, and the two fragments are conditions that have the same value
for all values of the placeholders. -/
theorem buildQuery_agrees_flat {q : Text} {groups : List (List FlatTerm)}
    (h : IsCommonQuery q groups) :
    ∃ c, buildQuery (fun index _ _ => ParamStyle.numbered.placeholder index) q = .ok c ∧
      c.args = (Flat.compile (fun placeholder _ => placeholder) q).args ∧
      c.args = groups.flatten.map Flat.argument ∧
      ∃ full flat, Condition.read c.fragment = some full ∧
        Condition.read (Flat.compile (fun placeholder _ => placeholder) q).fragment = some flat ∧
        ∀ ρ : Condition.Valuation, full.value ρ 0 = flat.value ρ 0 := by
  have hplain : bareTemplate.Plain := by decide
  obtain ⟨tree, htyped, hdisj⟩ := exists_typed_query h
  have hgroups := h.groups_eq
  have hargs : (tree.compile bareTemplate.renderer).args = groups.flatten.map Flat.argument := by
    rw [Tree.args_compile, hdisj.texts]
  refine ⟨tree.compile bareTemplate.renderer, ?_, ?_, hargs, ?_⟩
  · rw [buildQuery, htyped.buildTree_eq]
    rfl
  · rw [hargs, Flat.compile_eq, hgroups]
  · obtain ⟨full, hfull, -, hfullValue⟩ := tree.means_fragment hplain 0 false
    obtain ⟨flat, hflat, -, hflatValue⟩ :=
      Flat.means_fragment hplain rfl h.ne_nil h.groups_nonempty
    refine ⟨full, flat, ?_, ?_, fun ρ => ?_⟩
    · rw [Tree.fragment_compile]
      exact hfull.read_eq
    · rw [Flat.compile_eq, hgroups]
      exact hflat.read_eq
    · rw [Nat.zero_mul] at hfullValue
      rw [hfullValue, hflatValue]
      exact hdisj.value _ _

/-- Blanks of several kinds, a word that ends like a keyword, and a keyword in a phrase. -/
theorem buildQuery_agrees_flat_twoGroups :
    IsCommonQuery "Foo2 =Bar\t,=\"A AND b\"+ FLOOR"
        [[⟨"Foo2", false⟩, ⟨"Bar", true⟩], [⟨"A AND b", true⟩, ⟨"FLOOR", false⟩]] ∧
      ∃ c, buildQuery (fun index _ _ => ParamStyle.numbered.placeholder index)
          "Foo2 =Bar\t,=\"A AND b\"+ FLOOR" = .ok c ∧
        c.args = ["%Foo2%".toList, "Bar".toList, "A AND b".toList, "%FLOOR%".toList] ∧
        ∃ full flat, Condition.read c.fragment = some full ∧
          Condition.read (Flat.compile (fun placeholder _ => placeholder)
            "Foo2 =Bar\t,=\"A AND b\"+ FLOOR").fragment = some flat ∧
          ∀ ρ : Condition.Valuation, full.value ρ 0 = flat.value ρ 0 := by
  have hphrase : IsPlainPhrase "A AND b" :=
    { nonempty := by decide
      first := Text.endsRun_cons.2 (by decide)
      last := fun c hc => by
        obtain rfl : 'b' = c := by simpa using hc
        decide
      unquoted := by decide
      uncut := by decide }
  have hfoo : IsPlainWord "Foo2" := .of_cleanFrom (by decide) (by decide) (by decide)
  have hbar : IsPlainWord "Bar" := .of_cleanFrom (by decide) (by decide) (by decide)
  have hfloor : IsPlainWord "FLOOR" := .of_cleanFrom (by decide) (by decide) (by decide)
  have hblank : Blanks [' '] := fun c hc => by
    obtain rfl := List.mem_singleton.1 hc
    decide
  have htab : Blanks ['\t'] := fun c hc => by
    obtain rfl := List.mem_singleton.1 hc
    decide
  have hfirst : Joined TermText IsPlus ("Foo2".toList ++ ([' '] ++ '=' :: "Bar".toList))
      ([⟨"Foo2", false⟩] ++ [⟨"Bar", true⟩]) :=
    .more (.single (.word hfoo)) (.inr ⟨List.cons_ne_nil _ _, hblank⟩) (.marked hbar)
  have hsecond : Joined TermText IsPlus
      ('=' :: '"' :: ("A AND b".toList ++ ['"']) ++ ('+' :: [' '] ++ "FLOOR".toList))
      ([⟨"A AND b", true⟩] ++ [⟨"FLOOR", false⟩]) :=
    .more (.single (.phrase hphrase)) (.inl ⟨[], [' '], Text.blanks_nil, hblank, rfl⟩)
      (.word hfloor)
  have hcomma : IsComma ['\t', ','] := ⟨['\t'], [], htab, Text.blanks_nil, rfl⟩
  have hcommon : IsCommonQuery "Foo2 =Bar\t,=\"A AND b\"+ FLOOR"
      [[⟨"Foo2", false⟩, ⟨"Bar", true⟩], [⟨"A AND b", true⟩, ⟨"FLOOR", false⟩]] :=
    .more (.single hfirst) hcomma hsecond
  obtain ⟨c, hbuilt, -, hargs, hsame⟩ := buildQuery_agrees_flat hcommon
  exact ⟨hcommon, c, hbuilt, hargs, hsame⟩

end SearchClause
