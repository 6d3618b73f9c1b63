import SearchClause.Proofs.Composition
import SearchClause.Proofs.Words

/-!
# Blanks that the reader skips

The reader skips blanks before every token, and normalizing drops them; but between two terms
normalizing writes a `+` in their place. It decides by the two characters around the blanks alone,
and a minus sign is a character that a word may end with. So `- a`, which the reader understands, is
normalized to `-+a`, which it does not. This is the only way in which a query that is read already
can be lost: `buildTree_iff_minusAttached`.

* **attached signs** — `Derives.laid`: where every minus sign stands right before its atom, layout
  drops the blanks of a query and writes nothing in their place;
* **detached signs** — `Derives.count_plus`: the tree of a query says how many plus signs it has, so
  a plus sign too many does not lead to the same tree.
-/

namespace SearchClause

open Text (Blanks EndsRun)

/-- A character that normalizing leaves as it is, outside quotes: no shell wildcard. -/
def IsLiteralChar (c : Char) : Prop :=
  c ≠ '*' ∧ c ≠ '?'

instance : DecidablePred IsLiteralChar :=
  fun _ => inferInstanceAs (Decidable (_ ∧ _))

/-- Outside quotes, no blanks stand between a minus sign and the start of a term. -/
def MinusAttached (s : Text) : Prop :=
  ∀ u b c v, s = u ++ '-' :: (b ++ c :: v) → Unquoted u → Blanks b → b ≠ [] → startsTerm c = false

/-! ## Places outside quotes -/

/-- At every place outside quotes, the text from there on is as it should be. -/
def Throughout (P : Text → Prop) (s : Text) : Prop :=
  ∀ u v, s = u ++ v → Unquoted u → P v

/-- What layout leaves alone at the start of a text: no shell wildcard stands there, and no minus
sign that blanks part from the start of a term. -/
structure Undisturbed (s : Text) : Prop where
  /-- the first character is literal -/
  literal : ∀ c v, s = c :: v → c ≠ '"' → IsLiteralChar c
  /-- a minus sign is attached -/
  attached : ∀ b c v, s = '-' :: (b ++ c :: v) → Blanks b → b ≠ [] → startsTerm c = false

section

variable {P : Text → Prop} {s x : Text}

theorem Throughout.here (h : Throughout P s) : P s :=
  h [] s rfl unquoted_nil

theorem unquoted_append (hx : Unquoted x) (hs : Unquoted s) : Unquoted (x ++ s) :=
  unquoted_append_iff.2 (iff_of_true hx hs)

theorem Throughout.suffix (h : Throughout P (x ++ s)) (hx : Unquoted x) : Throughout P s := by
  intro u v hs hu
  refine h (x ++ u) v ?_ (unquoted_append hx hu)
  rw [hs, List.append_assoc]

theorem unquoted_of_not_mem (hx : '"' ∉ x) : Unquoted x := by
  rw [Unquoted, List.count_eq_zero.2 hx]
  exact Even.zero

theorem unquoted_of_blanks {b : Text} (hb : Blanks b) : Unquoted b :=
  unquoted_of_not_mem (Grammar.quote_not_mem_blanks hb)

theorem unquoted_of_word {w : Text} (hw : ∀ c ∈ w, isWordChar c = true) : Unquoted w :=
  unquoted_of_not_mem fun hmem => absurd (hw _ hmem) (by decide)

/-- A character that is no quote may be passed, with blanks before it. -/
theorem Throughout.after_blanks {b : Text} {c : Char} (hb : Blanks b) (hc : c ≠ '"')
    (h : Throughout P (b ++ c :: s)) : Throughout P s := by
  have hassoc : b ++ c :: s = (b ++ [c]) ++ s := by simp
  rw [hassoc] at h
  exact h.suffix ((Grammar.unquoted_blanks_cons hb hc).2 unquoted_nil)

/-- The characters of a word are literal. -/
theorem Throughout.literal_word {w : Text} (h : Throughout Undisturbed (w ++ s))
    (hw : ∀ c ∈ w, isWordChar c = true) : ∀ c ∈ w, IsLiteralChar c := by
  intro c hc
  obtain ⟨w₁, w₂, rfl⟩ := List.append_of_mem hc
  have hquote : '"' ∉ w₁ := fun hmem => absurd (hw _ (List.mem_append_left _ hmem)) (by decide)
  have hne : c ≠ '"' := by
    rintro rfl
    exact absurd (hw _ hc) (by decide)
  rw [List.append_assoc] at h
  have hplace := h.suffix (unquoted_of_not_mem hquote)
  exact hplace.here.literal c (w₂ ++ s) rfl hne

theorem throughout_undisturbed (hclean : CleanOutside IsLiteralChar s) (hminus : MinusAttached s) :
    Throughout Undisturbed s := by
  intro u v hs hu
  refine ⟨fun c w hv hc => ?_, fun b c w hv hb hne => ?_⟩
  · exact hclean.chars u c w (hs.trans (congrArg (u ++ ·) hv)) hu hc
  · exact hminus u b c w (hs.trans (congrArg (u ++ ·) hv)) hu hb hne

end

/-! ## Layout of tokens -/

namespace Canonical

variable {c : Char} {b p s w : Text} {last : Option Char} {gap : Bool}

/-- **Blanks leave one trace at most**: that there were some, where a term could end. -/
theorem layFrom_blanks_append (hb : Blanks b) :
    layFrom (.outside last gap) (b ++ s) =
      layFrom (.outside last (gap || (!b.isEmpty && last.any endsTerm))) s := by
  induction b generalizing gap with
  | nil => simp
  | cons c b ih =>
    obtain ⟨hc, hb⟩ := List.forall_mem_cons.1 hb
    rw [List.cons_append, layFrom_blank hc, ih hb]
    cases last.any endsTerm with
    | true => simp
    | false => simp

/-- Where no term can end, blanks leave no trace. -/
theorem layFrom_blanks (hb : Blanks b) (hlast : last.any endsTerm = false) :
    layFrom (.outside last false) (b ++ s) = layFrom (.outside last false) s := by
  rw [layFrom_blanks_append hb, hlast, Bool.and_false, Bool.or_false]

/-- Without a gap a character is written alone. -/
theorem layFrom_char (hblank : isBlank c = false) (hc : IsLiteralChar c) :
    layFrom (.outside last false) (c :: s) = c :: layFrom (.after c) s := by
  rw [layFrom_written hblank, mapWildcard_eq_self hc.1 hc.2]
  rfl

/-- A character that ends a clause or a group starts no term, so it is written alone even behind a
gap. -/
theorem layFrom_separator (hb : Blanks b) (hc : c = '+' ∨ c = ',' ∨ c = ')') :
    layFrom (.outside last gap) (b ++ c :: s) = c :: layFrom (.outside (some c) false) s := by
  have hplain : isBlank c = false ∧ mapWildcard c = c ∧ startsTerm c = false ∧
      Place.after c = .outside (some c) false := by
    rcases hc with rfl | rfl | rfl
    · decide
    · decide
    · decide
  obtain ⟨hblank, hmap, hstart, hafter⟩ := hplain
  rw [layFrom_blanks_append hb, layFrom_written hblank, hmap, hstart, hafter, Bool.and_false]
  rfl

/-- An operator is written without the blanks around it, and layout starts afresh behind it. -/
theorem layFrom_operator {b' : Text} (hb : Blanks b) (hb' : Blanks b') (hc : c = '+' ∨ c = ',') :
    layFrom (.outside last gap) (b ++ c :: (b' ++ s)) = c :: layFrom (.outside none false) s := by
  have hends : (some c).any endsTerm = false := by
    rcases hc with rfl | rfl
    · decide
    · decide
  rw [layFrom_separator hb (by tauto), layFrom_blanks hb' hends, layFrom_fresh hends]

theorem layFrom_of_blanks (hb : Blanks b) : layFrom (.outside last gap) b = [] := by
  rw [← List.append_nil b, layFrom_blanks_append hb, layFrom]

/-- A phrase is written as it stands, with its closing quote. -/
theorem layFrom_phrase (hp : '"' ∉ p) :
    layFrom .quoted (p ++ '"' :: s) = p ++ '"' :: layFrom (.outside (some '"') false) s := by
  induction p with
  | nil => exact layFrom_quote
  | cons c p ih =>
    obtain ⟨hc, hp⟩ := List.ne_and_not_mem_of_not_mem_cons hp
    rw [List.cons_append, layFrom_quoted (Ne.symm hc), ih hp, List.cons_append]

theorem ne_quote_of_isWordChar (hc : isWordChar c = true) : c ≠ '"' := by
  rintro rfl
  exact absurd hc (by decide)

/-- A word is written as it stands, and a term can end after it. -/
theorem exists_layFrom_word (hne : w ≠ []) (hw : ∀ c ∈ w, isWordChar c = true)
    (hlit : ∀ c ∈ w, IsLiteralChar c) :
    ∃ d, endsTerm d = true ∧
      layFrom (.outside last false) (w ++ s) = w ++ layFrom (.outside (some d) false) s := by
  induction w generalizing last with
  | nil => exact absurd rfl hne
  | cons c w ih =>
    rw [List.forall_mem_cons] at hw hlit
    have hfirst : layFrom (.outside last false) (c :: (w ++ s)) =
        c :: layFrom (.outside (some c) false) (w ++ s) := by
      rw [layFrom_char (isBlank_of_isWordChar hw.1) hlit.1, Place.after,
        if_neg (ne_quote_of_isWordChar hw.1)]
    by_cases hnil : w = []
    · subst hnil
      exact ⟨c, by simp [endsTerm, hw.1], hfirst⟩
    · obtain ⟨d, hd, hrest⟩ := @ih (some c) hnil hw.2 hlit.2
      exact ⟨d, hd, hfirst.trans (congrArg _ hrest)⟩

/-- Behind a gap no word goes on: what starts a term is set off. -/
theorem endsRun_layFrom_gap : EndsRun isWordChar (layFrom (.outside last true) s) := by
  induction s with
  | nil =>
    rw [layFrom]
    exact Text.endsRun_nil
  | cons c s ih =>
    cases hblank : isBlank c with
    | true =>
      rw [layFrom_blank hblank]
      exact ih
    | false =>
      rw [layFrom_written hblank, Bool.true_and]
      cases hstart : startsTerm (mapWildcard c) with
      | true => exact Text.endsRun_cons.2 (by decide)
      | false =>
        refine Text.endsRun_cons.2 ?_
        simp only [startsTerm, Bool.or_eq_false_iff] at hstart
        exact hstart.1.1.1

/-- A word that is over is over after layout. -/
theorem endsRun_layFrom (hc : endsTerm c = true) (hs : EndsRun isWordChar s) :
    EndsRun isWordChar (layFrom (.outside (some c) false) s) := by
  cases s with
  | nil =>
    rw [layFrom]
    exact Text.endsRun_nil
  | cons d s =>
    have hd := Text.endsRun_cons.1 hs
    cases hblank : isBlank d with
    | true =>
      have hgap : (false || (some c).any endsTerm) = true := hc
      rw [layFrom_blank hblank, hgap]
      exact endsRun_layFrom_gap
    | false =>
      -- the shell wildcards are word characters, so `d` is none
      have hlit : IsLiteralChar d := by
        refine ⟨?_, ?_⟩
        · rintro rfl
          exact absurd hd (by decide)
        · rintro rfl
          exact absurd hd (by decide)
      rw [layFrom_char hblank hlit]
      exact Text.endsRun_cons.2 hd

end Canonical

/-! ## Attached signs -/

namespace Grammar

open Canonical

variable {part : Part} {s rest : Text} {t : Tree}

/-- What follows a part is the end of the text. -/
theorem Derives.isSuffix (h : Derives part s t rest) : rest <:+ s := by
  induction h with
  | first _ ih => exact ih
  | or _ _ _ ihl ihr =>
    exact ihr.trans ((List.suffix_cons _ _).trans ((List.suffix_append _ _).trans ihl))
  | single _ ih => exact ih
  | and _ _ _ ihl ihr =>
    exact ihr.trans ((List.suffix_cons _ _).trans ((List.suffix_append _ _).trans ihl))
  | @negated b c b' s t rest _ _ _ _ ih =>
    have hsign : s <:+ c :: (b' ++ s) := (List.suffix_append b' s).trans (List.suffix_cons c _)
    exact ih.trans (hsign.trans (List.suffix_append b _))
  | plain _ _ _ ih => exact ih.trans (List.suffix_append _ _)
  | @group s t b rest _ _ ih =>
    have hclose : rest <:+ b ++ ')' :: rest :=
      (List.suffix_cons ')' rest).trans (List.suffix_append b _)
    exact (hclose.trans ih).trans (List.suffix_cons '(' s)
  | @phrase marked p rest _ _ =>
    have hclose : rest <:+ p ++ '"' :: rest :=
      (List.suffix_cons '"' rest).trans (List.suffix_append p _)
    exact hclose.trans ((List.suffix_cons '"' _).trans (List.suffix_append (marker marked) _))
  | word _ _ _ _ => exact List.suffix_append _ _

/-- A part has no open quote, so what holds throughout a text holds throughout what follows. -/
theorem Derives.throughout {P : Text → Prop} (h : Derives part s t rest) (hs : Throughout P s) :
    Throughout P rest := by
  obtain ⟨x, rfl⟩ := h.isSuffix
  have heven := h.unquoted_iff
  rw [Unquoted, Unquoted, List.count_append, Nat.even_add] at heven
  refine hs.suffix ?_
  rw [Unquoted]
  tauto

/-- An atom starts a term. -/
theorem Derives.startsTerm_head {c : Char} {s' : Text} (h : Derives .atom (c :: s') t rest) :
    startsTerm c = true := by
  generalize hs : c :: s' = s at h
  cases h with
  | group _ _ =>
    obtain ⟨rfl, -⟩ := List.cons.inj hs
    decide
  | @phrase marked p _ _ _ =>
    cases marked with
    | false =>
      obtain ⟨rfl, -⟩ := List.cons.inj hs
      decide
    | true =>
      obtain ⟨rfl, -⟩ := List.cons.inj hs
      decide
  | @word w _ _ hne hw _ _ =>
    obtain ⟨d, w', rfl⟩ := List.exists_cons_of_ne_nil hne
    obtain ⟨rfl, -⟩ := List.cons.inj hs
    simp [startsTerm, hw c List.mem_cons_self]

/-- The first character of an atom is written alone. -/
theorem Derives.layFrom_head {c : Char} {s' : Text} (h : Derives .atom (c :: s') t rest)
    (hs : Throughout Undisturbed (c :: s')) (last : Option Char) :
    ∃ v, layFrom (.outside last false) (c :: s') = c :: v := by
  obtain ⟨d, s'', heq, hblank⟩ := h.atom_head
  obtain ⟨rfl, rfl⟩ := List.cons.inj heq
  have hlit : IsLiteralChar c := by
    by_cases hq : c = '"'
    · subst hq
      decide
    · exact hs.here.literal c s' rfl hq
  exact ⟨_, layFrom_char hblank hlit⟩

/-- Between a sign and its atom layout writes nothing: after a minus sign there are no blanks, and
after the other one no term can end. -/
theorem Derives.layFrom_sign {b : Text} {c : Char} (h : Derives .atom s t rest)
    (hc : c = '-' ∨ c = '!') (hb : Blanks b) (hs : Throughout Undisturbed (c :: (b ++ s))) :
    layFrom (.outside (some c) false) (b ++ s) = layFrom (.outside (some c) false) s := by
  rcases hc with rfl | rfl
  · obtain ⟨d, s', rfl, -⟩ := h.atom_head
    have hnil : b = [] := by
      by_contra hne
      have hstart := h.startsTerm_head
      rw [hs.here.attached b d s' rfl hb hne] at hstart
      cases hstart
    rw [hnil, List.nil_append]
  · exact layFrom_blanks hb (by decide)

/-- **Where minus signs are attached, layout keeps what is derived.** It may start behind a
character that a term can end with only before an atom: there that character is a sign. -/
theorem Derives.laid (h : Derives part s t rest) (hs : Throughout Undisturbed s)
    (last : Option Char) (hlast : part = .atom ∨ last.any endsTerm = false) :
    ∃ d, endsTerm d = true ∧ Derives part (layFrom (.outside last false) s) t
      (layFrom (.outside (some d) false) rest) := by
  induction h generalizing last with
  | first _ ih =>
    obtain ⟨d, hd, hder⟩ := ih hs last (.inr (hlast.resolve_left (by simp)))
    exact ⟨d, hd, .first hder⟩
  | @or s b s' left right rest hl hb _ ihl ihr =>
    obtain ⟨d, -, hleft⟩ := ihl hs last (.inr (hlast.resolve_left (by simp)))
    have hs' : Throughout Undisturbed s' := .after_blanks hb (by decide) (hl.throughout hs)
    obtain ⟨d', hd', hright⟩ := ihr hs' (some ',') (.inr (by decide))
    rw [layFrom_separator hb (by simp)] at hleft
    exact ⟨d', hd', .or (b := []) hleft Text.blanks_nil hright⟩
  | single _ ih =>
    obtain ⟨d, hd, hder⟩ := ih hs last (.inr (hlast.resolve_left (by simp)))
    exact ⟨d, hd, .single hder⟩
  | @and s b s' left right rest hl hb _ ihl ihr =>
    obtain ⟨d, -, hleft⟩ := ihl hs last (.inr (hlast.resolve_left (by simp)))
    have hs' : Throughout Undisturbed s' := .after_blanks hb (by decide) (hl.throughout hs)
    obtain ⟨d', hd', hright⟩ := ihr hs' (some '+') (.inr (by decide))
    rw [layFrom_separator hb (by simp)] at hleft
    exact ⟨d', hd', .and (b := []) hleft Text.blanks_nil hright⟩
  | @negated b c b' s t rest hb hc hb' hd ih =>
    have hfresh : last.any endsTerm = false := hlast.resolve_left (by simp)
    have hsign : isBlank c = false ∧ IsLiteralChar c ∧ c ≠ '"' := by
      rcases hc with rfl | rfl
      · decide
      · decide
    obtain ⟨hblank, hlit, hquote⟩ := hsign
    have hafter : Throughout Undisturbed (b' ++ s) := .after_blanks hb hquote hs
    have hatom : Throughout Undisturbed s := hafter.suffix (unquoted_of_blanks hb')
    obtain ⟨d, hend, hder⟩ := ih hatom (some c) (.inl rfl)
    refine ⟨d, hend, ?_⟩
    rw [layFrom_blanks hb hfresh, layFrom_char hblank hlit, Place.after, if_neg hquote,
      hd.layFrom_sign hc hb' (hs.suffix (unquoted_of_blanks hb))]
    exact .negated Text.blanks_nil hc Text.blanks_nil hder
  | @plain b c s t rest hb hc hd ih =>
    have hfresh : last.any endsTerm = false := hlast.resolve_left (by simp)
    have hatom : Throughout Undisturbed (c :: s) := hs.suffix (unquoted_of_blanks hb)
    obtain ⟨d, hend, hder⟩ := ih hatom last (.inl rfl)
    obtain ⟨v, hv⟩ := hd.layFrom_head hatom last
    refine ⟨d, hend, ?_⟩
    rw [layFrom_blanks hb hfresh]
    rw [hv] at hder ⊢
    exact .plain (b := []) Text.blanks_nil hc hder
  | @group s t b rest _ hb ih =>
    have hinner : Throughout Undisturbed s := .after_blanks (b := []) Text.blanks_nil (by decide) hs
    obtain ⟨d, -, hder⟩ := ih hinner none (.inr (by decide))
    rw [layFrom_separator hb (by simp)] at hder
    refine ⟨')', by decide, ?_⟩
    rw [layFrom_opening]
    exact .group (b := []) hder Text.blanks_nil
  | @phrase marked p rest hne hp =>
    have hquoted (last : Option Char) : layFrom (.outside last false) ('"' :: (p ++ '"' :: rest)) =
        '"' :: (p ++ '"' :: layFrom (.outside (some '"') false) rest) :=
      (layFrom_char (by decide) (by decide)).trans (congrArg _ (layFrom_phrase hp))
    refine ⟨'"', by decide, ?_⟩
    cases marked with
    | false =>
      have hlaid : layFrom (.outside last false) (marker false ++ '"' :: (p ++ '"' :: rest)) =
          marker false ++ '"' :: (p ++ '"' :: layFrom (.outside (some '"') false) rest) :=
        hquoted last
      rw [hlaid]
      exact .phrase hne hp
    | true =>
      have hlaid : layFrom (.outside last false) (marker true ++ '"' :: (p ++ '"' :: rest)) =
          marker true ++ '"' :: (p ++ '"' :: layFrom (.outside (some '"') false) rest) :=
        (layFrom_char (by decide) (by decide)).trans (congrArg _ (hquoted (some '=')))
      rw [hlaid]
      exact .phrase hne hp
  | @word w term rest hne hw hend hterm =>
    obtain ⟨d, hd, hlaid⟩ := exists_layFrom_word hne hw (hs.literal_word hw)
    refine ⟨d, hd, ?_⟩
    rw [hlaid]
    exact .word hne hw (endsRun_layFrom hd hend) hterm

theorem IsQuery.laid (h : IsQuery s t) (hs : Throughout Undisturbed s) :
    IsQuery (layFrom (.outside none false) s) t := by
  obtain ⟨b, hd, hb⟩ := h
  obtain ⟨d, -, hder⟩ := hd.laid hs none (.inr rfl)
  rw [layFrom_of_blanks hb] at hder
  exact ⟨[], hder, Text.blanks_nil⟩

end Grammar

/-! ## Detached signs -/

/-- The number of plus signs in a query with a tree: one for each conjunction, and those that are
searched for. -/
def Tree.plusSigns : Tree → Nat
  | leaf term => term.text.count '+'
  | not child => child.plusSigns
  | and left right => left.plusSigns + right.plusSigns + 1
  | or left right => left.plusSigns + right.plusSigns

namespace Grammar

variable {part : Part} {s rest : Text} {t : Tree}

theorem count_plus_blanks {b : Text} (hb : Blanks b) : b.count '+' = 0 :=
  List.count_eq_zero.2 fun hmem => absurd (hb _ hmem) (by decide)

/-- **The tree says how many plus signs there are.** -/
theorem Derives.count_plus (h : Derives part s t rest) :
    s.count '+' = t.plusSigns + rest.count '+' := by
  induction h with
  | first _ ih => exact ih
  | or _ hb _ ihl ihr =>
    rw [ihl, List.count_append, count_plus_blanks hb, List.count_cons_of_ne (by decide), ihr,
      Tree.plusSigns]
    omega
  | single _ ih => exact ih
  | and _ hb _ ihl ihr =>
    rw [ihl, List.count_append, count_plus_blanks hb, List.count_cons_self, ihr, Tree.plusSigns]
    omega
  | @negated b c b' s t rest hb hc hb' _ ih =>
    have hne : c ≠ '+' := by
      rcases hc with rfl | rfl
      · decide
      · decide
    rw [List.count_append, count_plus_blanks hb, List.count_cons_of_ne hne, List.count_append,
      count_plus_blanks hb', ih, Tree.plusSigns]
    omega
  | plain hb _ _ ih => rw [List.count_append, count_plus_blanks hb, ih, Nat.zero_add]
  | group _ hb ih =>
    rw [List.count_append, count_plus_blanks hb, List.count_cons_of_ne (by decide),
      Nat.zero_add] at ih
    rw [List.count_cons_of_ne (by decide), ih]
  | @phrase marked p rest _ _ =>
    have hmarker : (marker marked).count '+' = 0 := by
      cases marked with
      | false => rfl
      | true => rfl
    rw [List.count_append, hmarker, List.count_cons_of_ne (by decide), List.count_append,
      List.count_cons_of_ne (by decide), Tree.plusSigns, Nat.zero_add]
  | @word w term rest _ hw _ hterm =>
    have hword : '+' ∉ w := fun hmem => absurd (hw _ hmem) (by decide)
    have htext : '+' ∉ term.text := fun hmem => by
      rcases Reader.mem_of_termOfWord hterm hmem with hmem | heq
      · exact hword hmem
      · cases heq
    rw [List.count_append, List.count_eq_zero.2 hword, Tree.plusSigns, List.count_eq_zero.2 htext]

theorem IsQuery.count_plus (h : IsQuery s t) : s.count '+' = t.plusSigns := by
  obtain ⟨b, hd, hb⟩ := h
  rw [hd.count_plus, count_plus_blanks hb, Nat.add_zero]

end Grammar

namespace Canonical

variable {c : Char} {b s : Text} {last : Option Char} {gap : Bool}

theorem count_plus_put (place : Place) (c : Char) :
    [c].count '+' ≤ (place.put c).count '+' := by
  by_cases hplus : c = '+'
  · subst hplus
    cases place with
    | quoted => exact Nat.le_refl _
    | outside last gap => cases gap <;> exact Nat.le_refl _
  · rw [List.count_cons_of_ne hplus]
    exact Nat.zero_le _

/-- Layout drops no plus sign. -/
theorem count_plus_le_layFrom (place : Place) (s : Text) :
    s.count '+' ≤ (layFrom place s).count '+' := by
  induction s generalizing place with
  | nil => exact Nat.zero_le _
  | cons c s ih =>
    rw [layFrom_cons, List.count_append, ← List.singleton_append, List.count_append]
    exact Nat.add_le_add (count_plus_put place c) (ih _)

theorem isBlank_of_startsTerm (hc : startsTerm c = true) : isBlank c = false := by
  simp only [startsTerm, Bool.or_eq_true, beq_iff_eq] at hc
  rcases hc with ((hc | rfl) | rfl) | rfl
  · exact isBlank_of_isWordChar hc
  · decide
  · decide
  · decide

theorem startsTerm_mapWildcard (hc : startsTerm c = true) : startsTerm (mapWildcard c) = true :=
  mapWildcard_induction (P := (startsTerm · = true)) (by decide) (by decide) fun _ _ => hc

/-- Blanks after a character that a term can end with leave a gap. -/
theorem layFrom_leaves_gap (hb : Blanks b) (hne : b ≠ []) (hlast : last.any endsTerm = true) :
    layFrom (.outside last gap) (b ++ s) = layFrom (.outside last true) s := by
  have hempty : b.isEmpty = false := List.isEmpty_eq_false_iff.2 hne
  rw [layFrom_blanks_append hb, hempty, hlast, Bool.not_false, Bool.and_self, Bool.or_true]

/-- Before the start of a term a gap becomes a plus sign. -/
theorem count_plus_lt_layFrom_gap (hc : startsTerm c = true) :
    (c :: s).count '+' < (layFrom (.outside last true) (c :: s)).count '+' := by
  have hne : c ≠ '+' := by
    rintro rfl
    cases hc
  have hle := count_plus_le_layFrom (.after (mapWildcard c)) s
  rw [layFrom_written (isBlank_of_startsTerm hc), startsTerm_mapWildcard hc,
    List.count_cons_of_ne hne, List.count_append, List.count_cons]
  simp only [Bool.and_self, if_true, List.count_singleton_self]
  omega

/-- **A detached minus sign is followed by a plus sign after layout**, so there is one more. -/
theorem count_plus_lt_layFrom (last : Option Char) (gap : Bool) {u v : Text} (hu : Unquoted u)
    (hb : Blanks b) (hne : b ≠ []) (hc : startsTerm c = true) :
    (u ++ '-' :: (b ++ c :: v)).count '+' <
      (layFrom (.outside last gap) (u ++ '-' :: (b ++ c :: v))).count '+' := by
  obtain ⟨last', gap', hplace⟩ := exists_foldl_next_eq hu last gap
  have hbefore := count_plus_le_layFrom (.outside last gap) u
  have hafter : (c :: v).count '+' < (layFrom (.outside (some '-') true) (c :: v)).count '+' :=
    count_plus_lt_layFrom_gap hc
  have hminus : layFrom (.outside last' gap') ('-' :: (b ++ c :: v)) =
      (if gap' && true then ['+'] else []) ++
        '-' :: layFrom (.outside (some '-') false) (b ++ c :: v) :=
    layFrom_written (by decide)
  rw [layFrom_append, hplace, hminus, layFrom_leaves_gap hb hne (by decide)]
  simp only [List.count_append, List.count_cons_of_ne (show '-' ≠ '+' by decide),
    Grammar.count_plus_blanks hb]
  omega

end Canonical

/-! ## Queries that are read already -/

section

variable {s : Text} {t : Tree}

/-- Without keywords only layout is left of normalizing. -/
theorem normalize_eq_layFrom {allowed : Char → Prop} (h : CleanOutside allowed s) :
    normalize s = Canonical.layFrom (.outside none false) s := by
  rw [normalize, Canonical.foldKeywords,
    Canonical.foldFrom_eq_self (cleanOutside_iff.1 h) (by simp), List.nil_append]

/-- **A query that the reader understands is understood as it was typed exactly when its minus signs
are attached**, if it has no shell wildcard and no keyword outside quotes. -/
theorem buildTree_iff_minusAttached (h : parse none s = .ok t)
    (hclean : CleanOutside IsLiteralChar s) : buildTree none s = .ok t ↔ MinusAttached s := by
  have hquery : Grammar.IsQuery s t := by rwa [parse_eq_ok_iff_whole, Grammar.whole_eq_ok_iff] at h
  rw [buildTree_eq_ok_iff, normalize_eq_layFrom hclean]
  constructor
  · intro hlaid u b c v hs hu hb hne
    cases hc : startsTerm c with
    | false => rfl
    | true =>
      have hlt := Canonical.count_plus_lt_layFrom none false (v := v) hu hb hne hc
      rw [← hs, hquery.count_plus, hlaid.count_plus] at hlt
      exact absurd hlt (Nat.lt_irrefl _)
  · intro hminus
    exact hquery.laid (throughout_undisturbed hclean hminus)

/-- A minus sign at the end of a word, one before its word, and one between quotes; the blanks after
the other sign do no harm. -/
theorem buildTree_iff_minusAttached_signs :
    parse none " a- + ! (-b , \"- c\")" =
        .ok (.and (.leaf ⟨"%a-%", .contains⟩)
          (.not (.or (.not (.leaf ⟨"%b%", .contains⟩)) (.leaf ⟨"- c", .exact⟩)))) ∧
      CleanOutside IsLiteralChar " a- + ! (-b , \"- c\")" ∧
      buildTree none " a- + ! (-b , \"- c\")" =
        .ok (.and (.leaf ⟨"%a-%", .contains⟩)
          (.not (.or (.not (.leaf ⟨"%b%", .contains⟩)) (.leaf ⟨"- c", .exact⟩)))) ∧
      MinusAttached " a- + ! (-b , \"- c\")" := by
  have hparse : parse none " a- + ! (-b , \"- c\")" =
      .ok (.and (.leaf ⟨"%a-%", .contains⟩)
        (.not (.or (.not (.leaf ⟨"%b%", .contains⟩)) (.leaf ⟨"- c", .exact⟩)))) := by
    decide +kernel
  have hclean : CleanOutside IsLiteralChar " a- + ! (-b , \"- c\")" :=
    cleanOutside_iff.2 (by decide)
  have hbuild : buildTree none " a- + ! (-b , \"- c\")" =
      .ok (.and (.leaf ⟨"%a-%", .contains⟩)
        (.not (.or (.not (.leaf ⟨"%b%", .contains⟩)) (.leaf ⟨"- c", .exact⟩)))) := by
    decide +kernel
  exact ⟨hparse, hclean, hbuild, (buildTree_iff_minusAttached hparse hclean).1 hbuild⟩

/-- **Not every query that the reader understands is understood as it was typed.** Blanks after a
minus sign become an operator that has no term on its left. -/
theorem buildTree_ne_of_detached_minus :
    parse none "- a" = .ok (.not (.leaf ⟨"%a%", .contains⟩)) ∧
      CleanOutside IsLiteralChar "- a" ∧
      buildTree none "- a" = .error ⟨.emptyTerm, 1, "-+a"⟩ ∧
      buildTree none "- a" ≠ .ok (.not (.leaf ⟨"%a%", .contains⟩)) := by
  have hbuild : buildTree none "- a" = .error ⟨.emptyTerm, 1, "-+a"⟩ := by
    decide +kernel
  refine ⟨by decide +kernel, cleanOutside_iff.2 (by decide), hbuild, ?_⟩
  rw [hbuild]
  simp

end

end SearchClause
