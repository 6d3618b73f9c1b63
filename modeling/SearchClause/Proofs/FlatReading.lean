import SearchClause.Clause.Flat
import SearchClause.Proofs.Words

/-!
# How flat queries are read

A flat query is cut at its commas, and each piece is scanned for terms. `Joined` says that a text is
made of items with separators between them. A text of groups of terms is read as these groups, if
every term is one that the scanner takes whole (`groups_joined`):

* **terms** — `scan_joined`: the scanner takes term after term and passes over what is between them.
  Every plain phrase is a term between quotes (`spells_quoted`);
* **groups** — `groups_append_comma`: a comma parts what is read on either side. Blanks next to it
  belong to the pieces and are trimmed off.
-/

namespace SearchClause

open Text (Blanks EndsRun StartsRun)

/-- A text made of one or more items with separators between them. -/
inductive Joined {α : Type} (item : Text → α → Prop) (separator : Text → Prop) :
    Text → List α → Prop where
  /-- the first item -/
  | single {s a} : item s a → Joined item separator s [a]
  /-- one more item -/
  | more {s as x s' a} : Joined item separator s as → separator x → item s' a →
      Joined item separator (s ++ (x ++ s')) (as ++ [a])

/-- What may stand between two factors: a plus sign with blanks around it, or blanks alone. -/
def IsPlus (x : Text) : Prop :=
  (∃ b b', Blanks b ∧ Blanks b' ∧ x = b ++ '+' :: b') ∨ x ≠ [] ∧ Blanks x

/-- What may stand between two alternatives: a comma with blanks around it. -/
def IsComma (x : Text) : Prop :=
  ∃ b b', Blanks b ∧ Blanks b' ∧ x = b ++ ',' :: b'

theorem Joined.mono {α : Type} {item item' : Text → α → Prop} {separator : Text → Prop} {s : Text}
    {as : List α} (hitem : ∀ s a, item s a → item' s a) (h : Joined item separator s as) :
    Joined item' separator s as := by
  induction h with
  | single hs => exact .single (hitem _ _ hs)
  | more _ hx hs' ih => exact .more ih hx (hitem _ _ hs')

/-- One more item in front. -/
theorem Joined.cons {α : Type} {item : Text → α → Prop} {separator : Text → Prop} {s x s' : Text}
    {a : α} {as : List α} (ha : item s a) (hx : separator x) (h : Joined item separator s' as) :
    Joined item separator (s ++ (x ++ s')) (a :: as) := by
  induction h with
  | single hs => exact .more (.single ha) hx hs
  | more _ hy hs ih =>
    rw [← List.append_assoc x, ← List.append_assoc s]
    exact .more ih hy hs

theorem Joined.ne_nil {α : Type} {item : Text → α → Prop} {separator : Text → Prop} {s : Text}
    {as : List α} (h : Joined item separator s as) : as ≠ [] := by
  cases h with
  | single _ => exact List.cons_ne_nil _ _
  | more _ _ _ => exact List.append_ne_nil_of_right_ne_nil _ (List.cons_ne_nil _ _)

/-! ## Texts with nothing to trim -/

namespace Text

variable {b b' s t x : Text}

/-- A text that is not empty and has no blank at its ends. -/
structure Trimmed (s : Text) : Prop where
  /-- there is something -/
  nonempty : s ≠ []
  /-- no blank comes first -/
  first : EndsRun isBlank s
  /-- no blank comes last -/
  last : StartsRun isBlank s

/-- **Trimming takes off the blanks around a text.** -/
theorem Trimmed.trim_eq (h : Trimmed s) (hb : Blanks b) (hb' : Blanks b') :
    trim (b ++ (s ++ b')) = s := by
  obtain ⟨c, w, rfl⟩ := List.exists_cons_of_ne_nil h.nonempty
  have hstart : skipBlanks (b ++ (c :: w ++ b')) = c :: w ++ b' :=
    skipBlanks_blanks_cons hb (endsRun_cons.1 h.first)
  have hreverse : Blanks b'.reverse := fun d hd => hb' d (List.mem_reverse.1 hd)
  have hend : skipBlanks (c :: w).reverse = (c :: w).reverse := by
    refine dropWhile_of_endsRun fun d hd => h.last d ?_
    rwa [List.head?_reverse] at hd
  rw [trim, hstart, List.reverse_append, skipBlanks_append hreverse, hend, List.reverse_reverse]

theorem Trimmed.trim_self (h : Trimmed s) : trim s = s := by
  have htrim := h.trim_eq blanks_nil blanks_nil
  rwa [List.nil_append, List.append_nil] at htrim

/-- Only the ends count. -/
theorem Trimmed.append (hs : Trimmed s) (ht : Trimmed t) : Trimmed (s ++ (x ++ t)) := by
  refine ⟨List.append_ne_nil_of_left_ne_nil hs.nonempty _, fun c hc => hs.first c ?_,
    fun c hc => ht.last c ?_⟩
  · rwa [List.head?_append_of_ne_nil _ hs.nonempty] at hc
  · rwa [← List.append_assoc, List.getLast?_append_of_ne_nil _ ht.nonempty] at hc

end Text

/-- A phrase that trimming and cutting leave alone. -/
structure IsPlainPhrase (p : Text) : Prop extends Text.Trimmed p where
  /-- it can be put in quotes -/
  unquoted : '"' ∉ p
  /-- it is not cut -/
  uncut : ',' ∉ p

instance (p : Text) : Decidable (IsPlainPhrase p) :=
  decidable_of_iff
    ((p ≠ [] ∧ EndsRun isBlank p ∧ StartsRun isBlank p) ∧ '"' ∉ p ∧ ',' ∉ p)
    ⟨fun ⟨⟨hne, hfirst, hlast⟩, hquote, hcomma⟩ => ⟨⟨hne, hfirst, hlast⟩, hquote, hcomma⟩,
      fun h => ⟨⟨h.nonempty, h.first, h.last⟩, h.unquoted, h.uncut⟩⟩

/-- A term written as a phrase. -/
def FlatTerm.quoted (t : FlatTerm) : Text :=
  Flat.mark t.exact ++ '"' :: (t.value ++ ['"'])

namespace Flat

variable {c : Char} {rest s x : Text} {term : FlatTerm} {terms : List FlatTerm}

/-! ## Terms -/

theorem phrase?_eq_none (h : s.head? ≠ some '"') : phrase? s = none := by
  unfold phrase?
  split
  · exact absurd rfl h
  · rfl

theorem phrase?_closed {p : Text} (hne : p ≠ []) (hp : '"' ∉ p) :
    phrase? ('"' :: (p ++ '"' :: rest)) = some (p, rest) := by
  have hinside : ∀ c ∈ p, (c != '"') = true := by
    intro c hc
    rw [bne_iff_ne]
    rintro rfl
    exact hp hc
  have hend : EndsRun (· != '"') ('"' :: rest) := Text.endsRun_cons.2 (by decide)
  have hdrop : (p ++ '"' :: rest).dropWhile (· != '"') = '"' :: rest :=
    Text.dropWhile_run_append hinside hend
  have htake : (p ++ '"' :: rest).takeWhile (· != '"') = p :=
    Text.takeWhile_run_append hinside hend
  simp [phrase?, hdrop, htake, hne]

theorem run?_append {w : Text} (hne : w ≠ []) (hw : ∀ c ∈ w, isPlain c = true)
    (hrest : EndsRun isPlain rest) : run? (w ++ rest) = some (w, rest) := by
  rw [run?, Text.takeWhile_run_append hw hrest, Text.dropWhile_run_append hw hrest,
    if_neg (by simpa using hne)]

/-- A run that starts with neither a mark nor a quote is a term. -/
theorem term?_run {w : Text} (hne : w ≠ []) (hw : ∀ c ∈ w, isPlain c = true)
    (hmark : w.head? ≠ some '=') (hrest : EndsRun isPlain rest) :
    term? (w ++ rest) = some (⟨w, false⟩, rest) := by
  have hhead : (w ++ rest).head? = w.head? := List.head?_append_of_ne_nil _ hne
  have hmarked : Text.dropFirst? '=' (w ++ rest) = none := by
    refine Text.dropFirst?_eq_none ?_
    rwa [hhead]
  have hphrase : phrase? (w ++ rest) = none := by
    refine phrase?_eq_none ?_
    rw [hhead]
    intro hquote
    exact absurd (hw _ (List.mem_of_mem_head? hquote)) (by decide)
  simp [term?, hmarked, hphrase, run?_append hne hw hrest]

/-- A mark before a run makes it exact. -/
theorem term?_marked {w : Text} (hne : w ≠ []) (hw : ∀ c ∈ w, isPlain c = true)
    (hrest : EndsRun isPlain rest) : term? ('=' :: w ++ rest) = some (⟨w, true⟩, rest) := by
  have hphrase : phrase? (w ++ rest) = none := by
    refine phrase?_eq_none ?_
    rw [List.head?_append_of_ne_nil _ hne]
    intro hquote
    exact absurd (hw _ (List.mem_of_mem_head? hquote)) (by decide)
  have hmark : phrase? ('=' :: (w ++ rest)) = none := phrase?_eq_none (by simp)
  simp [term?, Text.dropFirst?, hphrase, hmark, run?_append hne hw hrest]

/-- A phrase is a term, and a mark before it makes it exact. -/
theorem term?_quoted (hne : term.value ≠ []) (hquote : '"' ∉ term.value) :
    term? (term.quoted ++ rest) = some (term, rest) := by
  obtain ⟨value, exact⟩ := term
  have hassoc : FlatTerm.quoted ⟨value, exact⟩ ++ rest =
      mark exact ++ '"' :: (value ++ '"' :: rest) := by
    simp [FlatTerm.quoted]
  rw [hassoc]
  cases exact with
  | true => simp [term?, mark, Text.dropFirst?, phrase?_closed hne hquote]
  | false => simp [term?, mark, Text.dropFirst?, phrase?_closed hne hquote]

theorem scan_of_term? (h : term? s = some (term, rest)) : scan s = term :: scan rest := by
  cases s with
  | nil => cases h
  | cons c s =>
    rw [scan]
    split
    next found after heq =>
      rw [h] at heq
      obtain ⟨rfl, rfl⟩ := Prod.mk.inj (Option.some.inj heq)
      rfl
    next heq =>
      rw [h] at heq
      cases heq

/-- A character that starts no term is passed over. -/
theorem scan_passed (hc : isPlain c = false) (hq : c ≠ '"') : scan (c :: rest) = scan rest := by
  have hequals : c ≠ '=' := by
    rintro rfl
    exact absurd hc (by decide)
  have hphrase : phrase? (c :: rest) = none := phrase?_eq_none (by simpa using hq)
  have hnone : term? (c :: rest) = none := by
    have hrun : run? (c :: rest) = none := by simp [run?, hc]
    simp [term?, Text.dropFirst?, hequals, hphrase, hrun]
  rw [scan]
  split
  next heq =>
    rw [hnone] at heq
    cases heq
  next => rfl

theorem isPlain_of_isBlank (hc : isBlank c = true) : isPlain c = false := by
  simp [isPlain, hc]

theorem ne_quote_of_isBlank (hc : isBlank c = true) : c ≠ '"' := by
  rintro rfl
  exact absurd hc (by decide)

theorem scan_blanks (hx : Blanks x) : scan (x ++ rest) = scan rest := by
  induction x with
  | nil => rfl
  | cons c x ih =>
    obtain ⟨hc, hx⟩ := List.forall_mem_cons.1 hx
    rw [List.cons_append, scan_passed (isPlain_of_isBlank hc) (ne_quote_of_isBlank hc), ih hx]

theorem scan_plus (hx : IsPlus x) : scan (x ++ rest) = scan rest := by
  rcases hx with ⟨b, b', hb, hb', rfl⟩ | ⟨-, hx⟩
  · rw [List.append_assoc, scan_blanks hb, List.cons_append, scan_passed (by decide) (by decide),
      scan_blanks hb']
  · exact scan_blanks hx

theorem endsRun_blanks_cons {b : Text} (hb : Blanks b) (hc : isPlain c = false) :
    EndsRun isPlain (b ++ c :: rest) := by
  cases b with
  | nil => exact Text.endsRun_cons.2 hc
  | cons d b => exact Text.endsRun_cons.2 (isPlain_of_isBlank (hb d List.mem_cons_self))

/-- A run ends where a separator starts. -/
theorem endsRun_plus (hx : IsPlus x) : EndsRun isPlain (x ++ rest) := by
  rcases hx with ⟨b, b', hb, -, rfl⟩ | ⟨hne, hx⟩
  · rw [List.append_assoc]
    exact endsRun_blanks_cons hb (by decide)
  · obtain ⟨c, x, rfl⟩ := List.exists_cons_of_ne_nil hne
    exact Text.endsRun_cons.2 (isPlain_of_isBlank (hx c List.mem_cons_self))

/-- A text that the scanner takes whole as a term, wherever a run can end after it. -/
structure Spells (s : Text) (t : FlatTerm) : Prop where
  /-- it is a term, and what follows is left -/
  taken : ∀ rest, EndsRun isPlain rest → term? (s ++ rest) = some (t, rest)
  /-- the value is kept by trimming -/
  value : Text.Trimmed t.value
  /-- the text is kept by trimming -/
  trimmed : Text.Trimmed s
  /-- it is not cut -/
  uncut : ',' ∉ s

/-- **Quotes make every plain phrase a term.** -/
theorem spells_quoted (h : IsPlainPhrase term.value) : Spells term.quoted term := by
  have hfirst : EndsRun isBlank term.quoted := by
    rw [FlatTerm.quoted]
    cases term.exact with
    | true => exact Text.endsRun_cons.2 (by decide)
    | false => exact Text.endsRun_cons.2 (by decide)
  have hlast : StartsRun isBlank term.quoted := by
    have hquote : term.quoted = (mark term.exact ++ '"' :: term.value) ++ ['"'] := by
      simp [FlatTerm.quoted]
    rw [hquote]
    exact Text.startsRun_concat (by decide)
  have huncut : ',' ∉ term.quoted := by
    have hmark : ',' ∉ mark term.exact := by
      cases term.exact with
      | true => decide
      | false => decide
    simp [FlatTerm.quoted, hmark, h.uncut]
  exact ⟨fun rest _ => term?_quoted h.nonempty h.unquoted, h.toTrimmed,
    ⟨by simp [FlatTerm.quoted], hfirst, hlast⟩, huncut⟩

/-- **Terms are scanned one after the other.** -/
theorem scan_joined (h : Joined Spells IsPlus s terms) (hrest : EndsRun isPlain rest) :
    scan (s ++ rest) = terms ++ scan rest := by
  induction h generalizing rest with
  | single hs => exact scan_of_term? (hs.taken rest hrest)
  | @more s ts x s' t _ hx hs' ih =>
    have hterm : scan (s' ++ rest) = t :: scan rest := scan_of_term? (hs'.taken rest hrest)
    rw [List.append_assoc, List.append_assoc, ih (endsRun_plus hx), scan_plus hx, hterm,
      List.append_assoc]
    rfl

/-! ## Groups -/

theorem comma_not_mem_blanks {b : Text} (hb : Blanks b) : ',' ∉ b := fun hmem =>
  absurd (hb _ hmem) (by decide)

theorem comma_not_mem_plus (hx : IsPlus x) : ',' ∉ x := by
  rcases hx with ⟨b, b', hb, hb', rfl⟩ | ⟨-, hx⟩
  · simp [comma_not_mem_blanks hb, comma_not_mem_blanks hb']
  · exact comma_not_mem_blanks hx

theorem comma_not_mem_joined (h : Joined Spells IsPlus s terms) : ',' ∉ s := by
  induction h with
  | single hs => exact hs.uncut
  | more _ hx hs' ih =>
    simp only [List.mem_append, not_or]
    exact ⟨ih, comma_not_mem_plus hx, hs'.uncut⟩

theorem trimmed_joined (h : Joined Spells IsPlus s terms) : Text.Trimmed s := by
  induction h with
  | single hs => exact hs.trimmed
  | more _ _ hs' ih => exact ih.append hs'.trimmed

theorem trimmed_values (h : Joined Spells IsPlus s terms) :
    ∀ t ∈ terms, Text.Trimmed t.value := by
  induction h with
  | single hs =>
    intro t ht
    obtain rfl := List.mem_singleton.1 ht
    exact hs.value
  | more _ _ hs' ih =>
    refine List.forall_mem_append.2 ⟨ih, fun t ht => ?_⟩
    obtain rfl := List.mem_singleton.1 ht
    exact hs'.value

/-- Where every value is trimmed, trimming and dropping empty values change nothing. -/
theorem terms_joined (h : Joined Spells IsPlus s terms) : Flat.terms s = terms := by
  have hscan : scan s = terms := by
    have hall : scan (s ++ []) = terms ++ scan [] := scan_joined h Text.endsRun_nil
    rwa [List.append_nil, scan, List.append_nil] at hall
  have hvalues := trimmed_values h
  have hmap : terms.map (fun t => { t with value := t.value.trim }) = terms := by
    refine (List.map_congr_left fun t ht => ?_).trans (List.map_id terms)
    rw [(hvalues t ht).trim_self]
    rfl
  rw [Flat.terms, hscan, hmap, List.filter_eq_self]
  intro t ht
  simpa using (hvalues t ht).nonempty

theorem groups_nil : groups [] = [] := by
  simp [groups, Text.pieces, Flat.terms, Text.trim, Text.skipBlanks, scan]

/-- **A comma parts what is read on either side.** -/
theorem groups_append_comma (u v : Text) : groups (u ++ ',' :: v) = groups u ++ groups v := by
  have hcomma : decide ((',' : Char) = ',') = true := by decide
  rw [groups, Text.pieces_append_cons hcomma, List.map_append, List.filter_append]
  rfl

/-- A piece with terms is one group, whatever blanks are around it. -/
theorem groups_piece {b b' : Text} (h : Joined Spells IsPlus s terms) (hb : Blanks b)
    (hb' : Blanks b') : groups (b ++ (s ++ b')) = [terms] := by
  have hpiece : ∀ c ∈ b ++ (s ++ b'), decide (c = ',') = false := by
    intro c hc
    refine decide_eq_false ?_
    rintro rfl
    simp only [List.mem_append] at hc
    rcases hc with hc | hc | hc
    · exact comma_not_mem_blanks hb hc
    · exact comma_not_mem_joined h hc
    · exact comma_not_mem_blanks hb' hc
  have hne : terms ≠ [] := h.ne_nil
  rw [groups, Text.pieces_eq_singleton hpiece, List.map_singleton,
    (trimmed_joined h).trim_eq hb hb', terms_joined h,
    List.filter_cons_of_pos (by simpa using hne), List.filter_nil]

/-- **A text of groups of terms is read as these groups.** -/
theorem groups_joined {groups : List (List FlatTerm)}
    (h : Joined (Joined Spells IsPlus) IsComma s groups) : Flat.groups s = groups := by
  -- the blanks before a comma belong to the piece before it, so blanks may follow
  have hall : ∀ b, Blanks b → Flat.groups (s ++ b) = groups := by
    induction h with
    | single hs => exact fun b hb => groups_piece hs Text.blanks_nil hb
    | @more s gs x s' ts _ hx hs' ih =>
      obtain ⟨b₁, b₂, hb₁, hb₂, rfl⟩ := hx
      intro b hb
      have hcut : s ++ (b₁ ++ ',' :: b₂ ++ s') ++ b = (s ++ b₁) ++ ',' :: (b₂ ++ (s' ++ b)) := by
        simp
      rw [hcut, groups_append_comma, ih b₁ hb₁, groups_piece hs' hb₂ hb]
  have hself := hall [] Text.blanks_nil
  rwa [List.append_nil] at hself

end Flat

end SearchClause
