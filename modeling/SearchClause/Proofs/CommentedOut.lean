import SearchClause.Config.Layer
import SearchClause.Config.Starter
import SearchClause.Proofs.TomlDocument
import SearchClause.Proofs.Words

/-!
# Commenting a text out

A text is commented out line by line, and the reader of a document goes by its own rules for where a
comment ends and what may stand in it. Here the two are brought together.

* **comments** — `Toml.document?_wholeLines`: lines that are empty or comments, without control
  characters, are a document without entries;
* **lines** — `Text.PlainControls.isTextChar_lines`: if the only controls of a text are tabs and
  line breaks, its lines have none but tabs, since a return before a line feed is part of the break.

So a text of any content says nothing once it is commented out (`Starter.commentedOut_disables`).
-/

namespace SearchClause

/-! ## Lines of a text -/

namespace Text

/-- Whether a character is a control character: the first thirty-two, and the one that deletes. The
controls from 128 on may stand anywhere in a document. -/
def isControl (c : Char) : Bool :=
  c.toNat < 32 || c.toNat = 127

/-- The control characters of a text are tabs, line feeds, and returns right before a line feed. -/
def PlainControls (t : Text) : Prop :=
  ∀ u c v, t = u ++ c :: v → isControl c = true →
    c = '\t' ∨ c = '\n' ∨ c = '\r' ∧ v.head? = some '\n'

variable {c : Char} {p s t w v : Text}

theorem plainControls_nil : PlainControls [] := by
  intro u c v h
  simp at h

theorem PlainControls.suffix (h : PlainControls (s ++ t)) : PlainControls t := by
  rintro u c v rfl
  exact h (s ++ u) c v (by simp)

theorem plainControls_cons : PlainControls (c :: t) ↔
    (isControl c = true → c = '\t' ∨ c = '\n' ∨ c = '\r' ∧ t.head? = some '\n') ∧
      PlainControls t := by
  refine ⟨fun h => ⟨h [] c t rfl, h.suffix (s := [c])⟩, ?_⟩
  rintro ⟨hc, ht⟩ u d v heq
  cases u with
  | nil =>
    obtain ⟨rfl, rfl⟩ := List.cons.inj heq
    exact hc
  | cons e u => exact ht u d v (List.cons.inj heq).2

instance decidablePlainControls : (t : Text) → Decidable (PlainControls t)
  | [] => isTrue plainControls_nil
  | _ :: t =>
    have := decidablePlainControls t
    decidable_of_iff _ plainControls_cons.symm

theorem isTextChar_of_not_isControl (h : isControl c = false) : Toml.isTextChar c = true := by
  simp only [isControl, Bool.or_eq_false_iff, decide_eq_false_iff_not] at h
  simp only [Toml.isTextChar, Bool.or_eq_true, Bool.and_eq_true, decide_eq_true_eq, bne_iff_ne]
  omega

/-- Within a line there are no controls but tabs, unless a return at its end is part of the line
break. -/
theorem PlainControls.isTextChar_of_mem (h : PlainControls (w ++ v)) (hw : '\n' ∉ w)
    (hbreak : w.getLast? = some '\r' → v.head? ≠ some '\n') :
    ∀ c ∈ w, Toml.isTextChar c = true := by
  intro c hc
  cases hcontrol : isControl c with
  | false => exact isTextChar_of_not_isControl hcontrol
  | true =>
    obtain ⟨w₁, w₂, rfl⟩ := List.append_of_mem hc
    rcases h w₁ c (w₂ ++ v) (by simp) hcontrol with rfl | rfl | ⟨rfl, hnext⟩
    · decide
    · exact absurd hc hw
    · -- the line feed is not in the line, so it comes right after it
      cases w₂ with
      | nil => exact absurd hnext (hbreak (by simp))
      | cons d w₂ =>
        obtain rfl : d = '\n' := by simpa using hnext
        exact absurd (by simp) hw

theorem PlainControls.isTextChar_line (h : PlainControls (p ++ '\n' :: s)) (hp : '\n' ∉ p) :
    ∀ c ∈ (dropLast? '\r' p).getD p, Toml.isTextChar c = true := by
  by_cases hlast : p.getLast? = some '\r'
  · obtain ⟨q, rfl⟩ := exists_of_getLast? hlast
    rw [dropLast?_concat_self]
    rw [List.append_assoc] at h
    exact h.isTextChar_of_mem (fun hq => hp (List.mem_append_left _ hq)) fun _ => by simp
  · rw [dropLast?_eq_none hlast]
    exact h.isTextChar_of_mem hp fun heq => absurd heq hlast

theorem PlainControls.isTextChar_linesOfPieces {ps : List Text} (hps : ∀ p ∈ ps, '\n' ∉ p)
    (h : PlainControls (joinWith ['\n'] ps)) :
    ∀ line ∈ linesOfPieces ps, ∀ c ∈ line, Toml.isTextChar c = true := by
  induction ps with
  | nil => exact List.forall_mem_nil _
  | cons p ps ih =>
    obtain ⟨hp, hps⟩ := List.forall_mem_cons.1 hps
    cases ps with
    | nil =>
      rw [linesOfPieces]
      split
      · exact List.forall_mem_nil _
      · refine List.forall_mem_singleton.2 ?_
        have hlast : PlainControls (p ++ []) := by simpa [joinWith] using h
        exact hlast.isTextChar_of_mem hp fun _ => by simp
    | cons q ps =>
      have hjoined : PlainControls (p ++ '\n' :: joinWith ['\n'] (q :: ps)) := by
        simpa [joinWith] using h
      rw [linesOfPieces]
      · refine List.forall_mem_cons.2 ⟨hjoined.isTextChar_line hp, ih hps ?_⟩
        exact (hjoined.suffix).suffix (s := ['\n'])
      · simp

/-- **The lines of a text with plain controls have no control but tabs.** -/
theorem PlainControls.isTextChar_lines (h : PlainControls t) :
    ∀ line ∈ t.lines, ∀ c ∈ line, Toml.isTextChar c = true := by
  refine isTextChar_linesOfPieces (fun p hp => not_mem_of_mem_pieces hp) ?_
  rwa [joinWith_pieces]

end Text

/-! ## Texts of comments -/

theorem Starter.wholeLines_cons (line : Text) (lines : List Text) :
    wholeLines (line :: lines) = line ++ '\n' :: wholeLines lines := by
  simp [wholeLines]

namespace Toml

variable {line rest w : Text} {lines : List Text}

/-- A line that says nothing: it is empty or a comment, and its characters may stand in one. -/
structure IsSilent (line : Text) : Prop where
  /-- it is empty or starts as a comment -/
  start : line = [] ∨ line.head? = some '#'
  /-- there are no control characters -/
  chars : ∀ c ∈ line, isTextChar c = true

theorem skipLayoutFrom_comment (hw : ∀ c ∈ w, isTextChar c = true) :
    skipLayoutFrom true (w ++ '\n' :: rest) = skipLayout rest := by
  induction w with
  | nil => rfl
  | cons c w ih =>
    obtain ⟨hc, hw⟩ := List.forall_mem_cons.1 hw
    have hfeed : c ≠ '\n' := Text.ne_of_class hc '\n' (by decide)
    have hreturn : c ≠ '\r' := Text.ne_of_class hc '\r' (by decide)
    rw [List.cons_append, skipLayoutFrom, if_neg hfeed, if_neg hreturn, if_pos rfl, if_pos hc,
      ih hw]

theorem IsSilent.skipLayout_line (h : IsSilent line) :
    skipLayout (line ++ '\n' :: rest) = skipLayout rest := by
  rcases h.start with rfl | hhead
  · exact skipLayout_newline rest
  · cases line with
    | nil => cases hhead
    | cons c w =>
      obtain rfl : c = '#' := Option.some.inj hhead
      exact skipLayoutFrom_comment fun d hd => h.chars d (List.mem_cons_of_mem _ hd)

theorem skipLayout_wholeLines (h : ∀ line ∈ lines, IsSilent line) :
    skipLayout (Starter.wholeLines lines) = some [] := by
  induction lines with
  | nil => rfl
  | cons line lines ih =>
    obtain ⟨hline, hlines⟩ := List.forall_mem_cons.1 h
    rw [Starter.wholeLines_cons, hline.skipLayout_line, ih hlines]

/-- No line that says nothing starts with a byte order mark. -/
theorem dropMark_wholeLines (h : ∀ line ∈ lines, IsSilent line) :
    dropMark (Starter.wholeLines lines) = Starter.wholeLines lines := by
  have hhead : (Starter.wholeLines lines).head? ≠ some '\ufeff' := by
    cases lines with
    | nil => decide
    | cons line lines =>
      rcases (h line List.mem_cons_self).start with rfl | hline
      · simp [Starter.wholeLines]
      · cases line with
        | nil => cases hline
        | cons c w =>
          obtain rfl : c = '#' := Option.some.inj hline
          simp [Starter.wholeLines]
  rw [dropMark, Text.dropFirst?_eq_none hhead]
  rfl

/-- **A text that says nothing is a document without entries.** -/
theorem document?_wholeLines (h : ∀ line ∈ lines, IsSilent line) :
    document? (Starter.wholeLines lines) = some [] := by
  have hstatements : statements? (Starter.wholeLines lines) = some [] := by
    rw [statements?, skipLayout_wholeLines h]
  rw [document?, dropMark_wholeLines h, hstatements]
  rfl

end Toml

namespace Starter

variable {line shown : Text}

theorem isSilent_commented (h : ∀ c ∈ line, Toml.isTextChar c = true) :
    Toml.IsSilent (commented line) := by
  rw [commented]
  split
  next hsilent =>
    refine ⟨?_, h⟩
    simpa using hsilent
  · refine ⟨.inr rfl, fun c hc => ?_⟩
    rcases List.mem_append.1 hc with hmark | hc
    · have hmarks : "# ".toList.all Toml.isTextChar = true := by decide
      exact List.all_eq_true.1 hmarks c hmark
    · exact h c hc

/-- **A text that is commented out says nothing**, if its lines have no control characters. -/
theorem ofText?_commentedOut (h : ∀ line ∈ shown.lines, ∀ c ∈ line, Toml.isTextChar c = true) :
    Layer.ofText? (commentedOut shown) = some Layer.empty := by
  have hsilent : ∀ line ∈ shown.lines.map commented, Toml.IsSilent line := by
    intro line hline
    obtain ⟨line', hline', rfl⟩ := List.mem_map.1 hline
    exact isSilent_commented (h line' hline')
  rw [Layer.ofText?, commentedOut, Toml.document?_wholeLines hsilent]
  rfl

/-- The lines of a text of whole lines. -/
theorem lines_wholeLines {lines : List Text}
    (h : ∀ line ∈ lines, ∀ c ∈ line, Toml.isTextChar c = true) :
    (wholeLines lines).lines = lines := by
  induction lines with
  | nil => rfl
  | cons line lines ih =>
    obtain ⟨hline, hlines⟩ := List.forall_mem_cons.1 h
    have hfeed : ∀ c ∈ line, decide (c = '\n') = false := fun c hc =>
      decide_eq_false (Text.ne_of_class (hline c hc) '\n' (by decide))
    have hreturn : line.getLast? ≠ some '\r' := fun hlast =>
      Text.ne_of_class (hline _ (List.mem_of_getLast? hlast)) '\r' (by decide) rfl
    have hpieces : Text.pieces (· = '\n') (wholeLines (line :: lines)) =
        line :: Text.pieces (· = '\n') (wholeLines lines) := by
      rw [wholeLines_cons, Text.pieces_append_cons (by decide), Text.pieces_eq_singleton hfeed]
      rfl
    obtain ⟨first, rest, hrest⟩ := List.exists_cons_of_ne_nil
      (Text.pieces_ne_nil (· = '\n') (wholeLines lines))
    have htail := ih hlines
    rw [Text.lines, hrest] at htail
    rw [Text.lines, hpieces, hrest, Text.linesOfPieces, htail, Text.dropLast?_eq_none hreturn]
    · rfl
    · simp

/-- **Commenting out disables any text.** Whatever stands in it, a text with plain controls is read
as a layer that says nothing once it is commented out; and it still has its lines, each as it was or
behind a mark. -/
theorem commentedOut_disables (h : shown.PlainControls) :
    Layer.ofText? (commentedOut shown) = some Layer.empty ∧
      (commentedOut shown).lines = shown.lines.map commented := by
  have hchars := h.isTextChar_lines
  refine ⟨ofText?_commentedOut hchars, lines_wholeLines fun line hline => ?_⟩
  obtain ⟨line', hline', rfl⟩ := List.mem_map.1 hline
  exact (isSilent_commented (hchars line' hline')).chars

/-- Line breaks of both kinds, an indented line, a comment, brackets and a string that are never
closed, and no line break at the end. -/
def brokenText : Text :=
  "\t[[query\r\nroot = true\n\n# note\n ]x = \"\"\""

/-- A text that is no document says nothing once it is commented out. -/
theorem commentedOut_disables_broken :
    brokenText.PlainControls ∧ Layer.ofText? brokenText = none ∧
      commentedOut brokenText = "# \t[[query\n# root = true\n\n# note\n#  ]x = \"\"\"\n" ∧
      Layer.ofText? (commentedOut brokenText) = some Layer.empty := by
  have hcontrols : brokenText.PlainControls := by decide
  exact ⟨hcontrols, by decide +kernel, by decide, (commentedOut_disables hcontrols).1⟩

end Starter

end SearchClause
