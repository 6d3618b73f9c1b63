import SearchClause.Proofs.TomlKeys
import SearchClause.Proofs.TomlStrings

/-!
# Written documents are read back

From values to documents, each level with the text after it left open, so that the levels are put
together without looking inside.

* **values** — strings, lists of strings, truth values and numbers;
* **lines** — `Reads text list`: in front of any text, a piece of a document gives its statements
  and leaves the rest to be read;
* **tables** — assignments with different keys are carried out in order (`assignAll_plain`), and so
  are sections below one table (`addSections_below`).
-/

namespace SearchClause

namespace Toml

open Text (EndsRun)

variable {c : Char} {s t rest after start next word : Text} {v : Value}

/-! ## Layout -/

/-- Whether a character may be passed over between tokens. -/
def isLayout (c : Char) : Bool :=
  c = '\n' || c = '\r' || c = '#' || isSpace c

theorem skipLayout_cons (hc : isLayout c = false) : skipLayout (c :: s) = some (c :: s) := by
  simp only [isLayout, Bool.or_eq_false_iff, decide_eq_false_iff_not] at hc
  obtain ⟨⟨⟨hn, hr⟩, hhash⟩, hspace⟩ := hc
  simp [skipLayout, skipLayoutFrom, hn, hr, hhash, hspace]

theorem skipLayout_newline (s : Text) : skipLayout ('\n' :: s) = skipLayout s :=
  rfl

theorem skipLayout_space (s : Text) : skipLayout (' ' :: s) = skipLayout s :=
  rfl

/-! ## Lists -/

section

variable {read : Text → Option (Value × Text)}

theorem items?_closed (hskip : skipLayout s = some (']' :: rest)) :
    items? read s = some ([], rest) := by
  rw [items?]
  simp only [hskip]

theorem items?_last (hskip : skipLayout s = some (c :: start)) (hc : c ≠ ']')
    (hread : read (c :: start) = some (v, ']' :: rest)) : items? read s = some ([v], rest) := by
  have hbracket : skipLayout (']' :: rest) = some (']' :: rest) := skipLayout_cons (by decide)
  rw [items?, hskip]
  split
  next heq => cases heq
  next heq => exact absurd (List.cons.inj (Option.some.inj heq)).1 hc
  next heq =>
    obtain rfl := Option.some.inj heq
    simp only [hread, hbracket]

theorem items?_comma (hskip : skipLayout s = some (c :: start)) (hc : c ≠ ']')
    (hread : read (c :: start) = some (v, ',' :: after)) (hlen : after.length < s.length) :
    items? read s = (items? read after).map fun p => (v :: p.1, p.2) := by
  have hcomma : skipLayout (',' :: after) = some (',' :: after) := skipLayout_cons (by decide)
  rw [items?, hskip]
  split
  next heq => cases heq
  next heq => exact absurd (List.cons.inj (Option.some.inj heq)).1 hc
  next heq =>
    obtain rfl := Option.some.inj heq
    simp only [hread, hcomma, if_pos hlen]

theorem listLine_append (t s : Text) :
    listLine t ++ s = ' ' :: ' ' :: ' ' :: ' ' :: (writeString t ++ ',' :: '\n' :: s) := by
  show "    ".toList ++ writeString t ++ ",\n".toList ++ s = _
  rw [List.append_assoc, List.append_assoc]
  rfl

/-- Lines of strings up to the closing bracket. The line break before a line is what the comma of
the line before leaves. -/
theorem items?_lines
    (hread : ∀ t rest, EndsString rest → read (writeString t ++ rest) = some (.text t, rest))
    (list : List Text) (rest : Text) :
    items? read ('\n' :: (list.flatMap listLine ++ ']' :: rest)) =
      some (list.map .text, rest) := by
  induction list with
  | nil =>
    have hbracket : skipLayout (']' :: rest) = some (']' :: rest) := skipLayout_cons (by decide)
    exact items?_closed hbracket
  | cons t list ih =>
    obtain ⟨q, w, hw, hq⟩ := writeString_starts t
    have hline : (t :: list).flatMap listLine ++ ']' :: rest =
        ' ' :: ' ' :: ' ' :: ' ' ::
          (writeString t ++ ',' :: '\n' :: (list.flatMap listLine ++ ']' :: rest)) := by
      rw [List.flatMap_cons, List.append_assoc, listLine_append]
    have hitem := hread t (',' :: '\n' :: (list.flatMap listLine ++ ']' :: rest))
      (Text.endsRun_cons.2 (by decide))
    rw [hw, List.cons_append] at hitem
    rw [hline, hw, List.cons_append, items?_comma ?_ ?_ hitem ?_, ih]
    · rfl
    · have hlayout : isLayout q = false := by rcases hq with rfl | rfl <;> decide
      rw [skipLayout_newline, skipLayout_space, skipLayout_space, skipLayout_space,
        skipLayout_space, skipLayout_cons hlayout]
    · rcases hq with rfl | rfl <;> decide
    · simp only [List.length_append, List.length_cons]
      omega

end

/-! ## Values -/

theorem value?_writeString (depth : Nat) (hrest : EndsString rest) :
    value? depth (writeString t ++ rest) = some (.text t, rest) := by
  have hread := string?_writeString hrest t
  obtain ⟨q, w, hw, hq⟩ := writeString_starts t
  have hvalue : value? depth (q :: (w ++ rest)) =
      (string? (q :: (w ++ rest))).map fun p => (.text p.1, p.2) := by
    cases depth with
    | zero => rcases hq with rfl | rfl <;> rfl
    | succ depth => rcases hq with rfl | rfl <;> rfl
  rw [hw, List.cons_append] at hread ⊢
  rw [hvalue, hread]
  rfl

/-- **A written list of strings is read back.** -/
theorem value?_writeStrings (depth : Nat) (list : List Text) (rest : Text) :
    value? (depth + 1) (writeStrings list ++ rest) =
      some (.array false (list.map .text), rest) := by
  have hread : ∀ t rest, EndsString rest →
      value? depth (writeString t ++ rest) = some (.text t, rest) :=
    fun t rest hrest => value?_writeString depth hrest
  have hlist : ∀ inside, items? (value? depth) inside = some (list.map .text, rest) →
      value? (depth + 1) ('[' :: inside) = some (.array false (list.map .text), rest) := by
    intro inside hinside
    rw [value?, hinside]
    rfl
  rcases list with _ | ⟨t, _ | ⟨u, list⟩⟩
  · exact hlist (']' :: rest) (items?_closed (skipLayout_cons (by decide)))
  · obtain ⟨q, w, hw, hq⟩ := writeString_starts t
    have hitem := hread t (']' :: rest) (Text.endsRun_cons.2 (by decide))
    have hform : writeStrings [t] ++ rest = '[' :: (writeString t ++ ']' :: rest) := by
      simp [writeStrings]
    rw [hw, List.cons_append] at hitem hform
    rw [hform]
    refine hlist _ (items?_last (skipLayout_cons ?_) ?_ hitem)
    · rcases hq with rfl | rfl <;> decide
    · rcases hq with rfl | rfl <;> decide
  · have hform : writeStrings (t :: u :: list) ++ rest =
        '[' :: '\n' :: ((t :: u :: list).flatMap listLine ++ ']' :: rest) := by
      simp [writeStrings]
    rw [hform]
    exact hlist _ (items?_lines hread _ _)

/-- A word up to the end of a line. -/
theorem scalarWord_line (hword : ∀ c ∈ word, endsWord c = false) (rest : Text) :
    scalarWord (word ++ '\n' :: rest) = (word, '\n' :: rest) := by
  have hrun : ∀ c ∈ word, (!endsWord c) = true := fun c hc => by simp [hword c hc]
  have hend : EndsRun (!endsWord ·) ('\n' :: rest) := Text.endsRun_cons.2 (by decide)
  have htake := Text.takeWhile_run_append hrun hend
  have hdrop := Text.dropWhile_run_append hrun hend
  have hspaces : skipSpaces ('\n' :: rest) = '\n' :: rest := skipSpaces_cons (by decide)
  rw [scalarWord, dif_neg, htake, hdrop]
  rintro ⟨hlen, -⟩
  rw [hdrop, hspaces] at hlen
  exact Nat.lt_irrefl _ hlen

/-- What does not open anything is a value without parts. -/
theorem value?_scalar (h : c ≠ '"' ∧ c ≠ '\'' ∧ c ≠ '[' ∧ c ≠ '\x7b') (depth : Nat) :
    value? depth (c :: s) = scalar? (c :: s) := by
  obtain ⟨hquote, htick, hbracket, hbrace⟩ := h
  cases depth with
  | zero =>
    unfold value?
    split
    next heq => exact absurd (List.cons.inj heq).1 hquote
    next heq => exact absurd (List.cons.inj heq).1 htick
    next => rfl
  | succ depth =>
    unfold value?
    split
    next heq => exact absurd (List.cons.inj heq).1 hquote
    next heq => exact absurd (List.cons.inj heq).1 htick
    next heq => exact absurd (List.cons.inj heq).1 hbracket
    next heq => exact absurd (List.cons.inj heq).1 hbrace
    next => rfl

/-- A word is read for what it spells. -/
theorem value?_word (depth : Nat) (hne : word ≠ []) (hword : ∀ c ∈ word, endsWord c = false)
    (hv : wordValue? word = some v) (rest : Text) :
    value? depth (word ++ '\n' :: rest) = some (v, '\n' :: rest) := by
  have hscalar : scalar? (word ++ '\n' :: rest) = some (v, '\n' :: rest) := by
    rw [scalar?, scalarWord_line hword]
    simp only [hv, Option.map_some]
  obtain ⟨c, w, rfl⟩ := List.exists_cons_of_ne_nil hne
  have hc := hword c List.mem_cons_self
  have hopen : c ≠ '"' ∧ c ≠ '\'' ∧ c ≠ '[' ∧ c ≠ '\x7b' := by
    refine ⟨?_, ?_, ?_, ?_⟩ <;> (rintro rfl; exact absurd hc (by decide))
  rw [List.cons_append] at hscalar ⊢
  rw [value?_scalar hopen, hscalar]

/-! ## Numbers -/

theorem isDigitOf_of_isDigit {base : Nat} (hbase : 10 ≤ base) (hc : c.isDigit = true) :
    isDigitOf base c = true := by
  have hcode : 48 ≤ c.toNat ∧ c.toNat ≤ 57 := by
    simpa [Char.isDigit, UInt32.le_iff_toNat_le] using hc
  simp only [isDigitOf, hexValue?, hc, if_true, Option.any_some, decide_eq_true_eq]
  show c.toNat - 48 < base
  omega

theorem inBase_eq_ofDigitChars {high : Nat} (ht : ∀ c ∈ t, c.isDigit = true) :
    inBase 10 high t = Nat.ofDigitChars 10 t high := by
  induction t generalizing high with
  | nil => rfl
  | cons c t ih =>
    rw [List.forall_mem_cons] at ht
    rw [inBase, ih ht.2, Nat.ofDigitChars_cons, hexValue?, if_pos ht.1, Nat.mul_comm]
    rfl

theorem isDigit_of_mem_ofNat {n : Nat} (hc : c ∈ Text.ofNat n) : c.isDigit = true :=
  Nat.isDigit_of_mem_toDigits (by decide) (by decide) hc

theorem dropWhile_isDigit_ofNat (n : Nat) : (Text.ofNat n).dropWhile Char.isDigit = [] :=
  List.dropWhile_eq_nil_iff.2 fun _ hc => isDigit_of_mem_ofNat hc

/-- The digits of a number spell it. -/
theorem inBase_ofNat (n : Nat) : inBase 10 0 (Text.ofNat n) = n := by
  rw [inBase_eq_ofDigitChars fun c hc => isDigit_of_mem_ofNat hc]
  exact Nat.ofDigitChars_toDigits (by decide) (by decide)

/-- A number above zero has no leading zero. -/
theorem head?_ofNat_ne_zero {n : Nat} (hn : 0 < n) : (Text.ofNat n).head? ≠ some '0' := by
  induction n using Nat.strong_induction_on with
  | _ n ih =>
    rw [Text.ofNat, Nat.toDigits_eq_if (by decide)]
    split
    next hlt =>
      have hdigits : ∀ d < 10, 0 < d → Nat.digitChar d ≠ '0' := by decide
      simpa using hdigits n hlt hn
    next hge =>
      rw [List.head?_append_of_ne_nil _ Nat.toDigits_ne_nil]
      exact ih (n / 10) (by omega) (by omega)

theorem signed_of_isDigit (hc : c.isDigit = true) : signed (c :: t) = (false, c :: t) := by
  unfold signed
  split
  next heq =>
    rw [(List.cons.inj heq).1] at hc
    exact absurd hc (by decide)
  next heq =>
    rw [(List.cons.inj heq).1] at hc
    exact absurd hc (by decide)
  next => rfl

theorem wholeValue_ofNat {n : Nat} (hn : n < Nat.pow 2 128) :
    wholeValue 10 (Text.ofNat n) = .integer n := by
  obtain ⟨c, w, hw⟩ := List.exists_cons_of_ne_nil (Nat.toDigits_ne_nil (n := n) (b := 10))
  have hdigits : ∀ c ∈ Text.ofNat n, c.isDigit = true := fun c hc => isDigit_of_mem_ofNat hc
  have hsigned : signed (Text.ofNat n) = (false, Text.ofNat n) := by
    rw [Text.ofNat, hw]
    exact signed_of_isDigit (hdigits c (by rw [Text.ofNat, hw]; exact List.mem_cons_self))
  have hall : (Text.ofNat n).all (isDigitOf 10) = true :=
    List.all_eq_true.2 fun c hc => isDigitOf_of_isDigit (Nat.le_refl 10) (hdigits c hc)
  have hne : (Text.ofNat n).isEmpty = false := by
    rw [Text.ofNat, hw]
    rfl
  have hfits : fits (n : Int) = true := by
    have hlow : -Int.pow 2 127 ≤ (n : Int) := by
      have hpow : (0 : Int) ≤ Int.pow 2 127 := by decide
      omega
    have hhigh : (n : Int) < Int.pow 2 128 := Int.ofNat_lt.2 hn
    simp only [fits, hlow, hhigh, decide_true, Bool.and_self]
  simp only [wholeValue, hsigned, withSign, inBase_ofNat, hall, hne, hfits, Bool.not_false,
    Bool.and_self, if_true, Bool.false_eq_true, if_false]

/-- The digits of a number above zero are read as a decimal number. -/
theorem number?_ofNat {n : Nat} (hpos : 0 < n) (hn : n < Nat.pow 2 128) :
    number? (Text.ofNat n) (Text.ofNat n) = some (.integer n) := by
  have hdigits : ∀ c ∈ Text.ofNat n, c.isDigit = true := fun c hc => isDigit_of_mem_ofNat hc
  have hzero := head?_ofNat_ne_zero hpos
  have hdrop := dropWhile_isDigit_ofNat n
  have hpieces : Text.pieces (· = '_') (Text.ofNat n) = [Text.ofNat n] := by
    refine Text.pieces_eq_singleton fun c hc => decide_eq_false ?_
    rintro rfl
    exact absurd (hdigits _ hc) (by decide)
  have hungrouped : ungrouped? (isDigitOf 16) (Text.ofNat n) = some (Text.ofNat n) := by
    simp [ungrouped?, hpieces, wellGrouped]
  have hdecimal : decimalNumber? (Text.ofNat n) (Text.ofNat n) = some (.integer n) := by
    simp [decimalNumber?, hdrop, hzero, hungrouped, wholeValue_ofNat hn]
  unfold number?
  split
  next heq => exact absurd heq Nat.toDigits_ne_nil
  next heq => exact absurd (by rw [heq]; rfl) hzero
  next heq => exact absurd (by rw [heq]; rfl) hzero
  next heq => exact absurd (by rw [heq]; rfl) hzero
  next heq => exact absurd (by rw [heq]; rfl) hzero
  next c w _ _ _ _ heq =>
    have hc : c.isDigit = true := hdigits c (by rw [heq]; exact List.mem_cons_self)
    rw [if_pos (by rw [hc]; rfl), hdecimal]

/-- **A written number is read back.** -/
theorem wordValue?_ofNat {n : Nat} (hn : n < Nat.pow 2 128) :
    wordValue? (Text.ofNat n) = some (.integer n) := by
  rcases Nat.eq_zero_or_pos n with rfl | hpos
  · rfl
  have hdigits : ∀ c ∈ Text.ofNat n, c.isDigit = true := fun c hc => isDigit_of_mem_ofNat hc
  -- everything that is looked at before numbers starts or goes on with something else than a digit
  have hhead : ∀ c w, Text.ofNat n = c :: w → c.isDigit = true :=
    fun c w heq => hdigits c (by rw [heq]; exact List.mem_cons_self)
  have hmoment : isMomentForm (Text.ofNat n) = false := by
    simp [isMomentForm, dropWhile_isDigit_ofNat]
  have htrue : Text.ofNat n ≠ "true".toList := fun h => absurd (hhead _ _ h) (by decide)
  have hfalse : Text.ofNat n ≠ "false".toList := fun h => absurd (hhead _ _ h) (by decide)
  unfold wordValue?
  rw [if_neg htrue, if_neg hfalse, if_neg (by rw [hmoment]; decide)]
  split
  next heq => exact absurd (hhead _ _ heq) (by decide)
  next heq => exact absurd (hhead _ _ heq) (by decide)
  next => exact number?_ofNat hpos hn

/-! ## Keys -/

theorem keys?_last (hkey : simpleKey? s = some (t, rest))
    (hdot : (skipSpaces rest).head? ≠ some '.') : keys? s = some (([], t), skipSpaces rest) := by
  rw [keys?, hkey]
  dsimp only
  split
  next heq => exact absurd (by rw [heq]; rfl) hdot
  next => rfl

theorem keys?_dot (hkey : simpleKey? s = some (t, '.' :: c :: after)) (hc : isSpace c = false)
    (hlen : (c :: after).length < s.length) :
    keys? s = (keys? (c :: after)).map fun p => ((t :: p.1.1, p.1.2), p.2) := by
  have hpoint : skipSpaces ('.' :: c :: after) = '.' :: c :: after := skipSpaces_cons (by decide)
  have hafter : skipSpaces (c :: after) = c :: after := skipSpaces_cons hc
  rw [keys?, hkey]
  simp only [hpoint, hafter, if_pos hlen]

/-! ## Lines -/

theorem statement?_header {path : List Text} {key : Text} (hc : c ≠ '[')
    (hspace : isSpace c = false)
    (hkey : key? (c :: s) = some ((path, key), ']' :: '\n' :: next)) :
    statement? ('[' :: c :: s) = some (.header false path key, next) := by
  rw [statement?, header?]
  · rw [skipSpaces_cons hspace, hkey]
    rfl
  · exact fun rest heq => hc (List.cons.inj heq).1

/-- A key without quotes, an equals sign and a value. -/
theorem statement?_assignment {key written : Text} (hne : key ≠ [])
    (hkey : ∀ c ∈ key, isBareKeyChar c = true) (hspace : EndsRun isSpace (written ++ '\n' :: next))
    (hvalue : value? maxNesting (written ++ '\n' :: next) = some (v, '\n' :: next)) :
    statement? (key ++ ' ' :: '=' :: ' ' :: (written ++ '\n' :: next)) =
      some (.assignment ⟨[], key, v⟩, next) := by
  have hends : EndsRun isBareKeyChar (' ' :: '=' :: ' ' :: (written ++ '\n' :: next)) :=
    Text.endsRun_cons.2 (by decide)
  have hequals : ∀ t, skipSpaces (' ' :: '=' :: t) = '=' :: t := fun t => rfl
  have hkeys : key? (key ++ ' ' :: '=' :: ' ' :: (written ++ '\n' :: next)) =
      some (([], key), '=' :: ' ' :: (written ++ '\n' :: next)) := by
    rw [key?, keys?_last (simpleKey?_bare hne hkey hends) (by rw [hequals]; simp), hequals]
    rfl
  have hstart : skipSpaces (' ' :: (written ++ '\n' :: next)) = written ++ '\n' :: next :=
    Text.dropWhile_of_endsRun hspace
  have hassign : assignment? (fun t => some (skipSpaces t)) (value? maxNesting)
      (key ++ ' ' :: '=' :: ' ' :: (written ++ '\n' :: next)) =
        some (⟨[], key, v⟩, '\n' :: next) := by
    have hsign : ∀ t, skipSpaces ('=' :: t) = '=' :: t := fun t => rfl
    rw [assignment?, hkeys]
    simp only [hsign, hstart, hvalue, Option.map_some]
  -- a bare key does not start with a bracket, so this is no header
  obtain ⟨c, w, rfl⟩ := List.exists_cons_of_ne_nil hne
  have hc : c ≠ '[' := by
    rintro rfl
    exact absurd (hkey '[' List.mem_cons_self) (by decide)
  rw [List.cons_append] at hassign ⊢
  rw [statement?, hassign]
  · rfl
  · exact fun rest heq => hc (List.cons.inj heq).1

/-- In front of any text, a piece of a document gives these statements. -/
def Reads (text : Text) (list : List Statement) : Prop :=
  ∀ next, statements? (text ++ next) = (statements? next).map (list ++ ·)

theorem statements?_cons {first : Statement} (hskip : skipLayout s = some (c :: start))
    (hfirst : statement? (c :: start) = some (first, next)) (hlen : next.length < s.length) :
    statements? s = (statements? next).map (first :: ·) := by
  rw [statements?, hskip]
  simp only [hfirst, if_pos hlen]

/-- A line with a statement, perhaps after an empty one. -/
theorem reads_line {text : Text} {first : Statement} (hne : text ≠ [])
    (h : ∀ next, ∃ c start, skipLayout (text ++ next) = some (c :: start) ∧
      statement? (c :: start) = some (first, next)) : Reads text [first] := by
  intro next
  obtain ⟨c, start, hskip, hfirst⟩ := h next
  refine statements?_cons hskip hfirst ?_
  have hpos := List.length_pos_iff.2 hne
  rw [List.length_append]
  omega

theorem Reads.append {text text' : Text} {list list' : List Statement} (h : Reads text list)
    (h' : Reads text' list') : Reads (text ++ text') (list ++ list') := by
  intro next
  rw [List.append_assoc, h, h', Option.map_map]
  congr 1
  funext more
  simp

theorem reads_flatMap {α : Type} {text : α → Text} {list : α → List Statement} {pieces : List α}
    (h : ∀ a ∈ pieces, Reads (text a) (list a)) :
    Reads (pieces.flatMap text) (pieces.flatMap list) := by
  induction pieces with
  | nil =>
    intro next
    simp
  | cons a pieces ih =>
    rw [List.forall_mem_cons] at h
    exact h.1.append (ih h.2)

/-- **A whole document is read as the statements of its pieces.** -/
theorem Reads.statements?_eq {text : Text} {list : List Statement} (h : Reads text list) :
    statements? text = some list := by
  have hend : statements? [] = some [] := by
    rw [statements?]
    rfl
  have hall := h []
  rw [List.append_nil, hend] at hall
  simpa using hall

/-! ## Sections -/

/-- The statements of a section. -/
def Section.statements (s : Section) : List Statement :=
  .header s.listed s.path s.key :: s.assignments.map .assignment

theorem arrange_assignments (list : List Assignment) (more : List Statement) :
    arrange (list.map .assignment ++ more) = (list ++ (arrange more).1, (arrange more).2) := by
  induction list with
  | nil => rfl
  | cons a list ih => rw [List.map_cons, List.cons_append, arrange, ih, List.cons_append]

/-- Sections are found again in their statements. -/
theorem arrange_sections (sections : List Section) :
    arrange (sections.flatMap Section.statements) = ([], sections) := by
  induction sections with
  | nil => rfl
  | cons s sections ih =>
    rw [List.flatMap_cons, Section.statements, List.cons_append, arrange, arrange_assignments, ih,
      List.append_nil]

/-! ## Tables -/

theorem Entries.get?_concat {key : Text} {entries : Entries} (h : key ∉ entries.keys) (v : Value) :
    Entries.get? key (entries ++ [(key, v)]) = some v := by
  induction entries with
  | nil => exact if_pos rfl
  | cons e entries ih =>
    obtain ⟨hne, hrest⟩ := List.ne_and_not_mem_of_not_mem_cons h
    rw [List.cons_append, Entries.get?, if_neg (Ne.symm hne), ih hrest]

theorem Entries.replace_concat {key : Text} {entries : Entries} (h : key ∉ entries.keys)
    (v w : Value) : Entries.replace key w (entries ++ [(key, v)]) = entries ++ [(key, w)] := by
  induction entries with
  | nil => exact if_pos rfl
  | cons e entries ih =>
    obtain ⟨hne, hrest⟩ := List.ne_and_not_mem_of_not_mem_cons h
    rw [List.cons_append, Entries.replace, if_neg (Ne.symm hne), ih hrest, List.cons_append]

theorem Entries.not_mem_of_nodup {start list : Entries} {e : Text × Value}
    (h : (start ++ e :: list).keys.Nodup) : e.1 ∉ start.keys := by
  intro hmem
  rw [Entries.keys, List.map_append, List.nodup_append] at h
  exact h.2.2 _ hmem _ List.mem_cons_self rfl

/-- An assignment of a value to a key that leads through no other. -/
def plainAssignment (e : Text × Value) : Assignment :=
  ⟨[], e.1, e.2⟩

/-- **Assignments to different keys are carried out in order.** -/
theorem assignAll_plain {origin : Origin} (horigin : origin ≠ .dotted) {start list : Entries}
    (h : (start ++ list).keys.Nodup) :
    assignAll (list.map plainAssignment) origin start = some (origin, start ++ list) := by
  induction list generalizing start with
  | nil => rw [List.append_nil]; rfl
  | cons e list ih =>
    have hfresh : e.1 ∉ start.keys := Entries.not_mem_of_nodup h
    have hassign : assign (plainAssignment e) origin start = some (origin, start ++ [e]) := by
      simp [assign, plainAssignment, changeAt, horigin, Entries.get?_eq_none hfresh]
    rw [List.map_cons, assignAll, hassign, Option.bind_some, ih (by simpa using h)]
    simp

/-- A section for a table with a name and entries. -/
def plainSection (path : List Text) (e : Text × Entries) : Section :=
  ⟨false, path, e.1, e.2.map plainAssignment⟩

/-- The table of such a section. -/
def plainTable (e : Text × Entries) : Text × Value :=
  (e.1, .table .header e.2)

theorem keys_plainTable (list : List (Text × Entries)) :
    Entries.keys (list.map plainTable) = list.map Prod.fst := by
  rw [Entries.keys, List.map_map]
  rfl

/-- A section adds its table to a parent that has none of its name. -/
theorem define_plainSection (path : List Text) {e : Text × Entries} {origin : Origin}
    {start : Entries} (hkeys : e.2.keys.Nodup) (hfresh : e.1 ∉ start.keys) :
    (plainSection path e).define origin start = some (origin, start ++ [plainTable e]) := by
  have hfilled : assignAll (e.2.map plainAssignment) .header [] = some (.header, e.2) :=
    assignAll_plain (by decide) hkeys
  simp [Section.define, plainSection, plainTable, Entries.get?_eq_none hfresh, hfilled]

section

variable {parent : Text} {front : Entries} {e : Text × Entries} {list : List (Text × Entries)}

/-- The first section below a table makes it. -/
theorem changeAt_first (hparent : parent ∉ front.keys) (hkeys : e.2.keys.Nodup) :
    changeAt false (plainSection [parent] e).define [parent] .header front =
      some (.header, front ++ [(parent, Value.table .implied [plainTable e])]) := by
  have hdefine : (plainSection [parent] e).define .implied [] =
      some (.implied, [plainTable e]) :=
    define_plainSection [parent] hkeys List.not_mem_nil
  simp [changeAt, Entries.get?_eq_none hparent, hdefine]

/-- The other sections below a table add to it. -/
theorem changeAt_next {inner : Entries} (hparent : parent ∉ front.keys) (hkeys : e.2.keys.Nodup)
    (hfresh : e.1 ∉ inner.keys) :
    changeAt false (plainSection [parent] e).define [parent] .header
        (front ++ [(parent, Value.table .implied inner)]) =
      some (.header, front ++ [(parent, Value.table .implied (inner ++ [plainTable e]))]) := by
  have hdefine : (plainSection [parent] e).define .implied inner =
      some (.implied, inner ++ [plainTable e]) :=
    define_plainSection [parent] hkeys hfresh
  simp [changeAt, Entries.get?_concat hparent, Value.changeTable, hdefine,
    Entries.replace_concat hparent]

theorem addSections_cons {s : Section} {sections : List Section} {entries : Entries}
    {changed : Origin × Entries}
    (h : changeAt false s.define s.path .header entries = some changed) :
    addSections (s :: sections) entries = addSections sections changed.2 := by
  rw [addSections, h, Option.bind_some]

/-- A section for a table of the document itself. -/
theorem addSections_top {sections : List Section} (hkeys : e.2.keys.Nodup)
    (hfresh : e.1 ∉ front.keys) :
    addSections (plainSection [] e :: sections) front =
      addSections sections (front ++ [plainTable e]) := by
  have hdefine : changeAt false (plainSection [] e).define (plainSection [] e).path .header front =
      some (.header, front ++ [plainTable e]) :=
    define_plainSection [] hkeys hfresh
  rw [addSections_cons hdefine]

theorem addSections_next {inner : Entries} (hparent : parent ∉ front.keys)
    (hkeys : ∀ e ∈ list, e.2.keys.Nodup) (hnames : (inner ++ list.map plainTable).keys.Nodup) :
    addSections (list.map (plainSection [parent]))
        (front ++ [(parent, Value.table .implied inner)]) =
      some (front ++ [(parent, Value.table .implied (inner ++ list.map plainTable))]) := by
  induction list generalizing inner with
  | nil => rw [List.map_nil, List.map_nil, List.append_nil]; rfl
  | cons e list ih =>
    rw [List.forall_mem_cons] at hkeys
    have hfresh : e.1 ∉ inner.keys := Entries.not_mem_of_nodup hnames
    have hrest : (inner ++ [plainTable e] ++ list.map plainTable).keys.Nodup := by
      simpa using hnames
    rw [List.map_cons, addSections_cons (changeAt_next hparent hkeys.1 hfresh), ih hkeys.2 hrest]
    simp

/-- **Sections below one table are added to it in order**, if their names differ. -/
theorem addSections_below (hparent : parent ∉ front.keys) (hne : list ≠ [])
    (hkeys : ∀ e ∈ list, e.2.keys.Nodup) (hnames : (list.map Prod.fst).Nodup) :
    addSections (list.map (plainSection [parent])) front =
      some (front ++ [(parent, Value.table .implied (list.map plainTable))]) := by
  obtain ⟨e, list, rfl⟩ := List.exists_cons_of_ne_nil hne
  rw [List.forall_mem_cons] at hkeys
  have hrest : (Entries.keys ([plainTable e] ++ list.map plainTable)).Nodup := by
    rwa [← keys_plainTable] at hnames
  rw [List.map_cons, addSections_cons (changeAt_first hparent hkeys.1),
    addSections_next hparent hkeys.2 hrest]
  rfl

end

end Toml

end SearchClause
