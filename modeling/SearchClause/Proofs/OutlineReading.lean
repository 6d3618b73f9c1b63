import SearchClause.Proofs.Runs
import SearchClause.Query.Outline

/-!
# An outline says which tree it is of

Everything in an outline shows where it ends, whatever follows it (`SelfDelimiting`). This is shown
from the inside out:

* **characters** — a character between quotes is shown as itself, or behind a backslash in a form
  that no other character has (`Quoted.selfDelimiting_shown`);
* **texts** — no character is shown with a quote first, so the closing quote is the first one met
  where a character would start (`Text.selfDelimiting_quoted`); a line break of the text is never
  one of the outline;
* **trees** — the first letter of a line says what kind of node it is, and so how many subtrees
  follow it one level down (`Tree.selfDelimiting_outlineAt`).
-/

namespace SearchClause

/-! ## Forms that show their end -/

section

variable {α : Type} {write : α → Text}

/-- A way of writing that shows where it ends: from a text that starts with a written form, both
what was written and what follows it can be told. -/
def SelfDelimiting (write : α → Text) : Prop :=
  ∀ a b s t, write a ++ s = write b ++ t → a = b ∧ s = t

/-- Forms of which none is the start of another one show their end. -/
theorem selfDelimiting_of_prefix (h : ∀ a b, write a <+: write b → a = b) :
    SelfDelimiting write := by
  intro a b s t heq
  have hab : a = b := by
    have ha : write a <+: write b ++ t := heq ▸ List.prefix_append (write a) s
    rcases List.prefix_or_prefix_of_prefix ha (List.prefix_append (write b) t) with hp | hp
    · exact h a b hp
    · exact (h b a hp).symm
  subst hab
  exact ⟨rfl, List.append_cancel_left heq⟩

theorem SelfDelimiting.injective (h : SelfDelimiting write) : Function.Injective write := by
  intro a b heq
  exact (h a b [] [] (by rw [heq])).1

/-- Forms one after the other, and a character at the end with which none of them starts. -/
theorem SelfDelimiting.closed (h : SelfDelimiting write) {stop : Char}
    (hstart : ∀ a, ∃ c form, write a = c :: form ∧ c ≠ stop) :
    SelfDelimiting fun list : List α => list.flatMap write ++ [stop] := by
  intro xs ys s t heq
  simp only [List.append_assoc, List.singleton_append] at heq
  induction xs generalizing ys with
  | nil =>
    cases ys with
    | nil => exact ⟨rfl, (List.cons.inj heq).2⟩
    | cons y ys =>
      obtain ⟨c, form, hform, hne⟩ := hstart y
      rw [List.flatMap_cons, hform] at heq
      exact absurd (List.cons.inj heq).1.symm hne
  | cons x xs ih =>
    cases ys with
    | nil =>
      obtain ⟨c, form, hform, hne⟩ := hstart x
      rw [List.flatMap_cons, hform] at heq
      exact absurd (List.cons.inj heq).1 hne
    | cons y ys =>
      simp only [List.flatMap_cons, List.append_assoc] at heq
      obtain ⟨rfl, hrest⟩ := h x y _ _ heq
      obtain ⟨rfl, hst⟩ := ih ys hrest
      exact ⟨rfl, hst⟩

end

/-! ## Characters between quotes -/

namespace Quoted

/-- One digit is not several. -/
theorem singleton_ne_concat (c d : Char) (n : Nat) : [c] ≠ Nat.toDigits 16 n ++ [d] := by
  intro heq
  have hconcat : [] ++ [c] = Nat.toDigits 16 n ++ [d] := heq
  exact Nat.toDigits_ne_nil (List.append_inj' hconcat rfl).1.symm

/-- Hexadecimal digits give the number back. -/
theorem toDigits_injective : Function.Injective (Nat.toDigits 16) := by
  have hdigit : ∀ a < 16, ∀ b < 16, Nat.digitChar a = Nat.digitChar b → a = b := by decide
  intro m
  induction m using Nat.strong_induction_on with
  | _ m ih =>
    intro n heq
    rw [Nat.toDigits_eq_if (by decide), Nat.toDigits_eq_if (n := n) (by decide)] at heq
    split at heq
    next hm =>
      split at heq
      next hn => exact hdigit m hm n hn (List.cons.inj heq).1
      next => exact absurd heq (singleton_ne_concat _ _ _)
    next hm =>
      split at heq
      next => exact absurd heq.symm (singleton_ne_concat _ _ _)
      next =>
        obtain ⟨hinit, hlast⟩ := List.append_inj' heq rfl
        have hdiv := ih (m / 16) (by omega) hinit
        have hmod := hdigit _ (Nat.mod_lt m (by decide)) _ (Nat.mod_lt n (by decide))
          (List.cons.inj hlast).1
        omega

theorem brace_not_mem_toDigits (n : Nat) : '\x7d' ∉ Nat.toDigits 16 n := by
  induction n using Nat.strong_induction_on with
  | _ n ih =>
    rw [Nat.toDigits_eq_if (by decide)]
    split
    · simp
    · have hrest := ih (n / 16) (by omega)
      simp [hrest]

/-- The characters that have a letter of their own behind a backslash. -/
def letters : List (Char × Char) :=
  [('\x00', '0'), ('\t', 't'), ('\r', 'r'), ('\n', 'n'), ('"', '"'), ('\\', '\\')]

/-- What stands behind the backslash and the `u` of a code point. -/
def codeBody (c : Char) : Text :=
  '\x7b' :: Nat.toDigits 16 c.toNat ++ ['\x7d']

/-- The form of a character is its own letter, the character itself, or its code point. -/
theorem shown_cases (c : Char) :
    (∃ letter, (c, letter) ∈ letters ∧ shown c = ['\\', letter]) ∨
      (c ≠ '"' ∧ c ≠ '\\' ∧ shown c = [c]) ∨ shown c = '\\' :: 'u' :: codeBody c := by
  unfold shown
  split
  next h => exact .inl ⟨'0', by simp [letters, h], rfl⟩
  split
  next h => exact .inl ⟨'t', by simp [letters, h], rfl⟩
  split
  next h => exact .inl ⟨'r', by simp [letters, h], rfl⟩
  split
  next h => exact .inl ⟨'n', by simp [letters, h], rfl⟩
  split
  next h => exact .inl ⟨'"', by simp [letters, h], rfl⟩
  next hquote =>
    split
    next h => exact .inl ⟨'\\', by simp [letters, h], rfl⟩
    next hslash =>
      split
      · exact .inr (.inl ⟨hquote, hslash, rfl⟩)
      · exact .inr (.inr rfl)

theorem takeWhile_codeBody (c : Char) (s : Text) :
    (codeBody c ++ s).takeWhile (· != '\x7d') = '\x7b' :: Nat.toDigits 16 c.toNat := by
  have hall : ∀ d ∈ '\x7b' :: Nat.toDigits 16 c.toNat, (d != '\x7d') = true := by
    refine List.forall_mem_cons.2 ⟨by decide, fun d hd => ?_⟩
    have hne : d ≠ '\x7d' := by
      rintro rfl
      exact brace_not_mem_toDigits _ hd
    simpa using hne
  rw [codeBody, List.append_assoc]
  exact Text.takeWhile_run_append hall (Text.endsRun_cons.2 (by decide))

/-- A code point ends at its brace. -/
theorem eq_of_codeBody_prefix {c d : Char} (h : codeBody c <+: codeBody d) : c = d := by
  obtain ⟨s, hs⟩ := h
  have hd := takeWhile_codeBody d []
  rw [List.append_nil, ← hs, takeWhile_codeBody] at hd
  exact Char.toNat_inj.1 (toDigits_injective (List.cons.inj hd).2)

/-- **No form of a character is the start of another one's.** -/
theorem selfDelimiting_shown : SelfDelimiting shown := by
  have hletter : ∀ p ∈ letters, p.2 ≠ 'u' ∧ ∀ q ∈ letters, p.2 = q.2 → p.1 = q.1 := by decide
  refine selfDelimiting_of_prefix fun c d h => ?_
  -- only the character itself has no backslash, and only a code point has a `u` behind it
  rcases shown_cases c with ⟨e, he, hc⟩ | ⟨-, hslash, hc⟩ | hc
  · rcases shown_cases d with ⟨e', he', hd⟩ | ⟨-, hslash, hd⟩ | hd
    · rw [hc, hd] at h
      simp only [List.cons_prefix_cons, true_and] at h
      exact (hletter _ he).2 _ he' h.1
    · rw [hc, hd, List.cons_prefix_cons] at h
      exact absurd h.1.symm hslash
    · rw [hc, hd] at h
      simp only [List.cons_prefix_cons, true_and] at h
      exact absurd h.1 (hletter _ he).1
  · rcases shown_cases d with ⟨e', -, hd⟩ | ⟨-, -, hd⟩ | hd
    · rw [hc, hd, List.cons_prefix_cons] at h
      exact absurd h.1 hslash
    · rw [hc, hd, List.cons_prefix_cons] at h
      exact h.1
    · rw [hc, hd, List.cons_prefix_cons] at h
      exact absurd h.1 hslash
  · rcases shown_cases d with ⟨e', he', hd⟩ | ⟨-, hslash, hd⟩ | hd
    · rw [hc, hd] at h
      simp only [List.cons_prefix_cons, true_and] at h
      exact absurd h.1.symm (hletter _ he').1
    · rw [hc, hd, List.cons_prefix_cons] at h
      exact absurd h.1.symm hslash
    · rw [hc, hd] at h
      simp only [List.cons_prefix_cons, true_and] at h
      exact eq_of_codeBody_prefix h

/-- No form starts with a quote. -/
theorem exists_shown_cons (c : Char) : ∃ first form, shown c = first :: form ∧ first ≠ '"' := by
  rcases shown_cases c with ⟨e, -, hc⟩ | ⟨hquote, -, hc⟩ | hc
  · exact ⟨_, _, hc, by decide⟩
  · exact ⟨_, _, hc, hquote⟩
  · exact ⟨_, _, hc, by decide⟩

end Quoted

/-! ## Terms -/

/-- **A quoted text ends at its closing quote.** -/
theorem Text.selfDelimiting_quoted : SelfDelimiting Text.quoted := by
  intro p q s t heq
  exact Quoted.selfDelimiting_shown.closed Quoted.exists_shown_cons p q s t (List.cons.inj heq).2

theorem MatchKind.selfDelimiting_name : SelfDelimiting MatchKind.name := by
  refine selfDelimiting_of_prefix fun k k' h => ?_
  cases k <;> cases k' <;> revert h <;> decide

theorem Term.label_append (term : Term) (s : Text) :
    term.label ++ s =
      "Term(" ++ (term.text.quoted ++ (", " ++ (term.kind.name ++ (")" ++ s)))) := by
  show "Term(" ++ term.text.quoted ++ ", " ++ term.kind.name ++ ")" ++ s = _
  simp only [List.append_assoc]

theorem Term.selfDelimiting_label : SelfDelimiting Term.label := by
  intro a b s t heq
  rw [label_append, label_append] at heq
  obtain ⟨htext, hkind⟩ := Text.selfDelimiting_quoted _ _ _ _ (List.append_cancel_left heq)
  obtain ⟨hname, hend⟩ := MatchKind.selfDelimiting_name _ _ _ _ (List.append_cancel_left hkind)
  refine ⟨?_, List.append_cancel_left hend⟩
  cases a
  cases b
  cases htext
  cases hname
  rfl

/-! ## Trees -/

namespace Tree

/-- The first letter of a node's line. -/
def initial : Tree → Char
  | leaf _ => 'T'
  | not _ => 'N'
  | and _ _ => 'A'
  | or _ _ => 'O'

theorem outlineLine_append (level : Nat) (label s : Text) :
    outlineLine level label ++ s = Text.times level "  " ++ (label ++ '\n' :: s) := by
  simp [outlineLine]

/-- An outline starts with the indentation and the letter of its topmost node. -/
theorem exists_outlineAt_append (level : Nat) (t : Tree) (s : Text) :
    ∃ rest, t.outlineAt level ++ s = Text.times level "  " ++ t.initial :: rest := by
  cases t with
  | leaf term =>
    rw [outlineAt, outlineLine_append, Term.label_append]
    exact ⟨_, rfl⟩
  | not child =>
    rw [outlineAt, List.append_assoc, outlineLine_append]
    exact ⟨_, rfl⟩
  | and left right =>
    rw [outlineAt, List.append_assoc, List.append_assoc, outlineLine_append]
    exact ⟨_, rfl⟩
  | or left right =>
    rw [outlineAt, List.append_assoc, List.append_assoc, outlineLine_append]
    exact ⟨_, rfl⟩

/-- Trees with the same outline are of the same kind. -/
theorem initial_eq {level : Nat} {t u : Tree} {s s' : Text}
    (h : t.outlineAt level ++ s = u.outlineAt level ++ s') : t.initial = u.initial := by
  obtain ⟨rest, hrest⟩ := exists_outlineAt_append level t s
  obtain ⟨rest', hrest'⟩ := exists_outlineAt_append level u s'
  rw [hrest, hrest'] at h
  exact (List.cons.inj (List.append_cancel_left h)).1

/-- **An outline ends with its last subtree**, at every level. -/
theorem selfDelimiting_outlineAt (level : Nat) : SelfDelimiting (outlineAt level) := by
  intro t
  -- the letter decides the node of the other tree, and each subtree shows where the next one starts
  induction t generalizing level with
  | leaf term =>
    intro u s s' heq
    have hinitial := initial_eq heq
    cases u with
    | leaf term' =>
      simp only [outlineAt, outlineLine_append] at heq
      obtain ⟨rfl, hrest⟩ := Term.selfDelimiting_label _ _ _ _ (List.append_cancel_left heq)
      exact ⟨rfl, (List.cons.inj hrest).2⟩
    | _ => simp [initial] at hinitial
  | not child ih =>
    intro u s s' heq
    have hinitial := initial_eq heq
    cases u with
    | not child' =>
      simp only [outlineAt, List.append_assoc] at heq
      obtain ⟨rfl, hrest⟩ := ih _ _ _ _ (List.append_cancel_left heq)
      exact ⟨rfl, hrest⟩
    | _ => simp [initial] at hinitial
  | and left right ihl ihr =>
    intro u s s' heq
    have hinitial := initial_eq heq
    cases u with
    | and left' right' =>
      simp only [outlineAt, List.append_assoc] at heq
      obtain ⟨rfl, hright⟩ := ihl _ _ _ _ (List.append_cancel_left heq)
      obtain ⟨rfl, hrest⟩ := ihr _ _ _ _ hright
      exact ⟨rfl, hrest⟩
    | _ => simp [initial] at hinitial
  | or left right ihl ihr =>
    intro u s s' heq
    have hinitial := initial_eq heq
    cases u with
    | or left' right' =>
      simp only [outlineAt, List.append_assoc] at heq
      obtain ⟨rfl, hright⟩ := ihl _ _ _ _ (List.append_cancel_left heq)
      obtain ⟨rfl, hrest⟩ := ihr _ _ _ _ hright
      exact ⟨rfl, hrest⟩
    | _ => simp [initial] at hinitial

/-- **An outline is of one tree only**, whatever characters the terms have. -/
theorem outline_eq_iff (t u : Tree) : t.outline = u.outline ↔ t = u :=
  (selfDelimiting_outlineAt 0).injective.eq_iff

/-- A term whose text looks like more lines stays on its own. -/
example : (Tree.not (.leaf ⟨"a\", exact)\n  Not\x1b", .contains⟩)).outline =
    "Not\n  Term(\"a\\\", exact)\\n  Not\\u\x7b1b\x7d\", contains)\n" := by
  decide

end Tree

end SearchClause
