import SearchClause.Proofs.ConditionText
import SearchClause.Proofs.Numbering
import SearchClause.Proofs.Runs

/-!
# The fragment means what the tree means

The fragment of a compiled query is read as a condition, and the condition has the value of the tree
in which a term holds when one of its comparisons does. The parentheses are what makes this true: an
operator inside another one is grouped, and so is a term with several columns, which is a
disjunction of its own.

`Means` carries the argument. It says of a text how it is read, how many atoms it has and what its
value is, and it has one rule for every way in which a fragment is put together; the fragment is
then followed down the tree, with the number of its first atom.
-/

namespace SearchClause

/-- The value of a subtree whose first leaf has the number `first`, from the values of the leaves.
-/
def Tree.valueFrom (holds : Nat → Bool) (first : Nat) : Tree → Bool
  | leaf _ => holds first
  | not child => !child.valueFrom holds first
  | and left right => left.valueFrom holds first && right.valueFrom holds (first + left.leafCount)
  | or left right => left.valueFrom holds first || right.valueFrom holds (first + left.leafCount)

/-- The value of a tree, from the values of its leaves; they are counted from one, left to right. -/
def Tree.value (holds : Nat → Bool) (t : Tree) : Bool :=
  t.valueFrom holds 1

namespace Template

/-- The atoms for a placeholder: the comparison of every column, or the placeholder itself. -/
def atoms (t : Template) (placeholder : Text) : List Text :=
  if t.columns = [] then [placeholder] else t.columns.map (t.comparison placeholder)

/-- Whether the term with a number holds: one of its atoms does. The terms before it have as many
atoms each. -/
def holds (t : Template) (ρ : Condition.Valuation) (index : Nat) : Bool :=
  ((t.atoms (t.param.placeholder index)).zipIdx ((index - 1) * t.placeholdersPerTerm)).any
    fun atom => ρ atom.2 atom.1

/-- The columns and the operator have no parentheses and no words that are operators. -/
def Plain (t : Template) : Prop :=
  (∀ column ∈ t.columns, Condition.Plain column) ∧ Condition.Plain t.operator

instance (t : Template) : Decidable t.Plain :=
  inferInstanceAs (Decidable (_ ∧ _))

end Template

/-- Joining is left-associative: the first two texts can be joined beforehand. -/
theorem Text.joinWith_cons_cons (separator s t : Text) (rest : List Text) :
    joinWith separator (s :: t :: rest) = joinWith separator ((s ++ separator ++ t) :: rest) := by
  cases rest with
  | nil => rfl
  | cons u rest => simp [joinWith]

namespace Condition

/-- The level of a fragment: it has an operator beside it, or it stands alone. -/
def Level.beside : Bool → Level
  | true => .factor
  | false => .disjunction

/-- A text is read as a condition of some number of atoms, counted from `first`, with the given
value. -/
def Means (l : Level) (s : Text) (first count : Nat) (v : Valuation → Bool) : Prop :=
  ∃ c, Reads l s c ∧ c.atomCount = count ∧ ∀ ρ, c.value ρ first = v ρ

section

variable {s t : Text} {first m n : Nat} {v w : Valuation → Bool}

theorem means_atom (hs : Plain s) (hne : s.all isBlank = false) (first : Nat) :
    Means .factor s first 1 fun ρ => ρ first s :=
  ⟨_, reads_atom hs hne, rfl, fun _ => rfl⟩

theorem Means.conjunction (h : Means .factor s first n v) : Means .conjunction s first n v := by
  obtain ⟨c, hc, hcount, hvalue⟩ := h
  exact ⟨c, hc.conjunction, hcount, hvalue⟩

theorem Means.disjunction (h : Means .conjunction s first n v) :
    Means .disjunction s first n v := by
  obtain ⟨c, hc, hcount, hvalue⟩ := h
  exact ⟨c, hc.disjunction, hcount, hvalue⟩

theorem Means.group (h : Means .disjunction s first n v) :
    Means .factor ('(' :: s ++ [')']) first n v := by
  obtain ⟨c, hc, hcount, hvalue⟩ := h
  exact ⟨c, hc.group, hcount, hvalue⟩

theorem Means.not (h : Means .factor s first n v) :
    Means .factor (['N', 'O', 'T', ' '] ++ s) first n fun ρ => !v ρ := by
  obtain ⟨c, hc, hcount, hvalue⟩ := h
  refine ⟨_, hc.not, hcount, fun ρ => ?_⟩
  rw [value, hvalue]

theorem Means.and (hs : Means .conjunction s first m v) (ht : Means .factor t (first + m) n w) :
    Means .conjunction (s ++ " AND " ++ t) first (m + n) fun ρ => v ρ && w ρ := by
  obtain ⟨c, hc, rfl, hv⟩ := hs
  obtain ⟨d, hd, rfl, hw⟩ := ht
  refine ⟨_, hc.and hd, rfl, fun ρ => ?_⟩
  rw [value, hv, hw]

theorem Means.or (hs : Means .disjunction s first m v) (ht : Means .conjunction t (first + m) n w) :
    Means .disjunction (s ++ " OR " ++ t) first (m + n) fun ρ => v ρ || w ρ := by
  obtain ⟨c, hc, rfl, hv⟩ := hs
  obtain ⟨d, hd, rfl, hw⟩ := ht
  refine ⟨_, hc.or hd, rfl, fun ρ => ?_⟩
  rw [value, hv, hw]

/-- What can be an operand can stand anywhere. -/
theorem Means.beside (h : Means .factor s first n v) (grouped : Bool) :
    Means (.beside grouped) s first n v := by
  cases grouped with
  | true => exact h
  | false => exact h.conjunction.disjunction

/-- What is grouped can stand anywhere. -/
theorem Means.enclosed (h : Means .disjunction s first n v) (grouped : Bool) :
    Means (.beside grouped) (Text.enclosed grouped s) first n v := by
  cases grouped with
  | true => exact h.group
  | false => exact h

/-- **Atoms with `OR` between them are one disjunction.** -/
theorem Means.alternatives (h : Means .disjunction s first m v) {as : List Text}
    (has : ∀ a ∈ as, Plain a ∧ a.all isBlank = false) :
    Means .disjunction (Text.joinWith " OR " (s :: as)) first (m + as.length)
      fun ρ => v ρ || (as.zipIdx (first + m)).any fun a => ρ a.2 a.1 := by
  induction as generalizing s m v with
  | nil => simpa [Text.joinWith] using h
  | cons a as ih =>
    obtain ⟨⟨ha, hne⟩, has⟩ := List.forall_mem_cons.1 has
    have hnext := ih (h.or (means_atom ha hne (first + m)).conjunction) has
    rw [Text.joinWith_cons_cons, List.length_cons, Nat.add_comm as.length, ← Nat.add_assoc]
    simpa [List.zipIdx_cons, Bool.or_assoc, Nat.add_assoc] using hnext

end

end Condition

/-! ## Terms -/

namespace Template

variable {t : Template} {p : Text}

theorem plain_comparison (ht : Condition.Plain t.operator) (hp : Condition.Plain p) {column : Text}
    (hc : Condition.Plain column) : Condition.Plain (t.comparison p column) := by
  have hblank : isBlank ' ' = true := by decide
  exact (hc.append ht hblank).append hp hblank

theorem all_isBlank_comparison (hp : p.all isBlank = false) (column : Text) :
    (t.comparison p column).all isBlank = false := by
  simp [comparison, hp]

theorem atoms_plain (h : t.Plain) (hp : Condition.Plain p) (hne : p.all isBlank = false) :
    ∀ a ∈ t.atoms p, Condition.Plain a ∧ a.all isBlank = false := by
  intro a ha
  rw [atoms] at ha
  split at ha
  next =>
    rw [List.mem_singleton.1 ha]
    exact ⟨hp, hne⟩
  next =>
    obtain ⟨column, hcolumn, rfl⟩ := List.mem_map.1 ha
    exact ⟨plain_comparison h.2 hp (h.1 column hcolumn), all_isBlank_comparison hne column⟩

/-- A clause is a single atom or several with `OR` between them, grouped if need be. -/
theorem clause_cases (t : Template) (p : Text) (grouped : Bool) :
    t.placeholdersPerTerm = (t.atoms p).length ∧
      ((∃ a, t.atoms p = [a] ∧ t.clause p grouped = a) ∨
        ∃ a as, t.atoms p = a :: as ∧
          t.clause p grouped = Text.enclosed grouped (Text.joinWith " OR " (a :: as))) := by
  rw [clause, placeholdersPerTerm, atoms]
  match t.columns with
  | [] => exact ⟨rfl, .inl ⟨p, rfl, rfl⟩⟩
  | [column] => exact ⟨rfl, .inl ⟨_, rfl, rfl⟩⟩
  | first :: second :: others => exact ⟨by simp, .inr ⟨_, _, rfl, rfl⟩⟩

open Condition (Means Level)

theorem means_clause (h : t.Plain) (hp : Condition.Plain p) (hne : p.all isBlank = false)
    (first : Nat) (grouped : Bool) :
    Means (.beside grouped) (t.clause p grouped) first t.placeholdersPerTerm
      fun ρ => ((t.atoms p).zipIdx first).any fun atom => ρ atom.2 atom.1 := by
  have hatoms := atoms_plain h hp hne
  obtain ⟨hcount, ⟨a, hone, hclause⟩ | ⟨a, as, hmany, hclause⟩⟩ := clause_cases t p grouped
  · rw [hone] at hatoms hcount
    rw [hone, hclause, hcount]
    obtain ⟨ha, hnea⟩ := hatoms a (List.mem_singleton.2 rfl)
    have hmeans := (Condition.means_atom ha hnea first).beside grouped
    simpa using hmeans
  · rw [hmany] at hatoms hcount
    rw [hmany, hclause, hcount]
    obtain ⟨⟨ha, hnea⟩, has⟩ := List.forall_mem_cons.1 hatoms
    have hfirst := (Condition.means_atom ha hnea first).conjunction.disjunction
    have hmeans := (hfirst.alternatives has).enclosed grouped
    rw [Nat.add_comm] at hmeans
    simpa using hmeans

end Template

/-! ## Placeholders -/

theorem Condition.isSolid_of_isDigit {b : Char} (hb : b.isDigit = true) : isSolid b = true := by
  have hascii : b.toNat < 128 := by
    simp only [Char.isDigit, ge_iff_le, Bool.and_eq_true, decide_eq_true_eq,
      UInt32.le_iff_toNat_le] at hb
    exact Nat.lt_of_le_of_lt hb.2 (by decide)
  have hword : isWordChar b = true := by simp [isWordChar, isNumeric_ascii hascii, hb]
  refine isSolid_iff.2 ⟨isBlank_of_isWordChar hword, ?_, ?_⟩
  · rintro rfl
    exact absurd hb (by decide)
  · rintro rfl
    exact absurd hb (by decide)

namespace ParamStyle

theorem mem_placeholder {style : ParamStyle} {index : Nat} {b : Char}
    (h : b ∈ style.placeholder index) : b ∈ ['?', '$', ':', 'p'] ∨ b.isDigit = true := by
  have hdigit {b : Char} (hb : b ∈ Text.ofNat index) : b.isDigit = true :=
    Nat.isDigit_of_mem_toDigits (by decide) (by decide) hb
  cases style with
  | numbered =>
    rcases List.mem_cons.1 h with rfl | h
    · exact .inl (by decide)
    · exact .inr (hdigit h)
  | dollar =>
    rcases List.mem_cons.1 h with rfl | h
    · exact .inl (by decide)
    · exact .inr (hdigit h)
  | named =>
    rcases List.mem_cons.1 h with rfl | h
    · exact .inl (by decide)
    · rcases List.mem_cons.1 h with rfl | h
      · exact .inl (by decide)
      · exact .inr (hdigit h)
  | anonymous =>
    rw [List.mem_singleton.1 h]
    exact .inl (by decide)

theorem all_isSolid_placeholder (style : ParamStyle) (index : Nat) :
    (style.placeholder index).all Condition.isSolid = true := by
  have hmarks : ['?', '$', ':', 'p'].all Condition.isSolid = true := by decide
  rw [List.all_eq_true]
  intro b hb
  rcases mem_placeholder hb with hb | hb
  · exact List.all_eq_true.1 hmarks b hb
  · exact Condition.isSolid_of_isDigit hb

theorem plain_placeholder (style : ParamStyle) (index : Nat) :
    Condition.Plain (style.placeholder index) := by
  refine Condition.plain_word (style.all_isSolid_placeholder index) ?_
  cases style <;> simp [placeholder, paramReference, Condition.keyword?]

theorem all_isBlank_placeholder (style : ParamStyle) (index : Nat) :
    (style.placeholder index).all isBlank = false := by
  cases style <;> rfl

end ParamStyle

/-! ## Trees -/

open Condition (Means Level)

/-- **A fragment means its subtree**, whose leaves are counted on from `before`. -/
theorem Tree.means_fragment {template : Template} (h : template.Plain) (t : Tree) (before : Nat)
    (grouped : Bool) :
    Means (.beside grouped) ((t.numberFrom (before + 1)).rendered template.renderer grouped)
      (before * template.placeholdersPerTerm) (t.leafCount * template.placeholdersPerTerm)
      fun ρ => t.valueFrom (template.holds ρ) (before + 1) := by
  induction t generalizing before grouped with
  | leaf term =>
    rw [leafCount, Nat.one_mul]
    exact Template.means_clause h (template.param.plain_placeholder _)
      (template.param.all_isBlank_placeholder _) _ grouped
  | not child ih =>
    -- negation brings its own parentheses, so it can stand anywhere
    exact (ih before false).group.not.beside grouped
  | and left right ihl ihr =>
    -- leaves and atoms of the right side are counted on after those of the left
    have hright := ihr (before + left.leafCount) true
    rw [Nat.add_mul, Nat.add_right_comm before] at hright
    rw [leafCount, Nat.add_mul]
    exact ((ihl before true).conjunction.and hright).disjunction.enclosed grouped
  | or left right ihl ihr =>
    have hright := ihr (before + left.leafCount) true
    rw [Nat.add_mul, Nat.add_right_comm before] at hright
    rw [leafCount, Nat.add_mul]
    exact ((ihl before true).conjunction.disjunction.or hright.conjunction).enclosed grouped

/-- **The fragment of a compiled query means the tree.** It can be read, and for every valuation of
its atoms it has the value of the tree in which a term holds when the atom of one of its columns
does. -/
theorem exists_read_fragment_value_eq (template : Template) (h : template.Plain) (t : Tree) :
    ∃ c, Condition.read (t.compile template.renderer).fragment = some c ∧
      ∀ ρ : Condition.Valuation, c.value ρ 0 = t.value (template.holds ρ) := by
  obtain ⟨c, hread, -, hvalue⟩ := t.means_fragment h 0 false
  rw [Nat.zero_mul] at hvalue
  rw [t.fragment_compile]
  exact ⟨c, hread.read_eq, hvalue⟩

/-- Two columns, one with a word that only starts like an operator, and placeholders that look
alike. -/
theorem exists_read_fragment_two_columns :
    Template.Plain ⟨["name", "ORDER note"], "LIKE", .anonymous⟩ ∧
      ∃ c, Condition.read (Tree.compile
          (Template.renderer ⟨["name", "ORDER note"], "LIKE", .anonymous⟩)
          (.and (.leaf ⟨"%a%", .contains⟩) (.not (.leaf ⟨"b", .exact⟩)))).fragment = some c ∧
        ∀ ρ : Condition.Valuation, c.value ρ 0 =
          Tree.value (Template.holds ⟨["name", "ORDER note"], "LIKE", .anonymous⟩ ρ)
            (.and (.leaf ⟨"%a%", .contains⟩) (.not (.leaf ⟨"b", .exact⟩))) :=
  ⟨by decide, exists_read_fragment_value_eq _ (by decide) _⟩

end SearchClause
