import SearchClause.Proofs.FragmentMeaning

/-!
# What a flat fragment means

The fragment of a flat query is a disjunction of groups, and a group is a conjunction of its terms
in parentheses. Terms are counted through all groups. With the clauses of a template, a fragment is
read as a condition that holds when all terms of some group do (`Flat.means_fragment`).

Operators associate to the left, so each list is followed together with what has been joined before
it.
-/

namespace SearchClause

open Condition (Means Level)

namespace Flat

/-- Whether a number of terms hold, counted from `first`. -/
def allHold (holds : Nat → Bool) (first count : Nat) : Bool :=
  (List.range' first count).all holds

/-- The value of groups whose first term has the number `first`: all terms of one of them hold. -/
def value (holds : Nat → Bool) (first : Nat) : List (List FlatTerm) → Bool
  | [] => false
  | group :: rest => allHold holds first group.length || value holds (first + group.length) rest

theorem allHold_succ (holds : Nat → Bool) (first count : Nat) :
    allHold holds first (count + 1) = (holds first && allHold holds (first + 1) count) := by
  rw [allHold, List.range'_succ, List.all_cons, allHold]

theorem allHold_concat (holds : Nat → Bool) (first count : Nat) :
    allHold holds first (count + 1) = (allHold holds first count && holds (first + count)) := by
  rw [allHold, List.range'_1_concat, List.all_append, allHold]
  simp

/-- One more group is one more alternative. -/
theorem value_concat (holds : Nat → Bool) (first : Nat) (groups : List (List FlatTerm))
    (group : List FlatTerm) :
    value holds first (groups ++ [group]) =
      (value holds first groups ||
        allHold holds (first + groups.flatten.length) group.length) := by
  induction groups generalizing first with
  | nil => simp [value]
  | cons g groups ih =>
    rw [List.cons_append, value, value, ih, List.flatten_cons, List.length_append, Nat.add_assoc,
      Bool.or_assoc]

/-! ## Fragments -/

variable {template : Template} {s : Text} {k : Nat} {v : Condition.Valuation → Bool}

/-- The clauses of a template, where an operator stands around them. -/
def clauseOf (template : Template) (placeholder : Text) (_exact : Bool) : Text :=
  template.clause placeholder true

/-- A clause means its term: the term with the number `k + 1` has its atoms after those of `k`
others. -/
theorem means_clauseOf (h : template.Plain) (hparam : template.param = .numbered) (exact : Bool) :
    Means .factor (clauseOf template ('?' :: Text.ofNat (k + 1)) exact)
      (k * template.placeholdersPerTerm) template.placeholdersPerTerm
      fun ρ => template.holds ρ (k + 1) := by
  have hclause := Template.means_clause h (ParamStyle.numbered.plain_placeholder (k + 1))
    (ParamStyle.numbered.all_isBlank_placeholder (k + 1)) (k * template.placeholdersPerTerm) true
  simp only [Template.holds, hparam, Nat.add_sub_cancel]
  exact hclause

/-- **Terms with `AND` between them are one conjunction**, after what has been joined already. -/
theorem means_conjuncts (h : template.Plain) (hparam : template.param = .numbered) {before : Nat}
    (hs : Means .conjunction s (before * template.placeholdersPerTerm)
      (k * template.placeholdersPerTerm) v) (terms : List FlatTerm) :
    Means .conjunction
      (Text.joinWith " AND " (s :: clauses (clauseOf template) (before + k + 1) terms))
      (before * template.placeholdersPerTerm) ((k + terms.length) * template.placeholdersPerTerm)
      fun ρ => v ρ && allHold (template.holds ρ) (before + k + 1) terms.length := by
  induction terms generalizing s k v with
  | nil => simpa [clauses, Text.joinWith, allHold] using hs
  | cons t terms ih =>
    have hterm := means_clauseOf (k := before + k) h hparam t.exact
    rw [Nat.add_mul] at hterm
    have hnext := hs.and hterm
    rw [← Nat.succ_mul] at hnext
    have hall := ih hnext
    rw [clauses, Text.joinWith_cons_cons, List.length_cons, Nat.add_comm terms.length,
      ← Nat.add_assoc]
    simp only [Nat.add_comm 1 terms.length, allHold_succ, ← Bool.and_assoc]
    exact hall

/-- A group means that all its terms hold. -/
theorem means_group (h : template.Plain) (hparam : template.param = .numbered) (before : Nat)
    {group : List FlatTerm} (hne : group ≠ []) :
    Means .factor
      (Text.enclosed true (Text.joinWith " AND " (clauses (clauseOf template) (before + 1) group)))
      (before * template.placeholdersPerTerm) (group.length * template.placeholdersPerTerm)
      fun ρ => allHold (template.holds ρ) (before + 1) group.length := by
  obtain ⟨t, terms, rfl⟩ := List.exists_cons_of_ne_nil hne
  have hfirst := (means_clauseOf (k := before) h hparam t.exact).conjunction
  rw [← Nat.one_mul template.placeholdersPerTerm] at hfirst
  have hterms := means_conjuncts (k := 1) h hparam (by simpa using hfirst) terms
  have hall : Means .factor _ _ _ _ := hterms.disjunction.enclosed true
  rw [clauses, List.length_cons, Nat.add_comm terms.length]
  simpa only [Nat.add_comm 1 terms.length, allHold_succ] using hall

/-- **Groups with `OR` between them are one disjunction**, after what has been joined already. -/
theorem means_alternatives (h : template.Plain) (hparam : template.param = .numbered)
    (hs : Means .disjunction s 0 (k * template.placeholdersPerTerm) v)
    (groups : List (List FlatTerm)) (hne : ∀ group ∈ groups, group ≠ []) :
    Means .disjunction
      (Text.joinWith " OR " (s :: fragments (clauseOf template) (k + 1) groups))
      0 ((k + groups.flatten.length) * template.placeholdersPerTerm)
      fun ρ => v ρ || value (template.holds ρ) (k + 1) groups := by
  induction groups generalizing s k v with
  | nil => simpa [fragments, Text.joinWith, value] using hs
  | cons group groups ih =>
    obtain ⟨hgroup, hgroups⟩ := List.forall_mem_cons.1 hne
    have hmeans := (means_group h hparam k hgroup).conjunction
    have hnext := hs.or (by rwa [Nat.zero_add])
    rw [← Nat.add_mul] at hnext
    have hall := ih hnext hgroups
    rw [fragments, Text.joinWith_cons_cons, List.flatten_cons, List.length_append, ← Nat.add_assoc]
    simp only [value, ← Bool.or_assoc, Nat.add_right_comm k 1]
    exact hall

/-- **The fragment of a flat query means that some group holds.** -/
theorem means_fragment (h : template.Plain) (hparam : template.param = .numbered)
    {groups : List (List FlatTerm)} (hgroups : groups ≠ []) (hne : ∀ group ∈ groups, group ≠ []) :
    Means .disjunction (Text.joinWith " OR " (fragments (clauseOf template) 1 groups)) 0
      (groups.flatten.length * template.placeholdersPerTerm)
      fun ρ => value (template.holds ρ) 1 groups := by
  obtain ⟨group, rest, rfl⟩ := List.exists_cons_of_ne_nil hgroups
  obtain ⟨hgroup, hrest⟩ := List.forall_mem_cons.1 hne
  have hfirst := (means_group h hparam 0 hgroup).conjunction.disjunction
  rw [Nat.zero_mul] at hfirst
  have hall := means_alternatives h hparam hfirst rest hrest
  rw [fragments, List.flatten_cons, List.length_append]
  simpa only [value, Nat.add_comm 1 group.length, Nat.zero_add] using hall

end Flat

end SearchClause
