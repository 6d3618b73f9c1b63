import SearchClause.Proofs.FlatMeaning

/-!
# Flat queries are compiled to a disjunctive normal form

A flat query is a list of groups, and its fragment is their normal form: a disjunction of the
groups, each a conjunction of its terms in parentheses. Two counts run through it. Terms are
numbered through all groups, and clauses are joined group by group.

* **clauses** — `exists_answers`: the clause of every term is asked for once, in the order of the
  terms, and the groups are laid out around the answers;
* **meaning** — `value_eq_true_iff`: a fragment holds when all terms of a group do, and the numbers
  of these terms follow those of the groups before.

A template may write its placeholders in any style. Flat queries do not ask for it, since they
number theirs themselves (`Template.numbered`).
-/

namespace SearchClause

/-- The template with numbered placeholders. It has the same clauses. -/
def Template.numbered (t : Template) : Template :=
  { t with param := .numbered }

namespace Flat

variable {query : Text} {group : List FlatTerm}

theorem ne_nil_of_mem_groups (h : group ∈ groups query) : group ≠ [] := by
  simpa using (List.mem_filter.1 h).2

/-! ## Clauses -/

section

variable (render : Text → Bool → Text)

/-- Every term is asked for with its number and with whether it is exact. -/
theorem clauses_eq_map (first : Nat) (ts : List FlatTerm) :
    clauses render first ts =
      (ts.zipIdx first).map fun p => render ('?' :: Text.ofNat p.2) p.1.exact := by
  induction ts generalizing first with
  | nil => rfl
  | cons t ts ih => rw [clauses, ih, List.zipIdx_cons, List.map_cons]

theorem length_clauses (first : Nat) (ts : List FlatTerm) :
    (clauses render first ts).length = ts.length := by
  rw [clauses_eq_map, List.length_map, List.length_zipIdx]

theorem clauses_append (first : Nat) (ts us : List FlatTerm) :
    clauses render first (ts ++ us) =
      clauses render first ts ++ clauses render (first + ts.length) us := by
  simp only [clauses_eq_map, List.zipIdx_append, List.map_append]

/-- **The groups are laid out around the answers.** There is one answer for each term, and they come
in the order of the terms. -/
theorem exists_answers (first : Nat) (groups : List (List FlatTerm)) :
    ∃ answers : List (List Text), answers.map List.length = groups.map List.length ∧
      answers.flatten = clauses render first groups.flatten ∧
      fragments render first groups =
        answers.map fun texts => Text.enclosed true (Text.joinWith " AND " texts) := by
  induction groups generalizing first with
  | nil => exact ⟨[], rfl, rfl, rfl⟩
  | cons group groups ih =>
    obtain ⟨answers, hlengths, hflatten, hfragments⟩ := ih (first + group.length)
    refine ⟨clauses render first group :: answers, ?_, ?_, ?_⟩
    · rw [List.map_cons, List.map_cons, length_clauses, hlengths]
    · rw [List.flatten_cons, List.flatten_cons, clauses_append, hflatten]
    · rw [fragments, hfragments, List.map_cons]

end

/-! ## Meaning -/

variable {holds : Nat → Bool} {first count : Nat}

theorem allHold_eq_true_iff :
    allHold holds first count = true ↔ ∀ k < count, holds (first + k) = true := by
  induction count with
  | zero => simp [allHold]
  | succ count ih =>
    rw [allHold_concat, Bool.and_eq_true, ih, Nat.forall_lt_succ_right]

/-- **Groups hold when all terms of one of them do**; its terms have the numbers that follow those
of the groups before. -/
theorem value_eq_true_iff {groups : List (List FlatTerm)} :
    value holds first groups = true ↔
      ∃ before group after, groups = before ++ group :: after ∧
        ∀ k < group.length, holds (first + before.flatten.length + k) = true := by
  induction groups generalizing first with
  | nil => simp [value]
  | cons g groups ih =>
    rw [value, Bool.or_eq_true, allHold_eq_true_iff, ih]
    constructor
    · rintro (hall | ⟨before, group, after, rfl, hall⟩)
      · exact ⟨[], g, groups, rfl, hall⟩
      · refine ⟨g :: before, group, after, rfl, ?_⟩
        rwa [List.flatten_cons, List.length_append, ← Nat.add_assoc]
    · rintro ⟨before, group, after, heq, hall⟩
      cases before with
      | nil =>
        obtain ⟨rfl, rfl⟩ := List.cons.inj heq
        exact .inl hall
      | cons g' before =>
        obtain ⟨rfl, rfl⟩ := List.cons.inj heq
        refine .inr ⟨before, group, after, rfl, ?_⟩
        rwa [List.flatten_cons, List.length_append, ← Nat.add_assoc] at hall

/-- **A flat query is compiled to its disjunctive normal form.** The values are those of the terms,
in order. The clause is asked for once for every term, with the number of the term and whether it is
exact, and the groups are laid out around the answers. With the clauses of a template the fragment
can be read, and it holds when all terms of some group do, where a term holds when the atom of one
of its columns does. Without groups there is nothing. -/
theorem compile_normalForm (query : Text) :
    (∀ render : Text → Bool → Text,
      (compile render query).args = (groups query).flatten.map (fun t =>
        if t.exact then t.value else "%" ++ t.value ++ "%") ∧
      ∃ answers : List (List Text),
        answers.map List.length = (groups query).map List.length ∧
        answers.flatten = ((groups query).flatten.zipIdx 1).map (fun p =>
          render ("?" ++ Text.ofNat p.2) p.1.exact) ∧
        (compile render query).fragment = Text.joinWith " OR "
          (answers.map fun texts => "(" ++ Text.joinWith " AND " texts ++ ")")) ∧
    (∀ template : Template, template.Plain → groups query ≠ [] →
      ∃ c, Condition.read
          (compile (fun placeholder _ => template.clause placeholder true) query).fragment =
            some c ∧
        ∀ ρ : Condition.Valuation, c.value ρ 0 = true ↔
          ∃ before group after, groups query = before ++ group :: after ∧
            ∀ k < group.length,
              template.numbered.holds ρ (1 + before.flatten.length + k) = true) ∧
    (groups query = [] → ∀ render, compile render query = ⟨[], []⟩) := by
  refine ⟨fun render => ?_, fun template hplain hgroups => ?_, fun hnone render => ?_⟩
  · obtain ⟨answers, hlengths, hflatten, hfragments⟩ := exists_answers render 1 (groups query)
    refine ⟨?_, answers, hlengths, ?_, ?_⟩
    · rw [compile_eq]
      rfl
    · rw [hflatten, clauses_eq_map]
      rfl
    · rw [compile_eq, hfragments]
      rfl
  · have hnumbered : template.numbered.Plain := hplain
    obtain ⟨c, hreads, -, hvalue⟩ :=
      means_fragment hnumbered rfl hgroups fun group => ne_nil_of_mem_groups
    rw [compile_eq]
    refine ⟨c, hreads.read_eq, fun ρ => ?_⟩
    rw [hvalue, value_eq_true_iff]
  · rw [compile_eq, hnone]
    rfl

/-- An exact term and a phrase before another group, two columns, and a style of placeholders that
is not asked for. -/
theorem compile_normalForm_twoColumns :
    Template.Plain ⟨["name", "ORDER note"], "LIKE", .dollar⟩ ∧
      groups "=a \"x y\",b" = [[⟨"a", true⟩, ⟨"x y", false⟩], [⟨"b", false⟩]] ∧
      compile (fun placeholder _ =>
          Template.clause ⟨["name", "ORDER note"], "LIKE", .dollar⟩ placeholder true)
          "=a \"x y\",b" =
        ⟨"((name LIKE ?1 OR ORDER note LIKE ?1) AND (name LIKE ?2 OR ORDER note LIKE ?2)) OR " ++
          "((name LIKE ?3 OR ORDER note LIKE ?3))", ["a".toList, "%x y%".toList, "%b%".toList]⟩ ∧
      ∃ c, Condition.read (compile (fun placeholder _ =>
          Template.clause ⟨["name", "ORDER note"], "LIKE", .dollar⟩ placeholder true)
          "=a \"x y\",b").fragment = some c ∧
        ∀ ρ : Condition.Valuation, c.value ρ 0 = true ↔
          ∃ before group after, groups "=a \"x y\",b" = before ++ group :: after ∧
            ∀ k < group.length,
              (Template.numbered ⟨["name", "ORDER note"], "LIKE", .dollar⟩).holds ρ
                (1 + before.flatten.length + k) = true := by
  have hgroups : groups "=a \"x y\",b" = [[⟨"a", true⟩, ⟨"x y", false⟩], [⟨"b", false⟩]] := by
    decide +kernel
  have hne : groups "=a \"x y\",b" ≠ [] := by
    rw [hgroups]
    exact List.cons_ne_nil _ _
  exact ⟨by decide, hgroups, by decide +kernel, (compile_normalForm _).2.1 _ (by decide) hne⟩

end Flat

end SearchClause
