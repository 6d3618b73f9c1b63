import SearchClause.Proofs.Numbering

/-!
# What is searched for stays out of the fragment

The fragment goes to the database as it is, so nothing that was typed may get into it. Of a tree it
shows the operators and where the terms stand, and of a flat query how many terms each alternative
has; what the terms are is in the values alone. It is a statement about two queries: where these
facts agree, so do the fragments.

* **trees** — `SameShape.rendered_eq`: a rule that does not look at the text writes the same for two
  trees of one shape;
* **flat queries** — `Flat.fragments_eq`: the same for alternatives of the same lengths, if the rule
  does not look at whether a term is exact.
-/

namespace SearchClause

/-- The same operators around terms in the same places; the terms may differ. -/
inductive SameShape : Tree → Tree → Prop where
  /-- any two terms -/
  | leaf (term term' : Term) : SameShape (.leaf term) (.leaf term')
  /-- two negations -/
  | not {child child' : Tree} : SameShape child child' → SameShape (.not child) (.not child')
  /-- two conjunctions -/
  | and {left left' right right' : Tree} : SameShape left left' → SameShape right right' →
      SameShape (.and left right) (.and left' right')
  /-- two disjunctions -/
  | or {left left' right right' : Tree} : SameShape left left' → SameShape right right' →
      SameShape (.or left right) (.or left' right')

/-- A rule for terms that writes the same whatever the text. -/
def IgnoresText (render : Renderer) : Prop :=
  ∀ number text text' grouped, render number text grouped = render number text' grouped

theorem Template.ignoresText_renderer (template : Template) : IgnoresText template.renderer :=
  fun _ _ _ _ => rfl

namespace SameShape

variable {t u : Tree} {render : Renderer}

theorem leafCount_eq (h : SameShape t u) : t.leafCount = u.leafCount := by
  induction h with
  | leaf term term' => rfl
  | not _ ih => exact ih
  | and _ _ ihl ihr => rw [Tree.leafCount, Tree.leafCount, ihl, ihr]
  | or _ _ ihl ihr => rw [Tree.leafCount, Tree.leafCount, ihl, ihr]

/-- **One shape, one fragment.** The numbers of the terms are decided by the shape as well. -/
theorem rendered_eq (h : SameShape t u) (hrender : IgnoresText render) (first : Nat)
    (operand : Bool) :
    (t.numberFrom first).rendered render operand =
      (u.numberFrom first).rendered render operand := by
  induction h generalizing first operand with
  | leaf term term' => exact hrender first term.text term'.text operand
  | not _ ih => simp only [Tree.numberFrom, Numbered.rendered, ih]
  | and hl _ ihl ihr => simp only [Tree.numberFrom, Numbered.rendered, ihl, ihr, hl.leafCount_eq]
  | or hl _ ihl ihr => simp only [Tree.numberFrom, Numbered.rendered, ihl, ihr, hl.leafCount_eq]

end SameShape

namespace Flat

variable {render : Text → Bool → Text}

/-- Terms are written by their numbers, so only how many there are can be seen. -/
theorem clauses_eq (hrender : ∀ p exact exact', render p exact = render p exact') (first : Nat)
    {ts us : List FlatTerm} (h : ts.length = us.length) :
    clauses render first ts = clauses render first us := by
  induction ts generalizing first us with
  | nil =>
    obtain rfl := List.length_eq_zero_iff.1 h.symm
    rfl
  | cons t ts ih =>
    obtain ⟨u, us, rfl⟩ := List.exists_cons_of_length_eq_add_one h.symm
    rw [clauses, clauses, hrender _ t.exact u.exact, ih (first + 1) (Nat.succ.inj h)]

/-- **One list of lengths, one fragment.** -/
theorem fragments_eq (hrender : ∀ p exact exact', render p exact = render p exact') (first : Nat)
    {gs hs : List (List FlatTerm)} (h : gs.map List.length = hs.map List.length) :
    fragments render first gs = fragments render first hs := by
  induction gs generalizing first hs with
  | nil =>
    obtain rfl := List.map_eq_nil_iff.1 h.symm
    rfl
  | cons g gs ih =>
    obtain ⟨g', hs, rfl, hlength, hrest⟩ := List.map_eq_cons_iff.1 h.symm
    rw [fragments, fragments, clauses_eq hrender first hlength.symm, hlength, ih _ hrest.symm]

end Flat

/-- **What is searched for never reaches the fragment.** Trees of one shape have the same fragment,
and so have flat queries with the same number of terms in each alternative. -/
theorem fragment_eq_of_sameShape (template : Template) :
    (∀ t u : Tree, SameShape t u →
      (t.compile template.renderer).fragment = (u.compile template.renderer).fragment) ∧
    ∀ q r : Text, (Flat.groups q).map List.length = (Flat.groups r).map List.length →
      (Flat.compile (fun placeholder _ => template.clause placeholder true) q).fragment =
        (Flat.compile (fun placeholder _ => template.clause placeholder true) r).fragment := by
  refine ⟨fun t u h => ?_, fun q r h => ?_⟩
  · rw [t.fragment_compile, u.fragment_compile]
    exact h.rendered_eq template.ignoresText_renderer 1 false
  · rw [Flat.compile_eq, Flat.compile_eq]
    exact congrArg (Text.joinWith " OR ") (Flat.fragments_eq (fun _ _ _ => rfl) 1 h)

/-- A quote, a closing parenthesis and an operator in the text of a term change nothing but the
values, and neither does an exact term in a flat query. -/
theorem fragment_eq_of_sameShape_two_columns :
    SameShape (.and (.leaf ⟨"%a%", .contains⟩) (.not (.leaf ⟨"b", .exact⟩)))
        (.and (.leaf ⟨"') OR (1=1", .exact⟩) (.not (.leaf ⟨"?2_", .wildcard⟩))) ∧
      (Tree.compile (Template.renderer ⟨["name", "note"], "LIKE", .dollar⟩)
          (.and (.leaf ⟨"%a%", .contains⟩) (.not (.leaf ⟨"b", .exact⟩)))).fragment =
        (Tree.compile (Template.renderer ⟨["name", "note"], "LIKE", .dollar⟩)
          (.and (.leaf ⟨"') OR (1=1", .exact⟩) (.not (.leaf ⟨"?2_", .wildcard⟩)))).fragment ∧
      (Flat.groups "a b,c").map List.length = (Flat.groups "=\"') OR (\" d,=e").map List.length ∧
      (Flat.compile (fun placeholder _ =>
          Template.clause ⟨["name", "note"], "LIKE", .dollar⟩ placeholder true) "a b,c").fragment =
        (Flat.compile (fun placeholder _ =>
          Template.clause ⟨["name", "note"], "LIKE", .dollar⟩ placeholder true)
          "=\"') OR (\" d,=e").fragment := by
  have hshape : SameShape (.and (.leaf ⟨"%a%", .contains⟩) (.not (.leaf ⟨"b", .exact⟩)))
      (.and (.leaf ⟨"') OR (1=1", .exact⟩) (.not (.leaf ⟨"?2_", .wildcard⟩))) :=
    .and (.leaf _ _) (.not (.leaf _ _))
  have hgroups : (Flat.groups "a b,c").map List.length =
      (Flat.groups "=\"') OR (\" d,=e").map List.length := by
    decide +kernel
  exact ⟨hshape, (fragment_eq_of_sameShape _).1 _ _ hshape, hgroups,
    (fragment_eq_of_sameShape _).2 _ _ hgroups⟩

end SearchClause
