import SearchClause.Clause.Flat

/-!
# Numbers, values and placeholders

Compiling collects values on its way through the tree, and the number of a term is how many there
are when its own has been added. Here the same is said without a walk. A `Numbered` tree has the
numbers of its terms written into it beforehand, and its fragment (`Numbered.rendered`) is found by
recursion alone.

* **numbering** — `eq_numbering_iff`: the terms of a tree are counted from one, from left to right,
  and there is one way to do so;
* **walk** — `toList_walk` and `walk_eq_rendered`: whatever values there are before a subtree, the
  walk adds those of its terms, and renders it with its terms counted on from there;
* **calls** — `Numbered.asks_rendered`: the rule for terms is asked once for every term, and the
  text between its answers does not depend on the rule;
* **flat queries** — `Flat.run_emitGroups`: their groups are walked through in the same way, and the
  terms are counted on from group to group.
-/

namespace SearchClause

/-- A Boolean expression over terms with numbers. -/
inductive Numbered where
  /-- a single term -/
  | leaf (number : Nat) (term : Term)
  /-- the child does not hold -/
  | not (child : Numbered)
  /-- both sides hold -/
  | and (left right : Numbered)
  /-- one of the sides holds -/
  | or (left right : Numbered)
deriving DecidableEq, Repr

/-- What a rule for terms is asked. -/
structure Call where
  /-- the number of the term -/
  number : Nat
  /-- the text of the term -/
  text : Text
  /-- whether the term is an operand of a conjunction or a disjunction -/
  grouped : Bool
deriving DecidableEq, Repr

/-- What the rule answers. -/
def Call.answer (render : Renderer) (call : Call) : Text :=
  render call.number call.text call.grouped

namespace Numbered

/-- The tree without the numbers. -/
def tree : Numbered → Tree
  | leaf _ term => .leaf term
  | not child => .not child.tree
  | and left right => .and left.tree right.tree
  | or left right => .or left.tree right.tree

/-- The numbers from left to right. -/
def numbers : Numbered → List Nat
  | leaf number _ => [number]
  | not child => child.numbers
  | and left right => left.numbers ++ right.numbers
  | or left right => left.numbers ++ right.numbers

/-- The same tree with all numbers greater by `k`. -/
def shift (k : Nat) : Numbered → Numbered
  | leaf number term => .leaf (number + k) term
  | not child => .not (child.shift k)
  | and left right => .and (left.shift k) (right.shift k)
  | or left right => .or (left.shift k) (right.shift k)

/-- The fragment of a subtree; `operand` says that its parent is a conjunction or a disjunction. -/
def rendered (render : Renderer) (operand : Bool) : Numbered → Text
  | leaf number term => render number term.text operand
  | not child => Tree.negated (child.rendered render false)
  | and left right =>
    Text.enclosed operand (left.rendered render true ++ " AND " ++ right.rendered render true)
  | or left right =>
    Text.enclosed operand (left.rendered render true ++ " OR " ++ right.rendered render true)

/-- One call for each term, from left to right; `operand` is as for `rendered`. -/
def calls (operand : Bool) : Numbered → List Call
  | leaf number term => [⟨number, term.text, operand⟩]
  | not child => child.calls false
  | and left right => left.calls true ++ right.calls true
  | or left right => left.calls true ++ right.calls true

theorem length_numbers (n : Numbered) : n.numbers.length = n.tree.leafCount := by
  induction n with
  | leaf number term => rfl
  | not child ih => exact ih
  | and left right ihl ihr => simp [numbers, tree, Tree.leafCount, ihl, ihr]
  | or left right ihl ihr => simp [numbers, tree, Tree.leafCount, ihl, ihr]

/-- The numbers of two operands can be told apart once their trees are known. -/
theorem numbers_append_inj {l r l' r' : Numbered} (htree : l.tree = l'.tree)
    (h : l.numbers ++ r.numbers = l'.numbers ++ r'.numbers) :
    l.numbers = l'.numbers ∧ r.numbers = r'.numbers := by
  refine List.append_inj h ?_
  rw [length_numbers, length_numbers, htree]

/-- **A tree and its numbers are all there is.** -/
theorem eq_of_tree_eq {n m : Numbered} (htree : n.tree = m.tree) (h : n.numbers = m.numbers) :
    n = m := by
  induction n generalizing m with
  | leaf number term =>
    cases m with
    | leaf number' term' =>
      obtain rfl := Tree.leaf.inj htree
      obtain rfl : number = number' := by simpa [numbers] using h
      rfl
    | _ => cases htree
  | not child ih =>
    cases m with
    | not child' => rw [ih (Tree.not.inj htree) h]
    | _ => cases htree
  | and left right ihl ihr =>
    cases m with
    | and left' right' =>
      obtain ⟨hleft, hright⟩ := Tree.and.inj htree
      obtain ⟨hl, hr⟩ := numbers_append_inj hleft h
      rw [ihl hleft hl, ihr hright hr]
    | _ => cases htree
  | or left right ihl ihr =>
    cases m with
    | or left' right' =>
      obtain ⟨hleft, hright⟩ := Tree.or.inj htree
      obtain ⟨hl, hr⟩ := numbers_append_inj hleft h
      rw [ihl hleft hl, ihr hright hr]
    | _ => cases htree

end Numbered

/-! ## Calls -/

/-- A text made with a rule for terms asks the rule these things, each once and in this order. What
stands between the answers is the same for every rule. -/
def Asks (calls : List Call) (made : Renderer → Text) : Prop :=
  ∃ pieces : List (Text ⊕ Call), pieces.filterMap Sum.getRight? = calls ∧
    ∀ render, made render = pieces.flatMap (Sum.elim id (Call.answer render))

section

variable {calls calls' : List Call} {made made' : Renderer → Text}

theorem asks_text (t : Text) : Asks [] fun _ => t :=
  ⟨[.inl t], rfl, fun _ => by simp⟩

theorem asks_call (call : Call) : Asks [call] fun render => call.answer render :=
  ⟨[.inr call], rfl, fun _ => by simp⟩

theorem Asks.append (h : Asks calls made) (h' : Asks calls' made') :
    Asks (calls ++ calls') fun render => made render ++ made' render := by
  obtain ⟨pieces, hcalls, hmade⟩ := h
  obtain ⟨pieces', hcalls', hmade'⟩ := h'
  refine ⟨pieces ++ pieces', ?_, fun render => ?_⟩
  · rw [List.filterMap_append, hcalls, hcalls']
  · simp only [hmade, hmade', List.flatMap_append]

/-- Fixed text on both sides asks nothing more. -/
theorem Asks.between (before after : Text) (h : Asks calls made) :
    Asks calls fun render => before ++ made render ++ after := by
  have hboth := ((asks_text before).append h).append (asks_text after)
  rwa [List.nil_append, List.append_nil] at hboth

theorem Asks.enclosed (grouped : Bool) (h : Asks calls made) :
    Asks calls fun render => Text.enclosed grouped (made render) := by
  cases grouped with
  | true => exact h.between ['('] [')']
  | false => exact h

/-- Two operands and the operator between them ask what both of them ask. -/
theorem Asks.joined (operator : Text) (grouped : Bool) (h : Asks calls made)
    (h' : Asks calls' made') :
    Asks (calls ++ calls') fun render =>
      Text.enclosed grouped (made render ++ operator ++ made' render) := by
  have hleft : Asks calls fun render => made render ++ operator := by
    have hboth := h.append (asks_text operator)
    rwa [List.append_nil] at hboth
  exact (hleft.append h').enclosed grouped

theorem Numbered.asks_rendered (n : Numbered) (operand : Bool) :
    Asks (n.calls operand) fun render => n.rendered render operand := by
  induction n generalizing operand with
  | leaf number term => exact asks_call ⟨number, term.text, operand⟩
  | not child ih => exact (ih false).between "NOT (" [')']
  | and left right ihl ihr => exact (ihl true).joined " AND " operand (ihr true)
  | or left right ihl ihr => exact (ihl true).joined " OR " operand (ihr true)

end

/-! ## Numbering -/

namespace Tree

/-- The terms counted on from `first`, from left to right. -/
def numberFrom (first : Nat) : Tree → Numbered
  | leaf term => .leaf first term
  | not child => .not (child.numberFrom first)
  | and left right => .and (left.numberFrom first) (right.numberFrom (first + left.leafCount))
  | or left right => .or (left.numberFrom first) (right.numberFrom (first + left.leafCount))

/-- The terms counted from one. -/
def numbering (t : Tree) : Numbered :=
  t.numberFrom 1

theorem tree_numberFrom (t : Tree) (first : Nat) : (t.numberFrom first).tree = t := by
  induction t generalizing first with
  | leaf term => rfl
  | not child ih => simp [numberFrom, Numbered.tree, ih]
  | and left right ihl ihr => simp [numberFrom, Numbered.tree, ihl, ihr]
  | or left right ihl ihr => simp [numberFrom, Numbered.tree, ihl, ihr]

theorem numbers_numberFrom (t : Tree) (first : Nat) :
    (t.numberFrom first).numbers = List.range' first t.leafCount := by
  induction t generalizing first with
  | leaf term => rfl
  | not child ih => exact ih first
  | and left right ihl ihr =>
    simp only [numberFrom, Numbered.numbers, leafCount, ihl, ihr, List.range'_append_1]
  | or left right ihl ihr =>
    simp only [numberFrom, Numbered.numbers, leafCount, ihl, ihr, List.range'_append_1]

/-- **There is one numbering**: the one that counts from one to the number of terms, from left to
right. -/
theorem eq_numbering_iff {t : Tree} {n : Numbered} :
    n = t.numbering ↔ n.tree = t ∧ n.numbers = List.range' 1 t.leafCount := by
  constructor
  · rintro rfl
    exact ⟨t.tree_numberFrom 1, t.numbers_numberFrom 1⟩
  · rintro ⟨htree, hnumbers⟩
    refine Numbered.eq_of_tree_eq ?_ ?_
    · rw [htree, numbering, tree_numberFrom]
    · rw [hnumbers, numbering, numbers_numberFrom]

theorem shift_numberFrom (t : Tree) (first k : Nat) :
    (t.numberFrom first).shift k = t.numberFrom (first + k) := by
  induction t generalizing first with
  | leaf term => rfl
  | not child ih => simp [numberFrom, Numbered.shift, ih]
  | and left right ihl ihr => simp [numberFrom, Numbered.shift, ihl, ihr, Nat.add_right_comm]
  | or left right ihl ihr => simp [numberFrom, Numbered.shift, ihl, ihr, Nat.add_right_comm]

/-- Each call has the text of its term, and calls and terms have the same order. -/
theorem map_calls_numberFrom (t : Tree) (first : Nat) (operand : Bool) :
    ((t.numberFrom first).calls operand).map (fun call => (call.text, call.number)) =
      (t.leaves.map Term.text).zipIdx first := by
  induction t generalizing first operand with
  | leaf term => rfl
  | not child ih => exact ih first false
  | and left right ihl ihr =>
    simp only [numberFrom, Numbered.calls, leaves, List.map_append, ihl, ihr, List.zipIdx_append,
      List.length_map, length_leaves]
  | or left right ihl ihr =>
    simp only [numberFrom, Numbered.calls, leaves, List.map_append, ihl, ihr, List.zipIdx_append,
      List.length_map, length_leaves]

/-! ## The walk -/

section

variable {render : Renderer}

/-- A subtree is walked through from the values before it: its fragment and the values after it. -/
def walk (render : Renderer) (grouped : Bool) (args : Array Text) (t : Tree) : Text × Array Text :=
  (t.emit render grouped).run args

theorem walk_leaf (term : Term) (grouped : Bool) (args : Array Text) :
    walk render grouped args (.leaf term) =
      (render (args.size + 1) term.text grouped, args.push term.text) := by
  rw [← Array.size_push]
  rfl

theorem walk_not (child : Tree) (grouped : Bool) (args : Array Text) :
    walk render grouped args (.not child) =
      (negated (walk render false args child).1, (walk render false args child).2) :=
  rfl

theorem walk_and (left right : Tree) (grouped : Bool) (args : Array Text) :
    walk render grouped args (.and left right) =
      let first := walk render true args left
      let second := walk render true first.2 right
      (Text.enclosed grouped (first.1 ++ " AND " ++ second.1), second.2) :=
  rfl

theorem walk_or (left right : Tree) (grouped : Bool) (args : Array Text) :
    walk render grouped args (.or left right) =
      let first := walk render true args left
      let second := walk render true first.2 right
      (Text.enclosed grouped (first.1 ++ " OR " ++ second.1), second.2) :=
  rfl

/-- The values after a subtree are those before it and then its own. -/
theorem toList_walk (t : Tree) (grouped : Bool) (args : Array Text) :
    (walk render grouped args t).2.toList = args.toList ++ t.leaves.map Term.text := by
  induction t generalizing grouped args with
  | leaf term => simp only [walk_leaf, leaves, Array.toList_push, List.map_cons, List.map_nil]
  | not child ih => simp only [walk_not, leaves, ih]
  | and left right ihl ihr =>
    simp only [walk_and, leaves, ihl, ihr, List.map_append, List.append_assoc]
  | or left right ihl ihr =>
    simp only [walk_or, leaves, ihl, ihr, List.map_append, List.append_assoc]

/-- After a left operand there is a value for each of its terms. -/
theorem size_walk_succ (t : Tree) (grouped : Bool) (args : Array Text) :
    (walk render grouped args t).2.size + 1 = args.size + 1 + t.leafCount := by
  rw [← Array.length_toList, toList_walk, List.length_append, List.length_map, length_leaves,
    Array.length_toList, Nat.add_right_comm]

/-- **The walk against the numbering.** Whatever values there are before a subtree, its terms are
counted on from their number. -/
theorem walk_eq_rendered (t : Tree) (grouped : Bool) (args : Array Text) :
    (walk render grouped args t).1 = (t.numberFrom (args.size + 1)).rendered render grouped := by
  induction t generalizing grouped args with
  | leaf term => simp only [walk_leaf, numberFrom, Numbered.rendered]
  | not child ih => simp only [walk_not, numberFrom, Numbered.rendered, ih]
  | and left right ihl ihr =>
    simp only [walk_and, numberFrom, Numbered.rendered, ihl, ihr, size_walk_succ]
  | or left right ihl ihr =>
    simp only [walk_or, numberFrom, Numbered.rendered, ihl, ihr, size_walk_succ]

theorem fragment_compile (t : Tree) :
    (t.compile render).fragment = t.numbering.rendered render false :=
  t.walk_eq_rendered false #[]

theorem args_compile (t : Tree) : (t.compile render).args = t.leaves.map Term.text :=
  t.toList_walk false #[]

end

/-- **Values and placeholders go together, whatever the rule for terms.** The values are the texts
of the terms. The fragment is that of the numbering, in which the terms are counted from one; for it
the rule is asked once for every term, with the term's number, the value that has this number, and
whether the term is an operand of a conjunction or a disjunction. In a right operand every number is
the one the term has there alone, plus the number of terms on the left. -/
theorem compile_eq_rendered_numbering (t : Tree) :
    (∀ n : Numbered, n = t.numbering ↔ n.tree = t ∧ n.numbers = List.range' 1 t.leafCount) ∧
      (∀ render, (t.compile render).args = t.leaves.map Term.text ∧
        (t.compile render).args.length = t.leafCount ∧
        (t.compile render).fragment = t.numbering.rendered render false ∧
        (t.numbering.calls false).map (fun call => (call.text, call.number)) =
          (t.compile render).args.zipIdx 1) ∧
      Asks (t.numbering.calls false) (fun render => (t.compile render).fragment) ∧
      ∀ left right : Tree,
        (Tree.and left right).numbering =
            .and left.numbering (right.numbering.shift left.leafCount) ∧
          (Tree.or left right).numbering =
            .or left.numbering (right.numbering.shift left.leafCount) := by
  refine ⟨fun n => eq_numbering_iff, fun render => ⟨args_compile t, ?_, fragment_compile t, ?_⟩,
    ?_, fun left right => ⟨?_, ?_⟩⟩
  · rw [args_compile, List.length_map, length_leaves]
  · rw [args_compile]
    exact t.map_calls_numberFrom 1 false
  · simp only [fragment_compile]
    exact t.numbering.asks_rendered false
  · exact congrArg (Numbered.and left.numbering) (right.shift_numberFrom 1 left.leafCount).symm
  · exact congrArg (Numbered.or left.numbering) (right.shift_numberFrom 1 left.leafCount).symm

end Tree

/-! ## Flat queries -/

namespace Flat

/-- The clauses of terms that are counted from `first`. -/
def clauses (render : Text → Bool → Text) (first : Nat) : List FlatTerm → List Text
  | [] => []
  | t :: rest => render ('?' :: Text.ofNat first) t.exact :: clauses render (first + 1) rest

/-- The fragments of alternatives whose terms are counted from `first`. -/
def fragments (render : Text → Bool → Text) (first : Nat) : List (List FlatTerm) → List Text
  | [] => []
  | group :: rest =>
    Text.enclosed true (Text.joinWith " AND " (clauses render first group)) ::
      fragments render (first + group.length) rest

variable (render : Text → Bool → Text)

/-- A list is walked through element by element, from the values that each leaves behind. -/
theorem run_mapM_cons {α : Type} (emit : α → StateM (Array Text) Text) (x : α) (xs : List α)
    (args : Array Text) :
    ((x :: xs).mapM emit).run args =
      let first := (emit x).run args
      let rest := (xs.mapM emit).run first.2
      (first.1 :: rest.1, rest.2) := by
  rw [List.mapM_cons]
  rfl

theorem run_emitTerm (t : FlatTerm) (args : Array Text) :
    (emitTerm render t).run args =
      (render ('?' :: Text.ofNat (args.size + 1)) t.exact, args.push (argument t)) := by
  rw [← Array.size_push]
  rfl

theorem run_emitTerms (ts : List FlatTerm) (args : Array Text) :
    (ts.mapM (emitTerm render)).run args =
      (clauses render (args.size + 1) ts, (args.toList ++ ts.map argument).toArray) := by
  induction ts generalizing args with
  | nil =>
    rw [List.mapM_nil, List.map_nil, List.append_nil]
    rfl
  | cons t ts ih =>
    simp only [run_mapM_cons, run_emitTerm, ih, clauses, Array.size_push, Array.toList_push,
      List.map_cons, List.append_assoc, List.singleton_append]

theorem run_emitGroup (group : List FlatTerm) (args : Array Text) :
    (emitGroup render group).run args =
      (Text.enclosed true (Text.joinWith " AND " (clauses render (args.size + 1) group)),
        (args.toList ++ group.map argument).toArray) := by
  rw [emitGroup, StateT.run_bind, run_emitTerms]
  rfl

/-- **The walk through the groups.** Whatever values there are before them, the terms are counted on
from their number, through all groups, and their values are added in order. -/
theorem run_emitGroups (groups : List (List FlatTerm)) (args : Array Text) :
    (groups.mapM (emitGroup render)).run args =
      (fragments render (args.size + 1) groups,
        (args.toList ++ groups.flatten.map argument).toArray) := by
  induction groups generalizing args with
  | nil =>
    rw [List.mapM_nil, List.flatten_nil, List.map_nil, List.append_nil]
    rfl
  | cons group groups ih =>
    have hnext : (args.toList ++ group.map argument).toArray.size + 1 =
        args.size + 1 + group.length := by
      simp [Nat.add_right_comm]
    simp only [run_mapM_cons, run_emitGroup, ih, fragments, hnext, List.flatten_cons,
      List.map_append, List.append_assoc]

theorem compile_eq (query : Text) :
    compile render query = ⟨Text.joinWith " OR " (fragments render 1 (groups query)),
      (groups query).flatten.map argument⟩ := by
  rw [compile, run_emitGroups]
  rfl

end Flat

end SearchClause
