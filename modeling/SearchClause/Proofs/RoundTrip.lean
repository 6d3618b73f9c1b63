import SearchClause.Proofs.Grammar
import SearchClause.Proofs.Writable

/-!
# Writing a query and reading it back

A tree is written with the parentheses that its operators need, and reading it back should give the
tree again. It does so exactly for the trees whose leaves are `Readable`; the shape of the tree does
not matter. There are two sides to this:

* **grouping** — `exists_readsBack`: the printer leaves parentheses out only where the reader puts
  the operators together in the same way, so a tree is read back when its leaves are;
* **leaves** — `sound_of_derives`: the reader makes no other leaves than sound ones, so a tree with
  others is never read back, whatever it is written as.
-/

namespace SearchClause

namespace Tree

/-- The leaves from left to right, each with whether it stands directly below a negation. -/
def signedLeaves (negated : Bool) : Tree → List (Bool × Term)
  | leaf term => [(negated, term)]
  | not child => child.signedLeaves true
  | and left right => left.signedLeaves false ++ right.signedLeaves false
  | or left right => left.signedLeaves false ++ right.signedLeaves false

theorem signedLeaves_of_not_isLeaf {t : Tree} (h : t.isLeaf = false) (negated : Bool) :
    t.signedLeaves negated = t.signedLeaves false := by
  cases t with
  | leaf term => cases h
  | _ => rfl

theorem map_snd_signedLeaves (t : Tree) (negated : Bool) :
    (t.signedLeaves negated).map Prod.snd = t.leaves := by
  induction t generalizing negated with
  | leaf term => rfl
  | not child ih => exact ih true
  | and left right ihl ihr => simp [signedLeaves, leaves, ihl, ihr]
  | or left right ihl ihr => simp [signedLeaves, leaves, ihl, ihr]

end Tree

namespace RoundTrip

/-- A term that is written so that it is read back. -/
def Readable (negated : Bool) (term : Term) : Prop :=
  ∃ v, term = Term.ofValue term.kind v ∧ Writable negated term.kind v

/-- A term as the reader makes them. -/
def Sound (term : Term) : Prop :=
  ∃ v, term = Term.ofValue term.kind v ∧ Reader.SoundValue term.kind v

theorem Readable.sound {negated : Bool} {term : Term} (h : Readable negated term) : Sound term := by
  obtain ⟨v, hv, hw⟩ := h
  exact ⟨v, hv, hw.toSoundValue⟩

/-- A written tree is read as one of the trees in `R`, as a query and as the tightest part it can
stand for. -/
structure ReadsBack (t : Tree) (R : Set Tree) : Prop where
  /-- every tree is written as a query -/
  query : QueryBack t.written R
  /-- without a comma outside parentheses it is a clause -/
  clause : 2 ≤ t.binding → ClauseBack t.written R
  /-- without any operator outside parentheses it is a factor -/
  factor : t.binding = 3 → FactorBack t.written R

/-- Every leaf is written so that it is read back. -/
def AllReadable (negated : Bool) (t : Tree) : Prop :=
  ∀ p ∈ t.signedLeaves negated, Readable p.1 p.2

theorem ReadsBack.of_factor {t : Tree} {R : Set Tree} (h : FactorBack t.written R) :
    ReadsBack t R :=
  ⟨h.clause.query, fun _ => h.clause, fun _ => h⟩

/-- An operand that is read as a factor: a tighter tree as it stands, any tree in parentheses. -/
theorem ReadsBack.operand_factor {t : Tree} {R : Set Tree} (h : ReadsBack t R) {grouped : Bool}
    (hg : grouped = false → t.binding = 3) :
    FactorBack (Text.enclosed grouped t.written) R := by
  cases grouped with
  | false => exact h.factor (hg rfl)
  | true => exact h.query.group.factor (by decide) (by simp [Reader.IsSign])

/-- An operand that is read as a clause. -/
theorem ReadsBack.operand_clause {t : Tree} {R : Set Tree} (h : ReadsBack t R) {grouped : Bool}
    (hg : grouped = false → 2 ≤ t.binding) :
    ClauseBack (Text.enclosed grouped t.written) R := by
  cases grouped with
  | false => exact h.clause (hg rfl)
  | true => exact (h.operand_factor (by simp)).clause

theorem binding_le (t : Tree) : t.binding ≤ 3 := by
  cases t <;> simp [Tree.binding]

theorem binding_pos (t : Tree) : 1 ≤ t.binding := by
  cases t <;> simp [Tree.binding]

theorem readable_iff {negated : Bool} {term : Term} {v : Text}
    (hv : term = Term.ofValue term.kind v) :
    Readable negated term ↔ Writable negated term.kind v := by
  constructor
  · rintro ⟨v', hv', hw⟩
    obtain ⟨-, rfl⟩ := ofValue_inj.1 (hv.symm.trans hv')
    exact hw
  · intro hw
    exact ⟨v, hv, hw⟩

theorem allReadable_leaf {negated : Bool} {term : Term} :
    AllReadable negated (.leaf term) ↔ Readable negated term := by
  simp [AllReadable, Tree.signedLeaves]

theorem allReadable_and {negated : Bool} {left right : Tree} :
    AllReadable negated (.and left right) ↔ AllReadable false left ∧ AllReadable false right := by
  simp only [AllReadable, Tree.signedLeaves, List.forall_mem_append]

theorem allReadable_or {negated : Bool} {left right : Tree} :
    AllReadable negated (.or left right) ↔ AllReadable false left ∧ AllReadable false right := by
  simp only [AllReadable, Tree.signedLeaves, List.forall_mem_append]

/-- The operand of a negation is read as an atom: a leaf as it stands, any other tree in
parentheses. -/
theorem exists_operandBack {t : Tree} (hs : ∀ term ∈ t.leaves, Sound term)
    (h : ∃ R, ReadsBack t R ∧ (t ∈ R ↔ AllReadable false t)) :
    ∃ R, AtomBack (Text.enclosed (!t.isLeaf) t.written) R ∧ (t ∈ R ↔ AllReadable true t) := by
  cases hleaf : t.isLeaf with
  | true =>
    cases t with
    | leaf term =>
      obtain ⟨v, hv, hsound⟩ := hs term (by simp [Tree.leaves])
      obtain ⟨R, hatom, hmem⟩ := exists_atomBack hsound
      rw [← hv] at hatom hmem
      exact ⟨R, hatom, by rw [hmem, allReadable_leaf, readable_iff hv]⟩
    | _ => cases hleaf
  | false =>
    -- below a grouped operand no leaf follows the sign
    obtain ⟨R, hR, hmem⟩ := h
    refine ⟨R, hR.query.group, ?_⟩
    rw [hmem, AllReadable, AllReadable, Tree.signedLeaves_of_not_isLeaf hleaf true]

/-- **The printer against the reader.** A tree with sound terms is read back as itself exactly when
all its leaves are readable; the grouping is right whatever its shape. -/
theorem exists_readsBack (t : Tree) (hs : ∀ term ∈ t.leaves, Sound term) :
    ∃ R, ReadsBack t R ∧ (t ∈ R ↔ AllReadable false t) := by
  induction t with
  | leaf term =>
    obtain ⟨v, hv, hsound⟩ := hs term (by simp [Tree.leaves])
    obtain ⟨R, hfactor, hmem⟩ := exists_factorBack hsound
    rw [← hv] at hfactor hmem
    exact ⟨R, .of_factor hfactor, by rw [hmem, allReadable_leaf, readable_iff hv]⟩
  | not child ih =>
    obtain ⟨R, hatom, hmem⟩ := exists_operandBack (t := child) hs (ih hs)
    refine ⟨_, .of_factor hatom.negated, ?_⟩
    rw [Function.Injective.mem_set_image (fun _ _ h => Tree.not.inj h), hmem]
    rfl
  | and left right ihl ihr =>
    obtain ⟨R, hR, hmemR⟩ := ihl fun term h => hs term (List.mem_append_left _ h)
    obtain ⟨S, hS, hmemS⟩ := ihr fun term h => hs term (List.mem_append_right _ h)
    have hclause : ClauseBack (Tree.and left right).written (Set.image2 Tree.and R S) := by
      refine (hR.operand_clause ?_).and (hS.operand_factor ?_)
      · intro hg
        exact Nat.not_lt.1 (of_decide_eq_false hg)
      · intro hg
        have hle := binding_le right
        have hlt : ¬ right.binding ≤ 2 := of_decide_eq_false hg
        omega
    refine ⟨_, ⟨hclause.query, fun _ => hclause, fun h => by cases h⟩, ?_⟩
    rw [Set.mem_image2_iff (fun _ _ _ _ h => Tree.and.inj h), hmemR, hmemS, allReadable_and]
  | or left right ihl ihr =>
    obtain ⟨R, hR, hmemR⟩ := ihl fun term h => hs term (List.mem_append_left _ h)
    obtain ⟨S, hS, hmemS⟩ := ihr fun term h => hs term (List.mem_append_right _ h)
    have hleft : QueryBack (Text.enclosed (left.binding < 1) left.written) R := by
      have hpos := binding_pos left
      rw [decide_eq_false (by omega)]
      exact hR.query
    have hquery : QueryBack (Tree.or left right).written (Set.image2 Tree.or R S) := by
      refine hleft.or (hS.operand_clause ?_)
      intro hg
      have hlt : ¬ right.binding ≤ 1 := of_decide_eq_false hg
      omega
    refine ⟨_, ⟨hquery, fun h => absurd h (by simp [Tree.binding]), fun h => by cases h⟩, ?_⟩
    rw [Set.mem_image2_iff (fun _ _ _ _ h => Tree.or.inj h), hmemR, hmemS, allReadable_or]

/-! ## What the reader makes -/

/-- **The terms of a query are sound.** -/
theorem sound_of_derives {part : Grammar.Part} {s rest : Text} {t : Tree}
    (h : Grammar.Derives part s t rest) : ∀ term ∈ t.leaves, Sound term := by
  induction h with
  | first _ ih => exact ih
  | single _ ih => exact ih
  | or _ _ _ ihl ihr => exact List.forall_mem_append.2 ⟨ihl, ihr⟩
  | and _ _ _ ihl ihr => exact List.forall_mem_append.2 ⟨ihl, ihr⟩
  | negated _ _ _ _ ih => exact ih
  | plain _ _ _ ih => exact ih
  | group _ _ ih => exact ih
  | phrase hne hp =>
    rintro term hterm
    obtain rfl := List.mem_singleton.1 hterm
    exact ⟨_, rfl, Reader.soundValue_exact hne hp⟩
  | word hne hw hend hterm =>
    rintro term hmem
    obtain rfl := List.mem_singleton.1 hmem
    exact Reader.exists_soundValue hw hterm

/-- **Exactly the readable trees survive being written and read.** -/
theorem parse_written_eq_ok_iff (t : Tree) :
    parse none t.written = .ok t ↔ ∀ p ∈ t.signedLeaves false, Readable p.1 p.2 := by
  rw [parse_eq_ok_iff_whole]
  constructor
  · intro h
    obtain ⟨b, hd, -⟩ := (Grammar.whole_eq_ok_iff _ _).1 h
    obtain ⟨R, hR, hmem⟩ := exists_readsBack t (sound_of_derives hd)
    exact hmem.1 ((hR.query.whole t).1 h)
  · intro h
    have hs : ∀ term ∈ t.leaves, Sound term := by
      intro term hterm
      rw [← t.map_snd_signedLeaves false] at hterm
      obtain ⟨p, hp, rfl⟩ := List.mem_map.1 hterm
      exact (h p hp).sound
    obtain ⟨R, hR, hmem⟩ := exists_readsBack t hs
    exact (hR.query.whole t).2 (hmem.2 h)

end RoundTrip

end SearchClause
