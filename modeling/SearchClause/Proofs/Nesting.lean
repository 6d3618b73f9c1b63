import SearchClause.Proofs.Quotes

/-!
# Groups inside groups

Parentheses count where no quote is open, and there they open and close groups. A scan from left to
right knows of the text before a place whether a quote is open and how many groups are, which is its
`Standing`. Two numbers come from it:

* `openGroups u` — how many groups are open after a text;
* `nesting s` — the most groups that are open at one place of it.

What a text does to the standing does not depend on how many groups are open before it, as long as
it closes none of them. `Climbs` says this of a text, and it is what is put together when texts are.
-/

namespace SearchClause

/-- What a place of a text lies in. -/
structure Standing where
  /-- a quote is open -/
  quoted : Bool
  /-- the number of open groups -/
  groups : Nat
deriving DecidableEq, Repr

namespace Standing

/-- The standing after one more character. A parenthesis that closes nothing changes nothing. -/
def next (st : Standing) (c : Char) : Standing :=
  if c = '"' then { st with quoted := !st.quoted }
  else if st.quoted then st
  else if c = '(' then { st with groups := st.groups + 1 }
  else if c = ')' then { st with groups := st.groups - 1 }
  else st

/-- The standing after more text. -/
def after (st : Standing) (s : Text) : Standing :=
  s.foldl next st

/-- The most groups that are open on the way through a text. -/
def deepest (st : Standing) : Text → Nat
  | [] => st.groups
  | c :: s => max st.groups ((st.next c).deepest s)

end Standing

/-- The number of groups that are open after a text. -/
def openGroups (u : Text) : Nat :=
  (Standing.after ⟨false, 0⟩ u).groups

/-- The most groups of a text that are open at one place. -/
def nesting (s : Text) : Nat :=
  Standing.deepest ⟨false, 0⟩ s

/-- A group is opened after `u` inside `limit` others, and none is opened so deep before. -/
structure FirstBeyond (limit : Nat) (u : Text) : Prop where
  /-- the place is outside quotes -/
  outside : Unquoted u
  /-- as many groups are open as may be -/
  full : openGroups u = limit
  /-- there were never more of them -/
  before : nesting u ≤ limit

/-! ## The scan -/

namespace Standing

variable {st : Standing} {c : Char} {u v : Text} {k n : Nat}

theorem next_quote (st : Standing) : st.next '"' = ⟨!st.quoted, st.groups⟩ := by
  simp [next]

theorem next_quoted (hc : c ≠ '"') : next ⟨true, k⟩ c = ⟨true, k⟩ := by
  simp [next, hc]

theorem next_opening (k : Nat) : next ⟨false, k⟩ '(' = ⟨false, k + 1⟩ := by
  simp [next]

theorem next_closing (k : Nat) : next ⟨false, k⟩ ')' = ⟨false, k - 1⟩ := by
  simp [next]

theorem next_other (hq : c ≠ '"') (ho : c ≠ '(') (hc : c ≠ ')') :
    next ⟨false, k⟩ c = ⟨false, k⟩ := by
  simp [next, hq, ho, hc]

theorem after_append (st : Standing) (u v : Text) :
    st.after (u ++ v) = (st.after u).after v :=
  List.foldl_append

theorem groups_le_deepest (st : Standing) (s : Text) : st.groups ≤ st.deepest s := by
  cases s with
  | nil => exact Nat.le_refl _
  | cons c s => exact Nat.le_max_left _ _

theorem deepest_append (st : Standing) (u v : Text) :
    st.deepest (u ++ v) = max (st.deepest u) ((st.after u).deepest v) := by
  induction u generalizing st with
  | nil => exact (Nat.max_eq_right (groups_le_deepest st v)).symm
  | cons c u ih =>
    rw [List.cons_append, deepest, ih, deepest, Nat.max_assoc]
    rfl

/-- **The depth of a text bounds the groups open at each of its places**, and is the least number
that does. -/
theorem deepest_le_iff {s : Text} {limit : Nat} :
    st.deepest s ≤ limit ↔ ∀ u, u <+: s → (st.after u).groups ≤ limit := by
  constructor
  · rintro h u ⟨v, rfl⟩
    rw [deepest_append] at h
    exact (groups_le_deepest _ v).trans (Nat.max_le.1 h).2
  · intro h
    induction s generalizing st with
    | nil => exact h [] List.nil_prefix
    | cons c s ih =>
      refine Nat.max_le.2 ⟨h [] List.nil_prefix, ?_⟩
      apply ih
      intro u hu
      exact h (c :: u) ((List.prefix_cons_inj c).2 hu)

/-- Whether a quote is open is decided by the number of quotes. -/
theorem quoted_after (st : Standing) (u : Text) :
    (st.after u).quoted = (st.quoted != decide (u.count '"' % 2 = 1)) := by
  induction u generalizing st with
  | nil => simp [after]
  | cons c u ih =>
    change ((st.next c).after u).quoted = _
    rw [ih]
    by_cases hc : c = '"'
    · subst hc
      rw [next_quote, List.count_cons_self]
      rcases Nat.mod_two_eq_zero_or_one (u.count '"') with h | h
      · simp [Nat.add_mod, h]
      · simp [Nat.add_mod, h]
    · have hnext : (st.next c).quoted = st.quoted := by
        simp only [next, hc, if_false]
        split
        · rfl
        · split
          · rfl
          · split <;> rfl
      rw [hnext, List.count_cons_of_ne hc]

end Standing

theorem nesting_le_iff {s : Text} {limit : Nat} :
    nesting s ≤ limit ↔ ∀ u, u <+: s → openGroups u ≤ limit :=
  Standing.deepest_le_iff

/-! ## Closing groups -/

theorem Standing.after_closings (k n : Nat) :
    after ⟨false, k⟩ (List.replicate n ')') = ⟨false, k - n⟩ := by
  induction n generalizing k with
  | zero => rfl
  | succ n ih =>
    change (next ⟨false, k⟩ ')').after (List.replicate n ')') = _
    rw [next_closing, ih, Nat.sub_sub, Nat.add_comm 1 n]

theorem Standing.deepest_closings (st : Standing) (n : Nat) :
    st.deepest (List.replicate n ')') = st.groups := by
  induction n generalizing st with
  | zero => rfl
  | succ n ih =>
    have hle : (st.next ')').groups ≤ st.groups := by
      obtain ⟨quoted, k⟩ := st
      cases quoted with
      | true => rw [next_quoted (by decide)]
      | false =>
        rw [next_closing]
        exact Nat.sub_le k 1
    rw [List.replicate_succ, deepest, ih, Nat.max_eq_left hle]

/-- Closing parentheses at the end make no text deeper. -/
theorem nesting_append_closings (u : Text) (n : Nat) :
    nesting (u ++ List.replicate n ')') = nesting u := by
  have hle : openGroups u ≤ nesting u := nesting_le_iff.1 (Nat.le_refl _) u List.prefix_rfl
  rw [nesting, Standing.deepest_append, Standing.deepest_closings]
  exact Nat.max_eq_left hle

/-! ## Climbing -/

/-- A text that leaves no quote open opens `opened` groups and closes none that was open before it;
on its way up to `height` groups are open. -/
structure Climbs (u : Text) (opened height : Nat) : Prop where
  /-- the standing after it -/
  after : ∀ k, Standing.after ⟨false, k⟩ u = ⟨false, k + opened⟩
  /-- how deep it gets -/
  deepest : ∀ k, Standing.deepest ⟨false, k⟩ u = k + height

section

variable {u v : Text} {opened height opened' height' : Nat}

theorem Climbs.openGroups_eq (h : Climbs u opened height) : openGroups u = opened := by
  rw [openGroups, h.after, Nat.zero_add]

theorem Climbs.nesting_eq (h : Climbs u opened height) : nesting u = height := by
  rw [nesting, h.deepest, Nat.zero_add]

theorem Climbs.unquoted (h : Climbs u opened height) : Unquoted u := by
  have hquoted := Standing.quoted_after ⟨false, 0⟩ u
  rw [h.after] at hquoted
  rw [Unquoted, Nat.even_iff]
  have hodd : ¬ u.count '"' % 2 = 1 := by simpa using hquoted
  omega

theorem Climbs.firstBeyond {limit : Nat} (h : Climbs u limit limit) : FirstBeyond limit u :=
  ⟨h.unquoted, h.openGroups_eq, h.nesting_eq.le⟩

theorem climbs_nil : Climbs [] 0 0 :=
  ⟨fun _ => rfl, fun _ => rfl⟩

theorem Climbs.append (hu : Climbs u opened height) (hv : Climbs v opened' height') :
    Climbs (u ++ v) (opened + opened') (max height (opened + height')) where
  after := by
    intro k
    rw [Standing.after_append, hu.after, hv.after, Nat.add_assoc]
  deepest := by
    intro k
    rw [Standing.deepest_append, hu.after, hu.deepest, hv.deepest]
    omega

/-- What stands before a text outside groups leaves its climb as it is. -/
theorem Climbs.after_level (hu : Climbs u 0 height) (hv : Climbs v opened' height') :
    Climbs (u ++ v) opened' (max height height') := by
  simpa using hu.append hv

theorem climbs_opening : Climbs ['('] 1 1 where
  after := fun k => Standing.next_opening k
  deepest := by
    intro k
    simp [Standing.deepest, Standing.next_opening]

theorem Climbs.opening (h : Climbs u opened height) :
    Climbs ('(' :: u) (opened + 1) (height + 1) := by
  have hboth := climbs_opening.append h
  rwa [Nat.add_comm 1, Nat.add_comm 1, Nat.max_eq_right (Nat.le_add_left 1 height)] at hboth

/-- **A group is level again.** -/
theorem Climbs.group (h : Climbs u 0 height) : Climbs ('(' :: (u ++ [')'])) 0 (height + 1) where
  after := by
    intro k
    rw [← List.cons_append, Standing.after_append, h.opening.after]
    exact Standing.next_closing (k + 1)
  deepest := by
    intro k
    rw [← List.cons_append, Standing.deepest_append, h.opening.after, h.opening.deepest]
    simp only [Standing.deepest, Nat.zero_add, Standing.next_closing]
    omega

/-- A text that is level once some groups are closed has opened as many. -/
theorem Climbs.opened_eq {n : Nat} (h : Climbs u opened height)
    (hclosed : Climbs (u ++ List.replicate n ')') 0 height') : opened = n := by
  -- with `n` groups open before the text, closing `n` after it cannot fall short
  have hafter := hclosed.after n
  rw [Standing.after_append, h.after, Standing.after_closings] at hafter
  have hgroups := congrArg Standing.groups hafter
  dsimp only at hgroups
  omega

theorem climbs_plain {w : Text} (hw : ∀ c ∈ w, c ≠ '"' ∧ c ≠ '(' ∧ c ≠ ')') : Climbs w 0 0 := by
  induction w with
  | nil => exact climbs_nil
  | cons c w ih =>
    obtain ⟨⟨hq, ho, hc⟩, hw⟩ := List.forall_mem_cons.1 hw
    have hone : Climbs [c] 0 0 :=
      ⟨fun k => Standing.next_other hq ho hc, fun k => by
        simp [Standing.deepest, Standing.next_other hq ho hc]⟩
    exact hone.after_level (ih hw)

theorem climbs_blanks {b : Text} (hb : Text.Blanks b) : Climbs b 0 0 := by
  apply climbs_plain
  intro c hc
  have hblank := hb c hc
  exact ⟨Text.ne_of_class hblank _ (by decide), Text.ne_of_class hblank _ (by decide),
    Text.ne_of_class hblank _ (by decide)⟩

theorem climbs_word {w : Text} (hw : ∀ c ∈ w, isWordChar c = true) : Climbs w 0 0 := by
  apply climbs_plain
  intro c hc
  have hword := hw c hc
  exact ⟨Text.ne_of_class hword _ (by decide), Text.ne_of_class hword _ (by decide),
    Text.ne_of_class hword _ (by decide)⟩

/-- Parentheses in a phrase do not count. -/
theorem climbs_phrase {p : Text} (hp : '"' ∉ p) : Climbs ('"' :: (p ++ ['"'])) 0 0 := by
  have hinside : ∀ k, Standing.after ⟨true, k⟩ p = ⟨true, k⟩ ∧
      Standing.deepest ⟨true, k⟩ p = k := by
    intro k
    induction p with
    | nil => exact ⟨rfl, rfl⟩
    | cons c p ih =>
      rw [List.mem_cons, not_or] at hp
      have hnext := Standing.next_quoted (k := k) (Ne.symm hp.1)
      obtain ⟨hafter, hdeepest⟩ := ih hp.2
      constructor
      · change (Standing.next ⟨true, k⟩ c).after p = _
        rw [hnext, hafter]
      · rw [Standing.deepest, hnext, hdeepest, Nat.max_self]
  constructor
  · intro k
    change (Standing.next ⟨false, k⟩ '"').after (p ++ ['"']) = _
    rw [Standing.next_quote, Standing.after_append, Bool.not_false, (hinside k).1]
    exact Standing.next_quote _
  · intro k
    rw [Standing.deepest, Standing.next_quote, Standing.deepest_append, Bool.not_false,
      (hinside k).1, (hinside k).2]
    simp [Standing.deepest, Standing.next_quote]

end

end SearchClause
