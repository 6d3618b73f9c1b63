import SearchClause.Text.Basic

/-!
# Conditions and how a database reads them

A condition is a Boolean expression over atoms. `Written` is the grammar of its tokens: `NOT` binds
tighter than `AND`, and `AND` tighter than `OR`; parentheses group; operators of one kind associate
to the left. `readTokens` is the reader for it. It goes through the tokens once and keeps a stack of
the groups that are open, each with the alternatives and factors that are complete in it.

Main result: the reader finds a condition exactly where the grammar has one, and finds that one
(`readTokens_eq_some_iff`).
-/

namespace SearchClause

/-- A Boolean expression over atoms. -/
inductive Condition where
  /-- a text without operators -/
  | atom (text : Text)
  /-- the condition does not hold -/
  | not (inner : Condition)
  /-- both conditions hold -/
  | and (left right : Condition)
  /-- one of the conditions holds -/
  | or (left right : Condition)
deriving DecidableEq, Repr

namespace Condition

/-- A truth value for every atom, by its place and its text. The text is not enough, since atoms
with anonymous placeholders look the same and compare with different values. -/
abbrev Valuation :=
  Nat → Text → Bool

/-- The number of atoms. -/
def atomCount : Condition → Nat
  | atom _ => 1
  | not inner => inner.atomCount
  | and left right => left.atomCount + right.atomCount
  | or left right => left.atomCount + right.atomCount

/-- The value of a condition whose first atom has the place `first`. -/
def value (ρ : Valuation) (first : Nat) : Condition → Bool
  | atom text => ρ first text
  | not inner => !inner.value ρ first
  | and left right => left.value ρ first && right.value ρ (first + left.atomCount)
  | or left right => left.value ρ first || right.value ρ (first + left.atomCount)

/-! ## Grammar -/

/-- What a condition is written with. -/
inductive Token where
  /-- `(` -/
  | opening
  /-- `)` -/
  | closing
  /-- `NOT` -/
  | not
  /-- `AND` -/
  | and
  /-- `OR` -/
  | or
  /-- an atom -/
  | atom (text : Text)
deriving DecidableEq, Repr

/-- How tightly the tokens of a condition hold together. -/
inductive Level where
  /-- joined by `OR` -/
  | disjunction
  /-- joined by `AND` -/
  | conjunction
  /-- an operand of any operator -/
  | factor
deriving DecidableEq, Repr

/-- The tokens of a condition, by precedence. -/
inductive Written : Level → List Token → Condition → Prop where
  | atom (text) : Written .factor [.atom text] (.atom text)
  | group {ts c} : Written .disjunction ts c → Written .factor (.opening :: ts ++ [.closing]) c
  | not {ts c} : Written .factor ts c → Written .factor (.not :: ts) (.not c)
  | factor {ts c} : Written .factor ts c → Written .conjunction ts c
  | and {ts us c d} : Written .conjunction ts c → Written .factor us d →
      Written .conjunction (ts ++ .and :: us) (.and c d)
  | conjunction {ts c} : Written .conjunction ts c → Written .disjunction ts c
  | or {ts us c d} : Written .disjunction ts c → Written .conjunction us d →
      Written .disjunction (ts ++ .or :: us) (.or c d)

/-! ## Reader -/

/-- A condition under a number of negations. -/
def negated : Nat → Condition → Condition
  | 0, c => c
  | n + 1, c => negated n (.not c)

/-- A condition with what an operator joins to its left. -/
def joined (operator : Condition → Condition → Condition) : Option Condition → Condition → Condition
  | none, c => c
  | some left, c => operator left c

/-- What a group has before the operand that is read. -/
structure Pending where
  /-- the alternatives that are complete -/
  alternatives : Option Condition
  /-- the factors of the last alternative -/
  factors : Option Condition
deriving DecidableEq, Repr

/-- The last alternative, with its last factor. -/
def Pending.conjunction (p : Pending) (c : Condition) : Condition :=
  joined .and p.factors c

/-- The whole group, with its last factor. -/
def Pending.disjunction (p : Pending) (c : Condition) : Condition :=
  joined .or p.alternatives (p.conjunction c)

/-- Where the reader stands. Open groups around the current one are listed from the inside, with the
negations before them. -/
inductive State where
  /-- an operand comes next, under a number of negations -/
  | operand (negations : Nat) (pending : Pending) (outer : List (Nat × Pending))
  /-- an operand has been read -/
  | operator (last : Condition) (pending : Pending) (outer : List (Nat × Pending))
deriving DecidableEq, Repr

/-- The start of a group inside others. -/
def State.start (outer : List (Nat × Pending)) : State :=
  .operand 0 ⟨none, none⟩ outer

/-- One token further. -/
def step : State → Token → Option State
  | .operand n p outer, .not => some (.operand (n + 1) p outer)
  | .operand n p outer, .opening => some (.start ((n, p) :: outer))
  | .operand n p outer, .atom text => some (.operator (negated n (.atom text)) p outer)
  | .operator c p outer, .and => some (.operand 0 ⟨p.alternatives, some (p.conjunction c)⟩ outer)
  | .operator c p outer, .or => some (.operand 0 ⟨some (p.disjunction c), none⟩ outer)
  | .operator c p ((n, q) :: outer), .closing =>
    some (.operator (negated n (p.disjunction c)) q outer)
  | _, _ => none

/-- All tokens further. -/
def run (s : State) (ts : List Token) : Option State :=
  ts.foldlM step s

/-- The condition that has been read, if no group is open. -/
def finish : State → Option Condition
  | .operator c p [] => some (p.disjunction c)
  | _ => none

/-- The condition with the given tokens. -/
def readTokens (ts : List Token) : Option Condition :=
  (run (.start []) ts).bind finish

/-! ## Every condition of the grammar is read -/

/-- What reading the tokens of a condition does in the midst of others. -/
def Reached : Level → List Token → Condition → Prop
  | .factor, ts, c => ∀ n p outer,
      run (.operand n p outer) ts = some (.operator (negated n c) p outer)
  | .conjunction, ts, c => ∀ before outer, ∃ last p,
      run (.operand 0 ⟨before, none⟩ outer) ts = some (.operator last p outer) ∧
        p.alternatives = before ∧ p.conjunction last = c
  | .disjunction, ts, c => ∀ outer, ∃ last p,
      run (.start outer) ts = some (.operator last p outer) ∧ p.disjunction last = c

section

variable {ts us : List Token} {c : Condition} {l : Level} {s s' : State}

theorem run_append (h : run s ts = some s') : run s (ts ++ us) = run s' us := by
  rw [run] at h
  rw [run, List.foldlM_append, h]
  rfl

theorem reached_of_written (h : Written l ts c) : Reached l ts c := by
  induction h with
  | atom text =>
    intro n p outer
    rfl
  | group _ ih =>
    intro n p outer
    -- the closing parenthesis takes up what was put aside at the opening one
    obtain ⟨last, q, hrun, rfl⟩ := ih ((n, p) :: outer)
    exact run_append hrun
  | not _ ih =>
    intro n p outer
    exact ih (n + 1) p outer
  | factor _ ih =>
    intro before outer
    exact ⟨_, _, ih 0 ⟨before, none⟩ outer, rfl, rfl⟩
  | and _ _ ihl ihr =>
    intro before outer
    obtain ⟨last, p, hrun, rfl, rfl⟩ := ihl before outer
    have hnext := ihr 0 ⟨p.alternatives, some (p.conjunction last)⟩ outer
    exact ⟨_, _, (run_append hrun).trans hnext, rfl, rfl⟩
  | conjunction _ ih =>
    intro outer
    obtain ⟨last, p, hrun, halts, rfl⟩ := ih none outer
    refine ⟨last, p, hrun, ?_⟩
    rw [Pending.disjunction, halts]
    rfl
  | or _ _ ihl ihr =>
    intro outer
    obtain ⟨last, p, hrun, rfl⟩ := ihl outer
    -- at `OR` the group so far becomes one alternative, and its factors are done
    obtain ⟨last', q, hrun', halts, rfl⟩ := ihr (some (p.disjunction last)) outer
    refine ⟨last', q, (run_append hrun).trans hrun', ?_⟩
    rw [Pending.disjunction, halts]
    rfl

end

/-! ## Nothing else is read -/

/-- The tokens of what stands to the left of an operator, with the operator. -/
inductive LeftOf (operator : Token) (l : Level) : Option Condition → List Token → Prop where
  | none : LeftOf operator l none []
  | some {ts c} : Written l ts c → LeftOf operator l (some c) (ts ++ [operator])

/-- The tokens of a group before the operand that is read. -/
inductive Pending.Spelled : Pending → List Token → Prop where
  | mk {before factors ts us} : LeftOf .or .disjunction before ts →
      LeftOf .and .conjunction factors us → Spelled ⟨before, factors⟩ (ts ++ us)

/-- The tokens up to the current group. -/
inductive Opened : List (Nat × Pending) → List Token → Prop where
  | nil : Opened [] []
  | cons {n p outer ts us} : Opened outer ts → p.Spelled us →
      Opened ((n, p) :: outer) (ts ++ (us ++ (List.replicate n .not ++ [.opening])))

/-- The tokens that lead to a state. -/
inductive Consumed : State → List Token → Prop where
  | operand {n p outer ts us} : Opened outer ts → p.Spelled us →
      Consumed (.operand n p outer) (ts ++ (us ++ List.replicate n .not))
  | operator {c p outer ts us vs} : Opened outer ts → p.Spelled us → Written .factor vs c →
      Consumed (.operator c p outer) (ts ++ (us ++ vs))

section

variable {ts us : List Token} {c : Condition} {s s' : State}

theorem Written.negated (h : Written .factor ts c) (n : Nat) :
    Written .factor (List.replicate n .not ++ ts) (negated n c) := by
  induction n generalizing ts c with
  | zero => exact h
  | succ n ih =>
    rw [List.replicate_succ', List.append_assoc]
    exact ih h.not

theorem LeftOf.and {before : Option Condition} (h : LeftOf .and .conjunction before ts)
    (hc : Written .factor us c) : Written .conjunction (ts ++ us) (joined .and before c) := by
  cases h with
  | none => exact hc.factor
  | some hleft =>
    rw [List.append_assoc]
    exact hleft.and hc

theorem LeftOf.or {before : Option Condition} (h : LeftOf .or .disjunction before ts)
    (hc : Written .conjunction us c) : Written .disjunction (ts ++ us) (joined .or before c) := by
  cases h with
  | none => exact hc.conjunction
  | some hleft =>
    rw [List.append_assoc]
    exact hleft.or hc

theorem Pending.Spelled.disjunction {p : Pending} (h : p.Spelled ts) (hc : Written .factor us c) :
    Written .disjunction (ts ++ us) (p.disjunction c) := by
  obtain ⟨halts, hfactors⟩ := h
  rw [List.append_assoc]
  exact halts.or (hfactors.and hc)

theorem Pending.spelled_nil : Pending.Spelled ⟨none, none⟩ [] :=
  .mk .none .none

/-- **One token.** What the reader keeps spells the tokens it has seen. -/
theorem Consumed.step {t : Token} (h : Consumed s ts) (hstep : step s t = some s') :
    Consumed s' (ts ++ [t]) := by
  -- in each case the next state spells the same tokens, only bracketed in another way
  cases h with
  | @operand n p outer ts us houter hp =>
    cases t with
    | not =>
      cases hstep
      have hnext := Consumed.operand (n := n + 1) houter hp
      simpa [List.replicate_succ'] using hnext
    | opening =>
      cases hstep
      have hnext := Consumed.operand (n := 0) (houter.cons (n := n) hp) Pending.spelled_nil
      simpa [State.start] using hnext
    | atom text =>
      cases hstep
      have hnext := Consumed.operator houter hp ((Written.atom text).negated n)
      simpa using hnext
    | closing => cases hstep
    | and => cases hstep
    | or => cases hstep
  | @operator c p outer ts us vs houter hp hc =>
    cases t with
    | and =>
      cases hstep
      obtain ⟨halts, hfactors⟩ := hp
      have hnext := Consumed.operand (n := 0) houter (.mk halts (.some (hfactors.and hc)))
      simpa [Pending.conjunction] using hnext
    | or =>
      cases hstep
      have hnext := Consumed.operand (n := 0) houter (.mk (.some (hp.disjunction hc)) .none)
      simpa using hnext
    | closing =>
      cases houter with
      | nil => cases hstep
      | @cons n _ _ _ _ houter hq =>
        cases hstep
        have hnext := Consumed.operator houter hq ((hp.disjunction hc).group.negated n)
        simpa using hnext
    | opening => cases hstep
    | not => cases hstep
    | atom text => cases hstep

/-- **All tokens.** -/
theorem Consumed.run (h : Consumed s ts) (hrun : run s us = some s') : Consumed s' (ts ++ us) := by
  induction us generalizing s ts with
  | nil =>
    cases hrun
    rwa [List.append_nil]
  | cons t us ih =>
    rw [Condition.run, List.foldlM_cons] at hrun
    obtain ⟨s₁, hstep, hrest⟩ := Option.bind_eq_some_iff.1 hrun
    have hnext := ih (h.step hstep) hrest
    rwa [List.append_assoc] at hnext

/-- **The reader reads the grammar.** It finds a condition exactly where there is one. -/
theorem readTokens_eq_some_iff : readTokens ts = some c ↔ Written .disjunction ts c := by
  constructor
  · intro h
    obtain ⟨s, hrun, hfinish⟩ := Option.bind_eq_some_iff.1 h
    have hstart : Consumed (.start []) [] := .operand .nil Pending.spelled_nil
    have hseen := hstart.run hrun
    rw [List.nil_append] at hseen
    cases hseen with
    | operand _ _ => cases hfinish
    | operator houter hp hc =>
      cases houter with
      | nil =>
        cases hfinish
        exact hp.disjunction hc
      | cons _ _ => cases hfinish
  · intro h
    obtain ⟨last, p, hrun, rfl⟩ := reached_of_written h []
    rw [readTokens, hrun]
    rfl

end

end Condition

end SearchClause
