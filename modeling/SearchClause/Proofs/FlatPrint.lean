import Mathlib.Data.List.Forall2
import SearchClause.Proofs.FlatReading

/-!
# Writing flat queries

Between quotes everything but a quote and a comma is a character like any other. So every list of
groups over plain phrases can be written as a flat query, and is read back as it was
(`groups_write`). The writer is free in what it puts between two terms, and need not do the same
each time: `Text.joinBy` is told the separators one by one.
-/

namespace SearchClause

open Text (Blanks)

namespace Text

/-- The texts one after the other; `separator n` stands behind text `n`, except for the last. -/
def joinBy (separator : Nat → Text) : List Text → Text
  | [] => []
  | [t] => t
  | t :: rest => t ++ (separator 0 ++ joinBy (fun n => separator (n + 1)) rest)

theorem joinBy_const (x : Text) (ts : List Text) : joinBy (fun _ => x) ts = joinWith x ts := by
  fun_induction joinWith x ts with
  | case1 => rfl
  | case2 t => rfl
  | case3 t rest hrest ih =>
    rw [joinBy, ih, List.append_assoc]
    exact hrest

end Text

/-- **Items that are put together are joined**, whatever separators are chosen. -/
theorem joined_joinBy {α : Type} {item : Text → α → Prop} {separator : Text → Prop}
    {choice : Nat → Text} {ts : List Text} {as : List α} (h : List.Forall₂ item ts as)
    (hne : as ≠ []) (hchoice : ∀ n, separator (choice n)) :
    Joined item separator (Text.joinBy choice ts) as := by
  induction h generalizing choice with
  | nil => exact absurd rfl hne
  | @cons t a ts as hta hrest ih =>
    cases hrest with
    | nil => exact .single hta
    | cons hta' hrest =>
      exact .cons hta (hchoice 0) (ih (List.cons_ne_nil _ _) fun n => hchoice (n + 1))

theorem forall₂_mapIdx {α β : Type} {r : β → α → Prop} {f : Nat → α → β} {as : List α}
    (h : ∀ i, ∀ a ∈ as, r (f i a) a) : List.Forall₂ r (as.mapIdx f) as := by
  induction as generalizing f with
  | nil => exact .nil
  | cons a as ih =>
    rw [List.mapIdx_cons]
    refine .cons (h 0 a List.mem_cons_self) (ih fun i b hb => ?_)
    exact h (i + 1) b (List.mem_cons_of_mem a hb)

namespace Flat

variable {separator : Nat → Nat → Text} {groups : List (List FlatTerm)}

/-- Groups with commas between them, of terms in quotes; `separator i j` stands behind term `j` of
group `i`. -/
def write (separator : Nat → Nat → Text) (groups : List (List FlatTerm)) : Text :=
  Text.joinWith [','] (groups.mapIdx fun i terms =>
    Text.joinBy (separator i) (terms.map FlatTerm.quoted))

theorem joined_write (hsep : ∀ i j, IsPlus (separator i j)) (hne : groups ≠ [])
    (hgroups : ∀ terms ∈ groups, terms ≠ [] ∧ ∀ t ∈ terms, IsPlainPhrase t.value) :
    Joined (Joined Spells IsPlus) IsComma (write separator groups) groups := by
  have hcomma : IsComma [','] := ⟨[], [], Text.blanks_nil, Text.blanks_nil, rfl⟩
  rw [write, ← Text.joinBy_const]
  refine joined_joinBy (forall₂_mapIdx fun i terms hmem => ?_) hne fun _ => hcomma
  obtain ⟨hterms, hvalues⟩ := hgroups terms hmem
  refine joined_joinBy ?_ hterms (hsep i)
  rw [List.forall₂_map_left_iff, List.forall₂_same]
  exact fun t ht => spells_quoted (hvalues t ht)

/-- **Every list of groups over plain phrases can be written and read back**, with a plus sign or
blanks between two terms. -/
theorem groups_write
    (hsep : ∀ i j, separator i j = ['+'] ∨ separator i j ≠ [] ∧ Blanks (separator i j))
    (hgroups : ∀ terms ∈ groups, terms ≠ [] ∧ ∀ t ∈ terms, IsPlainPhrase t.value) :
    Flat.groups (write separator groups) = groups := by
  have hplus : ∀ i j, IsPlus (separator i j) := by
    intro i j
    refine (hsep i j).imp_left fun heq => ?_
    exact ⟨[], [], Text.blanks_nil, Text.blanks_nil, heq⟩
  by_cases hne : groups = []
  · rw [hne]
    exact groups_nil
  · exact groups_joined (joined_write hplus hne hgroups)

/-- Signs in the values, an exact term, and an ideographic space and a tab before a phrase. -/
theorem groups_write_signs :
    write (fun _ j => if j = 0 then "+" else "\u3000\t")
        [[⟨"a+b =c", false⟩, ⟨"=x", true⟩, ⟨"y -", false⟩], [⟨"=", false⟩]] =
        "\"a+b =c\"+=\"=x\"\u3000\t\"y -\",\"=\"" ∧
      Flat.groups "\"a+b =c\"+=\"=x\"\u3000\t\"y -\",\"=\"" =
        [[⟨"a+b =c", false⟩, ⟨"=x", true⟩, ⟨"y -", false⟩], [⟨"=", false⟩]] := by
  let separator : Nat → Nat → Text := fun _ j => if j = 0 then "+" else "\u3000\t"
  let groups : List (List FlatTerm) :=
    [[⟨"a+b =c", false⟩, ⟨"=x", true⟩, ⟨"y -", false⟩], [⟨"=", false⟩]]
  have hsep : ∀ i j, separator i j = ['+'] ∨ separator i j ≠ [] ∧ Blanks (separator i j) := by
    intro i j
    by_cases hj : j = 0
    · exact .inl (if_pos hj)
    · have heq : separator i j = "\u3000\t" := if_neg hj
      rw [heq]
      exact .inr (by decide)
  have hgroups : ∀ terms ∈ groups, terms ≠ [] ∧ ∀ t ∈ terms, IsPlainPhrase t.value := by decide
  have hwritten : write separator groups = "\"a+b =c\"+=\"=x\"\u3000\t\"y -\",\"=\"" := by decide
  refine ⟨hwritten, ?_⟩
  rw [← hwritten]
  exact groups_write hsep hgroups

end Flat

end SearchClause
