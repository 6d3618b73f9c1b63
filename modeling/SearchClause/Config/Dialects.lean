import SearchClause.Clause.Template

/-!
# Named dialects

A dialect is a template with a name. Dialects are listed by name, and each name occurs once; the type
holds that order, so two collections with the same templates under the same names are equal.
-/

namespace SearchClause

namespace Text

theorem precedes_irrefl (t : Text) : precedes t t = false := by
  induction t with
  | nil => rfl
  | cons a t ih => simp [precedes, ih]

theorem precedes_trans : ∀ {s t u : Text}, precedes s t → precedes t u → precedes s u
  | _, _, [], _, h => by simp [precedes] at h
  | _, [], _ :: _, h, _ => by simp [precedes] at h
  | [], _ :: _, _ :: _, _, _ => by simp [precedes]
  | a :: s, b :: t, c :: u, h₁, h₂ => by
    simp only [precedes] at h₁ h₂ ⊢
    by_cases hab : a = b
    · subst hab
      by_cases hac : a = c
      · subst hac
        simp only [if_true] at h₁ h₂ ⊢
        exact precedes_trans h₁ h₂
      · simpa [hac] using h₂
    · by_cases hbc : b = c
      · subst hbc
        simpa [hab] using h₁
      · simp only [hab, hbc, if_false, decide_eq_true_eq] at h₁ h₂
        have hac : a ≠ c := by
          intro h
          subst h
          omega
        simp only [hac, if_false, decide_eq_true_eq]
        omega

theorem precedes_connected : ∀ {s t : Text}, s ≠ t → precedes s t = false → precedes t s
  | [], [], h, _ => absurd rfl h
  | [], _ :: _, _, h => by simp [precedes] at h
  | _ :: _, [], _, _ => by simp [precedes]
  | a :: s, b :: t, hne, h => by
    simp only [precedes] at h ⊢
    by_cases hab : a = b
    · subst hab
      simp only [if_true] at h ⊢
      exact precedes_connected (fun hst => hne (by rw [hst])) h
    · have hba : b ≠ a := fun h' => hab h'.symm
      simp only [hab, hba, if_false, decide_eq_false_iff_not, decide_eq_true_eq] at h ⊢
      have : a.toNat ≠ b.toNat := fun h' => hab (Char.toNat_inj.1 h')
      omega

end Text

/-- Templates by name, in the order of their names. -/
structure Dialects where
  /-- names and templates -/
  entries : List (Text × Template)
  /-- each name comes before the next -/
  sorted : entries.Pairwise fun a b => Text.precedes a.1 b.1

namespace Dialects

/-- No dialects. -/
def empty : Dialects := ⟨[], .nil⟩

/-- The template with a name among entries. -/
def find? (name : Text) : List (Text × Template) → Option Template
  | [] => none
  | (n, t) :: rest => if n = name then some t else find? name rest

/-- The template with a name. -/
def get? (d : Dialects) (name : Text) : Option Template :=
  find? name d.entries

/-- The names in order. -/
def names (d : Dialects) : List Text :=
  d.entries.map Prod.fst

/-- Entries with one more at its place, or with another template for a name that is there. -/
def place (name : Text) (template : Template) : List (Text × Template) → List (Text × Template)
  | [] => [(name, template)]
  | (n, t) :: rest =>
    if name = n then (name, template) :: rest
    else if Text.precedes name n then (name, template) :: (n, t) :: rest
    else (n, t) :: place name template rest

theorem mem_place {name : Text} {template : Template} {entries : List (Text × Template)}
    {e : Text × Template} (h : e ∈ place name template entries) :
    e = (name, template) ∨ e ∈ entries := by
  induction entries with
  | nil => simpa [place] using h
  | cons first rest ih =>
    simp only [place] at h
    split at h
    · rcases List.mem_cons.1 h with h | h
      · exact .inl h
      · exact .inr (List.mem_cons_of_mem _ h)
    · split at h
      · rcases List.mem_cons.1 h with h | h
        · exact .inl h
        · exact .inr h
      · rcases List.mem_cons.1 h with h | h
        · exact .inr (h ▸ List.mem_cons_self)
        · exact (ih h).imp id (List.mem_cons_of_mem _)

theorem place_sorted (name : Text) (template : Template) {entries : List (Text × Template)}
    (h : entries.Pairwise fun a b => Text.precedes a.1 b.1) :
    (place name template entries).Pairwise fun a b => Text.precedes a.1 b.1 := by
  induction entries with
  | nil => simp [place]
  | cons first rest ih =>
    obtain ⟨n, t⟩ := first
    have hrest := (List.pairwise_cons.1 h).2
    have hfirst := (List.pairwise_cons.1 h).1
    simp only [place]
    split
    · rename_i heq
      exact List.pairwise_cons.2 ⟨fun e he => heq ▸ hfirst e he, hrest⟩
    · rename_i hne
      split
      · rename_i hlt
        refine List.pairwise_cons.2 ⟨fun e he => ?_, h⟩
        rcases List.mem_cons.1 he with he | he
        · exact he ▸ hlt
        · exact Text.precedes_trans hlt (hfirst e he)
      · rename_i hnlt
        refine List.pairwise_cons.2 ⟨fun e he => ?_, ih hrest⟩
        rcases mem_place he with he | he
        · exact he ▸ Text.precedes_connected hne (by simpa using hnlt)
        · exact hfirst e he

/-- The dialects with a template under a name, in place of one that was there. -/
def insert (d : Dialects) (name : Text) (template : Template) : Dialects :=
  ⟨place name template d.entries, place_sorted name template d.sorted⟩

/-- The dialects without a name. -/
def erase (d : Dialects) (name : Text) : Dialects :=
  ⟨d.entries.filter (·.1 ≠ name), d.sorted.filter _⟩

/-- The dialects with entries inserted one after the other. -/
def insertAll (d : Dialects) : List (Text × Template) → Dialects
  | [] => d
  | (name, template) :: rest => (d.insert name template).insertAll rest

/-! ## Small facts -/

theorem find?_place (name : Text) (template : Template) (entries : List (Text × Template))
    (other : Text) :
    find? other (place name template entries) =
      if name = other then some template else find? other entries := by
  induction entries with
  | nil => simp [place, find?]
  | cons first rest ih =>
    obtain ⟨n, t⟩ := first
    simp only [place]
    split
    · rename_i heq
      subst heq
      by_cases h : name = other <;> simp [find?, h]
    · rename_i hne
      split
      · simp [find?]
      · by_cases h : n = other
        · subst h
          simp [find?, hne]
        · simp [find?, h, ih]

/-- What is inserted is found, and nothing else changes. -/
theorem get?_insert (d : Dialects) (name : Text) (template : Template) (other : Text) :
    (d.insert name template).get? other = if name = other then some template else d.get? other :=
  find?_place name template d.entries other

end Dialects

end SearchClause
