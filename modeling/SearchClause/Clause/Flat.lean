import SearchClause.Clause.Compiled

/-!
# Flat queries

A simpler language for search boxes, in which every text is a query: commas separate alternatives,
and the terms of an alternative all have to hold. A term is a run of characters other than quotes,
plus signs, commas and blanks, or a phrase between quotes; an equals sign before it makes it exact.
What is neither is passed over.
-/

namespace SearchClause

/-- A term of a flat query. -/
structure FlatTerm where
  /-- the text searched for -/
  value : Text
  /-- whether it has to be matched as a whole -/
  exact : Bool
deriving DecidableEq, Repr

namespace Flat

/-- Whether a character may stand in a term without quotes. -/
def isPlain (c : Char) : Bool :=
  !(c = '"' || c = '+' || c = ',' || isBlank c)

/-- A phrase between quotes at the start of a text, and what follows it. An empty phrase is none. -/
def phrase? : Text → Option (Text × Text)
  | '"' :: rest =>
    match rest.dropWhile (· != '"') with
    | [] => none
    | _ :: after =>
      let value := rest.takeWhile (· != '"')
      if value.isEmpty then none else some (value, after)
  | _ => none

/-- A run of plain characters at the start of a text, and what follows it. -/
def run? (s : Text) : Option (Text × Text) :=
  if (s.takeWhile isPlain).isEmpty then none
  else some (s.takeWhile isPlain, s.dropWhile isPlain)

/-- The term at the start of a text, and what follows it. A phrase goes before a run, and an equals
sign marks the term after it if there is one. -/
def term? (s : Text) : Option (FlatTerm × Text) :=
  let marked := Text.dropFirst? '=' s
  match marked.bind phrase? with
  | some (value, after) => some (⟨value, true⟩, after)
  | none =>
    match phrase? s with
    | some (value, after) => some (⟨value, false⟩, after)
    | none =>
      match marked.bind run? with
      | some (value, after) => some (⟨value, true⟩, after)
      | none => (run? s).map fun p => (⟨p.1, false⟩, p.2)

/-- The mark of an exact term. -/
def mark (exact : Bool) : Text :=
  if exact then ['='] else []

/-- What a term takes off the start of a text, and what it leaves: a phrase with its quotes, or a
run, and the mark before it. -/
inductive Takes : Text → FlatTerm → Text → Prop where
  /-- a phrase -/
  | phrase {value after : Text} (exact : Bool) : value ≠ [] → '"' ∉ value →
      Takes (mark exact ++ '"' :: (value ++ '"' :: after)) ⟨value, exact⟩ after
  /-- a run -/
  | run {value after : Text} (exact : Bool) : value ≠ [] → (∀ c ∈ value, isPlain c = true) →
      Takes (mark exact ++ (value ++ after)) ⟨value, exact⟩ after

theorem eq_of_phrase? {s value after : Text} (h : phrase? s = some (value, after)) :
    s = '"' :: (value ++ '"' :: after) ∧ value ≠ [] ∧ '"' ∉ value := by
  unfold phrase? at h
  split at h
  next rest =>
    split at h
    next => cases h
    next q r hdrop =>
      -- what is left behind the phrase starts with the quote that ends it
      have hq : q = '"' := by
        have hhead := List.head?_dropWhile_not (· != '"') rest
        rw [hdrop] at hhead
        simpa using hhead
      simp only [Option.ite_none_left_eq_some, Option.some.injEq, Prod.mk.injEq] at h
      obtain ⟨hne, rfl, rfl⟩ := h
      subst hq
      refine ⟨?_, by simpa using hne, fun hmem => ?_⟩
      · rw [← hdrop, List.takeWhile_append_dropWhile]
      · exact absurd (List.all_eq_true.1 List.all_takeWhile _ hmem) (by simp)
  next => cases h

theorem eq_of_run? {s value after : Text} (h : run? s = some (value, after)) :
    s = value ++ after ∧ value ≠ [] ∧ ∀ c ∈ value, isPlain c = true := by
  unfold run? at h
  split at h
  next => cases h
  next hne =>
    obtain ⟨rfl, rfl⟩ := Prod.mk.inj (Option.some.inj h)
    exact ⟨List.takeWhile_append_dropWhile.symm, by simpa using hne,
      List.all_eq_true.1 List.all_takeWhile⟩

theorem eq_of_dropFirst? {s rest : Text} {c : Char} (h : Text.dropFirst? c s = some rest) :
    s = c :: rest := by
  cases s with
  | nil => cases h
  | cons d tail =>
    simp only [Text.dropFirst?, Option.ite_none_right_eq_some, Option.some.injEq] at h
    rw [h.1, h.2]

/-- **A term is a phrase or a run, marked or not.** -/
theorem takes_of_term? {s after : Text} {t : FlatTerm} (h : term? s = some (t, after)) :
    Takes s t after := by
  unfold term? at h
  simp only at h
  split at h
  next value rest hmarked =>
    obtain ⟨m, hm, hp⟩ := Option.bind_eq_some_iff.1 hmarked
    obtain ⟨rfl, rfl⟩ := Prod.mk.inj (Option.some.inj h)
    obtain ⟨rfl, hne, hquote⟩ := eq_of_phrase? hp
    rw [eq_of_dropFirst? hm]
    exact .phrase true hne hquote
  next =>
    split at h
    next value rest hp =>
      obtain ⟨rfl, rfl⟩ := Prod.mk.inj (Option.some.inj h)
      obtain ⟨rfl, hne, hquote⟩ := eq_of_phrase? hp
      exact .phrase false hne hquote
    next =>
      split at h
      next value rest hmarked =>
        obtain ⟨m, hm, hp⟩ := Option.bind_eq_some_iff.1 hmarked
        obtain ⟨rfl, rfl⟩ := Prod.mk.inj (Option.some.inj h)
        obtain ⟨rfl, hne, hplain⟩ := eq_of_run? hp
        rw [eq_of_dropFirst? hm]
        exact .run true hne hplain
      next =>
        obtain ⟨p, hp, hpt⟩ := Option.map_eq_some_iff.1 h
        obtain ⟨rfl, rfl⟩ := Prod.mk.inj hpt
        obtain ⟨rfl, hne, hplain⟩ := eq_of_run? hp
        exact .run false hne hplain

/-- A term takes at least one character. -/
theorem Takes.length_lt {s after : Text} {t : FlatTerm} (h : Takes s t after) :
    after.length < s.length := by
  cases h with
  | phrase exact _ _ =>
    simp only [List.length_append, List.length_cons]
    omega
  | run exact hne _ =>
    have hpos := List.length_pos_iff.2 hne
    simp only [List.length_append]
    omega

/-- The terms of a text from left to right. Where none starts, one character is passed over. -/
def scan : Text → List FlatTerm
  | [] => []
  | c :: rest =>
    match _h : term? (c :: rest) with
    | some (term, after) => term :: scan after
    | none => scan rest
termination_by s => s.length
decreasing_by
  · exact (takes_of_term? _h).length_lt
  · simp

/-- The terms of an alternative, with blanks trimmed off their values and empty ones dropped. -/
def terms (group : Text) : List FlatTerm :=
  ((scan group).map fun t => { t with value := t.value.trim }).filter
    (!·.value.isEmpty)

/-- The alternatives of a flat query; those without terms are dropped. -/
def groups (query : Text) : List (List FlatTerm) :=
  ((Text.pieces (· = ',') query).map fun group => terms group.trim).filter (!·.isEmpty)

/-- The value of a term as it is handed over. -/
def argument (t : FlatTerm) : Text :=
  if t.exact then t.value else '%' :: t.value ++ ['%']

/-- The clause of a term. The state is the values collected so far, and the number of a term is how
many there are once its own has been added. -/
def emitTerm (render : Text → Bool → Text) (t : FlatTerm) : StateM (Array Text) Text := do
  modify (·.push (argument t))
  return render ('?' :: Text.ofNat (← get).size) t.exact

/-- The fragment of an alternative. -/
def emitGroup (render : Text → Bool → Text) (group : List FlatTerm) :
    StateM (Array Text) Text := do
  let clauses ← group.mapM (emitTerm render)
  return Text.enclosed true (Text.joinWith " AND " clauses)

/-- The compiled form of a flat query. Placeholders are always numbered; `render` writes the clause
for a placeholder, told whether the term is exact. -/
def compile (render : Text → Bool → Text) (query : Text) : Compiled :=
  let (fragments, args) := ((groups query).mapM (emitGroup render)).run #[]
  ⟨Text.joinWith " OR " fragments, args.toList⟩

end Flat

end SearchClause
