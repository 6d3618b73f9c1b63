/-!
# Text

Every text of the library is the list of its characters, so that a scanner is a function on lists and
a law about it is an induction on a list. This module has what all layers share:

* **literals** — a string literal stands for the list of its characters;
* **sizes** — `byteLength` counts the bytes a text takes when it is stored, the unit in which
  positions are reported;
* **pieces and lines** — cutting a text at separators;
* **order** — `precedes`, the order in which names are listed.
-/

namespace SearchClause

/-- A text is the list of its characters. -/
abbrev Text := List Char

instance : Coe String Text := ⟨String.toList⟩

namespace Text

/-- The number of bytes of a text in its stored form, one to four per character. -/
def byteLength (t : Text) : Nat :=
  t.foldr (fun c n => c.utf8Size + n) 0

/-- A number in decimal digits. -/
def ofNat (n : Nat) : Text :=
  Nat.toDigits 10 n

/-- A text repeated. -/
def times (n : Nat) (t : Text) : Text :=
  (List.replicate n t).flatten

/-- The texts one after the other with `separator` between neighbours. -/
def joinWith (separator : Text) : List Text → Text
  | [] => []
  | [t] => t
  | t :: rest => t ++ separator ++ joinWith separator rest

/-- A text in parentheses if `grouped`. -/
def enclosed (grouped : Bool) (t : Text) : Text :=
  if grouped then '(' :: t ++ [')'] else t

/-! ## Cutting -/

/-- The pieces between the characters that satisfy `separates`. There is one more piece than there
are separators, so there is always at least one. -/
def pieces (separates : Char → Bool) : Text → List Text
  | [] => [[]]
  | c :: rest =>
    if separates c then [] :: pieces separates rest
    else
      match pieces separates rest with
      | [] => [[c]]
      | piece :: others => (c :: piece) :: others

/-- The text without one final occurrence of `c`, if it ends in `c`. -/
def dropLast? (c : Char) (t : Text) : Option Text :=
  if t.getLast? = some c then some t.dropLast else none

/-- The text without one leading occurrence of `c`, if it starts with `c`. -/
def dropFirst? (c : Char) : Text → Option Text
  | [] => none
  | d :: rest => if d = c then some rest else none

/-- Lines from the pieces between line feeds: a return before a line feed belongs to the line feed,
and an empty last piece is no line. -/
def linesOfPieces : List Text → List Text
  | [] => []
  | [last] => if last.isEmpty then [] else [last]
  | piece :: rest => (dropLast? '\r' piece).getD piece :: linesOfPieces rest

/-- The lines of a text. -/
def lines (t : Text) : List Text :=
  linesOfPieces (pieces (· = '\n') t)

/-! ## Order -/

/-- The order of names: by the first character in which they differ, a shorter name before its
extensions. It is also the order of the stored bytes. -/
def precedes : Text → Text → Bool
  | _, [] => false
  | [], _ :: _ => true
  | a :: s, b :: t => if a = b then precedes s t else a.toNat < b.toNat

/-! ## Small facts -/

@[simp] theorem byteLength_nil : byteLength [] = 0 := rfl

@[simp] theorem byteLength_cons (c : Char) (t : Text) :
    byteLength (c :: t) = c.utf8Size + byteLength t := rfl

@[simp] theorem byteLength_append (s t : Text) :
    byteLength (s ++ t) = byteLength s + byteLength t := by
  induction s with
  | nil => simp
  | cons c s ih => simp [ih, Nat.add_assoc]

theorem pieces_ne_nil (separates : Char → Bool) (t : Text) : pieces separates t ≠ [] := by
  cases t with
  | nil => simp [pieces]
  | cons c rest =>
    by_cases h : separates c
    · simp [pieces, h]
    · simp only [pieces, h, Bool.false_eq_true, if_false]
      split <;> simp

/-- **Pieces end at a separator.** What stands before it and what stands after it are cut apart from
each other. -/
theorem pieces_append_cons {separates : Char → Bool} {c : Char} (h : separates c) (s t : Text) :
    pieces separates (s ++ c :: t) = pieces separates s ++ pieces separates t := by
  induction s with
  | nil => simp [pieces, h]
  | cons d rest ih =>
    rw [List.cons_append, pieces, pieces, ih]
    by_cases hd : separates d
    · simp [hd]
    · obtain ⟨first, others, eq⟩ := List.exists_cons_of_ne_nil (pieces_ne_nil separates rest)
      simp [hd, eq]

/-- A text without separators is its only piece. -/
theorem pieces_eq_singleton {separates : Char → Bool} {t : Text}
    (h : ∀ c ∈ t, separates c = false) : pieces separates t = [t] := by
  induction t with
  | nil => rfl
  | cons c rest ih =>
    obtain ⟨hc, hrest⟩ := List.forall_mem_cons.1 h
    simp [pieces, hc, ih hrest]

theorem joinWith_append {separator : Text} {ps qs : List Text} (hp : ps ≠ []) (hq : qs ≠ []) :
    joinWith separator (ps ++ qs) =
      joinWith separator ps ++ separator ++ joinWith separator qs := by
  induction ps with
  | nil => exact absurd rfl hp
  | cons p ps ih =>
    cases ps with
    | nil =>
      obtain ⟨q, qs, rfl⟩ := List.exists_cons_of_ne_nil hq
      rfl
    | cons p' ps =>
      change p ++ separator ++ joinWith separator (p' :: ps ++ qs) = _
      rw [ih (by simp)]
      simp [joinWith]

theorem pieces_joinWith {c : Char} {ps : List Text} (hne : ps ≠ []) (hps : ∀ p ∈ ps, c ∉ p) :
    pieces (· = c) (joinWith [c] ps) = ps := by
  induction ps with
  | nil => exact absurd rfl hne
  | cons p ps ih =>
    obtain ⟨hp, hps⟩ := List.forall_mem_cons.1 hps
    have hone : pieces (· = c) p = [p] := pieces_eq_singleton fun d hd => by
      have hdc : d ≠ c := by
        rintro rfl
        exact hp hd
      simpa using hdc
    cases ps with
    | nil => exact hone
    | cons p' ps =>
      change pieces (· = c) (p ++ [c] ++ joinWith [c] (p' :: ps)) = _
      rw [List.append_assoc, List.singleton_append, pieces_append_cons (by simp), hone,
        ih (by simp) hps]
      rfl

/-- **A text is its pieces put together again.** -/
theorem joinWith_pieces (c : Char) (t : Text) : joinWith [c] (pieces (· = c) t) = t := by
  induction t with
  | nil => rfl
  | cons d t ih =>
    obtain ⟨p, ps, hp⟩ := List.exists_cons_of_ne_nil (pieces_ne_nil (· = c) t)
    rw [hp] at ih
    by_cases hd : d = c
    · subst hd
      rw [pieces, if_pos (by simp), hp]
      change [] ++ [d] ++ joinWith [d] (p :: ps) = _
      rw [ih]
      rfl
    · rw [pieces, if_neg (by simpa using hd), hp]
      cases ps with
      | nil => exact congrArg (d :: ·) ih
      | cons p' ps => exact congrArg (d :: ·) ih

theorem not_mem_of_mem_pieces {c : Char} {p t : Text} (h : p ∈ pieces (· = c) t) : c ∉ p := by
  induction t generalizing p with
  | nil =>
    obtain rfl : p = [] := by simpa [pieces] using h
    simp
  | cons d t ih =>
    obtain ⟨q, qs, hq⟩ := List.exists_cons_of_ne_nil (pieces_ne_nil (· = c) t)
    rw [hq] at ih
    by_cases hd : d = c
    · rw [pieces, if_pos (by simpa using hd), hq] at h
      rcases List.mem_cons.1 h with rfl | h
      · simp
      · exact ih h
    · rw [pieces, if_neg (by simpa using hd), hq] at h
      rcases List.mem_cons.1 h with rfl | h
      · have hq' := ih List.mem_cons_self
        simpa [Ne.symm hd] using hq'
      · exact ih (List.mem_cons_of_mem q h)

end Text

/-- Membership in a table of inclusive code point ranges. -/
def inRanges (table : List (Nat × Nat)) (c : Char) : Bool :=
  table.any fun range => range.1 ≤ c.toNat && c.toNat ≤ range.2

end SearchClause
