import SearchClause.Proofs.Runs
import SearchClause.Query.Reader

/-!
# The reader, function by function

The functions of the reader carry the proof that they shorten their text, which is what makes them
end and what a law about their answers has no use for. Here each of them is seen without it, as a
function from a text to a tree and the text after it:

* **views** — `queryAt`, `clauseAt`, `factorAt` and `atomAt` for the four nonterminals, `queryOn`
  and `clauseOn` for the two loops;
* **equations** — one for each way a function can go on, told apart by the first character after the
  blanks. Everything further on rests on these and opens no function of the reader.
-/

namespace SearchClause

namespace Reader

/-! ## Answers -/

/-- The answer of a reading function without the proof that the text got shorter. -/
def Progress.pair {s : Text} (p : Progress s) : Tree × Text :=
  (p.tree, p.rest)

/-- The first clause of a text and all that follow it. -/
def queryAt (room : Option Nat) (s : Text) : Except Failure (Tree × Text) :=
  (query room s).map Progress.pair

/-- More clauses after `left`. -/
def queryOn (room : Option Nat) (left : Tree) (s : Text) : Except Failure (Tree × Text) :=
  (queryFrom room left s).map Subtype.val

/-- The first factor of a text and all that follow it. -/
def clauseAt (room : Option Nat) (s : Text) : Except Failure (Tree × Text) :=
  (clause room s).map Progress.pair

/-- More factors after `left`. -/
def clauseOn (room : Option Nat) (left : Tree) (s : Text) : Except Failure (Tree × Text) :=
  (clauseFrom room left s).map Subtype.val

/-- An atom with its sign, if it has one. -/
def factorAt (room : Option Nat) (s : Text) : Except Failure (Tree × Text) :=
  (factor room s).map Progress.pair

/-- A group, a phrase or a word. -/
def atomAt (room : Option Nat) (s : Text) : Except Failure (Tree × Text) :=
  (atom room s).map Progress.pair

/-- A bare word. -/
def wordAt (s : Text) : Except Failure (Tree × Text) :=
  (word s).map Progress.pair

/-- A phrase after its opening quote. -/
def phraseAt (unread s : Text) : Except Failure (Tree × Text) :=
  (phrase unread s).map Progress.pair

/-- The end of a group whose inside has been read. -/
def closeAt (p : Tree × Text) : Except Failure (Tree × Text) :=
  match Text.skipBlanks p.2 with
  | ')' :: rest => .ok (p.1, rest)
  | unread => .error ⟨.unmatchedParenthesis, unread⟩

variable {ε α β γ : Type}

/-- A sequence of two steps succeeds when both do. -/
theorem bind_eq_ok {x : Except ε α} {f : α → Except ε β} {b : β} :
    x.bind f = .ok b ↔ ∃ a, x = .ok a ∧ f a = .ok b := by
  cases x <;> simp [Except.bind]

/-- A step whose answer is changed succeeds when the step does. -/
theorem map_eq_ok {x : Except ε α} {f : α → β} {b : β} :
    x.map f = .ok b ↔ ∃ a, x = .ok a ∧ f a = b := by
  cases x <;> simp [Except.map]

theorem closeAt_eq_ok {u t : Tree} {s rest : Text} (h : closeAt (u, s) = .ok (t, rest)) :
    u = t ∧ ∃ b, Text.Blanks b ∧ s = b ++ ')' :: rest := by
  obtain ⟨b, hb, hs⟩ := Text.exists_blanks s
  rw [closeAt] at h
  split at h
  · next rest' hskip =>
    obtain ⟨rfl, rfl⟩ := Prod.mk.inj (Except.ok.inj h)
    exact ⟨rfl, b, hb, hskip ▸ hs⟩
  · cases h

/-! ## Equations -/

section

variable {room : Option Nat} {left : Tree} {s after : Text}

theorem queryAt_eq : queryAt room s = (clauseAt room s).bind fun p => queryOn room p.1 p.2 := by
  rw [queryAt, query, clauseAt]
  rcases clause room s with e | p
  · rfl
  · simp only [Except.map, Except.bind, Progress.pair, queryOn]
    rcases queryFrom room p.tree p.rest with e | q <;> rfl

theorem queryOn_comma (h : Text.skipBlanks s = ',' :: after) :
    queryOn room left s =
      (clauseAt room after).bind fun p => queryOn room (.or left p.1) p.2 := by
  rw [queryOn, queryFrom, clauseAt]
  split
  · next after' h' =>
    obtain rfl : after = after' := by simpa [h] using h'
    rcases clause room after with e | p
    · rfl
    · simp only [Except.map, Except.bind, Progress.pair, queryOn]
      rcases queryFrom room (.or left p.tree) p.rest with e | q <;> rfl
  · next hne => exact absurd h (hne after)

theorem queryOn_end (h : ∀ after, Text.skipBlanks s ≠ ',' :: after) :
    queryOn room left s = .ok (left, Text.skipBlanks s) := by
  rw [queryOn, queryFrom]
  split
  · next after h' => exact absurd h' (h after)
  · rfl

theorem clauseAt_eq : clauseAt room s = (factorAt room s).bind fun p => clauseOn room p.1 p.2 := by
  rw [clauseAt, clause, factorAt]
  rcases factor room s with e | p
  · rfl
  · simp only [Except.map, Except.bind, Progress.pair, clauseOn]
    rcases clauseFrom room p.tree p.rest with e | q <;> rfl

theorem clauseOn_plus (h : Text.skipBlanks s = '+' :: after) :
    clauseOn room left s =
      (factorAt room after).bind fun p => clauseOn room (.and left p.1) p.2 := by
  rw [clauseOn, clauseFrom, factorAt]
  split
  · next after' h' =>
    obtain rfl : after = after' := by simpa [h] using h'
    rcases factor room after with e | p
    · rfl
    · simp only [Except.map, Except.bind, Progress.pair, clauseOn]
      rcases clauseFrom room (.and left p.tree) p.rest with e | q <;> rfl
  · next hne => exact absurd h (hne after)

theorem clauseOn_end (h : ∀ after, Text.skipBlanks s ≠ '+' :: after) :
    clauseOn room left s = .ok (left, Text.skipBlanks s) := by
  rw [clauseOn, clauseFrom]
  split
  · next after h' => exact absurd h' (h after)
  · rfl

/-- Whether a character negates the atom after it. -/
def IsSign (c : Char) : Prop :=
  c = '-' ∨ c = '!'

theorem factorAt_sign {c : Char} (h : Text.skipBlanks s = c :: after) (hc : IsSign c) :
    factorAt room s = (atomAt room after).map fun p => (.not p.1, p.2) := by
  rw [factorAt, factor, atomAt]
  split
  · next h' => simp [h] at h'
  · next d after' h' =>
    obtain ⟨rfl, rfl⟩ : c = d ∧ after = after' := by simpa [h] using h'
    rw [if_pos (by simpa [IsSign] using hc)]
    rcases atom room after with e | p <;> rfl

theorem factorAt_plain (h : ∀ c after, Text.skipBlanks s = c :: after → ¬ IsSign c) :
    factorAt room s = atomAt room s := by
  rw [factorAt, factor, atomAt]
  split
  · rfl
  · next d after h' =>
    rw [if_neg (by simpa [IsSign] using h d after h')]

theorem atomAt_group (h : Text.skipBlanks s = '(' :: after) (hroom : room ≠ some 0) :
    atomAt room s = (queryAt (room.map (· - 1)) after).bind closeAt := by
  rw [atomAt, atom]
  split
  · next after' h' =>
    obtain rfl : after = after' := by simpa [h] using h'
    split
    · exact absurd rfl hroom
    · rw [queryAt]
      rcases query (room.map (· - 1)) after with e | p
      · rfl
      · dsimp only
        change _ = closeAt p.pair
        rw [closeAt]
        split
        · next rest hr => simp [Progress.pair, hr, Except.map]
        · next hne =>
          split
          · next rest hr => exact absurd hr (hne rest)
          · rfl
  · next h' => simp [h] at h'
  · next h' => simp [h] at h'
  · next hne _ _ => exact absurd h (hne after)

theorem atomAt_deep (h : Text.skipBlanks s = '(' :: after) :
    atomAt (some 0) s = .error ⟨.nestingTooDeep, '(' :: after⟩ := by
  rw [atomAt, atom]
  split
  · next after' h' =>
    obtain rfl : after = after' := by simpa [h] using h'
    rfl
  · next h' => simp [h] at h'
  · next h' => simp [h] at h'
  · next hne _ _ => exact absurd h (hne after)

theorem atomAt_phrase (h : Text.skipBlanks s = '"' :: after) :
    atomAt room s = phraseAt ('"' :: after) after := by
  rw [atomAt, atom]
  split
  · next h' => simp [h] at h'
  · next after' h' =>
    obtain rfl : after = after' := by simpa [h] using h'
    rw [phraseAt]
    rcases phrase ('"' :: after) after with e | p <;> rfl
  · next h' => simp [h] at h'
  · next _ hne _ => exact absurd h (hne after)

theorem atomAt_marked (h : Text.skipBlanks s = '=' :: '"' :: after) :
    atomAt room s = phraseAt ('"' :: after) after := by
  rw [atomAt, atom]
  split
  · next h' => simp [h] at h'
  · next h' => simp [h] at h'
  · next after' h' =>
    obtain rfl : after = after' := by simpa [h] using h'
    rw [phraseAt]
    rcases phrase ('"' :: after) after with e | p <;> rfl
  · next _ _ hne => exact absurd h (hne after)

theorem atomAt_word (hg : ∀ after, Text.skipBlanks s ≠ '(' :: after)
    (hp : ∀ after, Text.skipBlanks s ≠ '"' :: after)
    (hm : ∀ after, Text.skipBlanks s ≠ '=' :: '"' :: after) :
    atomAt room s = wordAt (Text.skipBlanks s) := by
  rw [atomAt, atom]
  split
  · next after h' => exact absurd h' (hg after)
  · next after h' => exact absurd h' (hp after)
  · next after h' => exact absurd h' (hm after)
  · rw [wordAt]
    rcases word (Text.skipBlanks s) with e | p <;> rfl

end

/-! ## Lengths

An answer leaves less text than there was, and a loop leaves no more. -/

section

variable {room : Option Nat} {left t : Tree} {s rest : Text}

theorem length_lt_of_map_pair {x : Except Failure (Progress s)}
    (h : x.map Progress.pair = .ok (t, rest)) : rest.length < s.length := by
  obtain ⟨p, -, hp⟩ := map_eq_ok.1 h
  obtain rfl : p.rest = rest := congrArg Prod.snd hp
  exact p.shorter

theorem length_lt_of_clauseAt (h : clauseAt room s = .ok (t, rest)) : rest.length < s.length :=
  length_lt_of_map_pair h

theorem length_lt_of_factorAt (h : factorAt room s = .ok (t, rest)) : rest.length < s.length :=
  length_lt_of_map_pair h

end

/-! ## Loops

The loops over clauses and over factors go on while their separator comes next. What each round
keeps holds at the end. -/

/-- A loop that reads an item after every `separator` and joins it to what is there. -/
structure IsLoop (separator : Char) (item : Text → Except Failure (Tree × Text))
    (join : Tree → Tree → Tree) (loop : Tree → Text → Except Failure (Tree × Text)) : Prop where
  /-- one more item -/
  step : ∀ {left s after}, Text.skipBlanks s = separator :: after →
    loop left s = (item after).bind fun p => loop (join left p.1) p.2
  /-- no separator, no item -/
  stop : ∀ {left s}, (∀ after, Text.skipBlanks s ≠ separator :: after) →
    loop left s = .ok (left, Text.skipBlanks s)
  /-- an item takes at least one character -/
  shorter : ∀ {s t rest}, item s = .ok (t, rest) → rest.length < s.length

theorem isLoop_queryOn (room : Option Nat) : IsLoop ',' (clauseAt room) .or (queryOn room) :=
  ⟨queryOn_comma, queryOn_end, length_lt_of_clauseAt⟩

theorem isLoop_clauseOn (room : Option Nat) : IsLoop '+' (factorAt room) .and (clauseOn room) :=
  ⟨clauseOn_plus, clauseOn_end, length_lt_of_factorAt⟩

/-- **Loop invariant.** What holds before a loop and is kept by each item holds after it, up to the
blanks that the loop has passed over. -/
theorem IsLoop.invariant {separator : Char} {item : Text → Except Failure (Tree × Text)}
    {join : Tree → Tree → Tree} {loop : Tree → Text → Except Failure (Tree × Text)}
    (hl : IsLoop separator item join loop) {P : Tree → Text → Prop}
    (hkeep : ∀ {left b after u rest}, P left (b ++ separator :: after) → Text.Blanks b →
      item after = .ok (u, rest) → P (join left u) rest)
    {left t : Tree} {s rest : Text} (hP : P left s) (h : loop left s = .ok (t, rest)) :
    ∃ b, Text.Blanks b ∧ P t (b ++ rest) := by
  -- every round leaves a shorter text, and `left` changes with it
  induction hn : s.length using Nat.strong_induction_on generalizing s left with
  | _ n ih =>
    obtain ⟨b, hb, hs⟩ := Text.exists_blanks s
    by_cases hsep : ∃ after, Text.skipBlanks s = separator :: after
    · obtain ⟨after, hsep⟩ := hsep
      rw [hl.step hsep] at h
      obtain ⟨⟨u, r⟩, hu, hloop⟩ := bind_eq_ok.1 h
      have hafter := Text.length_lt_of_skipBlanks hsep
      have hr := hl.shorter hu
      rw [hs, hsep] at hP
      exact ih r.length (by omega) (hkeep hP hb hu) hloop rfl
    · rw [hl.stop (not_exists.1 hsep)] at h
      obtain ⟨rfl, rfl⟩ := Prod.mk.inj (Except.ok.inj h)
      exact ⟨b, hb, hs ▸ hP⟩

theorem queryOn_skipBlanks {room : Option Nat} {left : Tree} {s : Text} :
    queryOn room left (Text.skipBlanks s) = queryOn room left s := by
  have hskip : Text.skipBlanks (Text.skipBlanks s) = Text.skipBlanks s :=
    Text.dropWhile_of_endsRun (Text.endsRun_dropWhile isBlank s)
  by_cases hcomma : ∃ after, Text.skipBlanks s = ',' :: after
  · obtain ⟨after, hcomma⟩ := hcomma
    rw [queryOn_comma hcomma, queryOn_comma (hskip.trans hcomma)]
  · rw [queryOn_end (not_exists.1 hcomma), queryOn_end (by rw [hskip]; exact not_exists.1 hcomma),
      hskip]

/-! ## The whole text -/

/-- The end of the text after a query. -/
def endAt (p : Tree × Text) : Except Failure Tree :=
  match Text.skipBlanks p.2 with
  | [] => .ok p.1
  | unread => .error ⟨.unexpectedCharacter, unread⟩

theorem endAt_eq_ok {u t : Tree} {s : Text} (h : endAt (u, s) = .ok t) : u = t ∧ Text.Blanks s := by
  rw [endAt] at h
  split at h
  · next hskip => exact ⟨Except.ok.inj h, Text.blanks_of_skipBlanks hskip⟩
  · cases h

theorem whole_eq (room : Option Nat) (s : Text) : whole room s = (queryAt room s).bind endAt := by
  rw [whole, queryAt]
  rcases query room s with e | p <;> rfl

/-! ## Words and phrases -/

section

variable {w p rest unread : Text}

theorem wordAt_empty (h : rest.EndsRun isWordChar) :
    wordAt rest = .error ⟨.emptyTerm, rest⟩ := by
  rw [wordAt, word]
  split
  · rfl
  · next h' => simp [Text.takeWhile_of_endsRun h] at h'

theorem wordAt_run (hne : w ≠ []) (hw : ∀ c ∈ w, isWordChar c = true)
    (hrest : rest.EndsRun isWordChar) :
    wordAt (w ++ rest) =
      match termOfWord w with
      | .error fault => .error ⟨fault, w ++ rest⟩
      | .ok term => .ok (.leaf term, rest) := by
  rw [wordAt, word]
  split
  · next h' => simp [Text.takeWhile_run_append hw hrest, hne] at h'
  · split
    · next fault h' =>
      rw [Text.takeWhile_run_append hw hrest] at h'
      rw [h']
      rfl
    · next term h' =>
      rw [Text.takeWhile_run_append hw hrest] at h'
      rw [h']
      simp [Except.map, Progress.pair, Text.dropWhile_run_append hw hrest]

theorem not_quote_of_not_mem (hp : '"' ∉ p) : ∀ c ∈ p, (c != '"') = true := by
  intro c hc
  have hne : c ≠ '"' := by
    rintro rfl
    exact hp hc
  simpa using hne

/-- An atom that starts with a word character is a word, unless the word is `=` and a phrase
follows. -/
theorem atomAt_run {room : Option Nat} {b : Text} (hb : Text.Blanks b) (hne : w ≠ [])
    (hw : ∀ c ∈ w, isWordChar c = true) (hmark : w ≠ ['='] ∨ rest.head? ≠ some '"') :
    atomAt room (b ++ (w ++ rest)) = wordAt (w ++ rest) := by
  obtain ⟨c, w', rfl⟩ := List.exists_cons_of_ne_nil hne
  have hc : isWordChar c = true := hw c List.mem_cons_self
  have hskip : Text.skipBlanks (b ++ (c :: w' ++ rest)) = c :: (w' ++ rest) :=
    Text.skipBlanks_blanks_cons hb (isBlank_of_isWordChar hc)
  have hfirst : ∀ d after, isWordChar d = false →
      Text.skipBlanks (b ++ (c :: w' ++ rest)) ≠ d :: after := by
    intro d after hd h
    obtain ⟨rfl, -⟩ := List.cons.inj (hskip.symm.trans h)
    rw [hc] at hd
    cases hd
  rw [atomAt_word (fun after => hfirst '(' after (by decide))
    (fun after => hfirst '"' after (by decide)), hskip, List.cons_append]
  -- the second character decides whether `=` marks a phrase
  intro after h
  obtain ⟨rfl, h'⟩ := List.cons.inj (hskip.symm.trans h)
  cases w' with
  | nil =>
    rw [List.nil_append] at h'
    rcases hmark with hmark | hmark
    · exact hmark rfl
    · exact hmark (by rw [h']; rfl)
  | cons d w'' =>
    obtain ⟨rfl, -⟩ := List.cons.inj h'
    have hd := hw '"' (by simp)
    exact absurd hd (by decide)

theorem phraseAt_open (hp : '"' ∉ p) : phraseAt unread p = .error ⟨.unterminatedQuote, unread⟩ := by
  have hdrop : p.dropWhile (· != '"') = [] := by
    simpa using not_quote_of_not_mem hp
  rw [phraseAt, phrase]
  split
  · rfl
  · next h' => simp [hdrop] at h'

theorem phraseAt_empty : phraseAt unread ('"' :: rest) = .error ⟨.emptyTerm, unread⟩ := by
  rw [phraseAt, phrase]
  split
  · next h' => simp at h'
  · simp [Except.map]

theorem phraseAt_closed (hne : p ≠ []) (hp : '"' ∉ p) :
    phraseAt unread (p ++ '"' :: rest) = .ok (.leaf ⟨p, .exact⟩, rest) := by
  have hrun := not_quote_of_not_mem hp
  have hend : Text.EndsRun (· != '"') ('"' :: rest) := Text.endsRun_cons.2 (by simp)
  have htake := Text.takeWhile_run_append hrun hend
  have hdrop := Text.dropWhile_run_append hrun hend
  rw [phraseAt, phrase]
  split
  · next h' =>
    rw [hdrop] at h'
    cases h'
  · next q rest' h' =>
    rw [hdrop] at h'
    obtain ⟨rfl, rfl⟩ : '"' = q ∧ rest = rest' := by simpa using h'
    simp [htake, hne, Except.map, Progress.pair, Term.ofValue]

end

end Reader

theorem parse_eq_ok_iff_whole (maxDepth : Option Nat) (s : Text) (t : Tree) :
    parse maxDepth s = .ok t ↔ Reader.whole maxDepth s = .ok t := by
  rw [parse]
  rcases Reader.whole maxDepth s with e | u <;> simp

end SearchClause
