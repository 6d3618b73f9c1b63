import SearchClause.Query.Canonical
import SearchClause.Query.Fault
import SearchClause.Query.Tree

/-!
# Reading a query

The grammar, with blanks allowed before every token:

    query   ::=  clause ("," clause)*
    clause  ::=  factor ("+" factor)*
    factor  ::=  ("-" | "!")? atom
    atom    ::=  "(" query ")"  |  "="? '"' phrase '"'  |  word

Both operators group to the left, and negation takes one atom. The reader is a family of functions,
one per nonterminal. Each takes the text that is left to read and gives back a tree and a strictly
shorter text, which is also why the family ends: the length of the text decides, and for one text
the rank of the nonterminal. The two make one number, so that reading a given text can be evaluated.

* **faults** — a failure carries the text that was left at the place of the fault; `parse` turns it
  into a position in the whole input.
* **nesting** — `room` is the number of groups that may still be opened, `none` for no limit.
-/

namespace SearchClause

namespace Reader

/-- A fault and the unread text at its place. -/
structure Failure where
  /-- what is wrong -/
  fault : QueryFault
  /-- the text from the place of the fault on -/
  unread : Text
deriving DecidableEq, Repr

/-- What reading a part of `s` gives: its tree and the text after it. -/
structure Progress (s : Text) where
  /-- the tree that was read -/
  tree : Tree
  /-- the text after it -/
  rest : Text
  /-- reading takes at least one character -/
  shorter : rest.length < s.length

/-- The same progress seen from a longer text. -/
def Progress.within {s t : Text} (p : Progress s) (h : s.length ≤ t.length) : Progress t where
  tree := p.tree
  rest := p.rest
  shorter := Nat.lt_of_lt_of_le p.shorter h

/-! ## Words and phrases -/

/-- The characters that make a bare word a pattern. -/
def patternMarks : Text :=
  ['%', '_', '*']

/-- A term, unless nothing is left of its value. -/
def termOf (kind : MatchKind) (value : Text) : Except QueryFault Term :=
  if value.isEmpty then .error .emptyTerm else .ok (Term.ofValue kind value)

/-- The term for a bare word: `=x` and `^x$` are exact, a word with pattern marks is a pattern, `^x`
is a beginning, `x$` an end, and any other word occurs anywhere. -/
def termOfWord (word : Text) : Except QueryFault Term :=
  let patterned := word.any patternMarks.contains
  if word.head? = some '=' || (word.head? = some '^' && word.getLast? = some '$') then
    if patterned then .error .exactWithWildcard
    else
      let bare := (Text.dropFirst? '=' word).getD word
      let bare := (Text.dropFirst? '^' bare).getD bare
      termOf .exact ((Text.dropLast? '$' bare).getD bare)
  else
    match Text.dropFirst? '^' word, Text.dropLast? '$' word with
    | some value, _ => termOf (if patterned then .wildcard else .startsWith) value
    | none, some value => termOf (if patterned then .wildcard else .endsWith) value
    | none, none => termOf (if patterned then .wildcard else .contains) word

theorem length_dropWhile_lt {p : Char → Bool} {s : Text} (h : (s.takeWhile p).isEmpty = false) :
    (s.dropWhile p).length < s.length := by
  have hsum : (s.takeWhile p).length + (s.dropWhile p).length = s.length := by
    rw [← List.length_append, List.takeWhile_append_dropWhile]
  have hpos : 0 < (s.takeWhile p).length := by
    cases ht : s.takeWhile p <;> simp_all
  omega

/-- A bare word: the longest run of word characters. -/
def word (s : Text) : Except Failure (Progress s) :=
  match h : (s.takeWhile isWordChar).isEmpty with
  | true => .error ⟨.emptyTerm, s⟩
  | false =>
    match termOfWord (s.takeWhile isWordChar) with
    | .error fault => .error ⟨fault, s⟩
    | .ok term => .ok ⟨.leaf term, s.dropWhile isWordChar, length_dropWhile_lt h⟩

/-- A phrase, after its opening quote: all up to the next quote, taken as it stands. `unread` is the
text from the opening quote on. -/
def phrase (unread s : Text) : Except Failure (Progress s) :=
  match h : s.dropWhile (· != '"') with
  | [] => .error ⟨.unterminatedQuote, unread⟩
  | _ :: rest =>
    let value := s.takeWhile (· != '"')
    if value.isEmpty then .error ⟨.emptyTerm, unread⟩
    else .ok ⟨.leaf (Term.ofValue .exact value), rest, by
      have hle := (List.dropWhile_sublist (· != '"') (l := s)).length_le
      simp only [h, List.length_cons] at hle
      omega⟩

/-! ## The grammar -/

mutual

/-- Clauses separated by commas. -/
def query (room : Option Nat) (s : Text) : Except Failure (Progress s) :=
  match clause room s with
  | .error e => .error e
  | .ok first => (queryFrom room first.tree first.rest).map fun p =>
      ⟨p.1.1, p.1.2, Nat.lt_of_le_of_lt p.2 first.shorter⟩
termination_by 8 * s.length + 5
decreasing_by
  · omega
  · have := first.shorter
    omega

/-- More clauses after `left`. -/
def queryFrom (room : Option Nat) (left : Tree) (s : Text) :
    Except Failure {p : Tree × Text // p.2.length ≤ s.length} :=
  match h : Text.skipBlanks s with
  | ',' :: after =>
    match clause room after with
    | .error e => .error e
    | .ok next => (queryFrom room (.or left next.tree) next.rest).map fun p => ⟨p.1, by
        have h₁ := p.2
        have h₂ := next.shorter
        have h₃ := Text.length_skipBlanks_le s
        simp only [h, List.length_cons] at h₃
        omega⟩
  | _ => .ok ⟨(left, Text.skipBlanks s), Text.length_skipBlanks_le s⟩
termination_by 8 * s.length + 6
decreasing_by
  · have h₃ := Text.length_skipBlanks_le s
    simp only [h, List.length_cons] at h₃
    omega
  · have h₂ := next.shorter
    have h₃ := Text.length_skipBlanks_le s
    simp only [h, List.length_cons] at h₃
    omega

/-- Factors separated by plus signs. -/
def clause (room : Option Nat) (s : Text) : Except Failure (Progress s) :=
  match factor room s with
  | .error e => .error e
  | .ok first => (clauseFrom room first.tree first.rest).map fun p =>
      ⟨p.1.1, p.1.2, Nat.lt_of_le_of_lt p.2 first.shorter⟩
termination_by 8 * s.length + 3
decreasing_by
  · omega
  · have := first.shorter
    omega

/-- More factors after `left`. -/
def clauseFrom (room : Option Nat) (left : Tree) (s : Text) :
    Except Failure {p : Tree × Text // p.2.length ≤ s.length} :=
  match h : Text.skipBlanks s with
  | '+' :: after =>
    match factor room after with
    | .error e => .error e
    | .ok next => (clauseFrom room (.and left next.tree) next.rest).map fun p => ⟨p.1, by
        have h₁ := p.2
        have h₂ := next.shorter
        have h₃ := Text.length_skipBlanks_le s
        simp only [h, List.length_cons] at h₃
        omega⟩
  | _ => .ok ⟨(left, Text.skipBlanks s), Text.length_skipBlanks_le s⟩
termination_by 8 * s.length + 4
decreasing_by
  · have h₃ := Text.length_skipBlanks_le s
    simp only [h, List.length_cons] at h₃
    omega
  · have h₂ := next.shorter
    have h₃ := Text.length_skipBlanks_le s
    simp only [h, List.length_cons] at h₃
    omega

/-- An atom, negated or not. -/
def factor (room : Option Nat) (s : Text) : Except Failure (Progress s) :=
  match h : Text.skipBlanks s with
  | [] => (atom room s)
  | c :: after =>
    if c = '-' || c = '!' then
      (atom room after).map fun p => ⟨.not p.tree, p.rest, by
        have h₂ := p.shorter
        have h₃ := Text.length_skipBlanks_le s
        simp only [h, List.length_cons] at h₃
        omega⟩
    else atom room s
termination_by 8 * s.length + 2
decreasing_by
  · omega
  · have h₃ := Text.length_skipBlanks_le s
    simp only [h, List.length_cons] at h₃
    omega
  · omega

/-- A group, a phrase or a word. -/
def atom (room : Option Nat) (s : Text) : Except Failure (Progress s) :=
  match h : Text.skipBlanks s with
  | '(' :: after =>
    match room with
    | some 0 => .error ⟨.nestingTooDeep, '(' :: after⟩
    | _ =>
      match query (room.map (· - 1)) after with
      | .error e => .error e
      | .ok inner =>
        match hr : Text.skipBlanks inner.rest with
        | ')' :: rest => .ok ⟨inner.tree, rest, by
            have h₁ := inner.shorter
            have h₂ := Text.length_skipBlanks_le inner.rest
            have h₃ := Text.length_skipBlanks_le s
            simp only [h, hr, List.length_cons] at h₂ h₃
            omega⟩
        | unread => .error ⟨.unmatchedParenthesis, unread⟩
  | '"' :: after => (phrase ('"' :: after) after).map (·.within (by
      have h₃ := Text.length_skipBlanks_le s
      simp only [h, List.length_cons] at h₃
      omega))
  | '=' :: '"' :: after => (phrase ('"' :: after) after).map (·.within (by
      have h₃ := Text.length_skipBlanks_le s
      simp only [h, List.length_cons] at h₃
      omega))
  | start => (word start).map (·.within (h ▸ Text.length_skipBlanks_le s))
termination_by 8 * s.length + 1
decreasing_by
  have h₃ := Text.length_skipBlanks_le s
  simp only [h, List.length_cons] at h₃
  omega

end

/-- A query and nothing after it but blanks. -/
def whole (room : Option Nat) (s : Text) : Except Failure Tree :=
  match query room s with
  | .error e => .error e
  | .ok p =>
    match Text.skipBlanks p.rest with
    | [] => .ok p.tree
    | unread => .error ⟨.unexpectedCharacter, unread⟩

end Reader

/-- Reads a query as it stands, with at most `maxDepth` groups inside each other. -/
def parse (maxDepth : Option Nat) (input : Text) : Except QueryError Tree :=
  match Reader.whole maxDepth input with
  | .ok tree => .ok tree
  | .error e => .error ⟨e.fault, input.byteLength - Text.byteLength e.unread, input⟩

/-- Reads a query as it was typed: its canonical form is parsed. -/
def buildTree (maxDepth : Option Nat) (raw : Text) : Except QueryError Tree :=
  parse maxDepth (normalize raw)

end SearchClause
