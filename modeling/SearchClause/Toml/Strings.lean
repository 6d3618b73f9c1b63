import SearchClause.Toml.Layout

/-!
# TOML strings

Four forms: with or without escapes, on one line or on several. Each reader takes the text after the
opening quotes and gives back the string and the text after the closing quotes.

* **escapes** — a letter for the common controls, or the code point in two, four or eight
  hexadecimal digits;
* **several lines** — line breaks are kept as they are written, except one right after the opening
  quotes; a backslash at the end of a line takes the line break and all blanks after it away; up to
  two quotes may stand before the closing ones.
-/

namespace SearchClause

namespace Toml

/-! ## Escapes -/

/-- The value of a hexadecimal digit. -/
def hexValue? (c : Char) : Option Nat :=
  if c.isDigit then some (c.toNat - '0'.toNat)
  else if 'a' ≤ c ∧ c ≤ 'f' then some (c.toNat - 'a'.toNat + 10)
  else if 'A' ≤ c ∧ c ≤ 'F' then some (c.toNat - 'A'.toNat + 10)
  else none

/-- The number written in hexadecimal digits, after `high`. -/
def hexNumber? (high : Nat) : Text → Option Nat
  | [] => some high
  | c :: rest => (hexValue? c).bind fun v => hexNumber? (high * 16 + v) rest

/-- The character with a code point, if it is one. -/
def charOf? (n : Nat) : Option Char :=
  if n.isValidChar then some (Char.ofNat n) else none

/-- A character by its code point in `width` hexadecimal digits, and the text after them. -/
def codePoint? (width : Nat) (s : Text) : Option (Char × Text) :=
  if (s.take width).length = width then
    ((hexNumber? 0 (s.take width)).bind charOf?).map fun c => (c, s.drop width)
  else none

/-- The character that a letter after a backslash stands for. -/
def controlOf? (c : Char) : Option Char :=
  if c = 'b' then some '\x08'
  else if c = 't' then some '\t'
  else if c = 'n' then some '\n'
  else if c = 'f' then some '\x0c'
  else if c = 'r' then some '\r'
  else if c = 'e' then some '\x1b'
  else if c = '"' then some '"'
  else if c = '\\' then some '\\'
  else none

/-- The character of an escape, after its backslash, and the text after it. -/
def escape? : Text → Option (Char × Text)
  | [] => none
  | c :: rest =>
    if c = 'x' then codePoint? 2 rest
    else if c = 'u' then codePoint? 4 rest
    else if c = 'U' then codePoint? 8 rest
    else (controlOf? c).map fun d => (d, rest)

theorem length_le_of_codePoint? {width : Nat} {s rest : Text} {c : Char}
    (h : codePoint? width s = some (c, rest)) : rest.length ≤ s.length := by
  unfold codePoint? at h
  split at h
  · obtain ⟨d, _, hd⟩ := Option.map_eq_some_iff.1 h
    simp only [Prod.mk.injEq] at hd
    rw [← hd.2]
    simp
  · simp at h

/-- An escape takes at least one character. -/
theorem length_lt_of_escape? {s rest : Text} {c : Char} (h : escape? s = some (c, rest)) :
    rest.length < s.length := by
  cases s with
  | nil => simp [escape?] at h
  | cons d tail =>
    simp only [escape?] at h
    have key : ∀ {n}, codePoint? n tail = some (c, rest) → rest.length < (d :: tail).length := by
      intro n hn
      have := length_le_of_codePoint? hn
      simp only [List.length_cons]
      omega
    split at h
    · exact key h
    split at h
    · exact key h
    split at h
    · exact key h
    obtain ⟨e, _, he⟩ := Option.map_eq_some_iff.1 h
    simp only [Prod.mk.injEq] at he
    simp [← he.2]

/-! ## Strings on one line -/

/-- A string with escapes, after its opening quote. -/
def basic : Text → Option (Text × Text)
  | [] => none
  | c :: rest =>
    if c = '"' then some ([], rest)
    else if c = '\\' then
      match _h : escape? rest with
      | none => none
      | some (d, after) => (basic after).map fun p => (d :: p.1, p.2)
    else if isTextChar c then (basic rest).map fun p => (c :: p.1, p.2)
    else none
termination_by s => s.length
decreasing_by
  · have := length_lt_of_escape? _h
    simp only [List.length_cons]
    omega
  · simp

/-- A string without escapes, after its opening quote. -/
def literal : Text → Option (Text × Text)
  | [] => none
  | c :: rest =>
    if c = '\'' then some ([], rest)
    else if isTextChar c then (literal rest).map fun p => (c :: p.1, p.2)
    else none

/-! ## Strings on several lines -/

/-- The text after the closing quotes of a string on several lines, with the quotes before them that
belong to the string. The three closing ones have been read. -/
def closing (quote : Char) : Text → Text × Text
  | a :: b :: rest =>
    if a = quote then if b = quote then ([quote, quote], rest) else ([quote], b :: rest)
    else ([], a :: b :: rest)
  | [a] => if a = quote then ([quote], []) else ([], [a])
  | [] => ([], [])

/-- The text after three quotes, if it starts with them. -/
def threeQuotes? (quote : Char) : Text → Option Text
  | a :: b :: c :: rest => if a = quote ∧ b = quote ∧ c = quote then some rest else none
  | _ => none

/-- The text after all spaces and line breaks. -/
def skipBreaks : Text → Text
  | [] => []
  | c :: rest =>
    if isSpace c || c = '\n' then skipBreaks rest
    else if c = '\r' && rest.head? = some '\n' then skipBreaks rest
    else c :: rest

/-- The text after a line break that ends a line with a backslash, and after the blanks that follow. -/
def continued? (s : Text) : Option Text :=
  (newline? (skipSpaces s)).map skipBreaks

theorem length_skipBreaks_le (s : Text) : (skipBreaks s).length ≤ s.length := by
  induction s with
  | nil => simp [skipBreaks]
  | cons c rest ih =>
    simp only [skipBreaks]
    split
    · simp only [List.length_cons]
      omega
    · split
      · simp only [List.length_cons]
        omega
      · simp

theorem length_le_of_continued? {s rest : Text} (h : continued? s = some rest) :
    rest.length ≤ s.length := by
  obtain ⟨t, ht, rfl⟩ := Option.map_eq_some_iff.1 h
  have h₁ := length_lt_of_newline? ht
  have h₂ := length_skipSpaces_le s
  have h₃ := length_skipBreaks_le t
  omega

/-- A string with escapes on several lines, after its opening quotes. -/
def longBasic : Text → Option (Text × Text)
  | [] => none
  | c :: rest =>
    match threeQuotes? '"' (c :: rest) with
    | some after => some (closing '"' after)
    | none =>
      if c = '\\' then
        match _h : continued? rest with
        | some after => longBasic after
        | none =>
          match _h' : escape? rest with
          | none => none
          | some (d, after) => (longBasic after).map fun p => (d :: p.1, p.2)
      else if isTextChar c || c = '\n' || (c = '\r' && rest.head? = some '\n') then
        (longBasic rest).map fun p => (c :: p.1, p.2)
      else none
termination_by s => s.length
decreasing_by
  · have := length_le_of_continued? _h
    simp only [List.length_cons]
    omega
  · have := length_lt_of_escape? _h'
    simp only [List.length_cons]
    omega
  · simp

/-- A string without escapes on several lines, after its opening quotes. -/
def longLiteral : Text → Option (Text × Text)
  | [] => none
  | c :: rest =>
    match threeQuotes? '\'' (c :: rest) with
    | some after => some (closing '\'' after)
    | none =>
      if isTextChar c || c = '\n' || (c = '\r' && rest.head? = some '\n') then
        (longLiteral rest).map fun p => (c :: p.1, p.2)
      else none

/-- The text without a line break at its start. -/
def dropNewline (s : Text) : Text :=
  (newline? s).getD s

/-- A string in any form, and the text after it. -/
def string? (s : Text) : Option (Text × Text) :=
  match threeQuotes? '"' s, threeQuotes? '\'' s with
  | some rest, _ => longBasic (dropNewline rest)
  | none, some rest => longLiteral (dropNewline rest)
  | none, none =>
    match s with
    | '"' :: rest => basic rest
    | '\'' :: rest => literal rest
    | _ => none

end Toml

end SearchClause
