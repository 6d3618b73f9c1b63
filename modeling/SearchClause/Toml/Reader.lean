import SearchClause.Toml.Moment
import SearchClause.Toml.Number
import SearchClause.Toml.Table

/-!
# Reading TOML

A document is read in two steps. The first turns the text into statements: headers and assignments.
The second carries them out on an empty table. A document that breaks a rule of either step is
refused as a whole.

* **limits** — values between brackets and braces may stand inside each other to a depth of
  eighty, and at most eighty keys may be joined by points;
* **progress** — a loop goes on only with a text that is shorter than the one it started from.
-/

namespace SearchClause

namespace Toml

/-! ## Keys -/

/-- Whether a character may stand in a key without quotes. -/
def isBareKeyChar (c : Char) : Bool :=
  c.isAlphanum || c = '_' || c = '-'

/-- A single key and the text after it. -/
def simpleKey? (s : Text) : Option (Text × Text) :=
  match s with
  | '"' :: rest => basic rest
  | '\'' :: rest => literal rest
  | _ =>
    let key := s.takeWhile isBareKeyChar
    if key.isEmpty then none else some (key, s.dropWhile isBareKeyChar)

/-- Any number of keys joined by points, the last one apart, and the text after them and after
spaces. -/
def keys? (s : Text) : Option ((List Text × Text) × Text) :=
  match simpleKey? s with
  | none => none
  | some (key, rest) =>
    match skipSpaces rest with
    | '.' :: after =>
      if (skipSpaces after).length < s.length then
        (keys? (skipSpaces after)).map fun p => ((key :: p.1.1, p.1.2), p.2)
      else none
    | after => some (([], key), after)
termination_by s.length

/-- How many lists and tables may stand inside each other, and how many keys may be joined. -/
def maxNesting : Nat := 80

/-- Keys joined by points, the last one apart, and the text after them and after spaces. -/
def key? (s : Text) : Option ((List Text × Text) × Text) :=
  (keys? s).filter fun p => p.1.1.length < maxNesting

/-! ## Values -/

/-- Whether a character ends a word. -/
def endsWord (c : Char) : Bool :=
  c = '=' || c = ',' || c = '[' || c = ']' || c = '\x7b' || c = '\x7d' || c = '#' || c = '"' ||
    c = '\'' || c = '\r' || c = '\n' || isSpace c

/-- The value that a word spells. -/
def wordValue? (word : Text) : Option Value :=
  if word = "true".toList then some (.boolean true)
  else if word = "false".toList then some (.boolean false)
  else if isMomentForm word then if isMoment word then some (.moment word) else none
  else
    match word with
    | '+' :: t | '-' :: t => number? word t
    | t => number? word t

/-- The word at the start of a text, and the text after it. Spaces are part of a word as long as
something else than a point goes on after them, as in a date and a time. -/
def scalarWord (s : Text) : Text × Text :=
  let rest := s.dropWhile (!endsWord ·)
  let start := skipSpaces rest
  if h : start.length < rest.length ∧ start.head?.any (fun c => !endsWord c && c != '.') then
    have : start.length < s.length :=
      Nat.lt_of_lt_of_le h.1 (List.dropWhile_sublist _).length_le
    let more := scalarWord start
    (s.takeWhile (!endsWord ·) ++ rest.takeWhile isSpace ++ more.1, more.2)
  else (s.takeWhile (!endsWord ·), rest)
termination_by s.length

/-- A value without parts, and the text after it. -/
def scalar? (s : Text) : Option (Value × Text) :=
  let (word, rest) := scalarWord s
  (wordValue? word).map fun v => (v, rest)

/-- The items of a list after its opening bracket, and the text after the closing one. -/
def items? (value? : Text → Option (Value × Text)) (s : Text) : Option (List Value × Text) :=
  match skipLayout s with
  | none => none
  | some (']' :: rest) => some ([], rest)
  | some start =>
    match value? start with
    | none => none
    | some (v, rest) =>
      match skipLayout rest with
      | some (',' :: after) =>
        if after.length < s.length then (items? value? after).map fun p => (v :: p.1, p.2)
        else none
      | some (']' :: after) => some ([v], after)
      | _ => none
termination_by s.length

/-- A key, an equals sign and a value, and the text after them; `skip` passes over what may stand
around the equals sign. -/
def assignment? (skip : Text → Option Text) (value? : Text → Option (Value × Text)) (s : Text) :
    Option (Assignment × Text) :=
  match key? s with
  | none => none
  | some ((path, key), rest) =>
    match skip rest with
    | some ('=' :: after) =>
      match skip after with
      | none => none
      | some start => (value? start).map fun p => (⟨path, key, p.1⟩, p.2)
    | _ => none

/-- The assignments between braces after the opening one, and the text after the closing one. -/
def assignments? (value? : Text → Option (Value × Text)) (s : Text) :
    Option (List Assignment × Text) :=
  match skipLayout s with
  | none => none
  | some ('\x7d' :: rest) => some ([], rest)
  | some start =>
    match assignment? skipLayout value? start with
    | none => none
    | some (a, rest) =>
      match skipLayout rest with
      | some (',' :: after) =>
        if after.length < s.length then (assignments? value? after).map fun p => (a :: p.1, p.2)
        else none
      | some ('\x7d' :: after) => some ([a], after)
      | _ => none
termination_by s.length

/-- A value with at most `depth` lists and tables inside each other, and the text after it. -/
def value? : Nat → Text → Option (Value × Text)
  | 0, s =>
    match s with
    | '"' :: _ | '\'' :: _ => (string? s).map fun p => (.text p.1, p.2)
    | _ => scalar? s
  | depth + 1, s =>
    match s with
    | '"' :: _ | '\'' :: _ => (string? s).map fun p => (.text p.1, p.2)
    | '[' :: rest => (items? (value? depth) rest).map fun p => (.array false p.1, p.2)
    | '\x7b' :: rest =>
      match assignments? (value? depth) rest with
      | none => none
      | some (list, after) =>
        (assignAll list .braces []).map fun p => (.table p.1 p.2, after)
    | _ => scalar? s

/-! ## Documents -/

/-- A line of a document that says something. -/
inductive Statement where
  /-- `[a.b]`, or with `listed` `[[a.b]]` -/
  | header (listed : Bool) (path : List Text) (key : Text)
  /-- `a.b = v` -/
  | assignment (a : Assignment)

/-- The header after its opening bracket, and the text of the next line. -/
def header? (s : Text) : Option (Statement × Text) :=
  match s with
  | '[' :: rest =>
    match key? (skipSpaces rest) with
    | some ((path, key), ']' :: ']' :: after) =>
      (lineEnd after).map fun next => (.header true path key, next)
    | _ => none
  | rest =>
    match key? (skipSpaces rest) with
    | some ((path, key), ']' :: after) =>
      (lineEnd after).map fun next => (.header false path key, next)
    | _ => none

/-- The statement at the start of a text, and the text of the next line. -/
def statement? (s : Text) : Option (Statement × Text) :=
  match s with
  | '[' :: rest => header? rest
  | _ =>
    match assignment? (fun t => some (skipSpaces t)) (value? maxNesting) s with
    | none => none
    | some (a, rest) => (lineEnd rest).map fun next => (.assignment a, next)

/-- The statements of a text. -/
def statements? (s : Text) : Option (List Statement) :=
  match skipLayout s with
  | none => none
  | some [] => some []
  | some start =>
    match statement? start with
    | none => none
    | some (first, next) =>
      if next.length < s.length then (statements? next).map (first :: ·) else none
termination_by s.length

/-- The assignments before the first header, and the sections. -/
def arrange : List Statement → List Assignment × List Section
  | [] => ([], [])
  | .assignment a :: rest =>
    match arrange rest with
    | (list, sections) => (a :: list, sections)
  | .header listed path key :: rest =>
    match arrange rest with
    | (list, sections) => ([], ⟨listed, path, key, list⟩ :: sections)

/-- The text without a byte order mark at its start. -/
def dropMark (s : Text) : Text :=
  (Text.dropFirst? '\ufeff' s).getD s

/-- The table that a document describes, if it is one. -/
def document? (s : Text) : Option Entries :=
  match statements? (dropMark s) with
  | none => none
  | some list =>
    match assignAll (arrange list).1 .header [] with
    | none => none
    | some start => addSections (arrange list).2 start.2

end Toml

end SearchClause
