import SearchClause.Text.Basic

/-!
# Blanks

The characters with the property *White_Space*, and what is defined through them: trimming a text,
its words, and the text with single spaces between its words.
-/

namespace SearchClause

/-- The blank code points. -/
def blankRanges : List (Nat × Nat) :=
  [(0x9, 0xD), (0x20, 0x20), (0x85, 0x85), (0xA0, 0xA0), (0x1680, 0x1680), (0x2000, 0x200A),
    (0x2028, 0x2029), (0x202F, 0x202F), (0x205F, 0x205F), (0x3000, 0x3000)]

/-- Whether a character is white space. -/
def isBlank (c : Char) : Bool :=
  inRanges blankRanges c

namespace Text

/-- The text without blanks at its start. -/
def skipBlanks (t : Text) : Text :=
  t.dropWhile isBlank

/-- The text without blanks at its ends. -/
def trim (t : Text) : Text :=
  (skipBlanks (skipBlanks t).reverse).reverse

/-- The maximal runs of characters that are not blank. -/
def words (t : Text) : List Text :=
  (pieces isBlank t).filter (!·.isEmpty)

/-- The words of a text with one space between neighbours. -/
def singleSpaced (t : Text) : Text :=
  joinWith [' '] (words t)

/-! ## Small facts -/

theorem length_skipBlanks_le (t : Text) : (skipBlanks t).length ≤ t.length :=
  (List.dropWhile_sublist isBlank).length_le

/-- **Words end at a blank.** -/
theorem words_append_cons {c : Char} (h : isBlank c) (s t : Text) :
    words (s ++ c :: t) = words s ++ words t := by
  rw [words, pieces_append_cons h, List.filter_append, words, words]

end Text

end SearchClause
