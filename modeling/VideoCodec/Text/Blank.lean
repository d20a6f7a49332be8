/-!
# Blank characters, trimming and words

Option text is trimmed and split at **blank** characters, and blank means the
Unicode property *White_Space*: the ASCII tab, line feed, vertical tab, form
feed, carriage return and space, and eighteen more (next line, no-break space,
the Ogham space mark, the typographic spaces, the line and paragraph
separators, and the ideographic space). The test is the property, not the ASCII
class, so that a no-break space around a number is trimmed like a space.

`Text.trim` drops blanks at both ends; `Text.words` cuts a text into its
maximal runs of non-blank characters.
-/

namespace VideoCodec.Text

/-- The inclusive code-point ranges of the blank characters, ascending. -/
def blankRanges : List (Nat × Nat) :=
  [(0x9, 0xD), (0x20, 0x20), (0x85, 0x85), (0xA0, 0xA0), (0x1680, 0x1680), (0x2000, 0x200A),
   (0x2028, 0x2029), (0x202F, 0x202F), (0x205F, 0x205F), (0x3000, 0x3000)]

/-- Whether a character has the White_Space property. -/
def isBlank (c : Char) : Bool :=
  blankRanges.any fun r => r.1 ≤ c.toNat && c.toNat ≤ r.2

/-- Every character that core calls whitespace is blank. -/
theorem isBlank_of_isWhitespace {c : Char} (h : c.isWhitespace = true) : isBlank c = true := by
  simp only [Char.isWhitespace, Bool.or_eq_true, decide_eq_true_eq] at h
  simp only [isBlank, blankRanges, List.any_cons, List.any_nil, Bool.or_eq_true,
    Bool.and_eq_true, decide_eq_true_eq]
  rcases h with ((h | h) | h) | h <;> subst h <;> decide

/-- Drops the blanks at both ends of a character list. -/
def trimChars (cs : List Char) : List Char :=
  ((cs.dropWhile isBlank).reverse.dropWhile isBlank).reverse

/-- Drops the blanks at both ends of a text. -/
def trim (s : String) : String :=
  String.ofList (trimChars s.toList)

/-- The maximal runs of non-blank characters, in order. -/
def wordChars (cs : List Char) : List (List Char) :=
  (cs.splitOnP isBlank).filter (· ≠ [])

/-- The words of a text: its maximal runs of non-blank characters. -/
def words (s : String) : List String :=
  (wordChars s.toList).map String.ofList

example : trim " \u00a0 42\t" = "42" := by decide +kernel
example : words "a=1  b=2\u3000c" = ["a=1", "b=2", "c"] := by decide +kernel

end VideoCodec.Text
